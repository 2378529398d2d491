import TelegramBotApi.FileStreamTransitions
import TelegramBotApi.StepRun
import TelegramBotApi.History

/-!
# Recorded runs of a stream

A run of the streaming actor is recorded as one list: every event it receives, followed by what the
handler sent and read. The projections below pick out what the HTTP client can observe, namely the
announced header, the body blocks with their acknowledgements and the end of the exchange.
-/

namespace TelegramBotApi

/-- A file system on which every path holds `bytes`. -/
def FileAccess.ofBytes (bytes : List UInt8) : FileAccess where
  openFile _ := .ok ()
  pread _ offset count := .ok ((bytes.drop offset.toNat).take count.toNat)

inductive StreamEntry where
  | event (e : StreamEvent)
  | action (a : StreamAction)

structure StreamRecord where
  state : FileStreamConnection
  history : List StreamEntry

namespace StreamRecord

variable (S : FileStreamSetup)

def start : StreamRecord :=
  ⟨FileStreamConnection.startUp S, (FileStreamConnection.startUp S).out.map .action⟩

def step (r : StreamRecord) (x : StreamInput) : StreamRecord :=
  ⟨r.state.step S x,
    r.history ++ .event x.event :: (r.state.step S x).out.map .action⟩

/-- The record of a stream that is created and then receives `inputs`. -/
def run (inputs : List StreamInput) : StreamRecord := StepRun.run (step S) (start S) inputs

end StreamRecord

def StreamMessage.buffer : StreamMessage → Option Payload
  | .writeNextWithPromise buffer _ => some buffer
  | .writeNextNoflush buffer => some buffer
  | _ => none

namespace StreamEntry

def buffer : StreamEntry → Option Payload
  | .action (.send message) => message.buffer
  | _ => none

def body (x : StreamEntry) : Option (Int × List UInt8) :=
  match x.buffer with
  | some (.data offset bytes) => some (offset, bytes)
  | _ => none

def successHeader (x : StreamEntry) : Option HttpHeaderCreator :=
  match x.buffer with
  | some (.header hc) => if hc.status = 200 ∨ hc.status = 206 then some hc else none
  | _ => none

def ending : StreamEntry → Option StreamMessage
  | .action (.send .writeOk) => some .writeOk
  | .action (.send (.writeError error)) => some (.writeError error)
  | _ => none

def isAck : StreamEntry → Bool
  | .event (.onChunkFlushed (.ok _)) => true
  | _ => false

def readySize : StreamEntry → Option Int
  | .event (.onFileReady _ totalSize _) => some totalSize
  | _ => none

/-- An entry that no projection of a history looks at. -/
def Neutral (x : StreamEntry) : Prop :=
  x.buffer = none ∧ x.ending = none ∧ x.isAck = false ∧ x.readySize = none

theorem Neutral.body {x : StreamEntry} (h : x.Neutral) : x.body = none := by
  unfold StreamEntry.body
  rw [h.1]

theorem Neutral.successHeader {x : StreamEntry} (h : x.Neutral) : x.successHeader = none := by
  unfold StreamEntry.successHeader
  rw [h.1]

end StreamEntry

namespace StreamHistory

open StreamEntry

/-- The body blocks handed to the HTTP connection, with the offsets they were read at. -/
def bodies (h : List StreamEntry) : List (Int × List UInt8) := h.filterMap body

/-- The number of body blocks the HTTP connection has acknowledged as written. -/
def acks (h : List StreamEntry) : Nat := h.countP isAck

def bodySize (h : List StreamEntry) : Nat := ((bodies h).map fun b => b.2.length).sum

def announced (h : List StreamEntry) : Option HttpHeaderCreator := h.findSome? successHeader

def endings (h : List StreamEntry) : List StreamMessage := h.filterMap ending

def requestedRange (S : FileStreamSetup) (h : List StreamEntry) : Option FileStreamRange :=
  (h.findSome? readySize).bind fun totalSize =>
    (parseFileStreamRange S.route.range totalSize).toOption

variable (h k : List StreamEntry)

theorem bodies_append : bodies (h ++ k) = bodies h ++ bodies k := List.filterMap_append

@[simp] theorem bodies_append_event (e : StreamEvent) :
    bodies (h ++ [.event e]) = bodies h := by
  rw [bodies_append]
  exact List.append_nil _

@[simp] theorem endings_append_event (e : StreamEvent) :
    endings (h ++ [.event e]) = endings h := by
  rw [endings, List.filterMap_append]
  exact List.append_nil _

theorem acks_append : acks (h ++ k) = acks h + acks k := List.countP_append

theorem announced_append : announced (h ++ k) = (announced h).or (announced k) :=
  List.findSome?_append

theorem endings_append : endings (h ++ k) = endings h ++ endings k := List.filterMap_append

variable {h k}

theorem bodies_eq_nil (hk : ∀ x ∈ k, x.body = none) : bodies k = [] :=
  List.filterMap_eq_nil_iff.2 hk

theorem endings_eq_nil (hk : ∀ x ∈ k, x.ending = none) : endings k = [] :=
  List.filterMap_eq_nil_iff.2 hk

theorem endings_mem {m : StreamMessage} (hm : m ∈ endings h) :
    m = .writeOk ∨ ∃ error, m = .writeError error := by
  obtain ⟨x, -, hx⟩ := List.mem_filterMap.1 hm
  unfold ending at hx
  split at hx
  · exact Or.inl (Option.some.inj hx).symm
  · exact Or.inr ⟨_, (Option.some.inj hx).symm⟩
  · cases hx

theorem announced_eq_none (hk : ∀ x ∈ k, x.successHeader = none) : announced k = none :=
  List.findSome?_eq_none_iff.2 hk

theorem acks_eq_zero (hk : ∀ x ∈ k, x.isAck = false) : acks k = 0 := by
  rw [acks, List.countP_eq_zero]
  intro x hx
  simp [hk x hx]

theorem requestedRange_append_of_none {S : FileStreamSetup}
    (hk : ∀ x ∈ k, x.readySize = none) : requestedRange S (h ++ k) = requestedRange S h := by
  simp only [requestedRange, List.findSome?_append, List.findSome?_eq_none_iff.2 hk, Option.or_none]

theorem requestedRange_wellFormed {S : FileStreamSetup} {r : FileStreamRange}
    (hr : requestedRange S h = some r) : ∃ totalSize, r.WellFormed totalSize := by
  obtain ⟨totalSize, -, hparse⟩ := Option.bind_eq_some_iff.1 hr
  refine ⟨totalSize, ?_⟩
  cases hp : parseFileStreamRange S.route.range totalSize with
  | error e => simp [hp, Except.toOption] at hparse
  | ok r' =>
      have he : r' = r := by simpa [hp, Except.toOption] using hparse
      subst he
      exact parseFileStreamRange_wellFormed hp

end StreamHistory

/-- Blocks at consecutive offsets, none of them empty, covering `[lo, hi)`. -/
def Blocks : Int → List (Int × List UInt8) → Int → Prop
  | lo, [], hi => lo = hi
  | lo, b :: bs, hi => b.1 = lo ∧ b.2 ≠ [] ∧ Blocks (lo + b.2.length) bs hi

namespace Blocks

theorem concat {lo hi : Int} {bs : List (Int × List UInt8)} (h : Blocks lo bs hi)
    {data : List UInt8} (hd : data ≠ []) : Blocks lo (bs ++ [(hi, data)]) (hi + data.length) := by
  induction bs generalizing lo with
  | nil =>
      obtain rfl : lo = hi := h
      exact ⟨rfl, hd, rfl⟩
  | cons b bs ih => exact ⟨h.1, h.2.1, ih h.2.2⟩

/-- The blocks fill exactly the interval they cover. -/
theorem length_eq {lo hi : Int} {bs : List (Int × List UInt8)} (h : Blocks lo bs hi) :
    (((bs.map fun b => b.2.length).sum : Nat) : Int) = hi - lo := by
  induction bs generalizing lo with
  | nil =>
      obtain rfl : lo = hi := h
      simp
  | cons b bs ih =>
      have hrest := ih h.2.2
      simp only [List.map_cons, List.sum_cons]
      omega

/-- Blocks read from one file concatenate to the part of the file they cover. -/
theorem flatMap_eq {content : Int → UInt8} {lo hi : Int} {bs : List (Int × List UInt8)}
    (h : Blocks lo bs hi)
    (hread : ∀ b ∈ bs, b.2 = (List.range b.2.length).map fun i : Nat => content (b.1 + i)) :
    bs.flatMap (fun b => b.2) =
      (List.range (bs.map fun b => b.2.length).sum).map fun i : Nat => content (lo + i) := by
  induction bs generalizing lo with
  | nil => rfl
  | cons b bs ih =>
      obtain ⟨rfl, -, hrest⟩ := h
      rw [List.flatMap_cons, ih hrest (fun c hc => hread c (by simp [hc])), List.map_cons,
        List.sum_cons, List.range_add, List.map_append, List.map_map]
      congr 1
      · exact hread b (by simp)
      · apply List.map_congr_left
        intro i _
        simp only [Function.comp_apply]
        exact congrArg content (by omega)

end Blocks

namespace FileStreamConnection

variable {S : FileStreamSetup} {h : List StreamEntry} {s : FileStreamConnection}

/-- The history up to and including what the current handler has done so far. -/
def hist (h : List StreamEntry) (s : FileStreamConnection) : List StreamEntry :=
  h ++ s.out.map .action

theorem hist_append {t : FileStreamConnection} {k : List StreamAction}
    (ht : t.out = s.out ++ k) : hist h t = hist h s ++ k.map .action := by
  simp only [hist, ht, List.map_append, List.append_assoc]

theorem pathActions_neutral (s : FileStreamConnection) (path : Slice) :
    ∀ x ∈ (pathActions S s path).map StreamEntry.action, x.Neutral := by
  intro x hx
  obtain ⟨a, ha, rfl⟩ := List.mem_map.1 hx
  unfold pathActions at ha
  rcases List.mem_append.1 ha with h | h <;> split_ifs at h
  · rw [List.mem_singleton.1 h]
    exact ⟨rfl, rfl, rfl, rfl⟩
  · cases h
  · rw [List.mem_singleton.1 h]
    exact ⟨rfl, rfl, rfl, rfl⟩
  · cases h

theorem tearDownActions_neutral (s : FileStreamConnection) :
    ∀ x ∈ (tearDownActions S s).map StreamEntry.action, x.Neutral := by
  intro x hx
  obtain ⟨a, ha, rfl⟩ := List.mem_map.1 hx
  unfold tearDownActions at ha
  simp only [List.mem_append, List.mem_singleton] at ha
  rcases ha with (ha | rfl) | ha
  · split_ifs at ha
    · rw [List.mem_singleton.1 ha]
      exact ⟨rfl, rfl, rfl, rfl⟩
    · cases ha
  · exact ⟨rfl, rfl, rfl, rfl⟩
  · split_ifs at ha
    · rw [List.mem_singleton.1 ha]
      exact ⟨rfl, rfl, rfl, rfl⟩
    · cases ha

end FileStreamConnection

theorem StreamRecord.step_history {S : FileStreamSetup} (r : StreamRecord) (x : StreamInput) :
    (r.step S x).history =
      FileStreamConnection.hist (r.history ++ [.event x.event]) (r.step S x).state := by
  simp only [step, FileStreamConnection.hist, List.append_assoc, List.singleton_append]

end TelegramBotApi
