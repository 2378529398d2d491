import TelegramBotApi.FileStreamLease
import TelegramBotApi.StepRun

/-!
# Files in use

`WorkdirCleanupManager` keeps a table of the files that streams are serving, so that its cleanup leaves
them alone. Streams report to it by messages, which arrive in order from each stream and in any order
from different ones. The system below has any number of streams, each of which gets any sequence of
messages of its own. The counters of the table are 32-bit numbers in the source; a counter is never
larger than the number of streams.
-/

namespace TelegramBotApi

/-- `PathView::file_name`. -/
def fileName (path : Slice) : Slice := path.rtakeWhile fun c => c ≠ '/' && c ≠ '\\'

def isTdlibPersistentFile (path : Slice) : Bool :=
  let endsWith (ending : String) : Bool := ending.toList.isSuffixOf (fileName path)
  fileName path ≠ [] && (endsWith ".binlog" || endsWith ".binlog.new" || endsWith ".sqlite" ||
    endsWith ".sqlite-wal" || endsWith ".sqlite-shm" || endsWith ".sqlite-journal")

def isWorkdirCleanupCandidate (workdir path : Slice) : Bool :=
  if workdir = [] ∨ path = [] then false
  else
    let root := if workdir.getLast? ≠ some '/' then workdir ++ ['/'] else workdir
    if ¬ root.isPrefixOf path ∨ path = root then false
    else if "..".toList <:+: path.drop root.length then false
    else !isTdlibPersistentFile path

structure WorkdirCleanupManager where
  workdir : Slice
  activeFiles : RefCount.Table Slice := ∅

namespace WorkdirCleanupManager

variable (m : WorkdirCleanupManager)

def retainFile (path : Slice) : WorkdirCleanupManager :=
  if isWorkdirCleanupCandidate m.workdir path then
    { m with activeFiles := RefCount.retain m.activeFiles path }
  else m

def releaseFile (path : Slice) : WorkdirCleanupManager :=
  { m with activeFiles := RefCount.release m.activeFiles path }

def receive : Leases.Move Slice → WorkdirCleanupManager
  | .take path => m.retainFile path
  | .drop path => m.releaseFile path

@[simp] theorem receive_workdir (move : Leases.Move Slice) : (m.receive move).workdir = m.workdir := by
  cases move with
  | take path =>
      rw [receive]
      unfold retainFile
      split_ifs <;> rfl
  | drop path => rfl

theorem receive_activeFiles (move : Leases.Move Slice) :
    (m.receive move).activeFiles =
      Leases.arrive (isWorkdirCleanupCandidate m.workdir) m.activeFiles move := by
  cases move with
  | take path =>
      rw [receive, Leases.arrive]
      unfold retainFile
      split_ifs <;> rfl
  | drop path => rfl

end WorkdirCleanupManager

/-- A stream with its messages on their way to the cleanup manager. -/
structure ServingStream where
  setup : FileStreamSetup
  state : FileStreamConnection
  channel : Leases.Channel Slice := {}

theorem ne_nil_of_candidate {workdir path : Slice} (h : isWorkdirCleanupCandidate workdir path = true) :
    path ≠ [] := by
  rintro rfl
  simp [isWorkdirCleanupCandidate] at h

def ServingStream.serves (a : ServingStream) (path : Slice) : Bool :=
  !a.state.stopped && a.state.localPath = path

/-- The streams of a server and its cleanup manager. -/
structure WorkdirSystem where
  manager : WorkdirCleanupManager
  streams : List ServingStream := []

namespace WorkdirSystem

inductive Event where
  | create (setup : FileStreamSetup)
  | stream (i : Nat) (x : StreamInput)
  | deliver (i : Nat)

variable (s : WorkdirSystem)

/-- Every stream is given the cleanup manager. -/
def create (setup : FileStreamSetup) : WorkdirSystem :=
  let setup := { setup with hasCleanupManager := true }
  let state := FileStreamConnection.startUp setup
  { s with streams := s.streams ++ [{ setup := setup, state := state, channel := ⟨none, state.cleanupMoves⟩ }] }

def streamStep (i : Nat) (x : StreamInput) : WorkdirSystem :=
  match s.streams[i]? with
  | none => s
  | some a =>
    let state := a.state.step a.setup x
    { s with streams := s.streams.set i { a with
      state := state
      channel := { a.channel with mail := a.channel.mail ++ state.cleanupMoves } } }

/-- The cleanup manager takes the first message that stream `i` has on its way. -/
def deliver (i : Nat) : WorkdirSystem :=
  match s.streams[i]? with
  | none => s
  | some a =>
    match a.channel.mail with
    | [] => s
    | move :: _ =>
      { manager := s.manager.receive move
        streams := s.streams.set i { a with channel := a.channel.deliver } }

def step : Event → WorkdirSystem
  | .create setup => s.create setup
  | .stream i x => s.streamStep i x
  | .deliver i => s.deliver i

def Quiet : Prop := ∀ a ∈ s.streams, a.channel.mail = []

def serving (path : Slice) : Nat := s.streams.countP (ServingStream.serves · path)

variable {s}

/-- Each stream has sent its messages in order, and the table shows those that have arrived. -/
structure Tracked (s : WorkdirSystem) : Prop where
  manager : ∀ a ∈ s.streams, a.setup.hasCleanupManager = true
  settles : ∀ a ∈ s.streams, a.channel.Settles a.state.served
  counts : RefCount.Counts s.manager.activeFiles
    (Leases.users (isWorkdirCleanupCandidate s.manager.workdir) (s.streams.map (·.channel)))

theorem tracked_init (workdir : Slice) : Tracked { manager := { workdir := workdir } } where
  manager a ha := by cases ha
  settles a ha := by cases ha
  counts := RefCount.counts_empty.congr fun path => by simp [Leases.users]

theorem Tracked.create (h : Tracked s) (setup : FileStreamSetup) : Tracked (s.create setup) where
  manager a ha := by
    rcases List.mem_append.1 ha with ha | ha
    · exact h.manager a ha
    · rw [List.mem_singleton.1 ha]
  settles a ha := by
    rcases List.mem_append.1 ha with ha | ha
    · exact h.settles a ha
    · rw [List.mem_singleton.1 ha]
      exact .nil _
  counts := by
    change RefCount.Counts s.manager.activeFiles (Leases.users _ ((s.streams ++ [_]).map _))
    rw [List.map_append]
    refine h.counts.congr fun path => ?_
    exact congrFun (Leases.users_new _ _) path

theorem Tracked.streamStep (h : Tracked s) (i : Nat) (x : StreamInput) : Tracked (s.streamStep i x) := by
  unfold WorkdirSystem.streamStep
  split
  · exact h
  rename_i a ha
  have hmem := List.mem_of_getElem? ha
  refine ⟨fun b hb => ?_, fun b hb => ?_, ?_⟩
  · rcases List.mem_or_eq_of_mem_set hb with hb | rfl
    · exact h.manager b hb
    · exact h.manager a hmem
  · rcases List.mem_or_eq_of_mem_set hb with hb | rfl
    · exact h.settles b hb
    · exact (h.settles a hmem).post (FileStreamConnection.orderly_step (h.manager a hmem) a.state x)
  · refine h.counts.congr fun path => congrFun (Leases.users_congr _ ?_) path
    obtain ⟨hlt, rfl⟩ := List.getElem?_eq_some_iff.1 ha
    rw [List.map_map, List.map_map, List.map_set]
    have hlt' : i < (s.streams.map (Leases.Channel.counted ∘ (·.channel))).length := by simpa using hlt
    have hself := List.set_getElem_self hlt'
    rw [List.getElem_map] at hself
    exact hself

theorem Tracked.deliver (h : Tracked s) (i : Nat) : Tracked (s.deliver i) := by
  unfold WorkdirSystem.deliver
  split
  · exact h
  rename_i a ha
  split
  · exact h
  rename_i move rest hmail
  have hmem := List.mem_of_getElem? ha
  refine ⟨fun b hb => ?_, fun b hb => ?_, ?_⟩
  · rcases List.mem_or_eq_of_mem_set hb with hb | rfl
    · exact h.manager b hb
    · exact h.manager a hmem
  · rcases List.mem_or_eq_of_mem_set hb with hb | rfl
    · exact h.settles b hb
    · exact (h.settles a hmem).deliver
  · have hchannel : (s.streams.map (·.channel))[i]? = some a.channel := by
      rw [List.getElem?_map, ha]
      rfl
    rw [s.manager.receive_activeFiles, s.manager.receive_workdir, List.map_set]
    exact Leases.arrive_counts _ h.counts hchannel (h.settles a hmem) hmail

theorem Tracked.step (h : Tracked s) (e : Event) : Tracked (s.step e) := by
  cases e with
  | create setup => exact h.create setup
  | stream i x => exact h.streamStep i x
  | deliver i => exact h.deliver i

@[simp] theorem step_workdir (s : WorkdirSystem) (e : Event) :
    (s.step e).manager.workdir = s.manager.workdir := by
  cases e with
  | create setup => rfl
  | stream i x =>
      change (s.streamStep i x).manager.workdir = _
      unfold WorkdirSystem.streamStep
      split <;> rfl
  | deliver i =>
      change (s.deliver i).manager.workdir = _
      unfold WorkdirSystem.deliver
      split
      · rfl
      · split
        · rfl
        · exact s.manager.receive_workdir _

theorem served_eq_some_iff (a : ServingStream) {path : Slice} (hpath : path ≠ []) :
    a.state.served = some path ↔ a.serves path = true := by
  unfold FileStreamConnection.served FileStreamConnection.lease ServingStream.serves
  by_cases hstopped : a.state.stopped = true
  · simp [hstopped]
  · by_cases hnil : a.state.localPath = []
    · simp [hstopped, hnil, Ne.symm hpath]
    · simp [hstopped, hnil]

/-- The table, in terms of the messages that have arrived. -/
theorem Tracked.lookup_eq (h : Tracked s) (path : Slice) :
    s.manager.activeFiles.lookup path =
      if isWorkdirCleanupCandidate s.manager.workdir path = true ∧
          s.streams.countP (fun a => a.channel.counted = some path) ≠ 0 then
        some (s.streams.countP (fun a => a.channel.counted = some path) : Int)
      else none := by
  have hcounts := h.counts path
  have hmap : (s.streams.map (·.channel)).countP (fun c => c.counted = some path) =
      s.streams.countP (fun a => a.channel.counted = some path) := by
    rw [List.countP_map]
    rfl
  unfold Leases.users at hcounts
  rw [hmap] at hcounts
  by_cases hcandidate : isWorkdirCleanupCandidate s.manager.workdir path = true
  · rw [if_pos hcandidate] at hcounts
    by_cases hzero : s.streams.countP (fun a => a.channel.counted = some path) = 0
    · rw [if_pos hzero] at hcounts
      rw [hcounts, if_neg fun hc => hc.2 hzero]
    · rw [if_neg hzero] at hcounts
      rw [hcounts, if_pos ⟨hcandidate, hzero⟩]
  · rw [if_neg hcandidate, if_pos rfl] at hcounts
    rw [hcounts, if_neg fun hc => hcandidate hc.1]

/-- When all messages have arrived, the counted streams are those that serve the file. -/
theorem Tracked.countP_eq_serving (h : Tracked s) (hquiet : s.Quiet) {path : Slice} (hpath : path ≠ []) :
    s.streams.countP (fun a => a.channel.counted = some path) = s.serving path := by
  refine List.countP_congr fun a ha => ?_
  rw [decide_eq_true_eq, (h.settles a ha).counted (hquiet a ha)]
  exact served_eq_some_iff a hpath

theorem workdir_files_in_use (workdir : Slice) (events : List Event) :
    let s := StepRun.run step { manager := { workdir := workdir } } events
    (s.Quiet → ∀ path, s.manager.activeFiles.lookup path =
      if isWorkdirCleanupCandidate workdir path = true ∧ s.serving path ≠ 0 then some (s.serving path : Int)
      else none) ∧
    (∀ a ∈ s.streams, ∀ path, a.serves path = true → isWorkdirCleanupCandidate workdir path = true →
      a.channel.mail = [] → ∃ n, s.manager.activeFiles.lookup path = some n ∧ 0 < n) ∧
    ∀ path n, s.manager.activeFiles.lookup path = some n → 0 < n ∧
      isWorkdirCleanupCandidate workdir path = true ∧
      ∃ a ∈ s.streams, a.serves path = true ∨ .drop path ∈ a.channel.mail := by
  intro s
  obtain ⟨h, hworkdir⟩ := StepRun.run_invariant_always
    (I := fun s => Tracked s ∧ s.manager.workdir = workdir)
    (fun s e hs => ⟨hs.1.step e, (step_workdir s e).trans hs.2⟩) ⟨tracked_init workdir, rfl⟩ events
  change Tracked s at h
  change s.manager.workdir = workdir at hworkdir
  have hlookup := h.lookup_eq
  rw [hworkdir] at hlookup
  refine ⟨fun hquiet path => ?_, fun a ha path hserves hcandidate hmail => ?_, fun path n hn => ?_⟩
  · rw [hlookup]
    by_cases hcandidate : isWorkdirCleanupCandidate workdir path = true
    · rw [h.countP_eq_serving hquiet (ne_nil_of_candidate hcandidate)]
    · rw [if_neg fun hc => hcandidate hc.1, if_neg fun hc => hcandidate hc.1]
  · have hcounted : a.channel.counted = some path := by
      rw [(h.settles a ha).counted hmail]
      exact (served_eq_some_iff a (ne_nil_of_candidate hcandidate)).2 hserves
    have hpos : 0 < s.streams.countP (fun a => a.channel.counted = some path) :=
      List.countP_pos_iff.2 ⟨a, ha, decide_eq_true hcounted⟩
    refine ⟨_, (hlookup path).trans (if_pos ⟨hcandidate, by omega⟩), by omega⟩
  · rw [hlookup] at hn
    split_ifs at hn with hused
    obtain rfl := Option.some.inj hn
    refine ⟨by omega, hused.1, ?_⟩
    obtain ⟨a, ha, hcounted⟩ := List.countP_pos_iff.1 (Nat.pos_of_ne_zero hused.2)
    refine ⟨a, ha, ?_⟩
    have hsettles := h.settles a ha
    unfold Leases.Channel.Settles at hsettles
    rw [of_decide_eq_true hcounted] at hsettles
    exact hsettles.drop_mem.imp_left (served_eq_some_iff a (ne_nil_of_candidate hused.1)).1

/-- One stream that waits for its file, after its message has arrived. -/
theorem workdir_files_in_use_one :
    let ready : StreamInput := {
      event := .onFileReady 1 10 { localPath := "/w/a".toList, isDownloadingActive := true }
      io := ⟨fun _ => .ok (), fun _ _ _ => .ok []⟩ }
    let events : List Event := [.create { streamId := 1, route := { token := [], fileId := [] } },
      .stream 0 ready, .deliver 0]
    let s := StepRun.run step { manager := { workdir := "/w".toList } } events
    s.Quiet ∧ s.manager.activeFiles.lookup "/w/a".toList = some 1 := by
  intro ready events s
  have hquiet : s.Quiet := by
    change ∀ a ∈ s.streams, a.channel.mail = []
    decide +kernel
  have hserving : s.serving "/w/a".toList = 1 := by decide +kernel
  have htable := workdir_files_in_use "/w".toList events
  change (s.Quiet → ∀ path, _) ∧ _ at htable
  have hlookup := htable.1 hquiet "/w/a".toList
  rw [hserving] at hlookup
  refine ⟨hquiet, ?_⟩
  rw [hlookup]
  exact if_pos ⟨by decide +kernel, by decide⟩

end WorkdirSystem

end TelegramBotApi
