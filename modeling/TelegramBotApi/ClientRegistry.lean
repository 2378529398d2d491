import TelegramBotApi.ClientTables

/-!
# The registration of streams

A stream passes through a client once: it is parked or looked up, told of its file in one
`on_file_ready`, and listed under that file. `Accounted` says so for the streams that were started
and the `on_file_ready` messages that were sent so far; the parked streams are a parameter, so that
the draining of `pending_file_streams_` is an induction over them.
-/

namespace TelegramBotApi

open ActionLog

/-- The stream and the file of an `on_file_ready` message. -/
def ClientAction.ready : ClientAction → Option (Int × Int)
  | .stream streamId (.onFileReady fileId _ _) => some (streamId, fileId)
  | _ => none

theorem ClientAction.Plain.ready {a : ClientAction} (h : a.Plain) : a.ready = none := by
  cases a with
  | stream streamId event => cases event <;> first | rfl | exact h.elim
  | _ => rfl

namespace Client

open ClientAction (Plain)

variable {S : ClientSetup} {now : Int} {s t : Client} {P : ClientAction → Prop}

def readiesOf (actions : List ClientAction) : List (Int × Int) := actions.filterMap ClientAction.ready

theorem readiesOf_of_extends {l l' : List ClientAction} (hp : ∀ a, P a → a.ready = none)
    (h : Extends P l l') : readiesOf l' = readiesOf l := by
  obtain ⟨k, rfl, hk⟩ := h
  have hnil : k.filterMap ClientAction.ready = [] :=
    List.filterMap_eq_nil_iff.2 fun a ha => hp a (hk a ha)
  rw [readiesOf, List.filterMap_append, hnil, List.append_nil, readiesOf]

theorem ReportAction.ready {file : TdFile} {a : ClientAction} (h : ReportAction S s file a) :
    a.ready = none := by
  rcases h with h | ⟨id, -, rfl⟩ | ⟨-, n, rfl⟩
  · exact h.ready
  · rfl
  · rfl

/-- The streams that an event starts. -/
def startsOf : Event → List Int
  | .startFileStream p => [p.streamId]
  | _ => []

structure Accounted (started : List Int) (readied : List (Int × Int))
    (parked : List PendingFileStream) (s : Client) : Prop where
  active : ∀ id ∈ s.activeFileStreams, id ∈ started
  parkedOnce : (parked.map (·.streamId)).Nodup
  parked : ∀ p ∈ parked, p.streamId ∈ started ∧ (∀ f, (p.streamId, f) ∉ readied) ∧
    ∀ n size, s.handlers.lookup n ≠ some (.onFileStreamRemoteFile p.streamId size)
  lookups : ∀ n id size, s.handlers.lookup n = some (.onFileStreamRemoteFile id size) →
    id ∈ started ∧ ∀ f, (id, f) ∉ readied
  lookupOnce : ∀ n m id a b, s.handlers.lookup n = some (.onFileStreamRemoteFile id a) →
    s.handlers.lookup m = some (.onFileStreamRemoteFile id b) → n = m
  listed : ∀ f, ∀ id ∈ s.fileStreamListeners.get f, (id, f) ∈ readied
  readiedStarted : ∀ id f, (id, f) ∈ readied → id ∈ started
  readiedOnce : ∀ id f g, (id, f) ∈ readied → (id, g) ∈ readied → f = g

namespace Accounted

variable {started : List Int} {readied : List (Int × Int)} {parked : List PendingFileStream}

theorem mono (hs : Accounted started readied parked s) {more : List Int} :
    Accounted (started ++ more) readied parked s where
  active id h := List.mem_append_left _ (hs.active id h)
  parkedOnce := hs.parkedOnce
  parked p h := ⟨List.mem_append_left _ (hs.parked p h).1, (hs.parked p h).2⟩
  lookups n id size h := ⟨List.mem_append_left _ (hs.lookups n id size h).1,
    (hs.lookups n id size h).2⟩
  lookupOnce := hs.lookupOnce
  listed := hs.listed
  readiedStarted id f h := List.mem_append_left _ (hs.readiedStarted id f h)
  readiedOnce := hs.readiedOnce

/-- Tables may shrink and lookups may end. -/
theorem shrink (hs : Accounted started readied parked s)
    (ha : ∀ id ∈ t.activeFileStreams, id ∈ s.activeFileStreams)
    (hl : ∀ f, ∀ id ∈ t.fileStreamListeners.get f, id ∈ s.fileStreamListeners.get f)
    (hh : ∀ n id size, t.handlers.lookup n = some (.onFileStreamRemoteFile id size) →
      s.handlers.lookup n = some (.onFileStreamRemoteFile id size)) :
    Accounted started readied parked t where
  active id h := hs.active id (ha id h)
  parkedOnce := hs.parkedOnce
  parked p h := ⟨(hs.parked p h).1, (hs.parked p h).2.1, fun n size hn =>
    (hs.parked p h).2.2 n size (hh n _ size hn)⟩
  lookups n id size h := hs.lookups n id size (hh n id size h)
  lookupOnce n m id a b hn hm := hs.lookupOnce n m id a b (hh n id a hn) (hh m id b hm)
  listed f id h := hs.listed f id (hl f id h)
  readiedStarted := hs.readiedStarted
  readiedOnce := hs.readiedOnce

theorem sublist (hs : Accounted started readied parked s) {rest : List PendingFileStream}
    (h : rest.Sublist parked) : Accounted started readied rest s :=
  { hs with
    parkedOnce := hs.parkedOnce.sublist (h.map _)
    parked := fun p hp => hs.parked p (h.subset hp) }

theorem frame (hs : Accounted started readied parked s) (hk : WellKept s) (hf : Frame P s t) :
    Accounted started readied parked t := by
  refine hs.shrink (fun id h => hf.active ▸ h) (fun f id h => hf.listeners ▸ h) ?_
  exact fun n id size hn => (hf.handlers hk.numbered).2.remote hn

end Accounted

/-- An authorized client looks a stream up or refuses it. -/
theorem startFileStream_of_authorized (now : Int) (ha : s.wasAuthorized = true)
    (p : PendingFileStream) :
    (s.startFileStream now p).activeFileStreams = s.activeFileStreams.insert p.streamId ∧
    (s.startFileStream now p).pendingFileStreams = s.pendingFileStreams ∧
    ((s.startFileStream now p).handlers = s.handlers ∨
      (s.startFileStream now p).handlers = s.handlers.insert s.nextHandlerId
        (.onFileStreamRemoteFile p.streamId p.expectedSize)) := by
  unfold startFileStream
  simp only
  rw [if_neg (by simp [ha])]
  unfold requestFileStream sendRequest
  split_ifs
  · exact ⟨rfl, rfl, Or.inl rfl⟩
  · exact ⟨rfl, rfl, Or.inl rfl⟩
  · exact ⟨rfl, rfl, Or.inr rfl⟩

theorem startFileStream_of_unauthorized (now : Int) (ha : s.wasAuthorized = false)
    (p : PendingFileStream) : s.startFileStream now p = { s with
      activeFileStreams := s.activeFileStreams.insert p.streamId
      pendingFileStreams := s.pendingFileStreams ++ [p] } := by
  unfold startFileStream
  simp only
  rw [if_pos (by simp [ha])]

section Start

variable {started : List Int} {readied : List (Int × Int)} {parked : List PendingFileStream}
  {p : PendingFileStream}

/-- A new stream counts as parked until the client has dealt with it. -/
theorem Accounted.admitStream (hs : Accounted started readied parked s) (hp : p.streamId ∉ started) :
    Accounted (started ++ [p.streamId]) readied (p :: parked) s := by
  have hm : Accounted (started ++ [p.streamId]) _ _ _ := hs.mono
  refine { hm with parkedOnce := ?_, parked := ?_ }
  · rw [List.map_cons, List.nodup_cons]
    refine ⟨fun h => ?_, hs.parkedOnce⟩
    obtain ⟨q, hq, he⟩ := List.mem_map.1 h
    exact hp (he ▸ (hs.parked q hq).1)
  · intro q hq
    rcases List.mem_cons.1 hq with rfl | hq
    · refine ⟨List.mem_append_right _ (List.mem_singleton.2 rfl), fun f hf => ?_, fun n size hn => ?_⟩
      · exact hp (hs.readiedStarted _ f hf)
      · exact hp (hs.lookups n _ size hn).1
    · exact hm.parked q hq

theorem Accounted.park (hs : Accounted started readied (p :: parked) s)
    (hn : p.streamId ∈ started) : Accounted started readied (parked ++ [p]) { s with
      activeFileStreams := s.activeFileStreams.insert p.streamId
      pendingFileStreams := s.pendingFileStreams ++ [p] } := by
  refine { hs with active := fun id h => ?_, parkedOnce := ?_, parked := fun q hq => ?_ }
  · rcases List.mem_insert_iff.1 h with rfl | h
    · exact hn
    · exact hs.active id h
  · have hperm : (parked ++ [p]).Perm (p :: parked) := List.perm_append_singleton p parked
    exact (hperm.map _).nodup_iff.2 hs.parkedOnce
  · exact hs.parked q (List.mem_append.1 hq |>.elim (List.mem_cons_of_mem _)
      fun h => List.mem_cons.2 (Or.inl (List.mem_singleton.1 h)))

/-- An authorized client takes the first of the parked streams. -/
theorem Accounted.take (hs : Accounted started readied (p :: parked) s)
    (ha : s.wasAuthorized = true) : Accounted started readied parked (s.startFileStream now p) := by
  obtain ⟨hactive, -, hhandlers⟩ := startFileStream_of_authorized now ha p
  have hl := (startFileStream_opened now s p).listeners
  obtain ⟨hstarted, hunready, hnone⟩ := hs.parked p List.mem_cons_self
  have hrest := hs.sublist (List.sublist_cons_self p parked)
  have hother : ∀ q ∈ parked, q.streamId ≠ p.streamId := by
    have h := hs.parkedOnce
    rw [List.map_cons, List.nodup_cons] at h
    exact fun q hq he => h.1 (he ▸ List.mem_map_of_mem hq)
  have hlook : ∀ n id size, (s.startFileStream now p).handlers.lookup n =
      some (.onFileStreamRemoteFile id size) →
      s.handlers.lookup n = some (.onFileStreamRemoteFile id size) ∨
        (n = s.nextHandlerId ∧ id = p.streamId) := by
    intro n id size hn
    rcases hhandlers with hh | hh
    · exact Or.inl (hh ▸ hn)
    · rw [hh] at hn
      rcases TableLookup.of_insert hn with ⟨rfl, heq⟩ | ⟨-, hn⟩
      · cases heq
        exact Or.inr ⟨rfl, rfl⟩
      · exact Or.inl hn
  refine { hrest with active := ?_, parked := ?_, lookups := ?_, lookupOnce := ?_, listed := ?_ }
  · intro id h
    rw [hactive] at h
    rcases List.mem_insert_iff.1 h with rfl | h
    · exact hstarted
    · exact hs.active id h
  · refine fun q hq => ⟨(hrest.parked q hq).1, (hrest.parked q hq).2.1, fun n size hn => ?_⟩
    rcases hlook n _ size hn with hn | ⟨-, he⟩
    · exact (hrest.parked q hq).2.2 n size hn
    · exact hother q hq he
  · intro n id size hn
    rcases hlook n id size hn with hn | ⟨-, rfl⟩
    · exact hs.lookups n id size hn
    · exact ⟨hstarted, hunready⟩
  · intro n m id a b hn hm
    rcases hlook n id a hn with hn | ⟨rfl, rfl⟩
    · rcases hlook m id b hm with hm | ⟨rfl, rfl⟩
      · exact hs.lookupOnce n m id a b hn hm
      · exact absurd hn (hnone n a)
    · rcases hlook m _ b hm with hm | ⟨rfl, -⟩
      · exact absurd hm (hnone m b)
      · rfl
  · intro f id h
    rw [hl] at h
    exact hs.listed f id h

theorem Accounted.foldl_take (parked : List PendingFileStream) {s : Client}
    (hs : Accounted started readied parked s) (ha : s.wasAuthorized = true) :
    Accounted started readied [] (parked.foldl (fun t p => t.startFileStream now p) s) := by
  induction parked generalizing s with
  | nil => exact hs
  | cons p parked ih =>
      exact ih (hs.take ha) ((startFileStream_opened now s p).authorized.trans ha)

end Start

theorem foldl_startFileStream_pending (now : Int) (parked : List PendingFileStream) {s : Client}
    (ha : s.wasAuthorized = true) :
    (parked.foldl (fun t p => t.startFileStream now p) s).pendingFileStreams =
      s.pendingFileStreams := by
  induction parked generalizing s with
  | nil => rfl
  | cons p parked ih =>
      have ho := startFileStream_opened now s p
      exact (ih (ho.authorized.trans ha)).trans (startFileStream_of_authorized now ha p).2.1

theorem foldl_startFileStream_active (now : Int) (parked : List PendingFileStream) {s : Client}
    (ha : s.wasAuthorized = true) {id : Int}
    (h : id ∈ (parked.foldl (fun t p => t.startFileStream now p) s).activeFileStreams) :
    id ∈ s.activeFileStreams ∨ ∃ p ∈ parked, p.streamId = id := by
  induction parked generalizing s with
  | nil => exact Or.inl h
  | cons p parked ih =>
      have ho := startFileStream_opened now s p
      rcases ih (ho.authorized.trans ha) h with h | ⟨q, hq, he⟩
      · rw [(startFileStream_of_authorized now ha p).1] at h
        rcases List.mem_insert_iff.1 h with rfl | h
        · exact Or.inr ⟨p, List.mem_cons_self, rfl⟩
        · exact Or.inl h
      · exact Or.inr ⟨q, List.mem_cons_of_mem _ hq, he⟩

theorem drainStreams_pending (now : Int) (s : Client) :
    (s.drainStreams now).pendingFileStreams = [] :=
  foldl_startFileStream_pending now s.pendingFileStreams rfl

section Steps

variable {started : List Int} {readied : List (Int × Int)}

theorem Accounted.drain (hs : Accounted started readied s.pendingFileStreams s) :
    Accounted started readied [] (s.drainStreams now) :=
  Accounted.foldl_take s.pendingFileStreams
    (hs.shrink (fun _ h => h) (fun _ _ h => h) fun _ _ _ h => h) rfl

theorem Accounted.leave (hs : Accounted started readied s.pendingFileStreams s) (hk : WellKept s)
    (streamId fileId : Int) (flag : Bool) :
    Accounted started readied (s.removeFileStream now streamId fileId flag).pendingFileStreams
      (s.removeFileStream now streamId fileId flag) := by
  have hd : Accounted started readied (s.detached streamId).pendingFileStreams
      (s.detached streamId) :=
    (hs.sublist List.filter_sublist).shrink (fun _ h => List.mem_of_mem_filter h)
      (fun _ _ h => h) fun _ _ _ h => h
  rw [removeFileStream_eq]
  split_ifs with hnone
  · exact hd
  · have ha : s.wasAuthorized = true := by
      by_contra hc
      exact hnone (Or.inr ((hk.unused (by simpa using hc)).listeners fileId))
    have hf := removeListener_frame now (s.detached streamId) streamId fileId flag
    have hu : Accounted started readied (s.detached streamId).pendingFileStreams
        ((s.detached streamId).unlisted streamId fileId) := by
      refine hd.shrink (fun _ h => h) (fun f id h => ?_) fun _ _ _ h => h
      change id ∈ ((s.detached streamId).fileStreamListeners.set fileId _).get f at h
      rw [Multimap.get_set] at h
      split_ifs at h with he
      · subst he
        exact List.mem_of_mem_filter h
      · exact h
    rw [hf.pending]
    exact hu.frame (WellKept.authorized hk.numbered ha) hf

theorem joinFileStream_readies {streamId : Int} {file : TdFile} (hout : s.out = []) :
    readiesOf (s.joinFileStream now streamId file.size file).out = [(streamId, file.id)] := by
  have hf := joinFileStream_frame now s streamId file
  rw [readiesOf_of_extends ?_ hf.out]
  · simp [readiesOf, listed, hout, ClientAction.ready]
  · rintro a (ha | ⟨-, -, n, rfl⟩)
    · exact ha.ready
    · rfl

theorem Accounted.join (hs : Accounted started readied s.pendingFileStreams s) (hk : WellKept s)
    {n : Nat} {streamId expectedSize : Int} {file : TdFile}
    (hn : s.handlers.lookup n = some (.onFileStreamRemoteFile streamId expectedSize)) :
    Accounted started (readied ++ [(streamId, file.id)]) s.pendingFileStreams
      ((s.joinFileStream now streamId file.size file).erased n) := by
  obtain ⟨hstarted, hunready⟩ := hs.lookups n streamId expectedSize hn
  have hauth := hk.authorized_of_lookup hn (Or.inl trivial)
  have hf := joinFileStream_frame now s streamId file
  have hkl : WellKept (s.listed streamId file) := WellKept.authorized hk.numbered hauth
  have hlook : ∀ m id size, ((s.joinFileStream now streamId file.size file).erased n).handlers.lookup
      m = some (.onFileStreamRemoteFile id size) →
      s.handlers.lookup m = some (.onFileStreamRemoteFile id size) ∧ id ≠ streamId := by
    intro m id size hm
    change ((s.joinFileStream now streamId file.size file).handlers.erase n).lookup m = _ at hm
    obtain ⟨hne, hm⟩ := TableLookup.of_erase hm
    have hm₁ : s.handlers.lookup m = some (.onFileStreamRemoteFile id size) :=
      (hf.handlers hkl.numbered).2.remote hm
    refine ⟨hm₁, fun he => hne ?_⟩
    subst he
    exact hs.lookupOnce m n id size expectedSize hm₁ hn
  have hnew : ∀ {id f}, id ≠ streamId → (id, f) ∉ readied →
      (id, f) ∉ readied ++ [(streamId, file.id)] := by
    intro id f hne hno h
    rcases List.mem_append.1 h with h | h
    · exact hno h
    · exact hne (Prod.ext_iff.1 (List.mem_singleton.1 h)).1
  have hl : ∀ f id, id ∈ (s.joinFileStream now streamId file.size file).fileStreamListeners.get f →
      id ∈ s.fileStreamListeners.get f ∨ (f = file.id ∧ id = streamId) := by
    intro f id h
    rw [hf.listeners] at h
    exact (Multimap.mem_get_push _ _).1 h
  constructor
  · intro id h
    exact hs.active id (hf.active ▸ h)
  · exact hs.parkedOnce
  · intro p hp
    obtain ⟨h₁, h₂, h₃⟩ := hs.parked p hp
    refine ⟨h₁, fun f => hnew (fun he => h₃ n expectedSize (he ▸ hn)) (h₂ f), fun m size hm => ?_⟩
    exact h₃ m size (hlook m _ size hm).1
  · intro m id size hm
    obtain ⟨hm, hne⟩ := hlook m id size hm
    exact ⟨(hs.lookups m id size hm).1, fun f => hnew hne ((hs.lookups m id size hm).2 f)⟩
  · intro m k id a b hm hk'
    exact hs.lookupOnce m k id a b (hlook m id a hm).1 (hlook k id b hk').1
  · intro f id h
    rcases hl f id h with h | ⟨rfl, rfl⟩
    · exact List.mem_append_left _ (hs.listed f id h)
    · exact List.mem_append_right _ (List.mem_singleton.2 rfl)
  · intro id f h
    rcases List.mem_append.1 h with h | h
    · exact hs.readiedStarted id f h
    · cases List.mem_singleton.1 h
      exact hstarted
  · intro id f g hf hg
    rcases List.mem_append.1 hf with hf | hf
    · rcases List.mem_append.1 hg with hg | hg
      · exact hs.readiedOnce id f g hf hg
      · cases List.mem_singleton.1 hg
        exact absurd hf (hunready f)
    · cases List.mem_singleton.1 hf
      rcases List.mem_append.1 hg with hg | hg
      · exact absurd hg (hunready g)
      · cases List.mem_singleton.1 hg
        rfl

theorem Accounted.getFile (hs : Accounted started readied s.pendingFileStreams s) (hk : WellKept s)
    {n : Nat} {query : Query} {file : TdFile}
    (hn : s.handlers.lookup n = some (.onCheckRemoteFileId query false)) (hout : s.out = []) :
    Accounted started (readied ++ readiesOf (s.doGetFile S now file query).out)
      (s.doGetFile S now file query).pendingFileStreams
      ((s.doGetFile S now file query).erased n) := by
  have hauth := hk.authorized_of_lookup hn (Or.inr trivial)
  rcases doGetFile_frame (S := S) now s file query with hf | ⟨-, hf⟩
  · rw [readiesOf_of_extends (fun _ h => h.ready) hf.out, hout, hf.pending]
    have ht := hs.frame hk hf
    rw [readiesOf, List.filterMap_nil, List.append_nil]
    exact ht.frame (hk.frame hf) (frame_erase (P := Plain) _ n)
  · have hout₁ : (s.awaited query file.id).out = [] := hout
    have hpend : (s.doGetFile S now file query).pendingFileStreams = s.pendingFileStreams :=
      hf.pending
    rw [readiesOf_of_extends ?_ hf.out, hout₁, hpend]
    · have hka : WellKept (s.awaited query file.id) := WellKept.authorized hk.numbered hauth
      have ha : Accounted started readied s.pendingFileStreams (s.awaited query file.id) :=
        hs.shrink (fun _ h => h) (fun _ _ h => h) fun _ _ _ h => h
      rw [readiesOf, List.filterMap_nil, List.append_nil]
      exact (ha.frame hka hf).frame (hka.frame hf) (frame_erase (P := Plain) _ n)
    · rintro a (ha | ⟨-, m, rfl⟩)
      · exact ha.ready
      · rfl

theorem Accounted.closed (hs : Accounted started readied s.pendingFileStreams s) (hk : WellKept s)
    (hc : Cleared s t) : Accounted started readied t.pendingFileStreams t := by
  rw [hc.pending]
  refine (hs.sublist (List.nil_sublist _)).shrink (fun id h => ?_) (fun f id h => ?_) ?_
  · rw [hc.active] at h
    cases h
  · rw [hc.listeners, Multimap.get_empty] at h
    cases h
  · exact fun n id size hn => (hc.handlers hk.numbered).2.remote hn

theorem Accounted.start (hs : Accounted started readied s.pendingFileStreams s)
    {p : PendingFileStream} (hp : p.streamId ∉ started) :
    Accounted (started ++ [p.streamId]) readied (s.startFileStream now p).pendingFileStreams
      (s.startFileStream now p) := by
  have ha := hs.admitStream hp
  cases hauth : s.wasAuthorized with
  | true =>
      rw [(startFileStream_of_authorized now hauth p).2.1]
      exact ha.take hauth
  | false =>
      rw [startFileStream_of_unauthorized now hauth]
      exact ha.park (List.mem_append_right _ (List.mem_singleton.2 rfl))

theorem Accounted.report (hs : Accounted started readied s.pendingFileStreams s) (hk : WellKept s)
    (hout : s.out = []) (now : Int) (file : TdFile) :
    Accounted started (readied ++ readiesOf (s.onUpdateFile S now file).out)
      (s.onUpdateFile S now file).pendingFileStreams (s.onUpdateFile S now file) := by
  have hf := frame_onUpdateFile (S := S) (s := s) now file
  rw [readiesOf_of_extends (fun _ h => h.ready) hf.out, hout, hf.pending, readiesOf,
    List.filterMap_nil, List.append_nil]
  exact hs.frame hk hf

/-- Every step accounts for the stream it starts and the `on_file_ready` it sends. -/
theorem Accounted.outcome {e : Event} (hs : Accounted started readied s.pendingFileStreams s)
    (hk : WellKept s) (hout : s.out = []) (hfresh : ∀ id ∈ startsOf e, id ∉ started)
    (h : StepOutcome S now s e t) :
    Accounted (started ++ startsOf e) (readied ++ readiesOf t.out) t.pendingFileStreams t := by
  have hplain : ∀ {u}, Extends Plain s.out u → readiesOf u = [] := fun hu => by
    rw [readiesOf_of_extends (fun _ h => h.ready) hu, hout]
    rfl
  cases h with
  | frame h =>
      rw [hplain h.out, List.append_nil, h.pending]
      exact hs.mono.frame hk h
  | start p =>
      rw [hplain (startFileStream_opened now s p).out, List.append_nil]
      exact hs.start (hfresh p.streamId (List.mem_singleton.2 rfl))
  | leave streamId fileId flag =>
      have hready : readiesOf (s.removeFileStream now streamId fileId flag).out = [] := by
        rw [removeFileStream_eq]
        split_ifs
        · exact hplain (Extends.refl _)
        · have hf := removeListener_frame now (s.detached streamId) streamId fileId flag
          have hnone := readiesOf_of_extends (by
            rintro a ⟨-, n, rfl⟩
            rfl) hf.out
          exact hnone.trans (hplain (Extends.refl _))
      rw [hready, List.append_nil]
      exact (hs.leave hk streamId fileId flag).mono
  | join n streamId expectedSize file hn ha hsize =>
      have hready : readiesOf ((s.joinFileStream now streamId file.size file).erased n).out =
        [(streamId, file.id)] := joinFileStream_readies hout
      have hpend : ((s.joinFileStream now streamId file.size file).erased n).pendingFileStreams =
        s.pendingFileStreams := (joinFileStream_frame now s streamId file).pending
      rw [hready, hpend]
      exact (hs.join hk hn).mono
  | update file ha => exact (hs.report hk hout _ file).mono
  | downloaded n fileId file startedIds hn =>
      have hk₁ := hk.withStarted startedIds
      have hs₁ : Accounted started readied s.pendingFileStreams
          { s with downloadStartedFileIds := startedIds } :=
        hs.shrink (fun _ h => h) (fun _ _ h => h) fun _ _ _ h => h
      have hr := Accounted.report (S := S) hs₁ hk₁ hout now file
      have hk₂ := hk₁.frame (frame_onUpdateFile (S := S) now file)
      exact (hr.frame hk₂ (frame_erase (P := Plain) _ n)).mono
  | getFile n query file hn => exact (hs.getFile hk hn hout).mono
  | authorize u hu hready hnew ht =>
      have hku := hk.frame hu
      have hb := becomeAuthorized_frame (S := S) now (hku.unused hnew)
      have ho := drainStreams_opened now u
      have hkd : WellKept (u.drainStreams now) :=
        WellKept.authorized (ho.numbered hku.numbered) ho.authorized
      have hau : Accounted started readied u.pendingFileStreams u := by
        rw [hu.pending]
        exact hs.frame hk hu
      rw [hplain (((hu.out.trans ho.out).trans hb.out).trans ht.out), List.append_nil, ht.pending,
        hb.pending, drainStreams_pending]
      exact ((hau.drain.frame hkd hb).frame (hkd.frame hb) ht).mono
  | closed u hu ht =>
      have hc := (onClosed_cleared now u).frame ht
      have hau : Accounted started readied u.pendingFileStreams u := by
        rw [hu.pending]
        exact hs.frame hk hu
      rw [hplain (hu.out.trans hc.out), List.append_nil]
      exact (hau.closed (hk.frame hu) hc).mono

theorem Accounted.step (hs : Accounted started readied s.pendingFileStreams s) (hk : WellKept s)
    {x : Input} (hfresh : ∀ id ∈ startsOf x.event, id ∉ started) :
    Accounted (started ++ startsOf x.event) (readied ++ readiesOf (s.step S x).out)
      (s.step S x).pendingFileStreams (s.step S x) := by
  have hs₁ : Accounted started readied s.pendingFileStreams { s with out := [] } :=
    hs.shrink (fun _ h => h) (fun _ _ h => h) fun _ _ _ h => h
  unfold Client.step
  simp only
  split_ifs
  · rw [readiesOf, List.filterMap_nil, List.append_nil]
    exact hs₁.mono
  · have hs₂ : Accounted started readied s.pendingFileStreams (s.begun x.event) :=
      hs.shrink (fun _ h => h) (fun _ _ h => h) fun _ _ _ h => h
    exact hs₂.outcome (hk.begun x.event) rfl hfresh (handle_outcome s x.event)

theorem accounted_startUp (S : ClientSetup) (now : Int) :
    Accounted [] [] (startUp S now).pendingFileStreams (startUp S now) := by
  have hempty : ∀ t : Client, t.handlers = ∅ → t.activeFileStreams = [] →
      t.fileStreamListeners = .empty → Accounted [] [] [] t := by
    intro t hh ha hl
    have hnone : ∀ n h, t.handlers.lookup n ≠ some h := fun n h hn => by
      rw [hh, AList.lookup_empty] at hn
      cases hn
    refine ⟨fun id h => ?_, List.nodup_nil, nofun, fun n id size h => absurd h (hnone n _),
      fun n m id a b h => absurd h (hnone n _), fun f id h => ?_, nofun, nofun⟩
    · rwa [ha] at h
    · rw [hl, Multimap.get_empty] at h
      cases h
  unfold startUp finishClosing
  split_ifs
  · exact hempty _ rfl rfl rfl
  · exact hempty _ rfl rfl rfl
  · exact hempty _ rfl rfl rfl

end Steps

end Client

end TelegramBotApi
