import TelegramBotApi.ClientEffects
import TelegramBotApi.StepRun

/-!
# Streams started in a closing client

`start_file_stream` asks for `was_authorized_` before it asks whether the client is closing. A client
that closes before its first authorization therefore parks the stream. While TDLib is alive the
stream is answered by `on_closed`; a client without TDLib, after `on_closed` or after a rejected
token, has nothing left that could answer it. TDLib is an environment here: `Admissible` says that it
sends nothing once its client is gone, `Final` also that it reports no new login to a closing client.
-/

namespace TelegramBotApi

namespace Client

open ClientAction (Plain)
open StepRun (run AllSteps)

variable {S : ClientSetup} {now : Int} {s t : Client} {e : Event} {id : Int}

def Event.isFromTdlib : Event → Bool
  | .onResult .. | .onUpdate _ | .onAuthorizationState _ => true
  | _ => false

def Admissible (s : Client) (x : Input) : Prop :=
  x.event.isFromTdlib = true → s.tdClient = true

def Final (s : Client) (x : Input) : Prop :=
  Admissible s x ∧ (s.isClosing = true → x.event ≠ .onAuthorizationState .ready)

def NeverAuthorized (S : ClientSetup) (ok : Client → Input → Prop) (s : Client) : Prop :=
  ∀ later, AllSteps (step S) ok s later → (run (step S) s later).wasAuthorized = false

def Told (t : Client) (id : Int) : Prop :=
  ∃ error, ClientAction.stream id (.onFileError error) ∈ t.out

/-- A step in which the stream does not leave by itself. -/
def Waits (id : Int) (s : Client) (x : Input) : Prop :=
  Admissible s x ∧ ∀ fileId flag, x.event ≠ .removeFileStream id fileId flag

def WaitsForClose (S : ClientSetup) (id : Int) (s : Client) (later : List Input) : Prop :=
  AllSteps (step S) (Waits id) s later ∧ s.tdClient = true ∧
    (run (step S) s later).tdClient = false

/-- The call of `start_file_stream` tells the stream of an error, or `on_closed` is still to come and
the stream is told by then. -/
def Answered (S : ClientSetup) (s : Client) (p : PendingFileStream) (now : Int) : Prop :=
  let t := s.step S ⟨.startFileStream p, now⟩
  Told t p.streamId ∨
    ((∃ later, WaitsForClose S p.streamId t later) ∧
      ∀ later, WaitsForClose S p.streamId t later →
        ¬ AllSteps (step S) (fun u x => ¬ Told (u.step S x) p.streamId) t later)

/-- No stream is parked in a client that can never become authorized. -/
def NoneStranded (S : ClientSetup) (ok : Client → Input → Prop) (s : Client) : Prop :=
  NeverAuthorized S ok s → s.pendingFileStreams = []

section Flags

structure Flags (s t : Client) : Prop where
  state : t.authorizationState = s.authorizationState
  closing : s.isClosing = true → t.isClosing = true
  closes : t.isClosing = true → s.isClosing = true ∨ s.authorizationState = .loggingOut ∨
    s.authorizationState = .closing
  authorized : t.wasAuthorized = s.wasAuthorized ∨ s.authorizationState = .ready
  tdClient : t.tdClient = true → s.tdClient = true

theorem Frame.flags {P : ClientAction → Prop} (h : Frame P s t) : Flags s t :=
  ⟨h.state, h.closing, h.closes, Or.inl h.authorized, fun ht => h.tdClient.symm.trans ht⟩

theorem Opened.flags (h : Opened s t) : Flags s t := by
  have hc : t.isClosing = s.isClosing := by
    unfold isClosing
    rw [h.closing, h.loggingOut]
  exact ⟨h.state, fun h => hc.trans h, fun h => Or.inl (hc.symm.trans h), Or.inl h.authorized,
    fun ht => h.tdClient.symm.trans ht⟩

theorem outcome_flags (hk : WellKept s) (h : StepOutcome S now s e t) : Flags s t := by
  cases h with
  | frame h => exact h.flags
  | start p => exact (startFileStream_opened now s p).flags
  | leave streamId fileId flag =>
      rw [removeFileStream_eq]
      split_ifs
      · exact ⟨rfl, fun h => h, Or.inl, Or.inl rfl, fun h => h⟩
      · have hf := removeListener_frame now (s.detached streamId) streamId fileId flag
        exact ⟨hf.state, hf.closing, hf.closes, Or.inl hf.authorized,
          fun ht => hf.tdClient.symm.trans ht⟩
  | join n streamId expectedSize file hn hactive hsize =>
      have hf := joinFileStream_frame now s streamId file
      exact ⟨hf.state, hf.closing, hf.closes, Or.inl hf.authorized,
          fun ht => hf.tdClient.symm.trans ht⟩
  | update file hauth => exact (frame_onUpdateFile (S := S) now file).flags
  | downloaded n fileId file started hn =>
      have hf := frame_onUpdateFile (S := S) (s := { s with downloadStartedFileIds := started })
        now file
      exact ⟨hf.state, hf.closing, hf.closes, Or.inl hf.authorized,
          fun ht => hf.tdClient.symm.trans ht⟩
  | getFile n query file hn =>
      rcases doGetFile_frame (S := S) now s file query with hf | ⟨-, hf⟩
      · exact ⟨hf.state, hf.closing, hf.closes, Or.inl hf.authorized,
          fun ht => hf.tdClient.symm.trans ht⟩
      · exact ⟨hf.state, hf.closing, hf.closes, Or.inl hf.authorized,
          fun ht => hf.tdClient.symm.trans ht⟩
  | authorize u hu hready hnew ht =>
      have hd := (drainStreams_opened now u).flags
      have hf := (becomeAuthorized_frame (S := S) now ((hk.frame hu).unused hnew)).trans ht
      refine ⟨?_, fun h => hf.closing (hd.closing (hu.closing h)), fun h => ?_,
        Or.inr (hu.state ▸ hready), fun h => ?_⟩
      · exact hf.state.trans (hd.state.trans hu.state)
      · rcases hf.closes h with h | h
        · rcases hd.closes h with h | h
          · exact hu.closes h
          · exact Or.inr (hu.state ▸ h)
        · rw [hd.state] at h
          exact Or.inr (hu.state ▸ h)
      · exact hu.flags.tdClient (hd.tdClient (hf.flags.tdClient h))
  | closed u hu ht =>
      have hc := (onClosed_cleared now u).frame ht
      refine ⟨hc.state.trans hu.state, fun h => hc.closing (hu.closing h), fun h => ?_,
        Or.inl (hc.authorized.trans hu.authorized), fun h => ?_⟩
      · rcases hc.closes h with h | h
        · exact hu.closes h
        · exact Or.inr (hu.state ▸ h)
      · rw [hc.tdClient] at h
        cases h

/-- A client that is neither stopped nor crashed goes through one outcome; another does nothing. -/
theorem step_cases (s : Client) (x : Input) :
    s.step S x = { s with out := [] } ∨ StepOutcome S x.now (s.begun x.event) x.event (s.step S x) := by
  unfold step
  simp only
  split_ifs
  · exact Or.inl rfl
  · exact Or.inr (handle_outcome s x.event)

theorem step_tdClient {x : Input} (hk : WellKept s) (h : (s.step S x).tdClient = true) :
    s.tdClient = true := by
  rcases step_cases (S := S) s x with he | hout
  · rw [he] at h
    exact h
  · exact (outcome_flags (hk.begun x.event) hout).tdClient h

/-- A closing client has left `authorizationStateReady`. -/
def Barred (s : Client) : Prop := s.isClosing = true → s.authorizationState ≠ .ready

theorem barred_startUp (S : ClientSetup) (now : Int) : Barred (startUp S now) := by
  unfold startUp finishClosing
  split_ifs
  · exact fun _ h => by cases h
  · exact fun _ h => by cases h
  · exact fun _ h => by cases h

theorem stateAfter_ne_ready {x : Input} (hs : Barred s) (hc : s.isClosing = true) (hx : Final s x) :
    s.stateAfter x.event ≠ .ready := by
  unfold stateAfter
  split
  · rename_i state he
    intro hready
    exact hx.2 hc (he.trans (by rw [hready]))
  · exact hs hc

theorem barred_step {x : Input} (hk : WellKept s) (hs : Barred s) (hx : Final s x) :
    Barred (s.step S x) := by
  rcases step_cases (S := S) s x with he | h
  · rw [he]
    exact hs
  · have hf := outcome_flags (hk.begun x.event) h
    intro hc
    rw [hf.state]
    rcases hf.closes hc with hc | hc | hc
    · exact stateAfter_ne_ready hs hc hx
    · exact fun hready => by cases hc.symm.trans hready
    · exact fun hready => by cases hc.symm.trans hready

/-- Only a message of TDLib authorizes a client. -/
theorem step_authorized_of_own {x : Input} (hx : x.event.isFromTdlib = false) :
    (s.step S x).wasAuthorized = s.wasAuthorized := by
  unfold step
  simp only
  split_ifs
  · rfl
  · cases he : x.event with
    | startFileStream p => exact (startFileStream_opened x.now { s with out := [] } p).authorized
    | removeFileStream streamId fileId flag =>
        dsimp only [handle]
        rw [removeFileStream_eq]
        split_ifs
        · rfl
        · exact (removeListener_frame x.now ({ s with out := [] }.detached streamId) streamId fileId
            flag).authorized
    | send query => exact (frame_send (S := S) (s := { s with out := [] }) query).authorized
    | close => exact (frame_close { s with out := [] }).authorized
    | finishClosing =>
        dsimp only [handle, finishClosing]
        split_ifs
        · rfl
        · rfl
    | timeoutExpired => rfl
    | onResult n result => rw [he] at hx; cases hx
    | onUpdate update => rw [he] at hx; cases hx
    | onAuthorizationState state => rw [he] at hx; cases hx

end Flags

section Waiting

theorem foldl_startFileStream_keeps (now : Int) (parked : List PendingFileStream) {s : Client}
    (ha : s.wasAuthorized = true) (h : id ∈ s.activeFileStreams) :
    id ∈ (parked.foldl (fun t p => t.startFileStream now p) s).activeFileStreams := by
  induction parked generalizing s with
  | nil => exact h
  | cons p parked ih =>
      refine ih ((startFileStream_opened now s p).authorized.trans ha) ?_
      rw [(startFileStream_of_authorized now ha p).1]
      exact List.mem_insert_of_mem h

theorem startFileStream_active (now : Int) (s : Client) (p : PendingFileStream) :
    (s.startFileStream now p).activeFileStreams = s.activeFileStreams.insert p.streamId := by
  cases hauth : s.wasAuthorized with
  | true => exact (startFileStream_of_authorized now hauth p).1
  | false => rw [startFileStream_of_unauthorized now hauth p]

def Expects (id : Int) (s : Client) : Prop := id ∈ s.activeFileStreams ∧ s.tdClient = true

theorem Expects.frame {P : ClientAction → Prop} (h : Expects id s) (hf : Frame P s t) :
    Expects id t := by
  unfold Expects
  rw [hf.active, hf.tdClient]
  exact h

/-- An active stream stays active until it leaves or is told that the client closes. -/
theorem Expects.outcome (hk : WellKept s) (hs : Expects id s) (h : StepOutcome S now s e t)
    (hstay : ∀ fileId flag, e ≠ .removeFileStream id fileId flag) : Expects id t ∨ Told t id := by
  cases h with
  | frame h => exact Or.inl (hs.frame h)
  | start p =>
      left
      refine ⟨?_, (startFileStream_opened now s p).tdClient.trans hs.2⟩
      rw [startFileStream_active]
      exact List.mem_insert_of_mem hs.1
  | leave streamId fileId flag =>
      left
      have hne : id ≠ streamId := fun he => hstay fileId flag (by rw [he])
      have hd : Expects id (s.detached streamId) :=
        ⟨List.mem_filter.2 ⟨hs.1, by simpa using hne⟩, hs.2⟩
      rw [removeFileStream_eq]
      split_ifs
      · exact hd
      · have hu : Expects id ((s.detached streamId).unlisted streamId fileId) := hd
        exact hu.frame (removeListener_frame now (s.detached streamId) streamId fileId flag)
  | join n streamId expectedSize file hn hactive hsize =>
      have hl : Expects id (s.listed streamId file) := hs
      exact Or.inl ((hl.frame (joinFileStream_frame now s streamId file)).frame
        (frame_erase (P := Plain) _ n))
  | update file hauth => exact Or.inl (hs.frame (frame_onUpdateFile (S := S) now file))
  | downloaded n fileId file started hn =>
      have hd : Expects id { s with downloadStartedFileIds := started } := hs
      exact Or.inl ((hd.frame (frame_onUpdateFile (S := S) now file)).frame
        (frame_erase (P := Plain) _ n))
  | getFile n query file hn =>
      have hw : Expects id (s.awaited query file.id) := hs
      rcases doGetFile_frame (S := S) now s file query with hf | ⟨-, hf⟩
      · exact Or.inl ((hs.frame hf).frame (frame_erase (P := Plain) _ n))
      · exact Or.inl ((hw.frame hf).frame (frame_erase (P := Plain) _ n))
  | authorize u hu hready hnew ht =>
      left
      have hb := becomeAuthorized_frame (S := S) now ((hk.frame hu).unused hnew)
      have hd : Expects id (u.drainStreams now) := by
        refine ⟨foldl_startFileStream_keeps now _ rfl ?_, ?_⟩
        · exact (hs.frame hu).1
        · exact (drainStreams_opened now u).tdClient.trans (hs.frame hu).2
      exact (hd.frame hb).frame ht
  | closed u hu ht =>
      right
      exact ⟨_, ((onClosed_cleared now u).frame ht).answered id (hs.frame hu).1⟩

theorem Expects.next {x : Input} (hk : WellKept s) (hs : Expects id s) (hx : Waits id s x) :
    Expects id (s.step S x) ∨ Told (s.step S x) id := by
  rcases step_cases (S := S) s x with he | h
  · rw [he]
    exact Or.inl hs
  · have hb : Expects id (s.begun x.event) := hs
    exact hb.outcome (hk.begun x.event) h hx.2

/-- A run that closes the client tells every stream that waits. -/
theorem Expects.told {later : List Input} (hk : WellKept s) (hs : Expects id s)
    (h : WaitsForClose S id s later) :
    ¬ AllSteps (step S) (fun u x => ¬ Told (u.step S x) id) s later := by
  obtain ⟨hwait, -, hclosed⟩ := h
  induction later generalizing s with
  | nil => rw [StepRun.run_nil, hs.2] at hclosed; cases hclosed
  | cons x later ih =>
      intro hsilent
      have hnext := (hs.next hk hwait.1).resolve_right hsilent.1
      exact ih (wellKept_step hk x) hnext hwait.2 hclosed hsilent.2

end Waiting

section Parked

variable {p : PendingFileStream}

theorem isRunning_step_start (hrun : s.isRunning = true) (hnew : s.wasAuthorized = false) :
    s.step S ⟨.startFileStream p, now⟩ = { s with
      activeFileStreams := s.activeFileStreams.insert p.streamId
      pendingFileStreams := s.pendingFileStreams ++ [p]
      out := [] } := by
  rw [step_of_running hrun]
  exact startFileStream_of_unauthorized now (s := { s with out := [] }) hnew p

theorem told_requestFileStream (hc : s.isClosing = true) :
    Told (s.requestFileStream now p) p.streamId := by
  unfold requestFileStream
  rw [if_pos hc]
  exact ⟨_, List.mem_append_right _ (List.mem_singleton.2 rfl)⟩

theorem told_start (hrun : s.isRunning = true) (hc : s.isClosing = true)
    (hauth : s.wasAuthorized = true) : Told (s.step S ⟨.startFileStream p, now⟩) p.streamId := by
  rw [step_of_running hrun]
  dsimp only [handle]
  unfold startFileStream
  simp only
  rw [if_neg (by simp [hauth])]
  exact told_requestFileStream hc

/-- TDLib can close a client that is closing. -/
theorem waitsForClose_closed (hrun : s.isRunning = true) (htd : s.tdClient = true) :
    WaitsForClose S id s [⟨.onAuthorizationState .closed, 0⟩] := by
  refine ⟨⟨⟨fun _ => htd, fun _ _ h => by cases h⟩, trivial⟩, htd, ?_⟩
  rw [StepRun.run_cons, StepRun.run_nil, step_of_running hrun]
  exact (onClosed_cleared 0 { s with
    out := []
    authorizationState := .closed }).tdClient

theorem answered_of_tdClient (hk : WellKept s) (hrun : s.isRunning = true)
    (hnew : s.wasAuthorized = false) (htd : s.tdClient = true) : Answered S s p now := by
  have he : s.step S ⟨.startFileStream p, now⟩ = _ := isRunning_step_start hrun hnew
  have hk₁ := wellKept_step (S := S) hk ⟨.startFileStream p, now⟩
  right
  rw [he] at hk₁ ⊢
  refine ⟨⟨_, waitsForClose_closed hrun htd⟩, fun later h => ?_⟩
  exact Expects.told hk₁ ⟨List.mem_insert_self, htd⟩ h

theorem not_answered (hrun : s.isRunning = true) (hnew : s.wasAuthorized = false)
    (htd : s.tdClient = false) : ¬ Answered S s p now := by
  have he : s.step S ⟨.startFileStream p, now⟩ = _ := isRunning_step_start hrun hnew
  unfold Answered
  simp only [he]
  rintro (⟨error, h⟩ | ⟨⟨later, -, h, -⟩, -⟩)
  · cases h
  · rw [htd] at h
    cases h

/-- Without TDLib nothing authorizes a client. -/
theorem neverAuthorized_of_dead (hk : WellKept s) (hnew : s.wasAuthorized = false)
    (htd : s.tdClient = false) : NeverAuthorized S Admissible s := by
  intro later hok
  refine (StepRun.run_invariant (I := fun t => WellKept t ∧ t.tdClient = false ∧
    t.wasAuthorized = false) ?_ ⟨hk, htd, hnew⟩ hok).2.2
  rintro t x ⟨hk, htd, hnew⟩ hx
  have hown : x.event.isFromTdlib = false := by
    by_contra hc
    have h := hx (by simpa using hc)
    rw [htd] at h
    cases h
  refine ⟨wellKept_step hk x, ?_, (step_authorized_of_own hown).trans hnew⟩
  by_contra hc
  have h := step_tdClient hk (by simpa using hc)
  rw [htd] at h
  cases h

def introduced (s : Client) : Client :=
  { s with
    myId := 1
    users := s.users.insert 1
    out := [] }

theorem step_allowed {update : TdUpdate} (hrun : s.isRunning = true)
    (ha : allowUpdateBeforeAuthorization update = true) :
    s.step S ⟨.onUpdate update, now⟩ = { s with out := [] }.onPlainUpdate S now update := by
  rw [step_of_running hrun]
  dsimp only [handle]
  unfold onUpdate
  rw [if_neg]
  exact fun h => h.2 ha

theorem run_introduced (hrun : s.isRunning = true) :
    run (step S) s [⟨.onUpdate (.myId (some 1)), 0⟩, ⟨.onUpdate (.user 1), 0⟩] = s.introduced := by
  rw [StepRun.run_cons, step_allowed hrun rfl, StepRun.run_cons, StepRun.run_nil]
  exact step_allowed (s := { s with
    myId := 1
    out := [] }) hrun rfl

theorem onUpdateAuthorizationState_ready (hstate : s.authorizationState = .ready)
    (hknown : ¬ (s.myId ≤ 0 ∨ s.myId ∉ s.users)) (hnew : s.wasAuthorized = false) :
    s.onUpdateAuthorizationState S now = (s.becomeAuthorized S now).loop S now := by
  have hfirst : ¬ s.wasAuthorized = true := by simp [hnew]
  unfold onUpdateAuthorizationState
  rw [hstate]
  simp only
  rw [if_neg hknown, if_pos hfirst]

theorem authorized_of_ready (hk : WellKept s) (hrun : s.isRunning = true)
    (hknown : ¬ (s.myId ≤ 0 ∨ s.myId ∉ s.users)) (hnew : s.wasAuthorized = false) :
    (s.step S ⟨.onAuthorizationState .ready, now⟩).wasAuthorized = true := by
  let u := s.begun (.onAuthorizationState .ready)
  have hu : Unused u := (hk.begun _).unused hnew
  have he : s.step S ⟨.onAuthorizationState .ready, now⟩ = (u.becomeAuthorized S now).loop S now := by
    rw [step_of_running hrun]
    exact onUpdateAuthorizationState_ready (s := u) rfl hknown hnew
  rw [he, (frame_loop _).authorized, (becomeAuthorized_frame now hu).authorized]
  exact (drainStreams_opened now u).authorized

theorem WellKept.introduced (hk : WellKept s) : WellKept s.introduced :=
  ⟨hk.numbered, fun h => ⟨(hk.unused h).waiting, (hk.unused h).listeners, (hk.unused h).lookups⟩⟩

/-- While TDLib lives, nothing in the client keeps it from being authorized. -/
theorem not_neverAuthorized (hk : WellKept s) (hrun : s.isRunning = true)
    (hnew : s.wasAuthorized = false) (htd : s.tdClient = true) :
    ¬ NeverAuthorized S Admissible s := by
  intro h
  have hmeet := run_introduced (S := S) hrun
  have hok : AllSteps (step S) Admissible s ([⟨.onUpdate (.myId (some 1)), 0⟩,
      ⟨.onUpdate (.user 1), 0⟩] ++ [⟨.onAuthorizationState .ready, 0⟩]) := by
    rw [StepRun.allSteps_concat, hmeet]
    refine ⟨⟨fun _ => htd, fun _ => ?_, trivial⟩, fun _ => htd⟩
    rw [step_allowed hrun rfl]
    exact htd
  have hlater := h _ hok
  rw [StepRun.run_concat, hmeet, authorized_of_ready hk.introduced hrun
    (by simp [introduced]) hnew] at hlater
  cases hlater

/-- A closing client whose TDLib reports no new login is never authorized. -/
theorem neverAuthorized_of_barred (hk : WellKept s) (hb : Barred s) (hc : s.isClosing = true)
    (hnew : s.wasAuthorized = false) : NeverAuthorized S Final s := by
  intro later hok
  refine (StepRun.run_invariant (I := fun t => WellKept t ∧ Barred t ∧ t.isClosing = true ∧
    t.wasAuthorized = false) ?_ ⟨hk, hb, hc, hnew⟩ hok).2.2.2
  rintro t x ⟨hk, hb, hc, hnew⟩ hx
  refine ⟨wellKept_step hk x, barred_step hk hb hx, ?_⟩
  rcases step_cases (S := S) t x with he | h
  · rw [he]
    exact ⟨hc, hnew⟩
  · have hf := outcome_flags (hk.begun x.event) h
    refine ⟨hf.closing hc, ?_⟩
    exact (hf.authorized.resolve_right (stateAfter_ne_ready hb hc hx)).trans hnew

theorem noneStranded_of_authorized {ok : Client → Input → Prop} (h : s.wasAuthorized = true) :
    NoneStranded S ok s := by
  intro hnever
  have h₁ := hnever [] trivial
  rw [StepRun.run_nil, h] at h₁
  cases h₁

theorem step_start_authorized (hauth : s.wasAuthorized = true) :
    (s.step S ⟨.startFileStream p, now⟩).wasAuthorized = true :=
  (step_authorized_of_own (S := S) rfl).trans hauth

/-- A parked stream is stranded exactly in a client that is never authorized. -/
theorem noneStranded_parked_iff {ok : Client → Input → Prop} (hrun : s.isRunning = true)
    (hnew : s.wasAuthorized = false) :
    NoneStranded S ok (s.step S ⟨.startFileStream p, now⟩) ↔
      ¬ NeverAuthorized S ok (s.step S ⟨.startFileStream p, now⟩) := by
  have hp : (s.step S ⟨.startFileStream p, now⟩).pendingFileStreams ≠ [] := by
    rw [isRunning_step_start hrun hnew]
    exact List.append_ne_nil_of_right_ne_nil _ (List.cons_ne_nil _ _)
  exact ⟨fun h hnever => hp (h hnever), fun h hnever => absurd hnever h⟩

theorem neverAuthorized_parked_iff (hk : WellKept s) (hrun : s.isRunning = true)
    (hnew : s.wasAuthorized = false) :
    NeverAuthorized S Admissible (s.step S ⟨.startFileStream p, now⟩) ↔ s.tdClient = false := by
  have hk₁ := wellKept_step (S := S) hk ⟨.startFileStream p, now⟩
  rw [isRunning_step_start hrun hnew] at hk₁ ⊢
  by_cases htd : s.tdClient = true
  · exact iff_of_false (not_neverAuthorized hk₁ hrun hnew htd) (by simp [htd])
  · have htd : s.tdClient = false := by simpa using htd
    exact iff_of_true (neverAuthorized_of_dead hk₁ hnew htd) htd

end Parked

theorem wellKept_run (S : ClientSetup) (now : Int) (inputs : List Input) :
    WellKept (run (step S) (startUp S now) inputs) :=
  StepRun.run_invariant_always (I := WellKept) (fun _ x h => wellKept_step h x)
    (wellKept_startUp S now) inputs

theorem barred_run {inputs : List Input} (h : AllSteps (step S) Final (startUp S now) inputs) :
    Barred (run (step S) (startUp S now) inputs) := by
  refine (StepRun.run_invariant (I := fun s => WellKept s ∧ Barred s) ?_
    ⟨wellKept_startUp S now, barred_startUp S now⟩ h).2
  exact fun s x hs hx => ⟨wellKept_step hs.1 x, barred_step hs.1 hs.2 hx⟩

end Client

open Client in
/-- In every reachable closing client, `start_file_stream` answers the stream, and leaves none parked
where it cannot be served, exactly if the client was authorized or still has its TDLib client. If
TDLib reports no login to a closing client, then a stream is parked in a client that is never
authorized whenever the client was not authorized before. -/
theorem closing_client_answers_iff (S : ClientSetup) (start : Int) (inputs : List Client.Input)
    (p : PendingFileStream) (now : Int) :
    let s := StepRun.run (Client.step S) (Client.startUp S start) inputs
    let t := s.step S ⟨.startFileStream p, now⟩
    s.isRunning = true → s.isClosing = true →
      (Answered S s p now ∧ NoneStranded S Client.Admissible t ↔
        s.wasAuthorized = true ∨ s.tdClient = true) ∧
      (StepRun.AllSteps (Client.step S) Final (Client.startUp S start) inputs →
        (NoneStranded S Final t ↔ s.wasAuthorized = true)) := by
  intro s t hrun hc
  have hk : WellKept s := wellKept_run S start inputs
  cases hauth : s.wasAuthorized with
  | true =>
      have ht : (s.step S ⟨.startFileStream p, now⟩).wasAuthorized = true := step_start_authorized hauth
      refine ⟨iff_of_true ⟨Or.inl (told_start hrun hc hauth), noneStranded_of_authorized ht⟩
        (Or.inl rfl), fun _ => iff_of_true (noneStranded_of_authorized ht) rfl⟩
  | false =>
      refine ⟨?_, fun hfinal => ?_⟩
      · rw [noneStranded_parked_iff hrun hauth, neverAuthorized_parked_iff hk hrun hauth]
        cases htd : s.tdClient with
        | true => exact iff_of_true ⟨answered_of_tdClient hk hrun hauth htd, by simp⟩ (Or.inr rfl)
        | false => exact iff_of_false (fun h => h.2 rfl) (by simp)
      · rw [noneStranded_parked_iff hrun hauth]
        refine iff_of_false (not_not.2 ?_) (by simp)
        have hb := barred_run hfinal
        have hk₁ := wellKept_step (S := S) hk ⟨.startFileStream p, now⟩
        have hb₁ := barred_step (S := S) (x := ⟨.startFileStream p, now⟩) hk hb
          ⟨(fun h => by cases h), fun _ h => by cases h⟩
        have he : s.step S ⟨.startFileStream p, now⟩ = _ := isRunning_step_start hrun hauth
        rw [he] at hk₁ hb₁ ⊢
        exact neverAuthorized_of_barred hk₁ hb₁ hc hauth

/-- A client that TDLib closes before the first login answers through `on_closed`. -/
theorem closing_client_answers_before_login :
    let S : ClientSetup := { token := "123:AAAAAAAAAAAAAAAAAAAAAAAA".toList }
    let s := StepRun.run (Client.step S) (Client.startUp S 0) [⟨.onAuthorizationState .closing, 0⟩]
    s.wasAuthorized = false ∧ s.tdClient = true ∧ Client.Answered S s ⟨5, ['x'], -1⟩ 0 := by
  intro S s
  have hrun : s.isRunning = true := by decide +kernel
  have hc : s.isClosing = true := by decide +kernel
  have htd : s.tdClient = true := by decide +kernel
  exact ⟨by decide +kernel, htd,
    ((closing_client_answers_iff S 0 _ ⟨5, ['x'], -1⟩ 0 hrun hc).1.2 (Or.inr htd)).1⟩

/-- A client whose token was rejected parks the stream for good. -/
theorem rejected_client_strands :
    let S : ClientSetup := { token := "123:short".toList }
    let s := Client.startUp S 0
    let t := s.step S ⟨.startFileStream ⟨5, ['x'], -1⟩, 0⟩
    s.isRunning = true ∧ s.isClosing = true ∧ t.pendingFileStreams = [⟨5, ['x'], -1⟩] ∧
      ¬ Client.Answered S s ⟨5, ['x'], -1⟩ 0 ∧ ¬ Client.NoneStranded S Client.Admissible t := by
  intro S s t
  have hrun : s.isRunning = true := by decide +kernel
  have hnew : s.wasAuthorized = false := by decide +kernel
  have htd : s.tdClient = false := by decide +kernel
  refine ⟨hrun, by decide +kernel, by decide +kernel, Client.not_answered hrun hnew htd, ?_⟩
  rw [Client.noneStranded_parked_iff hrun hnew, not_not]
  exact (Client.neverAuthorized_parked_iff (Client.wellKept_startUp S 0) hrun hnew).2 htd

end TelegramBotApi
