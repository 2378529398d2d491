import TelegramBotApi.StreamSystemInvariant
import TelegramBotApi.FileStreamHistory

/-!
# Dead listeners

A stream that ends before it has handled `on_file_ready` removes itself under file 0, and the client
then looks into no list of listeners. If the client has answered the lookup of that stream in the
meantime, the stream stays listed for the life of the client. A removal that names a file names the
right one, so these removals are the only ones that leave a listener behind.
-/

namespace TelegramBotApi

namespace StreamSystem

variable {S : ClientSetup} {s : StreamSystem}

/-- Streams whose removal was handled are in none of the tables of the client. -/
def NoDeadListener (s : StreamSystem) : Prop := ∀ id ∈ s.removed, Client.Gone id s.client

/-- A stream that leaves without knowing its file is not listed. -/
def KnowsListing (s : StreamSystem) (e : Event) : Prop :=
  ∀ r now, e = .removal r now → r ∈ s.removals → s.client.isRunning = true → r.fileId = 0 →
    ∀ f, r.streamId ∉ s.client.fileStreamListeners.get f

/-- A stream that leaves is gone unless it leaves as unlisted and is listed. -/
theorem gone_removal_iff (hs : Consistent s) {r : Removal} (hr : r ∈ s.removals)
    (hrun : s.client.isRunning = true) (now : Int) :
    Client.Gone r.streamId (s.client.step S
        ⟨.removeFileStream r.streamId r.fileId r.removeLocalFile, now⟩) ↔
      (r.fileId = 0 → ∀ f, r.streamId ∉ s.client.fileStreamListeners.get f) := by
  rw [Client.step_of_running hrun]
  refine (Client.gone_removeFileStream now { s.client with out := [] } r.streamId r.fileId
    r.removeLocalFile).trans ?_
  constructor
  · intro h hzero f hmem
    exact (h f hmem).1 hzero
  · intro h f hmem
    have hne : r.fileId ≠ 0 := fun hzero => h hzero f hmem
    have hknown := (hs.informed.removals r hr).2.resolve_left hne
    exact ⟨hne, hs.accounted.readiedOnce _ _ _ (hs.accounted.listed f _ hmem) hknown⟩

theorem noDeadListener_idle (hg : NoDeadListener s) {e : Event} (hd : s.delivered e = none) :
    NoDeadListener (s.environment e) := by
  have ho := environment_outside s e
  intro id hid
  rw [ho.client]
  rcases ho.removed id hid with hid | ⟨r, now, rfl, hr, -⟩
  · exact hg id hid
  · simp only [delivered, if_pos hr] at hd
    cases hd

theorem noDeadListener_step_iff (hs : Consistent s) (hg : NoDeadListener s) (e : Event) :
    NoDeadListener (s.step S e) ↔ KnowsListing s e := by
  have ho := environment_outside s e
  unfold step
  cases hd : s.delivered e with
  | none =>
      refine iff_of_true (noDeadListener_idle hg hd) fun r now he hr => ?_
      subst he
      simp only [delivered, if_pos hr] at hd
      cases hd
  | some d =>
      obtain ⟨x, origin⟩ := d
      have hstep : ∀ id, Client.Gone id (s.client.step S x) ↔
          Client.Gone id ((s.environment e).clientStep S x origin).client := fun id => by
        change _ ↔ Client.Gone id ((s.environment e).client.step S x)
        rw [ho.client]
      have hold : ∀ id ∈ s.removed, Client.Gone id (s.client.step S x) := fun id hid =>
        (hg id hid).step hs.wellKept fun hmem =>
          (delivered_delivery hd).fresh hs id hmem (hs.removed id hid)
      constructor
      · intro h r now he hr hrun
        subst he
        simp only [delivered, if_pos hr, Option.some.injEq, Prod.mk.injEq] at hd
        obtain ⟨rfl, rfl⟩ := hd
        refine (gone_removal_iff (S := S) hs hr hrun now).1 ((hstep _).2 (h r.streamId ?_))
        change r.streamId ∈ (s.environment (.removal r now)).removed
        simp [environment, hr, hrun]
      · intro h id hid
        refine (hstep id).1 ?_
        rcases ho.removed id hid with hid | ⟨r, now, rfl, hr, rfl, hrun⟩
        · exact hold id hid
        · simp only [delivered, if_pos hr, Option.some.injEq, Prod.mk.injEq] at hd
          obtain ⟨rfl, rfl⟩ := hd
          exact (gone_removal_iff hs hr hrun now).2 (h r now rfl hr hrun)

end StreamSystem

/-- In every run of streams, client and TDLib, no state has a dead listener if and only if no stream
that was already listed leaves under file 0. -/
theorem streams_no_dead_listener_iff (S : ClientSetup) (now : Int)
    (events : List StreamSystem.Event) :
    StepRun.AllSteps (StreamSystem.step S) (fun s e => (s.step S e).NoDeadListener)
        (StreamSystem.init S now) events ↔
      StepRun.AllSteps (StreamSystem.step S) StreamSystem.KnowsListing (StreamSystem.init S now)
        events :=
  StepRun.allSteps_good_iff (I := StreamSystem.Consistent)
    (fun _ e hs => StreamSystem.consistent_step hs e)
    (fun _ e hs hg => StreamSystem.noDeadListener_step_iff hs hg e)
    (StreamSystem.consistent_init S now) (fun id hid => by simp [StreamSystem.init] at hid) events

/-- The stream times out while the answer to its lookup is on its way to the client. -/
theorem streams_leave_dead_listener :
    let S : ClientSetup := { token := "123:AAAAAAAAAAAAAAAAAAAAAAAA".toList }
    let setup : FileStreamSetup := { streamId := 1, route := { token := [], fileId := ['x'] } }
    let io := FileAccess.ofBytes []
    let events : List StreamSystem.Event := [.produce (.onUpdate (.myId (some 123))),
      .produce (.onUpdate (.user 123)), .produce (.onAuthorizationState .ready), .report 0,
      .report 0, .report 0, .create setup, .connect 1 0, .greet 1 io, .process,
      .produce (.onResult 1 (.file { id := 7, size := 10 })), .stream 1 .timeoutExpired io,
      .report 0, .removal ⟨1, 0, false⟩ 0]
    let s := StepRun.run (StreamSystem.step S) (StreamSystem.init S 0) events
    1 ∈ s.removed ∧ 1 ∈ s.client.fileStreamListeners.get 7 ∧ ¬ s.NoDeadListener := by
  intro S setup io events s
  have hremoved : 1 ∈ s.removed := by decide +kernel
  have hlisted : 1 ∈ s.client.fileStreamListeners.get 7 := by decide +kernel
  exact ⟨hremoved, hlisted, fun h => (h 1 hremoved).listeners 7 hlisted⟩

end TelegramBotApi
