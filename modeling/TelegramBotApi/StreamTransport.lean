import TelegramBotApi.StreamSystemInvariant

/-!
# Messages in flight

What a message of TDLib means to the client does not change while it is on its way, except that it
may lose its meaning: its callback may be gone, or its stream. A message to a stream stays in its
inbox until the stream takes it. These are the facts about transport that invariants of messages in
flight rest on.
-/

namespace TelegramBotApi

def Client.Event.carried : Client.Event → Option TdFile
  | .onUpdate (.file file) => some file
  | .onResult _ (.file file) => some file
  | _ => none

namespace Client

variable {S : ClientSetup} {s t : Client} {e : Event} {file : TdFile} {id : Int}

theorem carried_of_lookupAnswer (h : lookupAnswer s e = some (id, file)) :
    e.carried = some file := by
  obtain ⟨n, size, rfl, -⟩ := lookupAnswer_eq_some h
  rfl

theorem carried_of_getFileAnswer (h : getFileAnswer S s e = some file) : e.carried = some file := by
  obtain ⟨n, query, rfl, -⟩ := getFileAnswer_eq_some h
  rfl

theorem carried_of_reportOf (h : reportOf s e = some file) : e.carried = some file := by
  unfold reportOf at h
  split at h
  · split_ifs at h
    cases h
    rfl
  · split at h
    · cases h
      rfl
    · cases h
      rfl
    · cases h
  · cases h

theorem carried_of_reportFile (h : reportFile s e = some file) : e.carried = some file := by
  unfold reportFile at h
  split at h
  · exact h
  · exact carried_of_reportOf h

/-- An event is at most one of a report, an answered lookup and an answered `getFile`. -/
theorem lookupAnswer_of_reportOf (h : reportOf s e = some file) : lookupAnswer s e = none := by
  unfold reportOf at h
  split at h
  · rfl
  · split at h
    · rename_i hn
      simp only [lookupAnswer, hn]
    · rename_i hn
      simp only [lookupAnswer, hn]
    · cases h
  · cases h

theorem getFileAnswer_of_reportOf (h : reportOf s e = some file) : getFileAnswer S s e = none := by
  unfold reportOf at h
  split at h
  · rfl
  · split at h
    · rename_i hn
      simp only [getFileAnswer, hn]
    · rename_i hn
      simp only [getFileAnswer, hn]
    · cases h
  · cases h

end Client

namespace StreamSystem

variable {S : ClientSetup} {s : StreamSystem} {c d : Client} {file : TdFile} {id : Int}

theorem reportFile_back (h : Client.SameHandlers c d) {e : Client.Event}
    (he : isFromTdlib c e = true) (hr : Client.reportFile d e = some file) :
    Client.reportFile c e = some file := by
  cases e with
  | onUpdate update =>
      cases update with
      | file f => exact hr
      | _ => cases hr
  | onResult n result =>
      cases result with
      | file f =>
          have hn : n < c.nextHandlerId := by simpa [isFromTdlib] using he
          simp only [Client.reportFile, Client.reportOf] at hr ⊢
          split at hr
          · rename_i hl
            rwa [h.2 n hn _ hl]
          · rename_i hl
            rwa [h.2 n hn _ hl]
          · cases hr
      | _ => cases hr
  | _ => cases hr

/-- A lookup that is answered after a step was answered before it. -/
theorem lookupAnswer_back (hs : Consistent s) {x : Client.Input}
    (hfresh : ∀ i ∈ Client.startsOf x.event, i ∉ s.started) {e : Client.Event}
    (he : isFromTdlib s.client e = true)
    (hr : Client.lookupAnswer (s.client.step S x) e = some (id, file)) :
    Client.lookupAnswer s.client e = some (id, file) := by
  have heff := Client.step_effects (S := S) hs.wellKept x
  unfold Client.lookupAnswer at hr
  split at hr
  · rename_i n f
    split at hr
    · rename_i streamId size hl
      split_ifs at hr with hc
      cases hr
      have hn : n < s.client.nextHandlerId := by simpa [isFromTdlib] using he
      have hl₁ := heff.handlers.2 n hn _ hl
      refine Client.lookupAnswer_join hl₁ ?_ hc.2
      rcases heff.active id hc.1 with ha | ha | ⟨p, hp, rfl⟩
      · exact ha
      · exact absurd (hs.accounted.lookups n id size hl₁).1 (hfresh id ha)
      · exact absurd hl₁ ((hs.accounted.parked p hp).2.2 n size)
    · cases hr
  · cases hr

/-- Files reach the client only from TDLib. -/
theorem Delivery.of_carried {e : Event} {event : Client.Event} {origin : Option TdMessage}
    (h : Delivery s e event origin) (hc : event.carried = some file) :
    ∃ m rest now, e = .report now ∧ s.reports = m :: rest ∧ event = m.event ∧ origin = some m := by
  cases h with
  | connect => cases hc
  | removal => cases hc
  | external event now hx => cases event <;> first | cases hc | cases hx
  | report m rest now hm => exact ⟨m, rest, now, rfl, hm, rfl, rfl⟩

theorem modify_streams {i j : Int} {f : StreamActor → StreamActor} {a : StreamActor}
    (h : (s.modify i f).streams j = some a) :
    ∃ b, s.streams j = some b ∧ (a = b ∨ (i = j ∧ a = f b)) := by
  change Function.update s.streams i ((s.streams i).map f) j = some a at h
  by_cases hj : j = i
  · subst hj
    rw [Function.update_self] at h
    obtain ⟨b, hb, rfl⟩ := Option.map_eq_some_iff.1 h
    exact ⟨b, hb, Or.inr ⟨rfl, rfl⟩⟩
  · rw [Function.update_of_ne hj] at h
    exact ⟨a, h, Or.inl rfl⟩

theorem streamStep_streams {i j : Int} {x : StreamInput} {a : StreamActor}
    (h : (s.streamStep i x).streams j = some a) :
    ∃ b, s.streams j = some b ∧ (a = b ∨ (i = j ∧ a = b.step x)) := by
  unfold streamStep at h
  cases hi : s.streams i with
  | none =>
      rw [hi] at h
      exact ⟨a, h, Or.inl rfl⟩
  | some b =>
      rw [hi] at h
      change Function.update s.streams i (some (b.step x)) j = some a at h
      by_cases hj : j = i
      · subst hj
        rw [Function.update_self] at h
        cases h
        exact ⟨b, hi, Or.inr ⟨rfl, rfl⟩⟩
      · rw [Function.update_of_ne hj] at h
        exact ⟨a, h, Or.inl rfl⟩

/-- The stream `b` has every message of `a`, and runs if `a` does. -/
structure OlderActor (b a : StreamActor) : Prop where
  inbox : ∀ m ∈ a.inbox, m ∈ b.inbox
  running : a.state.stopped = false → b.state.stopped = false

theorem olderActor_step (b : StreamActor) (x : StreamInput) : OlderActor b (b.step x) := by
  refine ⟨fun m hm => hm, fun h => ?_⟩
  by_contra hb
  have hstop := FileStreamConnection.step_stopped (S := b.setup) (x := x) (by simpa using hb)
  change (b.state.step b.setup x).stopped = false at h
  rw [h] at hstop
  cases hstop

theorem streamStep_older {i j : Int} {x : StreamInput} {a : StreamActor}
    (h : (s.streamStep i x).streams j = some a) : ∃ b, s.streams j = some b ∧ OlderActor b a := by
  obtain ⟨b, hb, rfl | ⟨-, rfl⟩⟩ := streamStep_streams h
  · exact ⟨a, hb, fun _ h => h, fun h => h⟩
  · exact ⟨b, hb, olderActor_step b x⟩

theorem modify_streamStep_older {i j : Int} {f : StreamActor → StreamActor} {x : StreamInput}
    {a : StreamActor} (h : ((s.modify i f).streamStep i x).streams j = some a)
    (hf : ∀ b, s.streams i = some b → OlderActor b (f b)) :
    ∃ b, s.streams j = some b ∧ OlderActor b a := by
  obtain ⟨b, hb, hold⟩ := streamStep_older h
  obtain ⟨c, hc, rfl | ⟨rfl, rfl⟩⟩ := modify_streams hb
  · exact ⟨b, hc, hold⟩
  · have hcb := hf c hc
    exact ⟨c, hc, fun m hm => hcb.inbox m (hold.inbox m hm), fun hr => hcb.running (hold.running hr)⟩

/-- Outside the client no message enters an inbox and no stream comes back to life. -/
theorem environment_streams {e : Event} {j : Int} {a : StreamActor}
    (h : (s.environment e).streams j = some a) :
    a.inbox = [] ∨ ∃ b, s.streams j = some b ∧ OlderActor b a := by
  have hsame : s.streams j = some a → a.inbox = [] ∨ ∃ b, s.streams j = some b ∧ OlderActor b a :=
    fun h => Or.inr ⟨a, h, fun _ h => h, fun h => h⟩
  cases e with
  | create setup =>
      dsimp only [environment] at h
      cases hs : s.streams setup.streamId with
      | some b =>
          rw [hs] at h
          exact hsame h
      | none =>
          rw [hs] at h
          change Function.update s.streams setup.streamId (some _) j = some a at h
          by_cases hj : j = setup.streamId
          · subst hj
            rw [Function.update_self] at h
            cases h
            exact Or.inl rfl
          · rw [Function.update_of_ne hj] at h
            exact hsame h
  | connect i now =>
      dsimp only [environment] at h
      split_ifs at h
      · exact hsame h
      · obtain ⟨b, hb, rfl | ⟨-, rfl⟩⟩ := modify_streams h
        · exact hsame hb
        · exact Or.inr ⟨b, hb, fun _ h => h, fun h => h⟩
  | refuse i error io =>
      dsimp only [environment] at h
      split_ifs at h
      · exact hsame h
      · exact Or.inr (streamStep_older h)
  | greet i io =>
      dsimp only [environment, takeGreeting] at h
      cases hi : s.streams i with
      | none =>
          rw [hi] at h
          exact hsame h
      | some b =>
          rw [hi] at h
          dsimp only at h
          split_ifs at h
          · exact Or.inr (modify_streamStep_older h fun _ _ => ⟨fun _ h => h, fun h => h⟩)
          · exact hsame h
  | mail i io =>
      dsimp only [environment, takeMail] at h
      cases hi : s.streams i with
      | none =>
          rw [hi] at h
          exact hsame h
      | some b =>
          rw [hi] at h
          dsimp only at h
          cases hbox : b.inbox with
          | nil =>
              rw [hbox] at h
              exact hsame h
          | cons mail rest =>
              rw [hbox] at h
              refine Or.inr (modify_streamStep_older h fun c hc => ⟨fun m hm => ?_, fun h => h⟩)
              obtain rfl := Option.some.inj (hi.symm.trans hc)
              rw [hbox]
              exact List.mem_cons_of_mem _ hm
  | stream i event io =>
      dsimp only [environment] at h
      split_ifs at h
      · exact Or.inr (streamStep_older h)
      · exact hsame h
  | removal r now =>
      dsimp only [environment] at h
      split_ifs at h
      · exact hsame h
      · exact hsame h
      · exact hsame h
  | external event now => exact hsame h
  | report now => exact hsame h
  | process => exact hsame h
  | produce event =>
      dsimp only [environment] at h
      split_ifs at h
      · exact hsame h
      · exact hsame h

/-- The inbox of a running stream after a step of the client. -/
theorem clientStep_streams {x : Client.Input} {origin : Option TdMessage} {j : Int} {a : StreamActor}
    (h : (s.clientStep S x origin).streams j = some a) :
    ∃ b, s.streams j = some b ∧ (a.state.stopped = false → b.state.stopped = false) ∧
      ∀ m ∈ a.inbox, m ∈ b.inbox ∨
        (.stream j m.event ∈ (s.client.step S x).out ∧ m.origin = origin) := by
  obtain ⟨b, hb, rfl⟩ := Option.map_eq_some_iff.1 h
  refine ⟨b, hb, fun hr => ?_, fun m hm => ?_⟩
  · unfold StreamActor.receive at hr
    split_ifs at hr with hs
    · exact hr
    · simpa using hs
  · unfold StreamActor.receive at hm
    split_ifs at hm
    · exact Or.inl hm
    · exact (List.mem_append.1 hm).imp_right mem_mails.1

end StreamSystem

end TelegramBotApi
