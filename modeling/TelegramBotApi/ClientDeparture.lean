import TelegramBotApi.ClientRegistry

/-!
# Streams that have left

`Gone` says that a stream is in none of the tables of a client. A stream that leaves under the file
it listens to is gone; a stream that is gone stays gone until it is started again.
-/

namespace TelegramBotApi

namespace Client

open ClientAction (Plain)

variable {S : ClientSetup} {now : Int} {s t : Client} {P : ClientAction → Prop}

structure Gone (id : Int) (s : Client) : Prop where
  active : id ∉ s.activeFileStreams
  pending : ∀ p ∈ s.pendingFileStreams, p.streamId ≠ id
  listeners : ∀ f, id ∉ s.fileStreamListeners.get f

section Departure

variable {id : Int}

theorem Gone.frame (hs : Gone id s) (hf : Frame P s t) : Gone id t :=
  ⟨hf.active ▸ hs.active, hf.pending ▸ hs.pending, hf.listeners ▸ hs.listeners⟩

theorem Gone.detached (hs : Gone id s) (streamId : Int) : Gone id (s.detached streamId) :=
  ⟨fun h => hs.active (List.mem_of_mem_filter h),
    fun p h => hs.pending p (List.mem_of_mem_filter h), hs.listeners⟩

theorem mem_unlisted {streamId fileId f : Int} :
    id ∈ (s.unlisted streamId fileId).fileStreamListeners.get f ↔
      id ∈ s.fileStreamListeners.get f ∧ (f = fileId → id ≠ streamId) := by
  change id ∈ (s.fileStreamListeners.set fileId (s.remaining streamId fileId)).get f ↔ _
  rw [Multimap.get_set]
  split_ifs with h
  · subst h
    simp [remaining]
  · simp [h]

theorem removeFileStream_frame (now : Int) (s : Client) (streamId fileId : Int) (flag : Bool) :
    Frame (fun _ => True) (if fileId = 0 then s.detached streamId else
      (s.detached streamId).unlisted streamId fileId)
      (s.removeFileStream now streamId fileId flag) ∨
    (s.fileStreamListeners.get fileId = [] ∧
      s.removeFileStream now streamId fileId flag = s.detached streamId) := by
  rw [removeFileStream_eq]
  by_cases hzero : fileId = 0
  · rw [if_pos hzero, if_pos (Or.inl hzero)]
    exact Or.inl (Frame.refl _)
  rw [if_neg hzero]
  by_cases hempty : s.fileStreamListeners.get fileId = []
  · rw [if_pos (Or.inr hempty)]
    exact Or.inr ⟨hempty, rfl⟩
  · rw [if_neg (not_or.2 ⟨hzero, hempty⟩)]
    exact Or.inl ((removeListener_frame now (s.detached streamId) streamId fileId flag).imp
      fun _ _ => trivial)

theorem Gone.leave (hs : Gone id s) (streamId fileId : Int) (flag : Bool) :
    Gone id (s.removeFileStream now streamId fileId flag) := by
  have hd := hs.detached streamId
  rcases removeFileStream_frame now s streamId fileId flag with hf | ⟨-, he⟩
  · refine Gone.frame ?_ hf
    split_ifs
    · exact hd
    · exact ⟨hd.active, hd.pending, fun f h => hd.listeners f (mem_unlisted.1 h).1⟩
  · rw [he]
    exact hd

/-- A stream that leaves is gone if and only if it listened to no other file than the one it names. -/
theorem gone_removeFileStream (now : Int) (s : Client) (streamId fileId : Int) (flag : Bool) :
    Gone streamId (s.removeFileStream now streamId fileId flag) ↔
      ∀ f, streamId ∈ s.fileStreamListeners.get f → fileId ≠ 0 ∧ f = fileId := by
  have hd : ∀ t : Client, t.activeFileStreams = (s.detached streamId).activeFileStreams →
      t.pendingFileStreams = (s.detached streamId).pendingFileStreams →
      (∀ f, streamId ∉ t.fileStreamListeners.get f) → Gone streamId t := by
    intro t ha hp hl
    refine ⟨fun h => ?_, fun p h => ?_, hl⟩
    · rw [ha] at h
      simpa using (List.mem_filter.1 h).2
    · rw [hp] at h
      simpa using (List.mem_filter.1 h).2
  rcases removeFileStream_frame now s streamId fileId flag with hf | ⟨hempty, he⟩
  · have hl := hf.listeners
    have ha := hf.active
    have hp := hf.pending
    split_ifs at hl ha hp with hzero
    · constructor
      · intro h f hmem
        exact absurd (hl ▸ hmem : streamId ∈ _) (h.listeners f)
      · intro h
        refine hd _ ha hp fun f hmem => ?_
        rw [hl] at hmem
        exact (h f hmem).1 hzero
    · constructor
      · intro h f hmem
        refine ⟨hzero, ?_⟩
        by_contra hne
        refine h.listeners f ?_
        rw [hl]
        exact mem_unlisted.2 ⟨hmem, fun he => absurd he hne⟩
      · intro h
        refine hd _ ha hp fun f hmem => ?_
        rw [hl] at hmem
        obtain ⟨hmem, hne⟩ := mem_unlisted.1 hmem
        exact hne (h f hmem).2 rfl
  · rw [he]
    constructor
    · exact fun h f hmem => absurd hmem (h.listeners f)
    · intro h
      refine hd _ rfl rfl fun f hmem => ?_
      have hmem : streamId ∈ s.fileStreamListeners.get f := hmem
      rw [(h f hmem).2, hempty] at hmem
      cases hmem

/-- Nobody listens to a file after the last stream has left it. -/
theorem unheard_of_lastToLeave {streamId fileId : Int} (flag : Bool)
    (hne : ¬ (fileId = 0 ∨ s.fileStreamListeners.get fileId = []))
    (hlast : LastToLeave streamId fileId s) :
    (s.removeFileStream now streamId fileId flag).fileStreamListeners.get fileId = [] := by
  rcases removeFileStream_frame now s streamId fileId flag with hf | ⟨hempty, -⟩
  · have hl := hf.listeners
    rw [if_neg (not_or.1 hne).1] at hl
    rw [hl]
    change (s.fileStreamListeners.set fileId _).get fileId = []
    rw [Multimap.get_set, if_pos rfl]
    exact hlast.1
  · exact absurd (Or.inr hempty) hne

/-- A stream that is gone comes back only by being started again. -/
theorem Gone.outcome {e : Event} (hs : Gone id s) (hk : WellKept s) (hstart : id ∉ startsOf e)
    (h : StepOutcome S now s e t) : Gone id t := by
  cases h with
  | frame h => exact hs.frame h
  | start p =>
      have hne : p.streamId ≠ id := fun he => hstart (List.mem_singleton.2 he.symm)
      have hl := (startFileStream_opened now s p).listeners
      cases hauth : s.wasAuthorized with
      | true =>
          obtain ⟨ha, hp, -⟩ := startFileStream_of_authorized now hauth p
          refine ⟨fun h => ?_, hp ▸ hs.pending, hl ▸ hs.listeners⟩
          rw [ha] at h
          rcases List.mem_insert_iff.1 h with h | h
          · exact hne h.symm
          · exact hs.active h
      | false =>
          rw [startFileStream_of_unauthorized now hauth]
          refine ⟨fun h => ?_, fun q hq => ?_, hs.listeners⟩
          · rcases List.mem_insert_iff.1 h with h | h
            · exact hne h.symm
            · exact hs.active h
          · rcases List.mem_append.1 hq with hq | hq
            · exact hs.pending q hq
            · rw [List.mem_singleton.1 hq]
              exact hne
  | leave streamId fileId flag => exact hs.leave streamId fileId flag
  | join n streamId expectedSize file hn ha hsize =>
      have hf := joinFileStream_frame now s streamId file
      have hl : Gone id (s.listed streamId file) := by
        refine ⟨hs.active, hs.pending, fun f h => ?_⟩
        rcases (Multimap.mem_get_push _ _).1 h with h | ⟨-, rfl⟩
        · exact hs.listeners f h
        · exact hs.active ha
      exact (hl.frame hf).frame (frame_erase (P := Plain) _ n)
  | update file ha => exact hs.frame (frame_onUpdateFile now file)
  | downloaded n fileId file started hn =>
      have hs₁ : Gone id { s with downloadStartedFileIds := started } :=
        ⟨hs.active, hs.pending, hs.listeners⟩
      exact (hs₁.frame (frame_onUpdateFile now file)).frame (frame_erase (P := Plain) _ n)
  | getFile n query file hn =>
      rcases doGetFile_frame (S := S) now s file query with hf | ⟨-, hf⟩
      · exact (hs.frame hf).frame (frame_erase (P := Plain) _ n)
      · have hs₁ : Gone id (s.awaited query file.id) := ⟨hs.active, hs.pending, hs.listeners⟩
        exact (hs₁.frame hf).frame (frame_erase (P := Plain) _ n)
  | authorize u hu hready hnew ht =>
      have hgu := hs.frame hu
      have hb := becomeAuthorized_frame (S := S) now ((hk.frame hu).unused hnew)
      have hd : Gone id (u.drainStreams now) := by
        refine ⟨fun h => ?_, fun p h => ?_, fun f => ?_⟩
        · rcases foldl_startFileStream_active now u.pendingFileStreams rfl h with h | ⟨p, hp, he⟩
          · exact hgu.active h
          · exact hgu.pending p hp he
        · rw [drainStreams_pending] at h
          cases h
        · rw [(drainStreams_opened now u).listeners]
          exact hgu.listeners f
      exact (hd.frame hb).frame ht
  | closed u hu ht =>
      have hc := (onClosed_cleared now u).frame ht
      refine ⟨by simp [hc.active], by simp [hc.pending], fun f => ?_⟩
      rw [hc.listeners, Multimap.get_empty]
      exact List.not_mem_nil

theorem Gone.step (hs : Gone id s) (hk : WellKept s) {x : Input} (hstart : id ∉ startsOf x.event) :
    Gone id (s.step S x) := by
  have hs₁ : Gone id { s with out := [] } := ⟨hs.active, hs.pending, hs.listeners⟩
  unfold Client.step
  simp only
  split_ifs
  · exact hs₁
  · have hs₂ : Gone id (s.begun x.event) := ⟨hs.active, hs.pending, hs.listeners⟩
    exact hs₂.outcome (hk.begun x.event) hstart (handle_outcome s x.event)

end Departure

end Client

end TelegramBotApi
