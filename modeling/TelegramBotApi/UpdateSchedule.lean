import TelegramBotApi.UpdateStore

/-!
# The schedule of the garbage collections

`queue_gc_at_` is an ordered set of times and queues. It has one entry for every queue whose `gc_at` is
not zero, so that neither `CHECK` of `schedule_queue_gc` fails.
-/

namespace TelegramBotApi

/-- The entries are those of the queues, in their order. -/
structure Schedules (entries : List (Int32 × Int64)) (gcAt : Int64 → Int32) : Prop where
  sorted : entries.Pairwise gcBefore
  mem_iff : ∀ entry, entry ∈ entries ↔ entry.1 ≠ 0 ∧ gcAt entry.2 = entry.1

section

variable {entries : List (Int32 × Int64)} {gcAt : Int64 → Int32} {a b c : Int32 × Int64}

theorem gcBefore_trans (hab : gcBefore a b) (hbc : gcBefore b c) : gcBefore a c := by
  unfold gcBefore at *
  rcases hab with hab | ⟨hab, hab'⟩ <;> rcases hbc with hbc | ⟨hbc, hbc'⟩
  · exact Or.inl (Int.lt_trans hab hbc)
  · exact Or.inl (hbc ▸ hab)
  · exact Or.inl (hab ▸ hbc)
  · exact Or.inr ⟨hab.trans hbc, Int.lt_trans hab' hbc'⟩

theorem gcBefore_irrefl (a : Int32 × Int64) : ¬ gcBefore a a := by
  rintro (h | ⟨-, h⟩)
  · exact Int.lt_irrefl _ h
  · exact Int.lt_irrefl _ h

theorem gcBefore_of_not (hab : ¬ gcBefore a b) (hne : a ≠ b) : gcBefore b a := by
  unfold gcBefore at *
  rw [not_or, not_and] at hab
  obtain ⟨htime, hqueue⟩ := hab
  rcases Int.lt_trichotomy b.1.toInt a.1.toInt with hlt | heq | hlt
  · exact Or.inl hlt
  · have heq := Int32.toInt.inj heq
    refine Or.inr ⟨heq, ?_⟩
    rcases Int.lt_trichotomy b.2.toInt a.2.toInt with hlt | heq' | hlt
    · exact hlt
    · exact absurd (Prod.ext heq.symm (Int64.toInt.inj heq').symm) hne
    · exact absurd hlt (hqueue heq.symm)
  · exact absurd hlt htime

theorem sorted_insert (hsorted : entries.Pairwise gcBefore) (hnew : a ∉ entries) :
    (entries.orderedInsert gcBefore a).Pairwise gcBefore := by
  induction entries with
  | nil => exact List.pairwise_singleton _ _
  | cons e entries ih =>
      obtain ⟨hhead, hrest⟩ := List.pairwise_cons.1 hsorted
      rw [List.mem_cons, not_or] at hnew
      rw [List.orderedInsert_cons]
      split_ifs with hbefore
      · refine List.pairwise_cons.2 ⟨fun e' he' => ?_, hsorted⟩
        rcases List.mem_cons.1 he' with rfl | he'
        · exact hbefore
        · exact gcBefore_trans hbefore (hhead e' he')
      · refine List.pairwise_cons.2 ⟨fun e' he' => ?_, ih hrest hnew.2⟩
        rcases (List.mem_orderedInsert gcBefore).1 he' with rfl | he'
        · exact gcBefore_of_not hbefore hnew.1
        · exact hhead e' he'

theorem schedules_nil : Schedules [] (fun _ => 0) :=
  ⟨List.Pairwise.nil, fun _ => ⟨fun h => absurd h List.not_mem_nil, fun h => absurd h.2.symm h.1⟩⟩

theorem Schedules.nodup (h : Schedules entries gcAt) : entries.Nodup := by
  refine h.sorted.imp ?_
  rintro a b hab rfl
  exact gcBefore_irrefl a hab

/-- The old entry of a queue is taken out. -/
theorem Schedules.erase (h : Schedules entries gcAt) (queueId : Int64) :
    Schedules (entries.erase (gcAt queueId, queueId)) (Function.update gcAt queueId 0) := by
  refine ⟨h.sorted.sublist List.erase_sublist, fun entry => ?_⟩
  rw [h.nodup.mem_erase_iff, h.mem_iff]
  by_cases hqueue : entry.2 = queueId
  · rw [hqueue, Function.update_self]
    constructor
    · rintro ⟨hne, -, heq⟩
      exact absurd (Prod.ext heq.symm hqueue) hne
    · rintro ⟨hne, heq⟩
      exact absurd heq.symm hne
  · rw [Function.update_of_ne hqueue, and_iff_right]
    rintro rfl
    exact hqueue rfl

theorem Schedules.insert (h : Schedules entries gcAt) {queueId : Int64} (hnone : gcAt queueId = 0)
    {time : Int32} (htime : time ≠ 0) :
    (time, queueId) ∉ entries ∧
      Schedules (entries.orderedInsert gcBefore (time, queueId)) (Function.update gcAt queueId time) := by
  have hnew : (time, queueId) ∉ entries := by
    intro hmem
    exact htime (((h.mem_iff _).1 hmem).2.symm.trans hnone)
  refine ⟨hnew, sorted_insert h.sorted hnew, fun entry => ?_⟩
  rw [List.mem_orderedInsert, h.mem_iff]
  by_cases hqueue : entry.2 = queueId
  · rw [hqueue, Function.update_self, hnone]
    constructor
    · rintro (rfl | ⟨hne, heq⟩)
      · exact ⟨htime, rfl⟩
      · exact absurd heq.symm hne
    · rintro ⟨-, heq⟩
      exact Or.inl (Prod.ext heq.symm hqueue)
  · rw [Function.update_of_ne hqueue, or_iff_right]
    rintro rfl
    exact hqueue rfl

namespace UpdateStore

variable {s : UpdateStore} {queueId : Int64} {q : StoredQueue} {time : Int32}

@[simp] theorem check_queues (s : UpdateStore) (condition : Bool) : (s.check condition).queues = s.queues := rfl

@[simp] theorem check_queueGcAt (s : UpdateStore) (condition : Bool) :
    (s.check condition).queueGcAt = s.queueGcAt := rfl

@[simp] theorem check_callback (s : UpdateStore) (condition : Bool) :
    (s.check condition).callback = s.callback := rfl

theorem check_of_pos {condition : Bool} (h : condition = true) : s.check condition = s := by
  unfold check
  rw [h, Bool.not_true, Bool.or_false]

/-- Another time is scheduled for the queue. -/
theorem scheduleQueueGc_spec (hs : Schedules s.queueGcAt gcAt) (hq : gcAt queueId = q.gcAt) (time : Int32) :
    ∃ entries, s.scheduleQueueGc queueId q time = ({ s with queueGcAt := entries }, { q with gcAt := time }) ∧
      Schedules entries (Function.update gcAt queueId time) := by
  have herased : ∃ entries, (if q.gcAt ≠ 0 then
        { s.check (decide ((q.gcAt, queueId) ∈ s.queueGcAt)) with
          queueGcAt := s.queueGcAt.erase (q.gcAt, queueId) }
      else s) = { s with queueGcAt := entries } ∧ Schedules entries (Function.update gcAt queueId 0) := by
    split_ifs with hzero
    · refine ⟨s.queueGcAt.erase (q.gcAt, queueId), ?_, hq ▸ hs.erase queueId⟩
      rw [check_of_pos (decide_eq_true ((hs.mem_iff _).2 ⟨hzero, hq⟩))]
    · refine ⟨s.queueGcAt, rfl, ?_⟩
      rw [not_not] at hzero
      rw [← hzero, ← hq, Function.update_eq_self]
      exact hs
  obtain ⟨entries, herase, hentries⟩ := herased
  unfold scheduleQueueGc
  rw [herase]
  by_cases htime : time = 0
  · refine ⟨entries, ?_, htime ▸ hentries⟩
    simp only [htime, ne_eq, not_true_eq_false, if_false]
  · obtain ⟨hnew, hinsert⟩ := hentries.insert (Function.update_self _ _ _) htime
    rw [Function.update_idem] at hinsert
    refine ⟨_, ?_, hinsert⟩
    dsimp only
    rw [if_pos htime, check_of_pos (decide_eq_true hnew)]

end UpdateStore

end

end TelegramBotApi
