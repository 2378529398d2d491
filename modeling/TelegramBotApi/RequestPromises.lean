import TelegramBotApi.RequestSteps

/-!
# Queries that are destroyed without a promise

`PromiseDeleter` answers a query only if it has a promise, and the response event is sent with the answer. A
counted query that is destroyed without one stays in the counters, which do not become wrong in any other way by it:
no operation below changes what the actors are to count.
-/

namespace TelegramBotApi

namespace RequestStats

variable {s t : RequestStats} {c i : Nat} {client : StatClient} {held : SentQuery}

/-- A query that some client has admitted, and that is not answered when it is destroyed. -/
def IsUnpromised (held : SentQuery) : Prop := held.hasPromise = false ∧ held.query.statActor.isSome = true

/-- The step destroys an unanswered query that was counted and has no promise. -/
def Forgets (s : RequestStats) : StatAction → Prop
  | .resume i _ => ∃ held, s.find i false = some held ∧ IsUnpromised held ∧
      ∀ client, s.clients.lookup held.client = some client → client.isRunning = false
  | .destroy i _ => ∃ held, s.queries[i]? = some held ∧ held.isUnanswered = true ∧ IsUnpromised held
  | .stop c _ => ∃ held ∈ s.queries, held.isUnanswered = true ∧ held.isHeld = true ∧ held.client = c ∧
      IsUnpromised held
  | _ => False

/-- The counters have no destroyed query. -/
def Complete (s : RequestStats) : Prop := ∀ held ∈ s.queries, held.isForgotten = false

theorem complete_congr (h : t.queries = s.queries) : t.Complete ↔ s.Complete := by
  unfold Complete
  rw [h]

theorem complete_set {held' : SentQuery} (hget : s.queries[i]? = some held) (hcounted : held.isForgotten = false)
    (h : t.queries = s.queries.set i held') : t.Complete ↔ s.Complete ∧ held'.isForgotten = false := by
  unfold Complete
  rw [h]
  obtain ⟨hlt, -⟩ := List.getElem?_eq_some_iff.1 hget
  constructor
  · intro hall
    refine ⟨fun other hother => ?_, hall held' (List.mem_set hlt held')⟩
    obtain ⟨j, hj⟩ := List.getElem?_of_mem hother
    by_cases hji : i = j
    · rw [← hji, hget] at hj
      cases hj
      exact hcounted
    · exact hall other (List.mem_of_getElem? ((List.getElem?_set_ne hji).trans hj))
  · rintro ⟨hall, hlast⟩ other hother
    rcases List.mem_or_eq_of_mem_set hother with hother | rfl
    · exact hall other hother
    · exact hlast

theorem complete_append (hcounted : held.isForgotten = false) (h : t.queries = s.queries ++ [held]) :
    t.Complete ↔ s.Complete := by
  unfold Complete
  rw [h]
  constructor
  · exact fun hall other hother => hall other (List.mem_append_left _ hother)
  · intro hall other hother
    rcases List.mem_append.1 hother with hother | hother
    · exact hall other hother
    · rw [List.mem_singleton.1 hother]
      exact hcounted

theorem queries_addRootEvent (s : RequestStats) (event : StatEvent) : (s.addRootEvent event).queries = s.queries := by
  unfold addRootEvent
  split <;> rfl

theorem queries_foldl_addRootEvent (events : List StatEvent) (s : RequestStats) :
    (events.foldl addRootEvent s).queries = s.queries := by
  induction events generalizing s with
  | nil => rfl
  | cons event events ih => rw [List.foldl_cons, ih, queries_addRootEvent]

theorem queries_addEvent (s : RequestStats) (c : Nat) (event : StatEvent) :
    (s.addEvent c event).queries = s.queries := by
  unfold RequestStats.addEvent
  split
  · rfl
  · split
    · rfl
    · dsimp only
      split
      · exact queries_addRootEvent _ event
      · rfl

theorem queries_flush (s : RequestStats) (c : Nat) : (s.flush c).queries = s.queries := by
  unfold RequestStats.flush
  split
  · rfl
  · split
    · rfl
    · exact queries_foldl_addRootEvent _ _

theorem queries_flushRoot (s : RequestStats) : s.flushRoot.queries = s.queries := by
  unfold RequestStats.flushRoot
  split <;> rfl

theorem queries_hangupShared (s : RequestStats) (c : Nat) : (s.hangupShared c).queries = s.queries := by
  unfold RequestStats.hangupShared
  split
  · split <;> rfl
  · rfl

theorem complete_setAnswer (hget : s.queries[i]? = some held) (hunanswered : held.isUnanswered = true)
    {state : QueryState} (hstate : state ≠ .query) (size : Nat) : (s.setAnswer i state size).Complete ↔ s.Complete := by
  have hqueries : (s.setAnswer i state size).queries = s.queries.set i (held.answered state) := by
    unfold RequestStats.setAnswer
    rw [hget]
    dsimp only
    rw [if_neg (by rw [SentQuery.isReady_of_unanswered hunanswered]; exact Bool.false_ne_true)]
    split
    · rfl
    · exact queries_addEvent _ _ _
  rw [complete_set hget (SentQuery.isForgotten_of_unanswered hunanswered) hqueries]
  exact and_iff_left (SentQuery.isForgotten_of_ready (isReady_answered held hstate))

theorem complete_setHeld (hget : s.queries[i]? = some held) (hunanswered : held.isUnanswered = true) (isHeld : Bool) :
    (s.setHeld i isHeld).Complete ↔ s.Complete := by
  have hqueries : (s.setHeld i isHeld).queries = s.queries.set i { held with isHeld := isHeld } := by
    unfold RequestStats.setHeld
    rw [hget]
  rw [complete_set hget (SentQuery.isForgotten_of_unanswered hunanswered) hqueries]
  exact and_iff_left (SentQuery.isForgotten_of_unanswered hunanswered)

theorem Sound.complete_destroyQuery (h : s.Sound) (hget : s.queries[i]? = some held)
    (hunanswered : held.isUnanswered = true) (size : Nat) :
    (s.destroyQuery i size).Complete ↔ s.Complete ∧ ¬ IsUnpromised held := by
  obtain ⟨held', -, hqueries, hforgotten⟩ := (h.destroyQuery hget hunanswered size).queries
  rw [complete_set hget (SentQuery.isForgotten_of_unanswered hunanswered) hqueries, hforgotten]
  unfold IsUnpromised
  rw [← Bool.not_eq_true, Bool.and_eq_true, Bool.not_eq_true']

theorem complete_send (s : RequestStats) (c : Nat) (query : CountedQuery) (hasPromise : Bool) (check : FloodCheck) :
    (s.send c query hasPromise check).Complete ↔ s.Complete := by
  have hnew (q : CountedQuery) (isHeld : Bool) : (SentQuery.mk q c isHeld hasPromise false).isForgotten = false := by
    unfold SentQuery.isForgotten
    rw [Bool.and_false]
    rfl
  unfold RequestStats.send
  by_cases hinternal : query.isInternal = true
  · rw [if_pos hinternal]
    exact complete_append (hnew _ _) rfl
  · rw [if_neg hinternal]
    have hadded := queries_addEvent s c { query with statActor := some c }.requestStat
    dsimp only
    split
    · exact complete_congr hadded
    · split
      · exact (complete_append (s := s.addEvent c { query with statActor := some c }.requestStat) (hnew _ _) rfl).trans
          (complete_congr hadded)
      · exact (complete_append (s := s.addEvent c { query with statActor := some c }.requestStat) (hnew _ _) rfl).trans
          (complete_congr hadded)

theorem destroyQuery_of_over (h : ∀ held, s.queries[i]? = some held → held.isUnanswered = false) (size : Nat) :
    s.destroyQuery i size = s := by
  unfold RequestStats.destroyQuery
  cases hget : s.queries[i]? with
  | none => rfl
  | some held => exact if_neg (by rw [h held hget]; exact Bool.false_ne_true)

theorem queries_destroyHeld (h : s.Sound) (c size i : Nat) {j : Nat} (hj : j ≠ i) :
    (destroyHeld c size s i).queries[j]? = s.queries[j]? := by
  unfold destroyHeld
  cases hfind : s.find i true with
  | none => rfl
  | some held =>
      dsimp only
      split
      · obtain ⟨held', -, hqueries, -⟩ :=
          (h.destroyQuery (find_eq_some hfind).1 (isUnanswered_of_find hfind) size).queries
        rw [hqueries, List.getElem?_set_ne hj.symm]
      · rfl

theorem Sound.destroyHeld (h : s.Sound) (c size i : Nat) :
    (destroyHeld c size s i).Sound ∧ ((destroyHeld c size s i).Complete ↔
      s.Complete ∧ ∀ held, s.find i true = some held → held.client = c → ¬ IsUnpromised held) := by
  unfold RequestStats.destroyHeld
  cases hfind : s.find i true with
  | none => exact ⟨h, (and_iff_left nofun).symm⟩
  | some held =>
      obtain ⟨hget, -, -⟩ := find_eq_some hfind
      have hunanswered := isUnanswered_of_find hfind
      simp only [Option.some.injEq, forall_eq']
      split_ifs with hclient
      · exact ⟨(h.destroyQuery hget hunanswered size).sound, (h.complete_destroyQuery hget hunanswered size).trans
          (and_congr_right fun _ => (forall_prop_of_true (q := fun _ => ¬ IsUnpromised held) hclient).symm)⟩
      · exact ⟨h, (and_iff_left fun heq => absurd heq hclient).symm⟩

theorem Sound.complete_foldl_destroyHeld (h : s.Sound) (c size : Nat) {is : List Nat} (his : is.Nodup) :
    (is.foldl (RequestStats.destroyHeld c size) s).Complete ↔
      s.Complete ∧ ∀ i ∈ is, ∀ held, s.find i true = some held → held.client = c → ¬ IsUnpromised held := by
  induction is generalizing s with
  | nil => exact (and_iff_left nofun).symm
  | cons i is ih =>
      obtain ⟨hfirst, hrest⟩ := List.nodup_cons.1 his
      obtain ⟨hsound, hcomplete⟩ := h.destroyHeld c size i
      have hfind (j : Nat) (hj : j ∈ is) : (RequestStats.destroyHeld c size s i).find j true = s.find j true := by
        unfold find
        rw [queries_destroyHeld h c size i fun heq => hfirst (heq ▸ hj)]
      rw [List.foldl_cons, ih hsound hrest, hcomplete, List.forall_mem_cons, and_assoc]
      refine and_congr_right fun _ => and_congr_right fun _ => forall₂_congr fun j hj => ?_
      rw [hfind j hj]

theorem Sound.complete_stop (h : s.Sound) (c size : Nat) :
    (s.stop c size).Complete ↔ s.Complete ∧ ¬ s.Forgets (.stop c size) := by
  have hqueries : (s.stop c size).queries = (s.destroyQueries c size).queries := by
    unfold RequestStats.stop
    dsimp only
    split <;> rfl
  rw [complete_congr hqueries]
  refine (h.complete_foldl_destroyHeld c size List.nodup_range).trans (and_congr_right fun _ => ?_)
  constructor
  · rintro hall ⟨held, hheld, hunanswered, hholds, hclient, hunpromised⟩
    obtain ⟨i, hget⟩ := List.getElem?_of_mem hheld
    have hfind := find_of_unanswered hget hunanswered
    rw [hholds] at hfind
    exact hall i (List.mem_range.2 (List.getElem?_eq_some_iff.1 hget).1) held hfind hclient hunpromised
  · intro hnone i _ held hfind hclient hunpromised
    obtain ⟨hget, -, hholds⟩ := find_eq_some hfind
    exact hnone ⟨held, List.mem_of_getElem? hget, isUnanswered_of_find hfind, hholds, hclient, hunpromised⟩

theorem Sound.complete_resume (h : s.Sound) (i size : Nat) :
    (s.act (.resume i size)).Complete ↔ s.Complete ∧ ¬ s.Forgets (.resume i size) := by
  unfold Forgets
  cases hfind : s.find i false with
  | none =>
      simp only [RequestStats.act, hfind]
      exact (and_iff_left nofun).symm
  | some held =>
      obtain ⟨hget, -, -⟩ := find_eq_some hfind
      have hunanswered := isUnanswered_of_find hfind
      have hdestroyed := h.complete_destroyQuery hget hunanswered size
      simp only [RequestStats.act, hfind, Option.some.injEq, exists_eq_left']
      cases hclient : s.clients.lookup held.client with
      | none =>
          refine hdestroyed.trans (and_congr_right fun _ => not_congr (and_iff_left ?_).symm)
          exact fun client hsome => nomatch hsome
      | some client =>
          simp only [Option.some.injEq, forall_eq']
          by_cases hruns : client.isRunning = true
          · rw [if_pos hruns, complete_setHeld hget hunanswered]
            exact (and_iff_left fun hforgets => absurd (hforgets.2.symm.trans hruns) nofun).symm
          · rw [if_neg hruns]
            exact hdestroyed.trans (and_congr_right fun _ =>
              not_congr (and_iff_left (Bool.eq_false_of_not_eq_true hruns)).symm)

theorem Sound.complete_destroy (h : s.Sound) (i size : Nat) :
    (s.destroyQuery i size).Complete ↔ s.Complete ∧ ¬ s.Forgets (.destroy i size) := by
  by_cases hover : ∀ held, s.queries[i]? = some held → held.isUnanswered = false
  · rw [destroyQuery_of_over hover]
    refine (and_iff_left ?_).symm
    rintro ⟨held, hget, hunanswered, -⟩
    exact absurd ((hover held hget).symm.trans hunanswered) nofun
  push Not at hover
  obtain ⟨held, hget, hne⟩ := hover
  have hunanswered : held.isUnanswered = true := Bool.eq_true_of_not_eq_false hne
  refine (h.complete_destroyQuery hget hunanswered size).trans (and_congr_right fun _ => not_congr ?_)
  unfold Forgets
  simp only [hget, Option.some.injEq, exists_eq_left', hunanswered, true_and]

theorem Sound.complete_act (h : s.Sound) (a : StatAction) :
    (s.act a).Complete ↔ s.Complete ∧ ¬ s.Forgets a := by
  have hkept {t : RequestStats} (ht : t.Complete ↔ s.Complete) : t.Complete ↔ s.Complete ∧ ¬ False :=
    ht.trans (and_iff_left id).symm
  have hanswer {i : Nat} {held : SentQuery} (hfind : s.find i true = some held) {state : QueryState}
      (hstate : state ≠ .query) (size : Nat) : (s.setAnswer i state size).Complete ↔ s.Complete ∧ ¬ False :=
    hkept (complete_setAnswer (find_eq_some hfind).1 (isUnanswered_of_find hfind) hstate size)
  cases a with
  | create => exact hkept (complete_congr rfl)
  | send c container files isInternal hasPromise check =>
      simp only [RequestStats.act]
      split
      · split
        · exact hkept (complete_send s c _ hasPromise check)
        · exact hkept Iff.rfl
      · exact hkept Iff.rfl
  | update c => exact hkept (complete_congr (queries_addEvent s c .update))
  | answer i ok size =>
      simp only [RequestStats.act]
      cases hfind : s.find i true with
      | none => exact hkept Iff.rfl
      | some held =>
          dsimp only
          split
          · exact hanswer hfind (by decide : QueryState.ok ≠ .query) size
          · exact hanswer hfind (by decide : QueryState.error ≠ .query) size
  | conflict i now size =>
      simp only [RequestStats.act]
      cases hfind : s.find i true with
      | none => exact hkept Iff.rfl
      | some held =>
          obtain ⟨hget, -, -⟩ := find_eq_some hfind
          dsimp only
          split
          · rename_i client _
            unfold RequestStats.failQueryConflict
            split
            · exact hkept (complete_setAnswer (s := { s with
                clients := s.clients.insert held.client { client with nextGetUpdatesConflictTime := now + 3 } })
                hget (isUnanswered_of_find hfind) (by decide : QueryState.error ≠ .query) size)
            · exact hkept (complete_setHeld hget (isUnanswered_of_find hfind) false)
          · exact hkept Iff.rfl
  | closing i retryAfter size =>
      simp only [RequestStats.act]
      cases hfind : s.find i true with
      | none => exact hkept Iff.rfl
      | some held =>
          have herror := hanswer hfind (by decide : QueryState.error ≠ .query) size
          unfold failQueryClosing
          dsimp only
          split
          · exact herror
          · exact herror
  | detach i =>
      simp only [RequestStats.act]
      cases hfind : s.find i true with
      | none => exact hkept Iff.rfl
      | some held => exact hkept (complete_setHeld (find_eq_some hfind).1 (isUnanswered_of_find hfind) false)
  | resume i size => exact h.complete_resume i size
  | wake i size =>
      simp only [RequestStats.act]
      cases hfind : s.find i false with
      | none => exact hkept Iff.rfl
      | some held =>
          exact hkept (complete_setAnswer (find_eq_some hfind).1 (isUnanswered_of_find hfind)
            (by decide : QueryState.error ≠ .query) size)
  | destroy i size => exact h.complete_destroy i size
  | stop c size => exact h.complete_stop c size
  | hangupShared c => exact hkept (complete_congr (queries_hangupShared s c))
  | flush c => exact hkept (complete_congr (queries_flush s c))
  | flushRoot => exact hkept (complete_congr (queries_flushRoot s))

theorem Sound.complete_step (h : s.Sound) (a : StatAction) :
    (s.step a).Complete ↔ s.Complete ∧ ¬ s.Forgets a := by
  have heq : s.step a = s.act a := if_neg (by rw [h.crashed]; exact Bool.false_ne_true)
  rw [heq]
  exact h.complete_act a

end RequestStats

end TelegramBotApi
