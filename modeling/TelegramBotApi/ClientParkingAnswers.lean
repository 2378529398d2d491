import TelegramBotApi.ClientParking
import TelegramBotApi.StepRun

/-!
# What a closed client still holds

`on_closed` goes through seven of the eight tables. It forgets the stories that wait for their report,
and an error that asks for another try leaves the queries of the two webhook members where they are. The
runs in which nothing stays behind are exactly those that close without such queries, or in which the
client is destroyed at once.
-/

namespace TelegramBotApi

namespace ClientParking

variable {s t : ClientParking} {x : ClientParkingInput} {query : BotQuery} {turn : ParkingTurn} {now : Int}

theorem foldl_failQueryClosing (s : ClientParking) (now : Int) (queries : List BotQuery) :
    queries.foldl (failQueryClosing · now ·) s =
      { s with answers := s.answers ++ queries.map fun query => (query, .closing (s.flags.closingAnswer now)) } := by
  induction queries generalizing s with
  | nil =>
      rw [List.foldl_nil, List.map_nil, List.append_nil]
  | cons query queries ih =>
      rw [List.foldl_cons, ih, List.map_cons, List.append_cons]
      rfl

def listed (s : ClientParking) : List BotQuery :=
  s.longPollQuery.toList ++ s.cmdQueue ++ s.pendingSendMessageQueries.map (·.2) ++
    s.pendingBotResolveQueries.map (·.2) ++ s.fileDownloadListeners.flatMap (·.2)

theorem parked_eq (s : ClientParking) :
    s.parked = heldQueries s.webhookSetQuery ++ heldQueries s.activeWebhookSetQuery ++ s.listed ++
      s.yetUnsentStories.map (·.2) := by
  unfold parked listed
  simp only [List.append_assoc]

def answered (s : ClientParking) : List BotQuery := s.answers.map (·.1)

theorem failTables_spec (s : ClientParking) (now : Int) :
    ∃ answers, answers.map (·.1) = s.answered ++ s.listed ∧
      s.failTables now = { s with
        longPollQuery := none
        cmdQueue := []
        pendingSendMessageQueries := []
        pendingBotResolveQueries := []
        fileDownloadListeners := []
        answers := answers } := by
  unfold failTables
  simp only [foldl_failQueryClosing, wakeLongPoll]
  refine ⟨_, ?_, rfl⟩
  simp [answered, listed, Function.comp_def]

def Fresh (held : Option HeldQuery) : Prop := ∀ h ∈ held, h.answer = none

theorem failMemberClosing_spec (s : ClientParking) {held : Option HeldQuery} (hfresh : Fresh held) (now : Int) :
    ∃ held' answers, s.failMemberClosing held now = (held', { s with answers := answers }) ∧
      answers.map (·.1) ++ heldQueries held' = s.answered ++ heldQueries held ∧
      heldQueries held' = if s.retries now then heldQueries held else [] := by
  unfold failMemberClosing
  cases held with
  | none => exact ⟨none, s.answers, rfl, rfl, by split_ifs <;> rfl⟩
  | some h =>
      have hnone : h.answer = none := hfresh h rfl
      dsimp only
      rw [hnone, if_neg (by exact Bool.false_ne_true)]
      cases hretries : s.retries now with
      | true => exact ⟨_, s.answers, rfl, rfl, rfl⟩
      | false =>
          refine ⟨none, _, rfl, ?_, rfl⟩
          simp [answered, heldQueries]

/-- The client after `on_closed`, up to its answers and the end. -/
structure ClosedFrom (s t : ClientParking) (now : Int) : Prop where
  tdClosed : t.tdClosed = true
  isClosing : t.isClosing = true
  conserved : (t.answered ++ t.parked).Perm (s.answered ++ s.parked)
  parked : t.parked = (if s.retries now then heldQueries s.webhookSetQuery ++ heldQueries s.activeWebhookSetQuery
    else []) ++ s.yetUnsentStories.map (·.2)
  stopped : t.stopped = s.stopped
  crashed : t.crashed = s.crashed
  loggingOut : t.loggingOut = s.loggingOut
  needClose : t.needClose = s.needClose

theorem onClosed_spec (hclosing : s.isClosing = true) (hset : Fresh s.webhookSetQuery)
    (hactive : Fresh s.activeWebhookSetQuery) (now : Int) :
    ∃ t, ClosedFrom s t now ∧
      s.onClosed now = if s.loggingOut then { t with removingDirectory := true } else t.finishClosing := by
  obtain ⟨set, answers₁, hset, hanswers₁, hqueries₁⟩ :=
    { s with tdClosed := true, crashed := s.crashed || !s.isClosing }.failMemberClosing_spec hset now
  obtain ⟨active, answers₂, hactive, hanswers₂, hqueries₂⟩ := { s with
    tdClosed := true
    crashed := s.crashed || !s.isClosing
    answers := answers₁
    webhookSetQuery := set }.failMemberClosing_spec hactive now
  obtain ⟨answers₃, hanswers₃, htables⟩ := { s with
    tdClosed := true
    crashed := s.crashed || !s.isClosing
    answers := answers₂
    webhookSetQuery := set
    activeWebhookSetQuery := active }.failTables_spec now
  refine ⟨?t, ?spec, ?eq⟩
  case eq =>
    unfold onClosed
    dsimp only at hset hactive htables ⊢
    rw [hset]
    dsimp only
    rw [hactive]
    dsimp only
    rw [htables]
  case spec =>
    change heldQueries set = if s.retries now then _ else _ at hqueries₁
    change heldQueries active = if s.retries now then _ else _ at hqueries₂
    refine ⟨rfl, hclosing, ?_, ?_, rfl, ?_, rfl, rfl⟩
    · rw [List.perm_iff_count]
      intro q
      have h₁ := congrArg (List.count q) hanswers₁
      have h₂ := congrArg (List.count q) hanswers₂
      have h₃ := congrArg (List.count q) hanswers₃
      simp only [answered, listed, parked_eq, List.count_append, heldQueries, Option.toList_none, List.map_nil,
        List.flatMap_nil, List.count_nil] at h₁ h₂ h₃ ⊢
      omega
    · simp only [parked_eq, listed, hqueries₁, hqueries₂, Option.toList_none, List.map_nil, List.flatMap_nil,
        List.append_nil]
      split_ifs <;> rfl
    · dsimp only
      rw [hclosing, Bool.not_true, Bool.or_false]

/-! ### Before the end of TDLib -/

structure Opened (s : ClientParking) : Prop where
  opened : s.tdClosed = false
  living : s.stopped = false
  idle : s.removingDirectory = false
  set : Fresh s.webhookSetQuery
  active : Fresh s.activeWebhookSetQuery

theorem fresh_none : Fresh none := fun h hh => by cases hh

theorem fresh_new (query : BotQuery) : Fresh (some { query := query }) := fun h hh => by
  cases hh
  rfl

theorem Opened.put (h : Opened s) (query : BotQuery) (turn : ParkingTurn) : Opened (s.put query turn) := by
  unfold ClientParking.put
  cases turn with
  | setWebhook =>
      cases s.webhookSetQuery with
      | none => exact ⟨h.opened, h.living, h.idle, fresh_new query, h.active⟩
      | some held => exact ⟨h.opened, h.living, h.idle, fresh_new query, h.active⟩
  | setActiveWebhook => exact ⟨h.opened, h.living, h.idle, h.set, fresh_new query⟩
  | longPoll =>
      cases s.longPollQuery with
      | none => exact ⟨h.opened, h.living, h.idle, h.set, h.active⟩
      | some query => exact ⟨h.opened, h.living, h.idle, h.set, h.active⟩
  | downloadFile fileId =>
      dsimp only
      split_ifs <;> exact ⟨h.opened, h.living, h.idle, h.set, h.active⟩
  | _ => exact ⟨h.opened, h.living, h.idle, h.set, h.active⟩

theorem Opened.onCmd (h : Opened s) (query : BotQuery) (turn : ParkingTurn) (now : Int) :
    Opened (s.onCmd query turn now) := by
  unfold ClientParking.onCmd
  split_ifs
  · exact ⟨h.opened, h.living, h.idle, h.set, h.active⟩
  · exact ⟨h.opened, h.living, h.idle, h.set, h.active⟩
  · exact ⟨h.opened, h.living, h.idle, h.set, h.active⟩
  · exact ⟨h.opened, h.living, h.idle, h.set, h.active⟩
  · exact h.put query turn

theorem Opened.runQueue (h : Opened s) (now : Int) (queue : List BotQuery) (turns : List ParkingTurn) :
    Opened (runQueue now queue turns s) := by
  induction queue generalizing s turns with
  | nil => exact h
  | cons query queue ih => exact ih (h.onCmd query _ now) turns.tail

theorem Opened.loop (h : Opened s) (turns : List ParkingTurn) (now : Int) : Opened (s.loop turns now) := by
  have hempty : Opened { s with cmdQueue := [] } := ⟨h.opened, h.living, h.idle, h.set, h.active⟩
  unfold ClientParking.loop
  split_ifs
  · exact hempty.runQueue now s.cmdQueue turns
  · exact h

theorem Opened.resume (h : Opened s) {held : Option HeldQuery} (ht : Opened t) (turn : ParkingTurn) :
    Opened (s.resume held turn t) := by
  unfold ClientParking.resume
  cases held with
  | none => exact h
  | some held =>
      dsimp only
      split_ifs
      · exact ⟨h.opened, h.living, h.idle, h.set, h.active⟩
      · exact ht.put held.query turn

theorem Opened.onTdlib (h : Opened s) (event : ClientParkingEvent) (now : Int) : Opened (s.onTdlib event now) := by
  unfold ClientParking.onTdlib
  split
  · refine Opened.loop ?_ _ now
    exact ⟨h.opened, h.living, h.idle, h.set, h.active⟩
  · split
    · exact h
    · refine Opened.put ?_ _ _
      exact ⟨h.opened, h.living, h.idle, h.set, h.active⟩
  · exact ⟨h.opened, h.living, h.idle, h.set, h.active⟩
  · split
    · exact h
    · refine Opened.put ?_ _ _
      exact ⟨h.opened, h.living, h.idle, h.set, h.active⟩
  · exact ⟨h.opened, h.living, h.idle, h.set, h.active⟩
  · split
    · exact ⟨h.opened, h.living, h.idle, h.set, h.active⟩
    · exact ⟨h.opened, h.living, h.idle, h.set, h.active⟩
  · exact ⟨h.opened, h.living, h.idle, h.set, h.active⟩
  · refine Opened.loop ?_ _ now
    exact ⟨h.opened, h.living, h.idle, h.set, h.active⟩
  · refine Opened.loop ?_ _ now
    exact ⟨h.opened, h.living, h.idle, h.set, h.active⟩
  · exact h

/-- Only the end of TDLib closes the client. -/
theorem Opened.step (h : Opened s) (hcloses : ¬ s.Closes x) : Opened (s.step x) := by
  obtain ⟨event, now⟩ := x
  unfold ClientParking.step
  by_cases hdone : s.stopped = true ∨ s.crashed = true
  · rw [if_pos hdone]
    exact h
  rw [if_neg hdone]
  have hcrashed : s.crashed = false := by simpa using (not_or.1 hdone).2
  cases event with
  | send query flooded turn =>
      dsimp only [ClientParking.send]
      split_ifs
      · exact ⟨h.opened, h.living, h.idle, h.set, h.active⟩
      · refine Opened.loop ?_ _ now
        exact ⟨h.opened, h.living, h.idle, h.set, h.active⟩
  | wakeUp index turn =>
      dsimp only
      split
      · exact h
      · split_ifs
        · exact ⟨h.opened, h.living, h.idle, h.set, h.active⟩
        · refine Opened.onCmd ?_ _ turn now
          exact ⟨h.opened, h.living, h.idle, h.set, h.active⟩
  | webhookSet turn =>
      refine h.resume ?_ turn
      exact ⟨h.opened, h.living, h.idle, fresh_none, h.active⟩
  | activeWebhookSet turn =>
      refine h.resume ?_ turn
      exact ⟨h.opened, h.living, h.idle, h.set, fresh_none⟩
  | longPollWakeup => exact ⟨h.opened, h.living, h.idle, h.set, h.active⟩
  | close => exact ⟨h.opened, h.living, h.idle, h.set, h.active⟩
  | directoryRemoved =>
      dsimp only
      rw [h.idle]
      exact h
  | timeoutExpired =>
      dsimp only
      rw [h.opened]
      exact h
  | authorizationStateClosed =>
      dsimp only
      rw [if_neg fun hall => hcloses ⟨rfl, h.living, hcrashed, hall⟩]
      exact h
  | _ =>
      dsimp only
      rw [h.opened, if_neg (by exact Bool.false_ne_true)]
      exact h.onTdlib _ now

/-! ### After the end of TDLib -/

/-- The client is closed, and no table holds a query. -/
structure Emptied (s : ClientParking) : Prop where
  closed : s.tdClosed = true
  closing : s.isClosing = true
  empty : s.parked = []

theorem Emptied.webhookSet (h : Emptied s) : s.webhookSetQuery = none ∧ s.activeWebhookSetQuery = none ∧
    s.longPollQuery = none ∧ s.cmdQueue = [] := by
  have hempty := h.empty
  simp only [parked, heldQueries, List.append_eq_nil_iff, Option.toList_eq_nil_iff, Option.map_eq_none_iff] at hempty
  obtain ⟨⟨⟨⟨⟨⟨⟨hset, hactive⟩, hpoll⟩, hqueue⟩, -⟩, -⟩, -⟩, -⟩ := hempty
  exact ⟨hset, hactive, hpoll, hqueue⟩

/-- Any query gets the closing error at once. -/
theorem Emptied.onCmd (h : Emptied s) (query : BotQuery) (turn : ParkingTurn) (now : Int) :
    s.onCmd query turn now = s.failQueryClosing now query := by
  unfold ClientParking.onCmd
  rw [if_neg fun hopen => hopen.1 h.closed, if_neg fun hopen => hopen.1 h.closed, if_pos h.closing]

theorem Emptied.failQueryClosing (h : Emptied s) (now : Int) (query : BotQuery) :
    Emptied (s.failQueryClosing now query) := ⟨h.closed, h.closing, h.empty⟩

theorem Emptied.send (h : Emptied s) (query : BotQuery) (turn : ParkingTurn) (now : Int) :
    s.send query false turn now = s.failQueryClosing now query := by
  have hqueue := h.webhookSet.2.2.2
  have hsame : { s with cmdQueue := [] } = s := by
    rw [← hqueue]
  unfold ClientParking.send ClientParking.loop
  rw [if_neg Bool.false_ne_true, hqueue]
  change (if (s.wasAuthorized || s.isClosing) = true then
    runQueue now [query] [turn] { s with cmdQueue := [] } else _) = _
  rw [h.closing, Bool.or_true, if_pos rfl, hsame]
  exact h.onCmd query turn now

theorem parked_stop (s : ClientParking) : s.stop.parked = [] := rfl

theorem Emptied.stop (h : Emptied s) : Emptied s.stop := ⟨h.closed, h.closing, s.parked_stop⟩

theorem Emptied.finishClosing (h : Emptied s) : Emptied s.finishClosing := by
  unfold ClientParking.finishClosing
  split_ifs
  · exact h.stop
  · exact h

theorem Emptied.step (h : Emptied s) (x : ClientParkingInput) : Emptied (s.step x) := by
  obtain ⟨hset, hactive, hpoll, hqueue⟩ := h.webhookSet
  obtain ⟨event, now⟩ := x
  unfold ClientParking.step
  by_cases hdone : s.stopped = true ∨ s.crashed = true
  · rw [if_pos hdone]
    exact h
  rw [if_neg hdone]
  cases event with
  | send query flooded turn =>
      cases flooded with
      | true => exact ⟨h.closed, h.closing, h.empty⟩
      | false =>
          dsimp only
          rw [h.send]
          exact h.failQueryClosing now query
  | wakeUp index turn =>
      dsimp only
      split
      · exact h
      · rename_i query flooded hget
        have hawake : Emptied { s with sleeping := s.sleeping.eraseIdx index } := ⟨h.closed, h.closing, h.empty⟩
        split_ifs
        · exact ⟨h.closed, h.closing, h.empty⟩
        · rw [hawake.onCmd]
          exact hawake.failQueryClosing now query
  | webhookSet turn =>
      dsimp only [ClientParking.resume]
      rw [hset]
      exact h
  | activeWebhookSet turn =>
      dsimp only [ClientParking.resume]
      rw [hactive]
      exact h
  | longPollWakeup =>
      have hempty := h.empty
      refine ⟨h.closed, h.closing, ?_⟩
      unfold parked at hempty ⊢
      rw [hpoll] at hempty
      exact hempty
  | close => exact ⟨h.closed, h.closing, h.empty⟩
  | directoryRemoved =>
      dsimp only
      split_ifs
      · refine Emptied.finishClosing ?_
        exact ⟨h.closed, h.closing, h.empty⟩
      · exact h
  | timeoutExpired =>
      dsimp only
      split_ifs
      · exact h.stop
      · exact h
  | authorizationStateClosed =>
      dsimp only
      rw [if_neg fun hall => by rw [h.closed] at hall; exact Bool.noConfusion hall.1]
      exact h
  | _ =>
      dsimp only
      rw [if_pos h.closed]
      exact h

/-! ### Closing -/

/-- `on_closed` leaves no query behind, or the client is destroyed at once. -/
def ClosesEmpty (s : ClientParking) (now : Int) : Prop :=
  (s.loggingOut = false ∧ s.needClose = true) ∨
    (s.yetUnsentStories = [] ∧
      (s.retries now = true → s.webhookSetQuery = none ∧ s.activeWebhookSetQuery = none))

instance (s : ClientParking) (now : Int) : Decidable (ClosesEmpty s now) :=
  inferInstanceAs (Decidable (_ ∨ _ ∧ (_ → _)))

/-- The step leaves no query behind in a closed client, and lets none that comes later wait. -/
def LeavesNone (s : ClientParking) (x : ClientParkingInput) : Prop :=
  (s.Closes x → s.ClosesEmpty x.now) ∧
    match x.event with
    | .send _ flooded _ => s.tdClosed = true → s.stopped = false → s.crashed = false → flooded = false
    | _ => True

/-- What is asked of a step: a closed client holds no query; all were answered when it was closed, each of
them once, and a later one is answered when it comes. -/
structure AnswersAll (s : ClientParking) (x : ClientParkingInput) : Prop where
  empty : (s.step x).tdClosed = true → (s.step x).parked = []
  closed : s.Closes x → (s.step x).answered.Perm (s.answered ++ s.parked)
  later : ∀ query flooded turn, x.event = .send query flooded turn → s.tdClosed = true → s.stopped = false →
    s.crashed = false → (s.step x).answered = s.answered ++ [query]

theorem heldQueries_eq_nil {held : Option HeldQuery} : heldQueries held = [] ↔ held = none := by
  unfold heldQueries
  rw [Option.toList_eq_nil_iff, Option.map_eq_none_iff]

theorem step_closes (hcloses : s.Closes x) : s.step x = s.onClosed x.now := by
  obtain ⟨event, now⟩ := x
  obtain ⟨hevent, hliving, hcrashed, hrest⟩ := hcloses
  dsimp only at hevent
  subst hevent
  unfold ClientParking.step
  rw [if_neg (by rw [hliving, hcrashed]; decide)]
  dsimp only
  rw [if_pos hrest]

/-- After `on_closed` exactly the forgotten queries are left, unless the client is destroyed at once. -/
theorem Opened.onClosed (h : Opened s) (hclosing : s.isClosing = true) (now : Int) :
    (s.onClosed now).tdClosed = true ∧ (s.onClosed now).isClosing = true ∧
      ((s.onClosed now).answered ++ (s.onClosed now).parked).Perm (s.answered ++ s.parked) ∧
      ((s.onClosed now).parked = [] ↔ s.ClosesEmpty now) := by
  obtain ⟨t, ht, heq⟩ := onClosed_spec hclosing h.set h.active now
  have hleft : t.parked = [] ↔ s.yetUnsentStories = [] ∧
      (s.retries now = true → s.webhookSetQuery = none ∧ s.activeWebhookSetQuery = none) := by
    rw [ht.parked, List.append_eq_nil_iff, List.map_eq_nil_iff]
    cases s.retries now with
    | true => simp only [if_true, List.append_eq_nil_iff, heldQueries_eq_nil, true_implies, and_comm]
    | false => simp
  rw [heq]
  unfold ClosesEmpty
  cases hout : s.loggingOut with
  | true =>
      refine ⟨ht.tdClosed, ht.isClosing, ht.conserved, ?_⟩
      change t.parked = [] ↔ _
      simp [hleft]
  | false =>
      rw [if_neg Bool.false_ne_true]
      unfold ClientParking.finishClosing
      rw [ht.needClose]
      cases hneed : s.needClose with
      | true =>
          refine ⟨ht.tdClosed, ht.isClosing, ?_, ?_⟩
          · rw [if_pos rfl, parked_stop, List.append_nil]
            refine List.Perm.trans (List.Perm.of_eq ?_) ht.conserved
            unfold ClientParking.stop answered
            rw [List.map_append, List.map_map]
            exact congrArg _ (List.map_id _)
          · rw [if_pos rfl, parked_stop]
            simp
      | false =>
          refine ⟨ht.tdClosed, ht.isClosing, ht.conserved, ?_⟩
          rw [if_neg Bool.false_ne_true, hleft]
          simp

/-- Nothing waits in the tables of a client without TDLib. -/
def Clear (s : ClientParking) : Prop := Opened s ∨ Emptied s

theorem Opened.not_tdClosed (h : Opened s) : ¬ s.tdClosed = true := by
  rw [h.opened]
  exact Bool.false_ne_true

theorem Clear.empty (h : Clear s) (hclosed : s.tdClosed = true) : s.parked = [] := by
  cases h with
  | inl hopened => exact absurd hclosed hopened.not_tdClosed
  | inr hemptied => exact hemptied.empty

theorem Emptied.not_closes (h : Emptied s) : ¬ s.Closes x := fun hcloses => by
  have hopen := hcloses.2.2.2.1
  rw [h.closed] at hopen
  exact Bool.noConfusion hopen

theorem Clear.step (h : Clear s) (hnone : s.LeavesNone x) : Clear (s.step x) := by
  cases h with
  | inr hemptied => exact Or.inr (hemptied.step x)
  | inl hopened =>
      by_cases hcloses : s.Closes x
      · obtain ⟨hclosed, hclosing, -, hempty⟩ := hopened.onClosed hcloses.2.2.2.2.1 x.now
        rw [step_closes hcloses]
        exact Or.inr ⟨hclosed, hclosing, hempty.2 (hnone.1 hcloses)⟩
      · exact Or.inl (hopened.step hcloses)

/-- A query that comes to a closed client gets its answer with the same step, or sleeps. -/
theorem Emptied.step_send (h : Emptied s) (hliving : s.stopped = false) (hcrashed : s.crashed = false)
    (query : BotQuery) (flooded : Bool) (turn : ParkingTurn) (now : Int) :
    (s.step ⟨.send query flooded turn, now⟩).answered = if flooded then s.answered else s.answered ++ [query] := by
  unfold ClientParking.step
  rw [if_neg (by rw [hliving, hcrashed]; decide)]
  cases flooded with
  | true => rfl
  | false =>
      dsimp only
      rw [h.send]
      unfold ClientParking.failQueryClosing ClientParking.answer answered
      rw [List.map_append]
      rfl

theorem Opened.answersAll_iff (h : Opened s) (x : ClientParkingInput) : AnswersAll s x ↔ LeavesNone s x := by
  have hopen := h.not_tdClosed
  constructor
  · intro hall
    refine ⟨fun hcloses => ?_, ?_⟩
    · obtain ⟨hclosed, -, -, hempty⟩ := h.onClosed hcloses.2.2.2.2.1 x.now
      rw [← step_closes hcloses] at hclosed hempty
      exact hempty.1 (hall.empty hclosed)
    · split
      · exact fun hclosed => absurd hclosed hopen
      · trivial
  · intro hnone
    refine ⟨(Clear.step (Or.inl h) hnone).empty, fun hcloses => ?_, fun _ _ _ _ hclosed => absurd hclosed hopen⟩
    obtain ⟨-, -, hconserved, hempty⟩ := h.onClosed hcloses.2.2.2.2.1 x.now
    rw [hempty.2 (hnone.1 hcloses), List.append_nil] at hconserved
    rw [step_closes hcloses]
    exact hconserved

theorem Emptied.answersAll_iff (h : Emptied s) (x : ClientParkingInput) : AnswersAll s x ↔ LeavesNone s x := by
  obtain ⟨event, now⟩ := x
  constructor
  · intro hall
    refine ⟨fun hcloses => absurd hcloses h.not_closes, ?_⟩
    split
    · rename_i query flooded turn hevent
      intro hclosed hliving hcrashed
      dsimp only at hevent
      subst hevent
      have hlater := hall.later query flooded turn rfl hclosed hliving hcrashed
      rw [h.step_send hliving hcrashed] at hlater
      cases flooded with
      | false => rfl
      | true => simp at hlater
    · trivial
  · intro hnone
    refine ⟨fun _ => (h.step _).empty, fun hcloses => absurd hcloses h.not_closes, ?_⟩
    intro query flooded turn hevent hclosed hliving hcrashed
    dsimp only at hevent
    subst hevent
    have hquiet : flooded = false := hnone.2 hclosed hliving hcrashed
    rw [h.step_send hliving hcrashed, hquiet, if_neg Bool.false_ne_true]

/-- A run answers the parked queries of its client, and those that come later, exactly if none of its steps
leaves a query behind. -/
theorem parked_answered (xs : List ClientParkingInput) :
    StepRun.AllSteps step AnswersAll {} xs ↔ StepRun.AllSteps step LeavesNone {} xs := by
  refine StepRun.allSteps_congr (I := Clear) ?keeps ?agree ?start xs
  case keeps => exact fun s x h hnone => h.step hnone
  case agree =>
    intro s x h
    cases h with
    | inl hopened => exact hopened.answersAll_iff x
    | inr hemptied => exact hemptied.answersAll_iff x
  case start => exact Or.inl ⟨rfl, rfl, rfl, fresh_none, fresh_none⟩

/-- The story is not reported before the bot is logged out. -/
def storyThenLogOut : List ClientParkingInput :=
  [.authorized [], .send { token := "1:a".toList, method := "poststory".toList } false .request,
    .answered 0 (.sendStory 1 1), .authorizationStateLoggingOut, .authorizationStateClosed].map (⟨·, 0⟩)

theorem parked_story_forgotten : ¬ StepRun.AllSteps step AnswersAll {} storyThenLogOut := by
  intro hall
  have hempty := hall.2.2.2.2.1.empty rfl
  exact absurd hempty (List.cons_ne_nil _ _)

end ClientParking

end TelegramBotApi
