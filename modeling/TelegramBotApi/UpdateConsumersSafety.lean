import Mathlib.Data.List.Perm.Basic
import TelegramBotApi.ClientWebhookSafety
import TelegramBotApi.GetUpdatesDelivery
import TelegramBotApi.UpdateConsumers

/-!
# Only one consumer of updates

A long poll waits only in a client without a webhook, in which no request for one is under way. Every
`getUpdates` query is in exactly one place: it waits, or it has its answer.
-/

namespace TelegramBotApi

namespace ClientUpdates

variable {s : ClientUpdates}

/-- The numbers of the queries that were answered, and of those that still wait. -/
def holders (s : ClientUpdates) : List Nat :=
  s.answers.map (·.1) ++ s.delayedConflicts.map (·.1) ++ (s.longPoll.map (·.query)).toList

theorem holders_park (h : s.longPoll = none) (l : LongPoll) :
    { s with longPoll := some l }.holders.Perm (l.query :: s.holders) := by
  unfold holders
  rw [h]
  rw [Option.map_none, Option.toList_none, List.append_nil]
  exact List.perm_append_singleton l.query _

theorem holders_longPoll {l : LongPoll} (h : s.longPoll = some l) :
    s.holders.Perm (l.query :: { s with longPoll := none }.holders) := by
  have hpark := holders_park (s := { s with longPoll := none }) rfl l
  have hsame : { { s with longPoll := none } with longPoll := some l } = s := by
    rw [← h]
  rw [hsame] at hpark
  exact hpark

def frame (s : ClientUpdates) : Nat × Bool := (s.nextQuery, s.crashed)

theorem failQueryConflict_longPoll (s : ClientUpdates) (message : String) (query : Nat) (now : Int) :
    (s.failQueryConflict message query now).longPoll = s.longPoll := by
  unfold failQueryConflict
  split_ifs <;> rfl

theorem failQueryConflict_frame_eq (s : ClientUpdates) (message : String) (query : Nat) (now : Int) :
    (s.failQueryConflict message query now).frame = s.frame := by
  unfold failQueryConflict
  split_ifs <;> rfl

theorem holders_failQueryConflict (s : ClientUpdates) (message : String) (query : Nat) (now : Int) :
    (s.failQueryConflict message query now).holders.Perm (query :: s.holders) := by
  rw [List.perm_iff_count]
  intro id
  unfold failQueryConflict
  split_ifs
  · simp only [holders, answer, List.map_append, List.count_append, List.map_cons, List.map_nil,
      List.count_cons, List.count_nil]
    omega
  · simp only [holders, List.map_append, List.count_append, List.map_cons, List.map_nil, List.count_cons,
      List.count_nil]
    omega

theorem holders_abortLongPoll (s : ClientUpdates) (fromSetWebhook : Bool) (now : Int) :
    (s.abortLongPoll fromSetWebhook now).longPoll = none ∧
      (s.abortLongPoll fromSetWebhook now).frame = s.frame ∧
      (s.abortLongPoll fromSetWebhook now).holders.Perm s.holders := by
  unfold abortLongPoll
  cases hpoll : s.longPoll with
  | none => exact ⟨hpoll, rfl, List.Perm.refl _⟩
  | some l =>
      refine ⟨failQueryConflict_longPoll _ _ _ _, failQueryConflict_frame_eq _ _ _ _, ?_⟩
      exact (holders_failQueryConflict _ _ _ _).trans (holders_longPoll hpoll).symm

/-- A served call has its answer or is the long poll, and so has every other query as before. -/
theorem holders_doGetUpdates (s : ClientUpdates) (offset : Int) (limit : Nat) (timeout : Int) (query : Nat)
    (now unixTime : Int) :
    (s.doGetUpdates offset limit timeout query now unixTime).frame = s.frame ∧
      (s.doGetUpdates offset limit timeout query now unixTime).holders.Perm (query :: s.holders) ∧
      (timeout = 0 → (s.doGetUpdates offset limit timeout query now unixTime).longPoll = s.longPoll) := by
  obtain ⟨q', r, n, -, hcall⟩ := s.doGetUpdates_cases offset limit timeout query now unixTime
  rw [hcall]
  split_ifs with hwait
  · obtain ⟨hnone, hframe, hholders⟩ := (s.afterRead q' unixTime).holders_abortLongPoll false now
    exact ⟨hframe, (holders_park hnone _).trans (hholders.cons _), fun hzero => absurd hzero hwait.1⟩
  · refine ⟨rfl, ?_, fun _ => rfl⟩
    rw [List.perm_iff_count]
    intro id
    simp only [holders, afterRead, answer, List.map_append, List.count_append, List.map_cons, List.map_nil,
      List.count_cons, List.count_nil]
    omega

theorem holders_longPollWakeup (s : ClientUpdates) (force : Bool) (now unixTime : Int) :
    (s.longPollWakeup force now unixTime).frame = s.frame ∧
      (s.longPollWakeup force now unixTime).holders.Perm s.holders ∧
      (force = true → (s.longPollWakeup force now unixTime).longPoll = none) ∧
      ((s.longPollWakeup force now unixTime).longPoll.isSome = true → s.longPoll.isSome = true) := by
  unfold longPollWakeup
  cases hpoll : s.longPoll with
  | none => exact ⟨rfl, List.Perm.refl _, fun _ => hpoll, fun h => by rw [hpoll] at h; exact h⟩
  | some l =>
      cases force with
      | false =>
          refine ⟨rfl, ?_, fun h => absurd h Bool.false_ne_true, fun _ => rfl⟩
          unfold holders
          rw [hpoll]
          exact List.Perm.refl _
      | true =>
          obtain ⟨hframe, hholders, hsame⟩ := { s with longPoll := none }.holders_doGetUpdates l.offset l.limit 0
            l.query now unixTime
          exact ⟨hframe, hholders.trans (holders_longPoll hpoll).symm, fun _ => hsame rfl, fun _ => rfl⟩

theorem holders_processGetUpdates (s : ClientUpdates) (query : BotQuery) (id : Nat) (now unixTime : Int) :
    (s.processGetUpdates query id now unixTime).frame = s.frame ∧
      (s.processGetUpdates query id now unixTime).holders.Perm (id :: s.holders) := by
  obtain ⟨hframe, hholders, -⟩ := { s with
    previousGetUpdatesOffset := getUpdatesOffset query
    previousGetUpdatesStartTime := now }.holders_doGetUpdates (getUpdatesOffset query)
      (s.getUpdatesLimit query now).toNat (s.getUpdatesTimeout query now) id now unixTime
  exact ⟨hframe, hholders⟩

theorem holders_addUpdate (s : ClientUpdates) (first : FirstEventId) (data : Slice) (expiresAt extra : Int)
    (now unixTime : Int) :
    (s.addUpdate first data expiresAt extra now unixTime).frame = s.frame ∧
      (s.addUpdate first data expiresAt extra now unixTime).holders.Perm s.holders ∧
      ((s.addUpdate first data expiresAt extra now unixTime).longPoll.isSome = true → s.longPoll.isSome = true) := by
  unfold addUpdate
  split
  · exact ⟨rfl, List.Perm.refl _, id⟩
  · rename_i q _
    obtain ⟨hframe, hholders, -, hsome⟩ := holders_longPollWakeup
      { s with tqueue := q, pushed := s.pushed ++ q.events.getLast?.toList } false now unixTime
    exact ⟨hframe, hholders, hsome⟩

end ClientUpdates

namespace ClientWebhook

variable {inet : InetPton} {P : WebhookParameters} {s t : ClientWebhook}

theorem respond_eq {query : PromisedQuery} {answer : QueryAnswer} (h : s.respond query answer = .ok t) :
    t = s.emit (.answered query.query answer) := by
  unfold respond at h
  split_ifs at h
  exact (Except.ok.inj h).symm

/-- A handler that went through has kept the invariant. -/
theorem Inv.of_safe {r : Except WebhookAssertion ClientWebhook} (h : Safe inet r) (ht : r = .ok t) : Inv inet t := by
  rw [ht] at h
  exact h

theorem Inv.step_ok (h : Inv inet s) {e : ClientWebhookEvent} (ht : s.step inet P e = .ok t) : Inv inet t := by
  by_cases hlate : LateCopy s e
  · rw [h.step_lateCopy hlate] at ht
    cases ht
  · exact Inv.of_safe (h.step hlate) ht

/-- The client is open and has no webhook, and no certificate is being copied for one. -/
structure Free (s : ClientWebhook) : Prop where
  noUrl : s.settings.url = []
  noActive : s.activeWebhookSetQuery = none
  opened : s.tdClosed = false

theorem Free.emit (h : Free s) (effect : ClientWebhookEffect) : Free (s.emit effect) :=
  ⟨h.noUrl, h.noActive, h.opened⟩

theorem Free.respond (h : Free s) {query : PromisedQuery} {answer : QueryAnswer}
    (ht : s.respond query answer = .ok t) : Free t := by
  rw [respond_eq ht]
  exact h.emit _

theorem Free.checkSetWebhook (h : Free s) {query : PromisedQuery} (hdelete : query.query.newWebhookUrl = [])
    {wasDeleted : Bool} {now : Int} (ht : s.checkSetWebhook inet P query wasDeleted now = .ok t) : Free t := by
  unfold ClientWebhook.checkSetWebhook at ht
  rw [if_pos hdelete] at ht
  exact h.respond ht

/-- A request that deletes the webhook changes nothing if there is none. -/
theorem Free.doSetWebhook (h : Free s) (hid : s.webhookId = none) {query : PromisedQuery}
    (hdelete : query.query.newWebhookUrl = []) {wasDeleted : Bool} {now : Int}
    (ht : s.doSetWebhook inet P query wasDeleted now = .ok t) : Free t := by
  have hclear : s.clearTqueue = .ok (s.emit .clearTqueue) := by
    unfold clearTqueue
    rw [hid]
    rfl
  unfold ClientWebhook.doSetWebhook at ht
  rw [if_neg (not_not_intro h.noUrl), hclear] at ht
  by_cases hclosing : s.isClosing = true
  · rw [if_pos hclosing] at ht
    exact h.respond ht
  rw [if_neg hclosing] at ht
  by_cases hdrop : toBool (query.query.arg "drop_pending_updates".toList) = true
  · rw [if_pos hdrop] at ht
    exact (h.emit .clearTqueue).checkSetWebhook hdelete ht
  · rw [if_neg hdrop] at ht
    exact h.checkSetWebhook hdelete ht

theorem Free.replaceWebhook (h : Free s) (hid : s.webhookId = none) {query : BotQuery}
    (hdelete : query.newWebhookUrl = []) {now : Int} (ht : s.replaceWebhook inet P query now = .ok t) : Free t := by
  have hnext : Free { s with webhookGeneration := s.webhookGeneration + 1 } := ⟨h.noUrl, h.noActive, h.opened⟩
  unfold ClientWebhook.replaceWebhook at ht
  dsimp only at ht
  rw [if_neg (not_not_intro h.noUrl)] at ht
  exact hnext.doSetWebhook hid hdelete ht

/-- Only a request for a webhook and the end of the client end the time without a webhook. -/
theorem Free.step (h : Free s) (hinv : Inv inet s) {e : ClientWebhookEvent} (hquery : ∀ query now, e ≠ .query query now)
    (hclosed : ∀ now, e ≠ .authorizationStateClosed now) (ht : s.step inet P e = .ok t) : Free t := by
  obtain ⟨hpending, hid, hcallbacks, hunlinks⟩ := hinv.noUrl h.noUrl
  have hcopies : s.copies = 0 := by
    have hle := hinv.copies_le
    by_contra hne
    have hlate := (hinv.copied (by omega) h.noActive).1
    rw [h.opened] at hlate
    cases hlate
  have hremoving : s.removingDirectory = false := by
    by_contra hne
    have hclosed := hinv.removing (by simpa using hne)
    rw [h.opened] at hclosed
    cases hclosed
  unfold ClientWebhook.step at ht
  by_cases hstopped : s.stopped = true
  · rw [if_pos hstopped] at ht
    cases ht
    exact h
  rw [if_neg hstopped] at ht
  cases e with
  | query query now => exact absurd rfl (hquery query now)
  | authorizationStateClosed now => exact absurd rfl (hclosed now)
  | logOutRequested =>
      rw [h.opened] at ht
      cases ht
      exact ⟨h.noUrl, h.noActive, rfl⟩
  | closeRequested =>
      cases ht
      exact ⟨h.noUrl, h.noActive, h.opened⟩
  | authorizationFailed apiIdInvalid nextAuthorizationTime =>
      rw [h.opened] at ht
      cases ht
      exact ⟨h.noUrl, h.noActive, rfl⟩
  | authorizationStateLoggingOut =>
      rw [h.opened] at ht
      cases ht
      exact ⟨h.noUrl, h.noActive, rfl⟩
  | authorizationStateClosing =>
      rw [h.opened] at ht
      cases ht
      exact ⟨h.noUrl, h.noActive, rfl⟩
  | directoryRemoved =>
      rw [hremoving] at ht
      cases ht
      exact h
  | timeoutExpired =>
      rw [h.opened] at ht
      cases ht
      exact h
  | webhookVerified generation cachedIpAddress =>
      simp only [hcallbacks, List.not_mem_nil, if_false] at ht
      cases ht
      exact h
  | webhookClosed generation status now =>
      simp only [hcallbacks, List.not_mem_nil, if_false] at ht
      cases ht
      exact h
  | hangupShared generation now =>
      simp only [hcallbacks, List.not_mem_nil, if_false] at ht
      cases ht
      exact h
  | certificateCopied success now =>
      simp only [if_pos hcopies] at ht
      cases ht
      exact h
  | certificateUnlinked now =>
      simp only [hunlinks] at ht
      cases ht
      exact h

end ClientWebhook

namespace UpdateConsumers

variable {inet : InetPton} {P : WebhookParameters} {s t : UpdateConsumers} {ids : List Nat} {id : Nat}
  {query : BotQuery} {now unixTime : Int}

/-- The numbers of the `getUpdates` queries that were answered, and of those that still wait. -/
def holders (s : UpdateConsumers) : List Nat :=
  s.updates.holders ++ (s.delayedGetUpdates.map (·.1) ++ s.flooded.map (·.1) ++ s.refusals.map (·.1))

/-- The invariant inside of a handler that has the queries `ids` in its hands. -/
structure Inv (inet : InetPton) (P : WebhookParameters) (ids : List Nat) (s : UpdateConsumers) : Prop where
  webhook : ClientWebhook.Inv inet s.webhook
  crashed : s.updates.crashed = false
  exclusive : s.updates.longPoll.isSome = true → s.webhook.Free
  holders : (ids ++ s.holders).Perm (List.range s.updates.nextQuery)
  delayed : ∀ w ∈ s.delayedGetUpdates, IsBig P w.2
  flooded : ∀ w ∈ s.flooded, IsBig P w.2
  refused : ∀ r ∈ s.refusals, (∃ answer, r.2.2 = .closing answer) ∨ IsBig P r.2.1

theorem inv_init : Inv inet P [] {} where
  webhook := ClientWebhook.Inv.init
  crashed := rfl
  exclusive h := nomatch h
  holders := List.Perm.refl _
  delayed w hw := by cases hw
  flooded w hw := by cases hw
  refused r hr := by cases hr

/-- The `getUpdates` part has taken queries into its hands, or given some back. -/
theorem Inv.withUpdates (h : Inv inet P ids s) {updates : ClientUpdates} {ids' : List Nat}
    (hframe : updates.frame = s.updates.frame) (hpoll : updates.longPoll.isSome = true → s.webhook.Free)
    (hholders : (ids' ++ updates.holders).Perm (ids ++ s.updates.holders)) :
    Inv inet P ids' { s with updates := updates } where
  webhook := h.webhook
  crashed := (congrArg (·.2) hframe).trans h.crashed
  exclusive := hpoll
  holders := by
    have hnext : updates.nextQuery = s.updates.nextQuery := congrArg (·.1) hframe
    change (ids' ++ (updates.holders ++ _)).Perm (List.range updates.nextQuery)
    rw [hnext, ← List.append_assoc]
    refine (hholders.append_right _).trans ?_
    rw [List.append_assoc]
    exact h.holders
  delayed := h.delayed
  flooded := h.flooded
  refused := h.refused

theorem withWebhook_eq (s : UpdateConsumers) (webhook : ClientWebhook) :
    ∃ q, s.withWebhook webhook = { s with webhook := webhook, updates := { s.updates with tqueue := q } } := by
  unfold withWebhook
  split_ifs
  · exact ⟨_, rfl⟩
  · exact ⟨s.updates.tqueue, rfl⟩

/-- The webhook part has run, and there is still none if the long poll waits. -/
theorem Inv.withWebhook (h : Inv inet P ids s) {webhook : ClientWebhook} (hinv : ClientWebhook.Inv inet webhook)
    (hpoll : s.updates.longPoll.isSome = true → webhook.Free) : Inv inet P ids (s.withWebhook webhook) := by
  obtain ⟨q, hq⟩ := s.withWebhook_eq webhook
  rw [hq]
  exact ⟨hinv, h.crashed, hpoll, h.holders, h.delayed, h.flooded, h.refused⟩

/-- The query in the hands of the handler is put somewhere else. -/
theorem Inv.put (h : Inv inet P (id :: ids) s) {t : UpdateConsumers} (hwebhook : t.webhook = s.webhook)
    (hupdates : t.updates = s.updates) (hholders : t.holders.Perm (id :: s.holders))
    (hdelayed : ∀ w ∈ t.delayedGetUpdates, IsBig P w.2) (hflooded : ∀ w ∈ t.flooded, IsBig P w.2)
    (hrefused : ∀ r ∈ t.refusals, (∃ answer, r.2.2 = .closing answer) ∨ IsBig P r.2.1) : Inv inet P ids t where
  webhook := hwebhook ▸ h.webhook
  crashed := hupdates ▸ h.crashed
  exclusive := by rw [hupdates, hwebhook]; exact h.exclusive
  holders := by
    rw [hupdates]
    exact ((hholders.append_left ids).trans List.perm_middle).trans h.holders
  delayed := hdelayed
  flooded := hflooded
  refused := hrefused

theorem Inv.refuse (h : Inv inet P (id :: ids) s) {refusal : UpdatesRefusal}
    (hrefusal : (∃ answer, refusal = .closing answer) ∨ IsBig P query) :
    Inv inet P ids (s.refuse id query refusal) := by
  refine h.put rfl rfl ?_ h.delayed h.flooded ?_
  · rw [List.perm_iff_count]
    intro i
    simp only [UpdateConsumers.refuse, UpdateConsumers.holders, List.map_append, List.count_append,
      List.map_cons, List.map_nil, List.count_cons, List.count_nil]
    omega
  · intro r hr
    rcases List.mem_append.1 hr with hr | hr
    · exact h.refused r hr
    · rw [List.mem_singleton.1 hr]
      exact hrefusal

theorem Inv.delay (h : Inv inet P (id :: ids) s) (hbig : IsBig P query) :
    Inv inet P ids { s with delayedGetUpdates := s.delayedGetUpdates ++ [(id, query)] } := by
  refine h.put rfl rfl ?_ ?_ h.flooded h.refused
  · rw [List.perm_iff_count]
    intro i
    simp only [UpdateConsumers.holders, List.map_append, List.count_append, List.map_cons, List.map_nil,
      List.count_cons, List.count_nil]
    omega
  · intro w hw
    rcases List.mem_append.1 hw with hw | hw
    · exact h.delayed w hw
    · rw [List.mem_singleton.1 hw]
      exact hbig

theorem Inv.flood (h : Inv inet P (id :: ids) s) (hbig : IsBig P query) :
    Inv inet P ids { s with flooded := s.flooded ++ [(id, query)] } := by
  refine h.put rfl rfl ?_ h.delayed ?_ h.refused
  · rw [List.perm_iff_count]
    intro i
    simp only [UpdateConsumers.holders, List.map_append, List.count_append, List.map_cons, List.map_nil,
      List.count_cons, List.count_nil]
    omega
  · intro w hw
    rcases List.mem_append.1 hw with hw | hw
    · exact h.flooded w hw
    · rw [List.mem_singleton.1 hw]
      exact hbig

/-! ### Queries -/

/-- The turns change their table only, and only big queries have to wait. -/
theorem takeTurn_cases (P : WebhookParameters) (s : UpdateConsumers) (query : BotQuery) (force : Bool) (now : Int) :
    ∃ turn table, s.takeTurn P query force now = (turn, { s with lastSendMessageTime := table }) ∧
      (turn ≠ .now → IsBig P query) := by
  unfold takeTurn
  by_cases hfree : ¬ IsBig P query ∨ force = true
  · rw [if_pos hfree]
    exact ⟨.now, s.lastSendMessageTime, rfl, fun hne => absurd rfl hne⟩
  · rw [if_neg hfree]
    have hbig : IsBig P query := not_not.1 (not_or.1 hfree).1
    dsimp only
    by_cases hflood : now + 5 * ClientUpdates.second < s.lastTime query.filesSize
    · rw [if_pos hflood]
      exact ⟨.flood, s.lastSendMessageTime, rfl, fun _ => hbig⟩
    · rw [if_neg hflood]
      exact ⟨_, _, rfl, fun _ => hbig⟩

theorem Inv.table (h : Inv inet P ids s) (table : List (Int × Int)) :
    Inv inet P ids { s with lastSendMessageTime := table } :=
  ⟨h.webhook, h.crashed, h.exclusive, h.holders, h.delayed, h.flooded, h.refused⟩

/-- Without a webhook the client is free, unless it is closed. -/
theorem Inv.free (h : Inv inet P ids s) (hnone : s.hasWebhook = false) (hclosing : s.webhook.isClosing = false) :
    s.webhook.Free := by
  unfold hasWebhook at hnone
  simp only [Bool.or_eq_false_iff, decide_eq_false_iff_not, not_not, Option.isSome_eq_false_iff,
    Option.isNone_iff_eq_none] at hnone
  refine ⟨hnone.1.1, hnone.2, ?_⟩
  by_contra hclosed
  have := h.webhook.closed (by simpa using hclosed)
  rw [hclosing] at this
  cases this

theorem Inv.processGetUpdatesQuery (h : Inv inet P (id :: ids) s) (hclosing : s.webhook.isClosing = false) :
    Inv inet P ids (s.processGetUpdatesQuery id query now unixTime) := by
  unfold UpdateConsumers.processGetUpdatesQuery
  cases hhas : s.hasWebhook with
  | true =>
      rw [if_pos rfl]
      dsimp only
      refine h.withUpdates (ClientUpdates.failQueryConflict_frame_eq _ _ _ _) ?_ ?_
      · rw [ClientUpdates.failQueryConflict_longPoll]
        exact h.exclusive
      · exact ((ClientUpdates.holders_failQueryConflict _ _ _ _).append_left ids).trans List.perm_middle
  | false =>
      rw [if_neg Bool.false_ne_true]
      have hfree := h.free hhas hclosing
      obtain ⟨hframe, hholders⟩ := s.updates.holders_processGetUpdates query id now unixTime
      have hinv : Inv inet P ids { s with updates := s.updates.processGetUpdates query id now unixTime } :=
        h.withUpdates hframe (fun _ => hfree) ((hholders.append_left ids).trans List.perm_middle)
      exact ⟨hinv.webhook.congr rfl, hinv.crashed, fun _ => ⟨hfree.noUrl, hfree.noActive, hfree.opened⟩,
        hinv.holders, hinv.delayed, hinv.flooded, hinv.refused⟩

theorem Inv.onGetUpdates (h : Inv inet P (id :: ids) s) (force : Bool) :
    Inv inet P ids (s.onGetUpdates P id query force now unixTime) := by
  unfold UpdateConsumers.onGetUpdates
  cases hclosing : s.webhook.isClosing with
  | true =>
      rw [if_pos rfl]
      exact h.refuse (Or.inl ⟨_, rfl⟩)
  | false =>
      rw [if_neg Bool.false_ne_true]
      obtain ⟨turn, table, hturn, hbig⟩ := takeTurn_cases P s query force now
      have htable := h.table table
      rw [hturn]
      cases turn with
      | now => exact htable.processGetUpdatesQuery hclosing
      | later => exact htable.delay (hbig (by decide))
      | flood => exact htable.flood (hbig (by decide))

theorem map_ok {r : Except WebhookAssertion ClientWebhook} {f : ClientWebhook → UpdateConsumers}
    (h : r.map f = .ok t) : ∃ webhook, r = .ok webhook ∧ f webhook = t := by
  cases r with
  | error assertion => cases h
  | ok webhook => exact ⟨webhook, rfl, Except.ok.inj h⟩

/-- An answer does not touch the webhook. -/
theorem Inv.respond (h : Inv inet P ids s) {query : PromisedQuery} {answer : QueryAnswer}
    (ht : (s.webhook.respond query answer).map s.withWebhook = .ok t) : Inv inet P ids t := by
  obtain ⟨webhook, hwebhook, rfl⟩ := map_ok ht
  exact h.withWebhook (h.webhook.respond_ok hwebhook) fun hpoll => (h.exclusive hpoll).respond hwebhook

/-- A request for a webhook first ends the long poll. -/
theorem Inv.replaceWebhook (h : Inv inet P ids s) (ht : s.replaceWebhook inet P query now = .ok t) :
    Inv inet P ids t := by
  unfold UpdateConsumers.replaceWebhook at ht
  by_cases hdelete : query.newWebhookUrl = []
  · rw [if_neg (not_not_intro hdelete)] at ht
    obtain ⟨webhook, hwebhook, rfl⟩ := map_ok ht
    refine h.withWebhook (.of_safe (h.webhook.replaceWebhook query now) hwebhook) fun hpoll => ?_
    have hfree := h.exclusive hpoll
    exact hfree.replaceWebhook (h.webhook.noUrl hfree.noUrl).2.1 hdelete hwebhook
  · rw [if_pos hdelete] at ht
    obtain ⟨hnone, hframe, hholders⟩ := s.updates.holders_abortLongPoll true now
    have haborted : Inv inet P ids { s with updates := s.updates.abortLongPoll true now } :=
      h.withUpdates hframe (fun hpoll => by rw [hnone] at hpoll; cases hpoll) (hholders.append_left ids)
    obtain ⟨webhook, hwebhook, rfl⟩ := map_ok ht
    refine haborted.withWebhook (.of_safe (h.webhook.replaceWebhook query now) hwebhook) fun hpoll => ?_
    dsimp only at hpoll
    rw [hnone] at hpoll
    cases hpoll

theorem Inv.noteConflict (h : Inv inet P ids s) (now : Int) : Inv inet P ids (s.noteConflict now) := by
  unfold UpdateConsumers.noteConflict
  split_ifs
  · exact ⟨h.webhook, h.crashed, h.exclusive, h.holders, h.delayed, h.flooded, h.refused⟩
  · exact h

/-- While a request for a webhook waits for the old one to close, no long poll does. -/
theorem Inv.longPoll_of_pending (h : Inv inet P ids s) {pending : PromisedQuery}
    (hpending : s.webhook.webhookSetQuery = some pending) : ¬ s.updates.longPoll.isSome = true := by
  intro hpoll
  have hnone := (h.webhook.noUrl (h.exclusive hpoll).noUrl).1
  rw [hpending] at hnone
  cases hnone

theorem Inv.changeWebhook (h : Inv inet P ids s) (ht : s.changeWebhook inet P query now = .ok t) :
    Inv inet P ids t := by
  unfold UpdateConsumers.changeWebhook at ht
  cases hpending : s.webhook.webhookSetQuery with
  | some pending =>
      rw [hpending] at ht
      dsimp only at ht
      split at ht
      · cases ht
      · rename_i webhook hwebhook
        have hcancelled : Inv inet P ids { s with webhook := webhook } :=
          ⟨h.webhook.dropPending.respond_ok hwebhook, h.crashed,
            fun hpoll => absurd hpoll (h.longPoll_of_pending hpending), h.holders, h.delayed, h.flooded, h.refused⟩
        exact (hcancelled.noteConflict now).replaceWebhook ht
  | none =>
      rw [hpending] at ht
      dsimp only at ht
      by_cases hanswered : s.webhook.activeWebhookSetQuery.isSome = true ∨ s.webhook.isNotModified P query = true
      · rw [if_pos hanswered] at ht
        obtain ⟨webhook, hwebhook, rfl⟩ := map_ok ht
        refine h.withWebhook (.of_safe (h.webhook.changeWebhook query now) hwebhook) fun hpoll => ?_
        have hfree := h.exclusive hpoll
        have hsame : s.webhook.isNotModified P query = true :=
          hanswered.resolve_left (by rw [hfree.noActive]; exact Bool.false_ne_true)
        unfold ClientWebhook.changeWebhook at hwebhook
        rw [hpending] at hwebhook
        dsimp only at hwebhook
        rw [hfree.noActive, if_neg (by exact Bool.false_ne_true), if_pos hsame] at hwebhook
        refine ClientWebhook.Free.respond ?_ hwebhook
        split_ifs
        · exact ⟨hfree.noUrl, rfl, hfree.opened⟩
        · exact hfree
      · rw [if_neg hanswered] at ht
        exact h.replaceWebhook ht

theorem Inv.processSetWebhookQuery (h : Inv inet P ids s)
    (ht : s.processSetWebhookQuery inet P query now = .ok t) : Inv inet P ids t := by
  unfold UpdateConsumers.processSetWebhookQuery at ht
  split_ifs at ht
  · exact h.respond ht
  · refine Inv.changeWebhook ?_ ht
    refine ⟨h.webhook.congr rfl, h.crashed, fun hpoll => ?_, h.holders, h.delayed, h.flooded, h.refused⟩
    have hfree := h.exclusive hpoll
    exact ⟨hfree.noUrl, hfree.noActive, hfree.opened⟩
  · exact h.changeWebhook ht

theorem Inv.onSetWebhook (h : Inv inet P ids s) {force : Bool}
    (ht : s.onSetWebhook inet P query force now = .ok t) : Inv inet P ids t := by
  unfold UpdateConsumers.onSetWebhook at ht
  cases hclosing : s.webhook.isClosing with
  | true =>
      rw [hclosing, if_pos rfl] at ht
      exact h.respond ht
  | false =>
      rw [hclosing, if_neg Bool.false_ne_true] at ht
      obtain ⟨turn, table, hturn, -⟩ := takeTurn_cases P s query force now
      have htable := h.table table
      rw [hturn] at ht
      cases turn with
      | now => exact htable.processSetWebhookQuery ht
      | later =>
          cases ht
          exact ⟨h.webhook, h.crashed, h.exclusive, h.holders, h.delayed, h.flooded, h.refused⟩
      | flood => exact htable.respond ht

/-! ### Other messages -/

theorem Inv.longPollWakeup (h : Inv inet P ids s) (force : Bool) (now unixTime : Int) :
    Inv inet P ids { s with updates := s.updates.longPollWakeup force now unixTime } := by
  obtain ⟨hframe, hholders, -, hsome⟩ := s.updates.holders_longPollWakeup force now unixTime
  exact h.withUpdates hframe (fun hpoll => h.exclusive (hsome hpoll)) (hholders.append_left ids)

/-- `on_closed` answers the long poll, whatever the webhook has become. -/
theorem Inv.close (h : Inv inet P ids s) {webhook : ClientWebhook} (hinv : ClientWebhook.Inv inet webhook)
    (now unixTime : Int) :
    Inv inet P ids { s.withWebhook webhook with
      updates := (s.withWebhook webhook).updates.longPollWakeup true now unixTime } := by
  obtain ⟨q, hq⟩ := s.withWebhook_eq webhook
  rw [hq]
  obtain ⟨hframe, hholders, hnone, -⟩ := { s.updates with tqueue := q }.holders_longPollWakeup true now unixTime
  have hgone : ¬ ({ s.updates with tqueue := q }.longPollWakeup true now unixTime).longPoll.isSome = true := by
    rw [hnone rfl]
    exact Bool.false_ne_true
  have hsame : Inv inet P ids
      { s with updates := { s.updates with tqueue := q }.longPollWakeup true now unixTime } :=
    h.withUpdates hframe (fun hpoll => absurd hpoll hgone) (hholders.append_left ids)
  exact ⟨hinv, hsame.crashed, fun hpoll => absurd hpoll hgone, hsame.holders, h.delayed, h.flooded, h.refused⟩

theorem Inv.onWebhookEvent (h : Inv inet P ids s) {event : ClientWebhookEvent}
    (ht : s.onWebhookEvent inet P event now unixTime = .ok t) : Inv inet P ids t := by
  by_cases hquery : ∃ query time, event = .query query time
  · obtain ⟨query, time, rfl⟩ := hquery
    exact h.onSetWebhook ht
  by_cases hclosed : ∃ time, event = .authorizationStateClosed time
  · obtain ⟨time, rfl⟩ := hclosed
    obtain ⟨webhook, hwebhook, rfl⟩ := map_ok ht
    exact h.close (h.webhook.step_ok hwebhook) now unixTime
  · have hstep : (s.webhook.step inet P event).map s.withWebhook = .ok t := by
      unfold UpdateConsumers.onWebhookEvent at ht
      split at ht
      · exact absurd ⟨_, _, rfl⟩ hquery
      · exact absurd ⟨_, rfl⟩ hclosed
      · exact ht
    obtain ⟨webhook, hwebhook, rfl⟩ := map_ok hstep
    refine h.withWebhook (h.webhook.step_ok hwebhook) fun hpoll => (h.exclusive hpoll).step h.webhook ?_ ?_ hwebhook
    · exact fun query time he => hquery ⟨query, time, he⟩
    · exact fun time he => hclosed ⟨time, he⟩

theorem Inv.addUpdate (h : Inv inet P ids s) (first : FirstEventId) (data : Slice) (expiresAt extra : Int) :
    Inv inet P ids (s.addUpdate first data expiresAt extra now unixTime) := by
  unfold UpdateConsumers.addUpdate
  split_ifs
  · obtain ⟨hframe, hholders, hsome⟩ := s.updates.holders_addUpdate first data expiresAt extra now unixTime
    exact h.withUpdates hframe (fun hpoll => h.exclusive (hsome hpoll)) (hholders.append_left ids)
  · split
    · exact h
    · exact h.withUpdates rfl h.exclusive (List.Perm.refl _)

/-- The end of a sleep takes one of the waiting queries. -/
theorem perm_eraseIdx {α : Type*} {l : List α} {index : Nat} {a : α} (h : l[index]? = some a) (f : α → Nat) :
    (l.map f).Perm (f a :: (l.eraseIdx index).map f) := by
  obtain ⟨hlt, rfl⟩ := List.getElem?_eq_some_iff.1 h
  rw [← List.map_cons]
  exact ((List.getElem_cons_eraseIdx_perm hlt).map f).symm

theorem Inv.reportConflict (h : Inv inet P ids s) (index : Nat) : Inv inet P ids (s.reportConflict index) := by
  unfold UpdateConsumers.reportConflict
  split
  · exact h
  · rename_i id message hget
    refine h.withUpdates rfl h.exclusive (List.Perm.append_left ids ?_)
    have hcount := List.perm_iff_count.1 (perm_eraseIdx hget (·.1))
    rw [List.perm_iff_count]
    intro i
    have hi := hcount i
    simp only [ClientUpdates.holders, List.map_append, List.count_append, List.map_cons, List.map_nil,
      List.count_cons, List.count_nil] at hi ⊢
    omega

theorem Inv.reportFlood (h : Inv inet P ids s) (index : Nat) : Inv inet P ids (s.reportFlood index) := by
  unfold UpdateConsumers.reportFlood
  split
  · exact h
  · rename_i id query hget
    have hbig : IsBig P query := h.flooded _ (List.mem_of_getElem? hget)
    have htaken : Inv inet P (id :: ids) { s with flooded := s.flooded.eraseIdx index } := by
      refine ⟨h.webhook, h.crashed, h.exclusive, ?_, h.delayed, ?_, h.refused⟩
      · refine List.Perm.trans ?_ h.holders
        have hcount := List.perm_iff_count.1 (perm_eraseIdx hget (·.1))
        rw [List.perm_iff_count]
        intro i
        have hi := hcount i
        simp only [UpdateConsumers.holders, List.count_append, List.count_cons] at hi ⊢
        omega
      · exact fun w hw => h.flooded w ((List.eraseIdx_sublist _ _).subset hw)
    exact htaken.refuse (Or.inr hbig)

theorem Inv.resumeGetUpdates (h : Inv inet P ids s) (index : Nat) :
    Inv inet P ids (s.resumeGetUpdates P index now unixTime) := by
  unfold UpdateConsumers.resumeGetUpdates
  split
  · exact h
  · rename_i id query hget
    have hbig : IsBig P query := h.delayed _ (List.mem_of_getElem? hget)
    have htaken : Inv inet P (id :: ids) { s with delayedGetUpdates := s.delayedGetUpdates.eraseIdx index } := by
      refine ⟨h.webhook, h.crashed, h.exclusive, ?_, ?_, h.flooded, h.refused⟩
      · refine List.Perm.trans ?_ h.holders
        have hcount := List.perm_iff_count.1 (perm_eraseIdx hget (·.1))
        rw [List.perm_iff_count]
        intro i
        have hi := hcount i
        simp only [UpdateConsumers.holders, List.count_append, List.count_cons] at hi ⊢
        omega
      · exact fun w hw => h.delayed w ((List.eraseIdx_sublist _ _).subset hw)
    dsimp only
    split_ifs
    · exact htaken.refuse (Or.inr hbig)
    · exact htaken.onGetUpdates true

theorem Inv.resumeSetWebhook (h : Inv inet P ids s) {index : Nat}
    (ht : s.resumeSetWebhook inet P index now = .ok t) : Inv inet P ids t := by
  unfold UpdateConsumers.resumeSetWebhook at ht
  split at ht
  · cases ht
    exact h
  · rename_i query hget
    have htaken : Inv inet P ids { s with delayedSetWebhook := s.delayedSetWebhook.eraseIdx index } :=
      ⟨h.webhook, h.crashed, h.exclusive, h.holders, h.delayed, h.flooded, h.refused⟩
    dsimp only at ht
    split_ifs at ht
    · cases ht
      exact htaken
    · exact htaken.onSetWebhook ht

/-- A query that comes is in the hands of its handler. -/
theorem Inv.arrive (h : Inv inet P [] s) :
    Inv inet P [s.updates.nextQuery]
      { s with updates := { s.updates with nextQuery := s.updates.nextQuery + 1 } } := by
  refine ⟨h.webhook, h.crashed, h.exclusive, ?_, h.delayed, h.flooded, h.refused⟩
  change (s.updates.nextQuery :: s.holders).Perm (List.range (s.updates.nextQuery + 1))
  rw [List.range_succ]
  exact (h.holders.cons _).trans (List.perm_append_singleton _ _).symm

theorem Inv.step (h : Inv inet P [] s) {x : UpdateConsumersInput} (ht : s.step inet P x = .ok t) :
    Inv inet P [] t := by
  obtain ⟨event, now, unixTime⟩ := x
  unfold UpdateConsumers.step at ht
  have hstopped : ∀ {r : Except WebhookAssertion UpdateConsumers},
      (if s.webhook.stopped = true then .ok s else r) = .ok t → t = s ∨ r = .ok t := by
    intro r hr
    split_ifs at hr
    · exact Or.inl (Except.ok.inj hr).symm
    · exact Or.inr hr
  cases event with
  | delayedGetUpdates index =>
      cases ht
      exact h.resumeGetUpdates index
  | delayedSetWebhook index => exact h.resumeSetWebhook ht
  | delayedConflict index =>
      cases ht
      exact h.reportConflict index
  | delayedFlood index =>
      cases ht
      exact h.reportFlood index
  | tqueueChanged tqueue =>
      cases ht
      exact h.withUpdates rfl h.exclusive (List.Perm.refl _)
  | getUpdates query =>
      rcases hstopped ht with rfl | ht
      · exact h
      · cases ht
        exact h.arrive.onGetUpdates false
  | webhook event =>
      rcases hstopped ht with rfl | ht
      · exact h
      · exact h.onWebhookEvent ht
  | addUpdate first data expiresAt extra =>
      rcases hstopped ht with rfl | ht
      · exact h
      · cases ht
        exact h.addUpdate first data expiresAt extra
  | rawEvent =>
      rcases hstopped ht with rfl | ht
      · exact h
      · cases ht
        exact h.longPollWakeup true now unixTime
  | deleteLastSendMessageTime fileSize maxDelay =>
      rcases hstopped ht with rfl | ht
      · exact h
      · cases ht
        unfold UpdateConsumers.deleteLastSendMessageTime
        split_ifs
        · exact h
        · exact h.table _
        · exact h

/-! ### Runs -/

theorem inv_of_run {r : Except WebhookAssertion UpdateConsumers} (h : ∀ s, r = .ok s → Inv inet P [] s)
    (xs : List UpdateConsumersInput) {t : UpdateConsumers} (ht : StepRun.run (stepRun inet P) r xs = .ok t) :
    Inv inet P [] t := by
  induction xs generalizing r with
  | nil => exact h t ht
  | cons x xs ih =>
      refine ih (fun s hs => ?_) ht
      cases r with
      | error assertion => cases hs
      | ok s₀ => exact (h s₀ rfl).step hs

/-- The webhook leaves the updates to the long poll: no address, no actor, and no request for one. -/
def LeavesUpdates (w : ClientWebhook) : Prop :=
  w.settings.url = [] ∧ w.webhookId = none ∧ ∀ q ∈ w.webhookSetQuery.toList ++ w.activeWebhookSetQuery.toList,
    q.query.newWebhookUrl = []

theorem Inv.leavesUpdates (h : Inv inet P ids s) (hpoll : s.updates.longPoll.isSome = true) :
    LeavesUpdates s.webhook := by
  have hfree := h.exclusive hpoll
  obtain ⟨hpending, hid, -⟩ := h.webhook.noUrl hfree.noUrl
  refine ⟨hfree.noUrl, hid, fun q hq => ?_⟩
  rw [hpending, hfree.noActive] at hq
  cases hq

def answers (s : UpdateConsumers) : List Nat := s.updates.answers.map (·.1) ++ s.refusals.map (·.1)

/-- The queries that wait, each for the end of a sleep or for updates. -/
def waiting (s : UpdateConsumers) : List Nat :=
  (s.updates.longPoll.map (·.query)).toList ++ s.updates.delayedConflicts.map (·.1) ++
    s.delayedGetUpdates.map (·.1) ++ s.flooded.map (·.1)

theorem holders_perm (s : UpdateConsumers) : s.holders.Perm (s.answers ++ s.waiting) := by
  rw [List.perm_iff_count]
  intro i
  simp only [holders, answers, waiting, ClientUpdates.holders, List.count_append]
  omega

/-- What ends the wait of a query also answers it. -/
structure WaitsEnd (inet : InetPton) (P : WebhookParameters) (s : UpdateConsumers) : Prop where
  longPoll : s.webhook.stopped = false → ∀ l ∈ s.updates.longPoll, ∀ now unixTime t,
    s.step inet P ⟨.rawEvent, now, unixTime⟩ = .ok t → l.query ∈ t.answers
  conflict : ∀ index w, s.updates.delayedConflicts[index]? = some w → ∀ now unixTime t,
    s.step inet P ⟨.delayedConflict index, now, unixTime⟩ = .ok t → w.1 ∈ t.answers
  flood : ∀ index w, s.flooded[index]? = some w → ∀ now unixTime t,
    s.step inet P ⟨.delayedFlood index, now, unixTime⟩ = .ok t → w.1 ∈ t.answers

theorem mem_answers_of_longPollWakeup {u : ClientUpdates} {l : LongPoll} (hpoll : u.longPoll = some l)
    (now unixTime : Int) : l.query ∈ (u.longPollWakeup true now unixTime).answers.map (·.1) := by
  obtain ⟨q', r, n, -, hcall⟩ := { u with longPoll := none }.doGetUpdates_cases l.offset l.limit 0 l.query now unixTime
  have hwakeup : u.longPollWakeup true now unixTime =
      { u with longPoll := none }.doGetUpdates l.offset l.limit 0 l.query now unixTime := by
    unfold ClientUpdates.longPollWakeup
    rw [hpoll]
    rfl
  rw [hwakeup, hcall, if_neg fun h => h.1 rfl]
  unfold ClientUpdates.answer
  rw [List.map_append]
  exact List.mem_append_right _ List.mem_cons_self

theorem waitsEnd (s : UpdateConsumers) : WaitsEnd inet P s where
  longPoll hopen l hl now unixTime t ht := by
    unfold step at ht
    dsimp only at ht
    rw [hopen] at ht
    cases ht
    exact List.mem_append_left _ (mem_answers_of_longPollWakeup hl now unixTime)
  conflict index w hw now unixTime t ht := by
    cases ht
    unfold reportConflict answers
    rw [hw]
    dsimp only
    rw [List.map_append]
    exact List.mem_append_left _ (List.mem_append_right _ List.mem_cons_self)
  flood index w hw now unixTime t ht := by
    cases ht
    unfold reportFlood answers
    rw [hw]
    dsimp only [refuse]
    rw [List.map_append]
    exact List.mem_append_right _ (List.mem_append_right _ List.mem_cons_self)

/-- A long poll waits only if the webhook leaves the updates to it, and not in a closed client. Every query
has one answer or waits at one place, where it is answered when its wait ends; only a query with many bytes
of files has to wait for its turn, or is refused for another reason than the end of the client. -/
theorem one_consumer (inet : InetPton) (P : WebhookParameters) (xs : List UpdateConsumersInput)
    (s : UpdateConsumers) (hs : StepRun.run (stepRun inet P) (.ok {}) xs = .ok s) :
    (s.updates.longPoll.isSome = true → LeavesUpdates s.webhook ∧ s.webhook.tdClosed = false) ∧
    (s.answers ++ s.waiting).Perm (List.range s.updates.nextQuery) ∧ WaitsEnd inet P s ∧
    (∀ r ∈ s.refusals, (∃ answer, r.2.2 = .closing answer) ∨ IsBig P r.2.1) ∧
    ∀ w ∈ s.delayedGetUpdates ++ s.flooded, IsBig P w.2 := by
  have h := inv_of_run (fun s hs => by cases hs; exact inv_init) xs hs
  refine ⟨fun hpoll => ⟨h.leavesUpdates hpoll, (h.exclusive hpoll).opened⟩,
    s.holders_perm.symm.trans h.holders, s.waitsEnd, h.refused, fun w hw => ?_⟩
  rcases List.mem_append.1 hw with hw | hw
  · exact h.delayed w hw
  · exact h.flooded w hw

def noInet : InetPton := ⟨fun _ => none, fun _ => none⟩

/-- A `getUpdates` query that may wait, and one with a file of ten million bytes. -/
def waitingGetUpdates : BotQuery where
  token := []
  method := "getupdates".toList
  args := [("timeout".toList, "5".toList)]

def bigGetUpdates : BotQuery where
  token := []
  method := "getupdates".toList
  files := [{ fieldName := "a".toList, size := 10 ^ 7 }]

def isOkAnd (p : UpdateConsumers → Bool) : Except WebhookAssertion UpdateConsumers → Bool
  | .ok s => p s
  | .error _ => false

theorem exists_of_isOkAnd {p : UpdateConsumers → Bool} {r : Except WebhookAssertion UpdateConsumers}
    (h : isOkAnd p r = true) : ∃ s, r = .ok s ∧ p s = true := by
  cases r with
  | error assertion => cases h
  | ok s => exact ⟨s, rfl, h⟩

theorem one_consumer_longPoll :
    ∃ s, StepRun.run (stepRun noInet {}) (.ok {}) [⟨.getUpdates waitingGetUpdates, 0, 0⟩] = .ok s ∧
      s.updates.longPoll.isSome = true ∧ LeavesUpdates s.webhook := by
  obtain ⟨s, hs, hpoll⟩ := exists_of_isOkAnd (p := (·.updates.longPoll.isSome))
    (r := StepRun.run (stepRun noInet {}) (.ok {}) [⟨.getUpdates waitingGetUpdates, 0, 0⟩]) (by decide)
  exact ⟨s, hs, hpoll, ((one_consumer noInet {} _ s hs).1 hpoll).1⟩

/-- The ninth of nine queries with a big file gets neither updates nor a conflict nor the error of the end
of the client. -/
theorem one_consumer_flood :
    let xs := List.replicate 9 ⟨.getUpdates bigGetUpdates, 10 ^ 12, 1000⟩ ++
      [⟨.delayedFlood 0, 10 ^ 12 + 3 * 10 ^ 9, 1003⟩]
    ¬ ∀ s, StepRun.run (stepRun noInet {}) (.ok {}) xs = .ok s →
      ∀ r ∈ s.refusals, ∃ answer, r.2.2 = .closing answer := by
  intro xs hall
  obtain ⟨s, hs, hflood⟩ := exists_of_isOkAnd (p := (·.refusals.any (·.2.2 = .flood)))
    (r := StepRun.run (stepRun noInet {}) (.ok {}) xs) (by decide)
  obtain ⟨r, hr, hrefusal⟩ := List.any_eq_true.1 hflood
  obtain ⟨answer, hclosing⟩ := hall s hs r hr
  rw [of_decide_eq_true hrefusal] at hclosing
  cases hclosing

end UpdateConsumers

end TelegramBotApi
