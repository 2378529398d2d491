import TelegramBotApi.SendMessages

/-!
# The accounts of the messages that are being sent

`Accounts` relates the count of each chat, the messages that are not sent yet, the queries that wait for
them and the messages that TDLib is sending. It has an extra number for every chat, so that it also speaks
of the states inside a callback, when a request has left the table and its messages are not entered yet. A
report about a message has one effect, `settle`, whatever it says.
-/

namespace TelegramBotApi

open TableSum

namespace SendClient

variable {s : SendClient} {extra : Int → Int}

@[simp] theorem check_true (s : SendClient) : s.check true = s := by
  unfold check
  rw [Bool.not_true, Bool.or_false]

/-- The messages that were requested to a chat and not yet answered by TDLib. -/
def requested (s : SendClient) (chatId : Int) : Nat :=
  total (fun _ r => if r.chatId = chatId then r.method.messageCount else 0) s.handlers

def unsent (s : SendClient) (chatId : Int) : Nat :=
  total (fun message _ => if message.chatId = chatId then 1 else 0) s.yetUnsentMessages

def pointing (s : SendClient) (queryId : Int) : Nat :=
  total (fun _ q => if q = queryId then 1 else 0) s.yetUnsentMessages

structure Accounts (s : SendClient) (extra : Int → Int) : Prop where
  count : ∀ chatId, s.countOf chatId = s.requested chatId + s.unsent chatId + extra chatId
  awaited : ∀ q p, s.pendingSendMessageQueries.lookup q = some p →
    p.awaitedMessageCount = s.pointing q ∧ 0 < p.awaitedMessageCount ∧
      (p.isMultisend = false → p.awaitedMessageCount = 1)
  pointed : ∀ k q, s.yetUnsentMessages.lookup k = some q → ∃ p, s.pendingSendMessageQueries.lookup q = some p
  numbered : ∀ q p, s.pendingSendMessageQueries.lookup q = some p → q < s.currentSendMessageQueryId
  sending : s.tdClient = true → ∀ k, s.sending.lookup k =
    ((s.yetUnsentMessages.lookup k).bind s.pendingSendMessageQueries.lookup).map (·.query)
  known : ∀ k ∈ s.messages, s.yetUnsentMessages.lookup k = none
  requests : ∀ h r, s.handlers.lookup h = some r → h < s.nextHandlerId
  closed : s.tdClient = false →
    s.handlers = ∅ ∧ s.pendingSendMessageQueries = ∅ ∧ (s.closing = true ∨ s.loggingOut = true)
  sound : s.crashed = false

def decreased (t : AList fun _ : Int => Int) (chatId count : Int) : AList fun _ : Int => Int :=
  let n := (t.lookup chatId).getD 0
  if n - count = 0 then t.erase chatId else t.insert chatId (n - count)

theorem decreased_count (t : AList fun _ : Int => Int) (chatId count c : Int) :
    ((decreased t chatId count).lookup c).getD 0 = (t.lookup c).getD 0 - if c = chatId then count else 0 := by
  unfold decreased
  dsimp only
  by_cases hc : c = chatId
  · subst hc
    rw [if_pos rfl]
    split_ifs with hzero
    · rw [AList.lookup_erase]
      exact hzero.symm
    · rw [AList.lookup_insert]
      rfl
  · rw [if_neg hc, sub_zero]
    split_ifs
    · rw [AList.lookup_erase_ne hc]
    · rw [AList.lookup_insert_ne hc]

theorem decrease_eq {chatId count : Int} (hpos : 0 < count) (hle : count ≤ s.countOf chatId) :
    s.decreaseYetUnsentMessageCount chatId count =
      { s with yetUnsentMessageCount := decreased s.yetUnsentMessageCount chatId count } := by
  unfold countOf at hle
  unfold decreaseYetUnsentMessageCount decreased
  cases hlookup : s.yetUnsentMessageCount.lookup chatId with
  | none =>
      rw [hlookup] at hle
      exact absurd (hpos.trans_le hle) (lt_irrefl 0)
  | some n =>
      rw [hlookup] at hle
      dsimp only [Option.getD_some] at hle ⊢
      rw [if_neg (not_lt.2 hle)]
      split_ifs
      · rfl
      · rfl

/-- Some of the extra messages are given up. -/
theorem Accounts.decrease (h : Accounts s extra) {chatId count : Int} (hpos : 0 < count) (hle : count ≤ extra chatId) :
    Accounts (s.decreaseYetUnsentMessageCount chatId count) (fun c => extra c - if c = chatId then count else 0) := by
  have hcount : count ≤ s.countOf chatId := by
    have := h.count chatId
    omega
  rw [decrease_eq hpos hcount]
  refine ⟨fun c => ?_, h.awaited, h.pointed, h.numbered, h.sending, h.known, h.requests, h.closed, h.sound⟩
  have hbefore := h.count c
  unfold countOf at hbefore ⊢
  rw [decreased_count]
  change _ = (s.requested c : Int) + s.unsent c + _
  omega

theorem Accounts.answer (h : Accounts s extra) (query : Nat) (a : SendAnswer) : Accounts (s.answer query a) extra :=
  ⟨h.count, h.awaited, h.pointed, h.numbered, h.sending, h.known, h.requests, h.closed, h.sound⟩

theorem Accounts.congr (h : Accounts s extra) {extra' : Int → Int} (heq : ∀ c, extra' c = extra c) :
    Accounts s extra' := by
  have hsame : extra' = extra := funext heq
  rw [hsame]
  exact h

section Sent

variable {queryId : Int} {p : PendingSendMessageQuery} {r : SendRequest}

/-- The query of a callback that has entered some of its messages. -/
def entered (p : PendingSendMessageQuery) (n : Nat) : PendingSendMessageQuery :=
  { p with
    awaitedMessageCount := p.awaitedMessageCount + n
    totalMessageCount := p.totalMessageCount + n }

theorem entered_entered (p : PendingSendMessageQuery) (n m : Nat) : entered (entered p n) m = entered p (n + m) := by
  unfold entered
  dsimp only
  rw [Int.natCast_add, ← add_assoc, ← add_assoc]

theorem foldl_onSentMessage {chatId : Int} {messageIds : List Int} (hnodup : messageIds.Nodup)
    (hnew : ∀ messageId ∈ messageIds, s.yetUnsentMessages.lookup ⟨chatId, messageId⟩ = none)
    (hp : s.pendingSendMessageQueries.lookup queryId = some p) :
    messageIds.foldl (fun s messageId => s.onSentMessage queryId ⟨chatId, messageId⟩) s =
      { s with
        yetUnsentMessages := insertAll s.yetUnsentMessages (messageIds.map fun messageId => ⟨chatId, messageId⟩) queryId
        pendingSendMessageQueries :=
          if messageIds = [] then s.pendingSendMessageQueries
          else s.pendingSendMessageQueries.insert queryId (entered p messageIds.length) } := by
  induction messageIds generalizing s p with
  | nil => rfl
  | cons first messageIds ih =>
      obtain ⟨hfirst, hnodup⟩ := List.nodup_cons.1 hnodup
      have hstep : s.onSentMessage queryId ⟨chatId, first⟩ = { s with
          yetUnsentMessages := s.yetUnsentMessages.insert ⟨chatId, first⟩ queryId
          pendingSendMessageQueries := s.pendingSendMessageQueries.insert queryId (entered p 1) } := by
        unfold onSentMessage
        rw [hnew first List.mem_cons_self]
        dsimp only [Option.isSome_none]
        rw [if_neg Bool.false_ne_true, hp]
        rfl
      rw [List.foldl_cons, hstep, ih hnodup ?_ (AList.lookup_insert _)]
      · rw [if_neg (List.cons_ne_nil _ _)]
        by_cases hnil : messageIds = []
        · rw [if_pos hnil, hnil]
          rfl
        · rw [if_neg hnil]
          rw [entered_entered, List.length_cons, Nat.add_comm]
          congr 1
          exact AList.insert_insert _
      · intro messageId hmem
        have hne : (⟨chatId, messageId⟩ : MessageFullId) ≠ ⟨chatId, first⟩ := fun heq => by
          cases heq
          exact hfirst hmem
        change (s.yetUnsentMessages.insert ⟨chatId, first⟩ queryId).lookup ⟨chatId, messageId⟩ = none
        rw [AList.lookup_insert_ne hne]
        exact hnew messageId (List.mem_cons_of_mem _ hmem)

/-- The messages of a callback are entered under a new query. -/
theorem onSentMessages_eq {messageIds : List Int} (hsome : messageIds ≠ []) (hnodup : messageIds.Nodup)
    (hnew : ∀ messageId ∈ messageIds, s.yetUnsentMessages.lookup ⟨r.chatId, messageId⟩ = none)
    (hfresh : s.pendingSendMessageQueries.lookup s.currentSendMessageQueryId = none) :
    s.onSentMessages r messageIds = { s with
      currentSendMessageQueryId := s.currentSendMessageQueryId + 1
      yetUnsentMessages := insertAll s.yetUnsentMessages (messageIds.map fun messageId => ⟨r.chatId, messageId⟩)
        s.currentSendMessageQueryId
      pendingSendMessageQueries := s.pendingSendMessageQueries.insert s.currentSendMessageQueryId
        (entered { query := r.query, method := r.method, isMultisend := r.method.isMultisend }
          messageIds.length) } := by
  have hget : s.getSendMessageQueryId r.query r.method r.method.isMultisend = { s with
      currentSendMessageQueryId := s.currentSendMessageQueryId + 1
      pendingSendMessageQueries := s.pendingSendMessageQueries.insert s.currentSendMessageQueryId
        { query := r.query, method := r.method, isMultisend := r.method.isMultisend } } := by
    unfold getSendMessageQueryId
    dsimp only
    rw [hfresh, Option.isNone_none, check_true]
  have hfold := foldl_onSentMessage (s := s.getSendMessageQueryId r.query r.method r.method.isMultisend)
    hnodup (by rw [hget]; exact hnew)
    (by rw [hget]; exact AList.lookup_insert _)
  refine hfold.trans ?_
  rw [hget, if_neg hsome]
  congr 1
  exact AList.insert_insert _

end Sent

theorem Accounts.lookup_fresh (h : Accounts s extra) :
    s.pendingSendMessageQueries.lookup s.currentSendMessageQueryId = none := by
  by_contra hsome
  obtain ⟨p, hp⟩ := Option.ne_none_iff_exists'.1 hsome
  exact absurd (h.numbered _ p hp) (lt_irrefl _)

/-- TDLib is sending exactly the messages that the client waits for. -/
theorem Accounts.sending_eq_none (h : Accounts s extra) (htd : s.tdClient = true) (k : MessageFullId) :
    s.sending.lookup k = none ↔ s.yetUnsentMessages.lookup k = none := by
  rw [h.sending htd]
  cases hk : s.yetUnsentMessages.lookup k with
  | none => exact iff_of_true rfl rfl
  | some q =>
      obtain ⟨p, hp⟩ := h.pointed k q hk
      rw [Option.bind_some, hp]
      exact iff_of_false (Option.some_ne_none _) (Option.some_ne_none _)

/-- No message points to a query that does not wait. -/
theorem Accounts.pointing_eq_zero (h : Accounts s extra) {q : Int}
    (hq : s.pendingSendMessageQueries.lookup q = none) : s.pointing q = 0 := by
  refine total_eq_zero fun k q' hk => if_neg fun heq => ?_
  obtain ⟨p, hp⟩ := h.pointed k q' hk
  rw [heq, hq] at hp
  cases hp

/-- The messages that TDLib has returned to a callback are entered. -/
theorem Accounts.enter (h : Accounts s extra) {r : SendRequest} {messageIds : List Int} (htd : s.tdClient = true)
    (hsome : messageIds ≠ []) (hnodup : messageIds.Nodup)
    (hnew : ∀ messageId ∈ messageIds,
      s.sending.lookup ⟨r.chatId, messageId⟩ = none ∧ (⟨r.chatId, messageId⟩ : MessageFullId) ∉ s.messages)
    (hone : r.method.isMultisend = false → messageIds.length = 1) :
    Accounts ({ s with
        sending := insertAll s.sending (messageIds.map fun messageId => ⟨r.chatId, messageId⟩) r.query
      }.onSentMessages r messageIds)
      (fun c => extra c - if c = r.chatId then messageIds.length else 0) := by
  have hunsent : ∀ k ∈ messageIds.map fun messageId => (⟨r.chatId, messageId⟩ : MessageFullId),
      s.yetUnsentMessages.lookup k = none := fun k hk => by
    obtain ⟨messageId, hmem, rfl⟩ := List.mem_map.1 hk
    exact (h.sending_eq_none htd _).1 (hnew messageId hmem).1
  have hkeys : (messageIds.map fun messageId => (⟨r.chatId, messageId⟩ : MessageFullId)).Nodup :=
    hnodup.map fun a b heq => by cases heq; rfl
  have hentered := onSentMessages_eq (r := r) (s := { s with
      sending := insertAll s.sending (messageIds.map fun messageId => ⟨r.chatId, messageId⟩) r.query })
    hsome hnodup (fun messageId hmem => hunsent _ (List.mem_map_of_mem hmem)) h.lookup_fresh
  rw [hentered]
  generalize hks : (messageIds.map fun messageId => (⟨r.chatId, messageId⟩ : MessageFullId)) = ks at hunsent hkeys
  have hchat : ∀ k ∈ ks, k.chatId = r.chatId := fun k hk => by
    rw [← hks] at hk
    obtain ⟨messageId, -, rfl⟩ := List.mem_map.1 hk
    rfl
  have hlength : ks.length = messageIds.length := by
    rw [← hks, List.length_map]
  refine ⟨fun c => ?_, fun q p hp => ?_, fun k q hk => ?_, fun q p hp => ?_, fun _ k => ?_, fun k hk => ?_,
    h.requests, fun hclosed => ?_, h.sound⟩
  · have hbefore := h.count c
    have hafter : total (fun message _ => if message.chatId = c then 1 else 0)
        (insertAll s.yetUnsentMessages ks s.currentSendMessageQueryId) =
          (if c = r.chatId then messageIds.length else 0) + s.unsent c := by
      rw [total_insertAll hkeys hunsent]
      congr 1
      split_ifs with hc
      · rw [sum_map_eq (fun k hk => if_pos ((hchat k hk).trans hc.symm)), hlength, Nat.mul_one]
      · exact sum_map_eq fun k hk => if_neg fun heq => hc (heq.symm.trans (hchat k hk))
    change s.countOf c = (s.requested c : Int) + (total _ (insertAll s.yetUnsentMessages ks _) : Nat) + _
    rw [hafter]
    split_ifs with hc
    · push_cast
      omega
    · push_cast
      omega
  · have hpoint : ∀ q, total (fun _ q' => if q' = q then 1 else 0)
        (insertAll s.yetUnsentMessages ks s.currentSendMessageQueryId) =
          (if s.currentSendMessageQueryId = q then messageIds.length else 0) + s.pointing q := fun q => by
      rw [total_insertAll hkeys hunsent]
      congr 1
      split_ifs with hq
      · rw [sum_map_eq fun _ _ => rfl, hlength, Nat.mul_one]
      · exact sum_map_eq fun _ _ => rfl
    change p.awaitedMessageCount = (total _ (insertAll s.yetUnsentMessages ks _) : Nat) ∧ _
    rw [hpoint]
    change (s.pendingSendMessageQueries.insert _ _).lookup q = some p at hp
    rcases TableLookup.of_insert hp with ⟨rfl, rfl⟩ | ⟨hq, hp⟩
    · rw [if_pos rfl, h.pointing_eq_zero h.lookup_fresh]
      have hpos : 0 < messageIds.length := List.length_pos_of_ne_nil hsome
      unfold entered
      dsimp only
      refine ⟨by omega, by omega, fun hmulti => ?_⟩
      rw [hone hmulti]
      rfl
    · rw [if_neg (Ne.symm hq), Nat.zero_add]
      exact h.awaited q p hp
  · change (insertAll s.yetUnsentMessages ks _).lookup k = some q at hk
    change ∃ p, (s.pendingSendMessageQueries.insert _ _).lookup q = some p
    by_cases hq : q = s.currentSendMessageQueryId
    · rw [hq]
      exact ⟨_, AList.lookup_insert _⟩
    · rw [lookup_insertAll] at hk
      rw [AList.lookup_insert_ne hq]
      split_ifs at hk
      · cases hk
        exact absurd rfl hq
      · exact h.pointed k q hk
  · change (s.pendingSendMessageQueries.insert _ _).lookup q = some p at hp
    change q < s.currentSendMessageQueryId + 1
    by_cases hq : q = s.currentSendMessageQueryId
    · omega
    · rw [AList.lookup_insert_ne hq] at hp
      have := h.numbered q p hp
      omega
  · change (insertAll s.sending ks _).lookup k = (((insertAll s.yetUnsentMessages ks _).lookup k).bind
      (s.pendingSendMessageQueries.insert _ _).lookup).map (·.query)
    rw [lookup_insertAll, lookup_insertAll]
    split_ifs
    · rw [Option.bind_some, AList.lookup_insert]
      rfl
    · rw [h.sending htd]
      cases hk : s.yetUnsentMessages.lookup k with
      | none => rfl
      | some q =>
          obtain ⟨p, hp⟩ := h.pointed k q hk
          have hq : q ≠ s.currentSendMessageQueryId := (h.numbered q p hp).ne
          rw [Option.bind_some, Option.bind_some, AList.lookup_insert_ne hq]
  · change (insertAll s.yetUnsentMessages ks _).lookup k = none
    rw [lookup_insertAll, if_neg]
    · exact h.known k hk
    · intro hmem
      rw [← hks] at hmem
      obtain ⟨messageId, hid, rfl⟩ := List.mem_map.1 hmem
      exact (hnew messageId hid).2 hk
  · rw [show _ = s.tdClient from rfl, htd] at hclosed
    cases hclosed

section Settle

variable {k : MessageFullId} {q : Int} {p p' : PendingSendMessageQuery} {a : SendAnswer}

/-- A message is no longer being sent. Its query waits for the others, or is answered if it was the last. -/
def settle (s : SendClient) (k : MessageFullId) (q : Int) (p p' : PendingSendMessageQuery) (a : SendAnswer) :
    SendClient :=
  { s with
    yetUnsentMessageCount := decreased s.yetUnsentMessageCount k.chatId 1
    yetUnsentMessages := s.yetUnsentMessages.erase k
    pendingSendMessageQueries :=
      if p.awaitedMessageCount = 1 then s.pendingSendMessageQueries.erase q
      else s.pendingSendMessageQueries.insert q p'
    answers := if p.awaitedMessageCount = 1 then s.answers ++ [(p.query, a)] else s.answers }

/-- The query after a report. -/
structure Follows (p p' : PendingSendMessageQuery) : Prop where
  query : p'.query = p.query
  isMultisend : p'.isMultisend = p.isMultisend
  awaited : p'.awaitedMessageCount = p.awaitedMessageCount - 1

theorem lookup_settle_ne {q' : Int} (hq : q' ≠ q) :
    (s.settle k q p p' a).pendingSendMessageQueries.lookup q' = s.pendingSendMessageQueries.lookup q' := by
  unfold settle
  dsimp only
  split_ifs
  · exact AList.lookup_erase_ne hq
  · exact AList.lookup_insert_ne hq

/-- A query that waits now waited before, or is the one of the message and waits for others. -/
theorem pending_settle {q' : Int} {r : PendingSendMessageQuery}
    (h : (s.settle k q p p' a).pendingSendMessageQueries.lookup q' = some r) :
    (q' = q ∧ r = p' ∧ p.awaitedMessageCount ≠ 1) ∨ (q' ≠ q ∧ s.pendingSendMessageQueries.lookup q' = some r) := by
  unfold settle at h
  dsimp only at h
  split_ifs at h with hlast
  · exact Or.inr (TableLookup.of_erase h)
  · rcases TableLookup.of_insert h with ⟨hq, hr⟩ | hold
    · exact Or.inl ⟨hq, hr, hlast⟩
    · exact Or.inr hold

theorem mem_answers_settle {query : Nat} {b : SendAnswer} :
    (query, b) ∈ (s.settle k q p p' a).answers ↔
      (query, b) ∈ s.answers ∨ p.awaitedMessageCount = 1 ∧ query = p.query ∧ b = a := by
  unfold settle
  dsimp only
  split_ifs with hlast
  · rw [List.mem_append, List.mem_singleton, Prod.mk.injEq, and_iff_right hlast]
  · exact (or_iff_left fun hboth => hlast hboth.1).symm

theorem lookup_settle_self (h : p.awaitedMessageCount ≠ 1) :
    (s.settle k q p p' a).pendingSendMessageQueries.lookup q = some p' := by
  unfold settle
  dsimp only
  rw [if_neg h, AList.lookup_insert]

/-- The last message of a query is the only one that points to it. -/
theorem Accounts.ne_of_last (h : Accounts s extra) (hk : s.yetUnsentMessages.lookup k = some q)
    (hp : s.pendingSendMessageQueries.lookup q = some p) (hlast : p.awaitedMessageCount = 1) {k' : MessageFullId}
    {q' : Int} (hk' : (s.yetUnsentMessages.erase k).lookup k' = some q') : q' ≠ q := by
  intro heq
  have hawaited := (h.awaited q p hp).1
  have hsum := total_eq_add_erase (fun _ q'' => if q'' = q then 1 else 0) hk
  have hle := le_total (fun _ q'' => if q'' = q then 1 else 0) hk'
  rw [if_pos rfl] at hsum
  rw [heq, if_pos rfl] at hle
  unfold pointing at hawaited
  omega

theorem Accounts.report_settle (h : Accounts s extra) (htd : s.tdClient = true)
    (hk : s.yetUnsentMessages.lookup k = some q) (hp : s.pendingSendMessageQueries.lookup q = some p)
    (hfollows : Follows p p') (outcome : Option Int) : Accounts ((s.report k outcome).settle k q p p' a) extra := by
  obtain ⟨hawaited, hpos, hone⟩ := h.awaited q p hp
  have hpointing : ∀ q', s.pointing q' =
      (if q = q' then 1 else 0) + total (fun _ q'' => if q'' = q' then 1 else 0) (s.yetUnsentMessages.erase k) :=
    fun q' => total_eq_add_erase _ hk
  have hreport : s.report k outcome = { s with
      sending := s.sending.erase k
      reports := s.reports ++ [(p.query, outcome)] } := by
    have hsending : s.sending.lookup k = some p.query := by
      rw [h.sending htd, hk, Option.bind_some, hp]
      rfl
    unfold report
    rw [hsending]
  rw [hreport]
  refine ⟨fun c => ?_, fun q' p'' hp'' => ?_, fun k' q' hk' => ?_, fun q' p'' hp'' => ?_, fun _ k' => ?_,
    fun k' hknown => ?_, h.requests, fun hclosed => ?_, h.sound⟩
  · have hbefore := h.count c
    have hunsent : s.unsent c = (if k.chatId = c then 1 else 0) +
        total (fun message _ => if message.chatId = c then 1 else 0) (s.yetUnsentMessages.erase k) :=
      total_eq_add_erase _ hk
    unfold countOf at hbefore ⊢
    dsimp only [settle]
    rw [decreased_count]
    change _ = (s.requested c : Int) + (total _ (s.yetUnsentMessages.erase k) : Nat) + _
    by_cases hc : c = k.chatId
    · rw [if_pos hc.symm] at hunsent
      rw [if_pos hc]
      omega
    · rw [if_neg (Ne.symm hc)] at hunsent
      rw [if_neg hc]
      omega
  · have hsum := hpointing q'
    change p''.awaitedMessageCount = (total _ (s.yetUnsentMessages.erase k) : Nat) ∧ _
    rcases pending_settle hp'' with ⟨rfl, rfl, hlast⟩ | ⟨hq', hold⟩
    · rw [if_pos rfl] at hsum
      rw [hfollows.awaited, hfollows.isMultisend]
      exact ⟨by omega, by omega, fun hmulti => absurd (hone hmulti) hlast⟩
    · rw [if_neg (Ne.symm hq'), Nat.zero_add] at hsum
      rw [← hsum]
      exact h.awaited q' p'' hold
  · by_cases hq' : q' = q
    · rw [hq']
      exact ⟨p', lookup_settle_self fun hlast => h.ne_of_last hk hp hlast hk' hq'⟩
    · rw [lookup_settle_ne hq']
      exact h.pointed k' q' (TableLookup.of_erase hk').2
  · rcases pending_settle hp'' with ⟨rfl, -, -⟩ | ⟨-, hold⟩
    · exact h.numbered q' p hp
    · exact h.numbered q' p'' hold
  · change (s.sending.erase k).lookup k' = (((s.yetUnsentMessages.erase k).lookup k').bind _).map _
    by_cases hne : k' = k
    · rw [hne, AList.lookup_erase, AList.lookup_erase]
      rfl
    · rw [AList.lookup_erase_ne hne, AList.lookup_erase_ne hne, h.sending htd]
      cases hk' : s.yetUnsentMessages.lookup k' with
      | none => rfl
      | some q' =>
          rw [Option.bind_some, Option.bind_some]
          by_cases hq' : q' = q
          · subst hq'
            have hkept : (s.yetUnsentMessages.erase k).lookup k' = some q' := (AList.lookup_erase_ne hne).trans hk'
            rw [lookup_settle_self fun hlast => h.ne_of_last hk hp hlast hkept rfl, hp]
            exact congrArg some hfollows.query.symm
          · rw [lookup_settle_ne hq']
  · change (s.yetUnsentMessages.erase k).lookup k' = _
    by_cases hne : k' = k
    · rw [hne, AList.lookup_erase]
    · rw [AList.lookup_erase_ne hne]
      exact h.known k' hknown
  · change s.tdClient = false at hclosed
    rw [htd] at hclosed
    cases hclosed

theorem Accounts.one_le_countOf (h : Accounts s extra) (hk : s.yetUnsentMessages.lookup k = some q)
    (hextra : 0 ≤ extra k.chatId) : 1 ≤ s.countOf k.chatId := by
  have hle := le_total (fun message _ => if message.chatId = k.chatId then 1 else 0) hk
  rw [if_pos rfl] at hle
  have hbalance := h.count k.chatId
  unfold unsent at hbalance
  omega

theorem extract_eq (hk : s.yetUnsentMessages.lookup k = some q) (hcount : 1 ≤ s.countOf k.chatId) :
    s.extractYetUnsentMessageQueryId k = (some q, { s with
      yetUnsentMessages := s.yetUnsentMessages.erase k
      yetUnsentMessageCount := decreased s.yetUnsentMessageCount k.chatId 1 }) := by
  unfold extractYetUnsentMessageQueryId
  rw [hk]
  dsimp only
  have hdecrease := decrease_eq (s := { s with yetUnsentMessages := s.yetUnsentMessages.erase k })
    Int.one_pos hcount
  rw [hdecrease]

theorem addError_eq (p : PendingSendMessageQuery) (error : Status) :
    ∃ e, p.addError error = { p with error := some e } := by
  unfold PendingSendMessageQuery.addError
  split
  · exact ⟨_, rfl⟩
  · rename_i hfirst
    cases herror : p.error with
    | none =>
        rw [herror] at hfirst
        exact absurd rfl hfirst
    | some e =>
        refine ⟨e, ?_⟩
        rw [← herror]

theorem onMessageSendFailed_eq (hk : s.yetUnsentMessages.lookup k = some q)
    (hp : s.pendingSendMessageQueries.lookup q = some p) (hcount : 1 ≤ s.countOf k.chatId)
    (hone : p.isMultisend = false → p.awaitedMessageCount = 1) (error : Status) :
    ∃ e, s.onMessageSendFailed k error = s.settle k q p
        { p.addError error with awaitedMessageCount := p.awaitedMessageCount - 1 } (.error e) ∧
      (p.isMultisend = true → (p.addError error).error = some e) := by
  obtain ⟨e, he⟩ := addError_eq p error
  unfold onMessageSendFailed
  rw [extract_eq hk hcount]
  dsimp only
  rw [hp]
  dsimp only
  cases hmulti : p.isMultisend with
  | true =>
      rw [if_pos rfl]
      refine ⟨e, ?_, fun _ => by rw [he]⟩
      rw [he]
      unfold settle
      by_cases hlast : p.awaitedMessageCount = 1
      · rw [if_pos (by omega), if_pos hlast, if_pos hlast]
        rfl
      · rw [if_neg (by omega), if_neg hlast, if_neg hlast]
        rfl
  | false =>
      have hlast := hone hmulti
      rw [if_neg Bool.false_ne_true]
      refine ⟨error, ?_, fun hmulti => absurd hmulti Bool.false_ne_true⟩
      unfold settle
      rw [if_pos hlast, if_pos hlast, decide_eq_true hlast, check_true]
      rfl

/-- The answer of a query when all its messages but this one have been reported. -/
def lastAnswer (p : PendingSendMessageQuery) (newMessageId : Int) : SendAnswer :=
  if p.isMultisend then
    match p.error with
    | none => .messages (p.messages ++ [newMessageId]) p.method.returnsIds
    | some error => .error error
  else .message newMessageId p.method.returnsIds

theorem onMessageSendSucceeded_eq {chatId newMessageId oldMessageId : Int} (hpos : 0 < newMessageId)
    (hk : s.yetUnsentMessages.lookup ⟨chatId, oldMessageId⟩ = some q)
    (hp : s.pendingSendMessageQueries.lookup q = some p) (hcount : 1 ≤ s.countOf chatId)
    (hone : p.isMultisend = false → p.awaitedMessageCount = 1) :
    s.onMessageSendSucceeded chatId newMessageId oldMessageId =
      { s with messages := insert (⟨chatId, newMessageId⟩ : MessageFullId) s.messages }.settle
        ⟨chatId, oldMessageId⟩ q p
        { p with
          messages := p.messages ++ [newMessageId]
          awaitedMessageCount := p.awaitedMessageCount - 1 } (lastAnswer p newMessageId) := by
  have hextract := extract_eq (s := { s with
      messages := insert (⟨chatId, newMessageId⟩ : MessageFullId) s.messages }) hk hcount
  unfold onMessageSendSucceeded
  dsimp only
  rw [decide_eq_true hpos, check_true, hextract]
  dsimp only
  rw [hp]
  dsimp only
  unfold settle lastAnswer
  cases hmulti : p.isMultisend with
  | true =>
      rw [if_pos rfl, if_pos rfl]
      by_cases hlast : p.awaitedMessageCount = 1
      · rw [if_pos (by omega), if_pos hlast, if_pos hlast]
        cases p.error with
        | none => rfl
        | some e => rfl
      · rw [if_neg (by omega), if_neg hlast, if_neg hlast]
        rfl
  | false =>
      have hlast := hone hmulti
      rw [if_neg Bool.false_ne_true, if_neg Bool.false_ne_true, if_pos hlast, if_pos hlast, decide_eq_true hlast,
        check_true]
      rfl

end Settle

section Requests

variable {r : SendRequest}

/-- The messages of a request that is in no table. -/
def held (r : SendRequest) (chatId : Int) : Int := if chatId = r.chatId then r.method.messageCount else 0

def Balanced (s : SendClient) : Prop := Accounts s fun _ => 0

theorem held_self (r : SendRequest) : held r r.chatId = r.method.messageCount := if_pos rfl

theorem held_sub (r : SendRequest) (c : Int) :
    held r c - (if c = r.chatId then (r.method.messageCount : Int) else 0) = 0 := by
  unfold held
  split_ifs
  · exact sub_self _
  · exact sub_self _

/-- An error gives up all the messages of a request. -/
theorem Accounts.onError (h : Accounts s (held r)) (error : Status) : Balanced (s.onError r error) := by
  unfold SendClient.onError
  dsimp only
  split_ifs with hpos
  · refine Accounts.answer (Accounts.congr (h.decrease (Int.natCast_pos.2 hpos) (le_of_eq (held_self r).symm)) ?_) _ _
    exact fun c => (held_sub r c).symm
  · refine Accounts.answer (h.congr fun c => ?_) _ _
    unfold held
    have hzero : r.method.messageCount = 0 := by omega
    rw [hzero, Int.natCast_zero, ite_self]

theorem Accounts.onResult_error (h : Accounts s (held r)) (error : Status) :
    Balanced (s.onResult r (.error error)) := by
  have hsingle : r.method.messageCount = 1 → Balanced (s.onSendMessage r (.error error)) := fun hone => by
    have hheld : (1 : Int) ≤ held r r.chatId := by
      rw [held_self, hone]
      rfl
    refine Accounts.answer (Accounts.congr (h.decrease Int.one_pos hheld) fun c => ?_) _ _
    have hsub := held_sub r c
    rw [hone] at hsub
    exact hsub.symm
  unfold SendClient.onResult
  cases hmethod : r.method with
  | sendMessage => exact hsingle (by rw [hmethod]; rfl)
  | copyMessage => exact hsingle (by rw [hmethod]; rfl)
  | sendMediaGroup count => exact h.onError error
  | forwardMessages count => exact h.onError error
  | copyMessages count => exact h.onError error

/-- The messages that TDLib returned are entered, and the others are given up. -/
theorem Accounts.onSentMessages (h : Accounts s (held r)) (htd : s.tdClient = true) {messageIds : List Int}
    (hlength : messageIds.length = r.method.messageCount) (hpos : 0 < r.method.messageCount)
    (hnodup : messageIds.Nodup)
    (hnew : ∀ messageId ∈ messageIds,
      s.sending.lookup ⟨r.chatId, messageId⟩ = none ∧ (⟨r.chatId, messageId⟩ : MessageFullId) ∉ s.messages)
    (hone : r.method.isMultisend = false → r.method.messageCount = 1) :
    Balanced ({ s with
        sending := insertAll s.sending (messageIds.map fun messageId => ⟨r.chatId, messageId⟩) r.query
      }.onSentMessages r messageIds) := by
  have hsome : messageIds ≠ [] := List.length_pos_iff.1 (hlength ▸ hpos)
  refine (h.enter htd hsome hnodup hnew fun hmulti => hlength.trans (hone hmulti)).congr fun c => ?_
  have hsub := held_sub r c
  rw [hlength]
  split_ifs at hsub ⊢
  · exact hsub.symm
  · exact hsub.symm

theorem Accounts.onForwardMessages (h : Accounts s (held r)) (htd : s.tdClient = true) {messageIds : List (Option Int)}
    (hlength : messageIds.length = r.method.messageCount) (hmulti : r.method.isMultisend = true)
    (hnodup : (messageIds.filterMap id).Nodup)
    (hnew : ∀ messageId ∈ messageIds.filterMap id,
      s.sending.lookup ⟨r.chatId, messageId⟩ = none ∧ (⟨r.chatId, messageId⟩ : MessageFullId) ∉ s.messages) :
    Balanced ({ s with
        sending := insertAll s.sending ((messageIds.filterMap id).map fun messageId => ⟨r.chatId, messageId⟩) r.query
      }.onForwardMessages r (.messages messageIds)) := by
  have hle : (messageIds.filterMap id).length ≤ r.method.messageCount := by
    rw [← hlength]
    exact List.length_filterMap_le _ _
  unfold SendClient.onForwardMessages
  dsimp only
  rw [decide_eq_true hlength, check_true]
  by_cases hall : (messageIds.filterMap id).length = r.method.messageCount
  · rw [if_neg (not_not.2 hall)]
    by_cases hnil : messageIds.filterMap id = []
    · have hzero : r.method.messageCount = 0 := by rw [← hall, hnil]; rfl
      rw [if_pos hnil, hnil]
      refine Accounts.answer (h.congr fun c => ?_) _ _
      unfold held
      rw [hzero, Int.natCast_zero, ite_self]
    · rw [if_neg hnil]
      have hpos : 0 < r.method.messageCount := by
        rw [← hall]
        exact List.length_pos_of_ne_nil hnil
      refine h.onSentMessages htd hall hpos hnodup hnew fun hsingle => ?_
      rw [hmulti] at hsingle
      cases hsingle
  · rw [if_pos hall]
    have hgone : (0 : Int) < (r.method.messageCount : Int) - (messageIds.filterMap id).length := by omega
    have hgiven := h.decrease hgone (by rw [held_self]; omega)
    have hcount : (r.method.messageCount : Int) - (messageIds.filterMap id).length ≤ s.countOf r.chatId := by
      have hbalance := h.count r.chatId
      rw [held_self] at hbalance
      omega
    rw [decrease_eq hgone hcount] at hgiven
    have hdecrease := decrease_eq (s := { s with
        sending := insertAll s.sending ((messageIds.filterMap id).map fun messageId => ⟨r.chatId, messageId⟩) r.query
      }) hgone hcount
    rw [hdecrease]
    by_cases hnil : messageIds.filterMap id = []
    · rw [if_pos hnil]
      rw [hnil] at hgiven ⊢
      refine Accounts.answer (hgiven.congr fun c => ?_) _ _
      exact ((congrArg (held r c - ·) (by rw [List.length_nil, Int.natCast_zero, sub_zero])).trans
        (held_sub r c)).symm
    · rw [if_neg hnil]
      refine (hgiven.enter htd hnil hnodup hnew fun hsingle => ?_).congr fun c => ?_
      · rw [hmulti] at hsingle
        cases hsingle
      · unfold held
        split_ifs
        · omega
        · rfl

theorem eq_map_some {messageIds : List (Option Int)} (hnone : none ∉ messageIds) :
    messageIds = (messageIds.filterMap id).map some := by
  induction messageIds with
  | nil => rfl
  | cons first messageIds ih =>
      cases first with
      | none => exact absurd List.mem_cons_self hnone
      | some messageId => exact congrArg (some messageId :: ·) (ih fun hmem => hnone (List.mem_cons_of_mem _ hmem))

/-- Without forwards all the messages that were requested are there. -/
theorem length_of_full {messageIds : List (Option Int)} (hlength : messageIds.length = r.method.messageCount)
    (hnone : none ∉ messageIds) : (messageIds.filterMap id).length = r.method.messageCount := by
  rw [← hlength, ← List.length_map some]
  exact (congrArg List.length (eq_map_some hnone)).symm

theorem messageCount_of_single (hsingle : r.method.isMultisend = false) : r.method.messageCount = 1 := by
  cases hmethod : r.method with
  | sendMessage => rfl
  | copyMessage => rfl
  | sendMediaGroup count => rw [hmethod] at hsingle; cases hsingle
  | forwardMessages count => rw [hmethod] at hsingle; cases hsingle
  | copyMessages count => rw [hmethod] at hsingle; cases hsingle

theorem onResult_messages_eq {messageIds : List (Option Int)} (hlength : messageIds.length = r.method.messageCount)
    (hnone : none ∉ messageIds) (hforward : r.method.isForward = false) (s : SendClient) :
    s.onResult r (.messages messageIds) = s.onSentMessages r (messageIds.filterMap id) := by
  have hsingle : r.method.messageCount = 1 →
      s.onSendMessage r (.messages messageIds) = s.onSentMessages r (messageIds.filterMap id) := fun hone => by
    have hids := eq_map_some hnone
    have hlen := length_of_full hlength hnone
    rw [hone] at hlen
    obtain ⟨messageId, hid⟩ := List.length_eq_one_iff.1 hlen
    rw [hid] at hids
    rw [hids]
    rfl
  unfold SendClient.onResult
  cases hmethod : r.method with
  | sendMessage => exact hsingle (by rw [hmethod]; rfl)
  | copyMessage => exact hsingle (by rw [hmethod]; rfl)
  | sendMediaGroup count =>
      dsimp only
      unfold onSendMessageAlbum
      dsimp only
      rw [decide_eq_true hlength, check_true, decide_eq_true hnone, check_true]
  | forwardMessages count => rw [hmethod] at hforward; cases hforward
  | copyMessages count => rw [hmethod] at hforward; cases hforward

theorem isMultisend_of_forward (hforward : r.method.isForward = true) : r.method.isMultisend = true := by
  cases hmethod : r.method with
  | sendMessage => rw [hmethod] at hforward; cases hforward
  | copyMessage => rw [hmethod] at hforward; cases hforward
  | sendMediaGroup count => rfl
  | forwardMessages count => rfl
  | copyMessages count => rfl

theorem onResult_forward_eq (result : SendResult) (hforward : r.method.isForward = true) (s : SendClient) :
    s.onResult r result = s.onForwardMessages r result := by
  unfold SendClient.onResult
  cases hmethod : r.method with
  | sendMessage => rw [hmethod] at hforward; cases hforward
  | copyMessage => rw [hmethod] at hforward; cases hforward
  | sendMediaGroup count => rw [hmethod] at hforward; cases hforward
  | forwardMessages count => rfl
  | copyMessages count => rfl

theorem Accounts.onResult (h : Accounts s (held r)) (htd : s.tdClient = true) {result : SendResult}
    (hreturns : s.Returns r result) :
    Balanced ({ s with sending := insertAll s.sending (returned r result) r.query }.onResult r result) := by
  cases result with
  | error error => exact h.onResult_error error
  | messages messageIds =>
      obtain ⟨hpos, hlength, hnull, hnodup, hnew⟩ := hreturns
      cases hforward : r.method.isForward with
      | true =>
          rw [onResult_forward_eq _ hforward]
          exact h.onForwardMessages htd hlength (isMultisend_of_forward hforward) hnodup hnew
      | false =>
          rw [onResult_messages_eq hlength (hnull hforward) hforward]
          exact h.onSentMessages htd (length_of_full hlength (hnull hforward)) hpos hnodup hnew messageCount_of_single

theorem Accounts.sendRequest (h : Accounts s (held r)) (closingError : ClosingError) :
    Balanced (s.sendRequest r closingError) := by
  unfold SendClient.sendRequest
  split
  · exact h.onResult_error closingError.status
  · rename_i hopen
    have htd : s.tdClient = true := by
      by_contra hgone
      exact hopen (h.closed (eq_false_of_ne_true hgone)).2.2
    have hfresh : s.handlers.lookup s.nextHandlerId = none := by
      by_contra hsome
      obtain ⟨r, hr⟩ := Option.ne_none_iff_exists'.1 hsome
      exact absurd (h.requests _ r hr) (lt_irrefl _)
    dsimp only
    rw [htd, check_true]
    refine ⟨fun c => ?_, h.awaited, h.pointed, h.numbered, h.sending, h.known, fun handler r' hr' => ?_,
      fun hclosed => ?_, h.sound⟩
    · have hbefore := h.count c
      have hrequested := total_insert_new (fun _ r => if r.chatId = c then r.method.messageCount else 0) r hfresh
      change s.countOf c = (total _ (s.handlers.insert s.nextHandlerId r) : Nat) + (s.unsent c : Int) + 0
      rw [hrequested]
      unfold held at hbefore
      unfold requested at hbefore
      split_ifs at hbefore ⊢ with hc hchat hchat
      · omega
      · exact absurd hc.symm hchat
      · exact absurd hchat.symm hc
      · omega
    · change (s.handlers.insert s.nextHandlerId r).lookup handler = some r' at hr'
      change handler < s.nextHandlerId + 1
      by_cases heq : handler = s.nextHandlerId
      · omega
      · rw [AList.lookup_insert_ne heq] at hr'
        have := h.requests handler r' hr'
        omega
    · change s.tdClient = false at hclosed
      rw [htd] at hclosed
      cases hclosed

/-- The messages of a query are counted before they are requested. -/
theorem Balanced.addCount (h : Balanced s) (query : Nat) (method : SendMethod) (chatId : Int) : Accounts { s with
    yetUnsentMessageCount := s.yetUnsentMessageCount.insert chatId (s.countOf chatId + method.messageCount)
  } (held ⟨chatId, query, method⟩) := by
  refine ⟨fun c => ?_, h.awaited, h.pointed, h.numbered, h.sending, h.known, h.requests, h.closed, h.sound⟩
  have hbefore := h.count c
  unfold countOf at hbefore ⊢
  unfold held
  dsimp only
  by_cases hc : c = chatId
  · subst hc
    rw [AList.lookup_insert, if_pos rfl, Option.getD_some, hbefore]
    change _ = (s.requested c : Int) + (s.unsent c : Int) + _
    omega
  · rw [AList.lookup_insert_ne hc, if_neg hc]
    exact hbefore

theorem Balanced.send (h : Balanced s) (query : Nat) (method : SendMethod) (chatId : Int)
    (closingError : ClosingError) : Balanced (s.send query method chatId closingError) := by
  unfold SendClient.send
  dsimp only
  split
  · exact Accounts.answer h _ _
  · exact (h.addCount query method chatId).sendRequest closingError

theorem Balanced.checking (h : Balanced s) (checking : AList fun _ : Nat => SendMethod × SendStage) :
    Balanced { s with checking := checking } :=
  ⟨h.count, h.awaited, h.pointed, h.numbered, h.sending, h.known, h.requests, h.closed, h.sound⟩

theorem Balanced.onChecked (h : Balanced s) (query : Nat) (method : SendMethod) (stage : SendStage) (value : Int)
    (closingError : ClosingError) : Balanced (s.onChecked query method stage value closingError) := by
  have herased := h.checking (s.checking.erase query)
  unfold SendClient.onChecked
  cases stage with
  | replyParameters =>
      dsimp only
      split
      · split
        · exact Accounts.answer herased _ _
        · exact h.checking _
      · exact herased.send query method value closingError
  | messages chatId => exact herased.send query _ chatId closingError

theorem Balanced.onQuery (h : Balanced s) (method : SendMethod) : Balanced (s.onQuery method) := by
  have hcounted : Balanced { s with queryCount := s.queryCount + 1 } :=
    ⟨h.count, h.awaited, h.pointed, h.numbered, h.sending, h.known, h.requests, h.closed, h.sound⟩
  unfold SendClient.onQuery
  dsimp only
  cases method.argumentError with
  | some error => exact Accounts.answer hcounted _ _
  | none => exact hcounted.checking _

/-- The request of a handler is taken out. -/
theorem Balanced.take (h : Balanced s) {handler : Nat} (hr : s.handlers.lookup handler = some r) :
    Accounts { s with handlers := s.handlers.erase handler } (held r) := by
  refine ⟨fun c => ?_, h.awaited, h.pointed, h.numbered, h.sending, h.known, fun handler' r' hr' => ?_,
    fun hclosed => ?_, h.sound⟩
  · have hbefore := h.count c
    have hrequested := total_eq_add_erase (fun _ r => if r.chatId = c then r.method.messageCount else 0) hr
    change s.countOf c = (total _ (s.handlers.erase handler) : Nat) + (s.unsent c : Int) + held r c
    unfold requested at hbefore
    unfold held
    split_ifs at hrequested ⊢ with hchat hc hc
    · omega
    · exact absurd hchat.symm hc
    · exact absurd hc.symm hchat
    · omega
  · exact h.requests handler' r' (TableLookup.of_erase (t := s.handlers) hr').2
  · have hempty := (h.closed hclosed).1
    rw [hempty] at hr
    cases hr

theorem Balanced.tdClient_of_request (h : Balanced s) {handler : Nat} (hr : s.handlers.lookup handler = some r) :
    s.tdClient = true := by
  by_contra hgone
  have hempty := (h.closed (eq_false_of_ne_true hgone)).1
  rw [hempty] at hr
  cases hr

theorem Balanced.result (h : Balanced s) {handler : Nat} (hr : s.handlers.lookup handler = some r)
    {result : SendResult} (hreturns : s.Returns r result) :
    Balanced ({ s with
        handlers := s.handlers.erase handler
        sending := insertAll s.sending (returned r result) r.query
      }.onResult r result) := by
  have htaken := h.take hr
  refine htaken.onResult (h.tdClient_of_request hr) ?_
  cases result with
  | error error => trivial
  | messages messageIds => exact hreturns

theorem Balanced.onClosed (h : Balanced s) (htd : s.tdClient = true) (hleaving : s.loggingOut = true ∨ s.closing = true)
    (hrequests : s.handlers.keys = []) (closingError : ClosingError) : Balanced (s.onClosed closingError) := by
  have hempty : s.handlers = ∅ := AList.ext (List.map_eq_nil_iff.1 hrequests)
  have hchecks : (s.check (s.loggingOut || s.closing)).check s.tdClient = s := by
    rw [Bool.or_eq_true_iff.2 hleaving, check_true, htd, check_true]
  unfold SendClient.onClosed
  dsimp only
  rw [hchecks]
  refine ⟨fun c => ?_, fun q p hp => (by cases hp), fun k q hk => (by cases hk), fun q p hp => (by cases hp),
    fun hopen => (by cases hopen), fun k _ => rfl, h.requests, fun _ => ⟨hempty, rfl, hleaving.symm⟩, h.sound⟩
  have hrequested : s.requested c = 0 := by
    unfold requested
    rw [hempty]
    rfl
  change (0 : Int) = (s.requested c : Int) + ((0 : Nat) : Int) + 0
  rw [hrequested]
  rfl

end Requests

section Updates

variable {k : MessageFullId}

theorem Balanced.addMessage (h : Balanced s) (htd : s.tdClient = true) (hk : s.sending.lookup k = none) :
    Balanced { s with messages := insert k s.messages } := by
  refine ⟨h.count, h.awaited, h.pointed, h.numbered, h.sending, fun k' hk' => ?_, h.requests, h.closed, h.sound⟩
  rcases Finset.mem_insert.1 hk' with heq | hmem
  · rw [heq]
    exact (h.sending_eq_none htd k).1 hk
  · exact h.known k' hmem

/-- A message that TDLib is sending is waited for by a query. -/
theorem Balanced.waiting (h : Balanced s) (htd : s.tdClient = true) (hk : s.sending.lookup k ≠ none) :
    ∃ q p, s.yetUnsentMessages.lookup k = some q ∧ s.pendingSendMessageQueries.lookup q = some p := by
  obtain ⟨q, hq⟩ := Option.ne_none_iff_exists'.1 fun hnone => hk ((h.sending_eq_none htd k).2 hnone)
  obtain ⟨p, hp⟩ := h.pointed k q hq
  exact ⟨q, p, hq, hp⟩

theorem Balanced.report_eq (h : Balanced s) (htd : s.tdClient = true) {q : Int} {p : PendingSendMessageQuery}
    (hk : s.yetUnsentMessages.lookup k = some q) (hp : s.pendingSendMessageQueries.lookup q = some p)
    (outcome : Option Int) : s.report k outcome = { s with
      sending := s.sending.erase k
      reports := s.reports ++ [(p.query, outcome)] } := by
  have hsending : s.sending.lookup k = some p.query := by
    rw [h.sending htd, hk, Option.bind_some, hp]
    rfl
  unfold report
  rw [hsending]

end Updates

end SendClient

end TelegramBotApi
