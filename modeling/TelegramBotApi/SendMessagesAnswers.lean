import TelegramBotApi.SendMessagesMoves

/-!
# The answers of the queries that send messages

A query that has come is at one place: it is checked, requested from TDLib, waits for its messages, or has
been answered. TDLib's reports decide the answer: a query succeeds if TDLib returned messages for it and
reported that each of them was sent. Both are kept by every move, and so is the bound on the count of a chat.
-/

namespace TelegramBotApi

open TableSum

namespace SendClient

variable {s t : SendClient} {P : SendMethod → Prop}

def answersTo (s : SendClient) (query : Nat) : Nat := (s.answers.filter (·.1 = query)).length

/-- The number of places where a query waits. -/
def waits (s : SendClient) (query : Nat) : Nat :=
  total (fun q _ => if q = query then 1 else 0) s.checking +
    total (fun _ r => if r.query = query then 1 else 0) s.handlers +
    total (fun _ p => if p.query = query then 1 else 0) s.pendingSendMessageQueries

def Placed (s : SendClient) : Prop :=
  ∀ query, s.waits query + s.answersTo query = if query < s.queryCount then 1 else 0

theorem filter_append_single (answers : List (Nat × SendAnswer)) (query n : Nat) (a : SendAnswer) :
    ((answers ++ [(query, a)]).filter (·.1 = n)).length =
      (answers.filter (·.1 = n)).length + if query = n then 1 else 0 := by
  rw [List.filter_append, List.length_append]
  by_cases hn : query = n
  · simp [hn]
  · simp [hn]

theorem length_filter_closing (entries : List (Sigma fun _ : Int => PendingSendMessageQuery)) (error : ClosingError)
    (n : Nat) : ((entries.map fun e => failQueryClosing e.2.query error).filter (·.1 = n)).length =
      (entries.map fun e => if e.2.query = n then 1 else 0).sum := by
  induction entries with
  | nil => rfl
  | cons e entries ih =>
      rw [List.map_cons, List.map_cons, List.sum_cons, ← ih]
      by_cases hn : e.2.query = n
      · rw [if_pos hn, List.filter_cons_of_pos (by exact decide_eq_true hn), List.length_cons, Nat.add_comm]
      · rw [if_neg hn, List.filter_cons_of_neg (by simp [failQueryClosing, hn]), Nat.zero_add]

theorem Placed.move (h : Placed s) (hmove : Move P s t) : Placed t := by
  intro n
  have hbefore := h n
  unfold waits answersTo at hbefore ⊢
  cases hmove with
  | quiet messages loggingOut closing => exact hbefore
  | rejected error =>
      dsimp only
      rw [filter_append_single]
      split_ifs at hbefore ⊢ <;> omega
  | started method hmethod hP =>
      have hnew : s.checking.lookup s.queryCount = none := by
        by_contra hsome
        obtain ⟨entry, hentry⟩ := Option.ne_none_iff_exists'.1 hsome
        have hle := le_total (fun q _ => if q = s.queryCount then 1 else 0) hentry
        have hself := h s.queryCount
        unfold waits at hself
        rw [if_pos rfl] at hle
        rw [if_neg (lt_irrefl _)] at hself
        omega
      dsimp only
      rw [total_insert_new _ _ hnew]
      split_ifs at hbefore ⊢ <;> omega
  | looked query method stage chatId hquery =>
      have hsum := total_eq_add_erase (fun q _ => if q = n then 1 else 0) hquery
      dsimp only
      rw [total_insert]
      omega
  | refused query method stage counts a hquery hcounts ha =>
      have hsum := total_eq_add_erase (fun q _ => if q = n then 1 else 0) hquery
      dsimp only
      rw [filter_append_single]
      omega
  | requested query method request stage chatId hquery hrequest hcount hfresh =>
      have hsum := total_eq_add_erase (fun q _ => if q = n then 1 else 0) hquery
      dsimp only
      rw [total_insert_new _ _ hfresh]
      dsimp only
      omega
  | failed handler r counts a hr hcounts ha =>
      have hsum := total_eq_add_erase (fun _ r => if r.query = n then 1 else 0) hr
      dsimp only
      rw [filter_append_single]
      omega
  | entered handler r counts messageIds hr hcounts hsome hnew hfresh =>
      have hsum := total_eq_add_erase (fun _ r => if r.query = n then 1 else 0) hr
      dsimp only
      rw [total_insert_new _ _ hfresh]
      unfold entered
      dsimp only
      omega
  | reported k q p p' a outcome messages hk hp hsending hfollows htold =>
      have hsum := total_eq_add_erase (fun _ p => if p.query = n then 1 else 0) hp
      unfold settle
      dsimp only
      by_cases hlast : p.awaitedMessageCount = 1
      · rw [if_pos hlast, if_pos hlast, filter_append_single]
        omega
      · rw [if_neg hlast, if_neg hlast, total_insert, hfollows.query]
        omega
  | closed error hleaving htd hrequests =>
      change total _ s.checking + total _ s.handlers + 0 +
        ((s.answers ++ s.pendingSendMessageQueries.entries.map fun e => failQueryClosing e.2.query error).filter
          (·.1 = n)).length = if n < s.queryCount then 1 else 0
      have hclosing : _ = total (fun _ p => if p.query = n then 1 else 0) s.pendingSendMessageQueries :=
        length_filter_closing s.pendingSendMessageQueries.entries error n
      rw [List.filter_append, List.length_append, hclosing]
      omega

def reported (s : SendClient) (query : Nat) : List (Option Int) := (s.reports.filter (·.1 = query)).map (·.2)

/-- TDLib is sending no message of the query. -/
def Quiet (s : SendClient) (query : Nat) : Prop := ∀ k, s.sending.lookup k ≠ some query

/-- TDLib returned messages for the query, and all of them were sent. -/
def AllSent (s : SendClient) (query : Nat) : Prop :=
  s.reported query ≠ [] ∧ none ∉ s.reported query ∧ s.Quiet query

/-- A success has the messages that were sent, and there is no other reason for an error. -/
def Right (s : SendClient) (query : Nat) : SendAnswer → Prop
  | .message messageId _ => s.reported query = [some messageId] ∧ s.Quiet query
  | .messages messageIds _ => messageIds ≠ [] ∧ s.reported query = messageIds.map some ∧ s.Quiet query
  | .error _ | .retryAfter _ => ¬ s.AllSent query

theorem Right.isSuccess_iff {query : Nat} {a : SendAnswer} (h : s.Right query a) :
    a.isSuccess = true ↔ s.AllSent query := by
  cases a with
  | message messageId onlyId =>
      refine iff_of_true rfl ⟨?_, ?_, h.2⟩
      · rw [h.1]
        exact List.cons_ne_nil _ _
      · rw [h.1]
        simp
  | messages messageIds onlyId =>
      refine iff_of_true rfl ⟨?_, ?_, h.2.2⟩
      · rw [h.2.1]
        exact fun hnil => h.1 (List.map_eq_nil_iff.1 hnil)
      · rw [h.2.1]
        simp
  | error error => exact iff_of_false Bool.false_ne_true h
  | retryAfter seconds => exact iff_of_false Bool.false_ne_true h

structure Answered (s : SendClient) : Prop where
  placed : Placed s
  pending : ∀ q p, s.pendingSendMessageQueries.lookup q = some p →
    (p.isMultisend = false → s.reported p.query = []) ∧ p.messages = (s.reported p.query).filterMap id ∧
      (p.error = none ↔ none ∉ s.reported p.query)
  begun : ∀ query, s.reported query ≠ [] ∨ ¬ s.Quiet query →
    0 < total (fun _ p => if p.query = query then 1 else 0) s.pendingSendMessageQueries + s.answersTo query
  right : ∀ query a, (query, a) ∈ s.answers → s.Right query a

theorem answersTo_pos {query : Nat} {a : SendAnswer} (h : (query, a) ∈ s.answers) : 0 < s.answersTo query := by
  refine List.length_pos_of_mem (a := (query, a)) ?_
  exact List.mem_filter.2 ⟨h, decide_eq_true rfl⟩

namespace Answered

/-- A query that is still being checked or requested has no messages. -/
theorem unbegun (h : Answered s) (query : Nat)
    (hwaits : 0 < total (fun q _ => if q = query then 1 else 0) s.checking +
      total (fun _ r => if r.query = query then 1 else 0) s.handlers) : s.reported query = [] ∧ s.Quiet query := by
  have hplaced := h.placed query
  unfold waits at hplaced
  have hnone : ¬ (s.reported query ≠ [] ∨ ¬ s.Quiet query) := fun hbegun => by
    have hpos := h.begun query hbegun
    split_ifs at hplaced <;> omega
  exact ⟨not_not.1 fun hreported => hnone (Or.inl hreported), not_not.1 fun hquiet => hnone (Or.inr hquiet)⟩

/-- A query that has not come has no messages either. -/
theorem unbegun_of_new (h : Answered s) : s.reported s.queryCount = [] ∧ s.Quiet s.queryCount := by
  have hplaced := h.placed s.queryCount
  unfold waits at hplaced
  rw [if_neg (lt_irrefl _)] at hplaced
  have hnone : ¬ (s.reported s.queryCount ≠ [] ∨ ¬ s.Quiet s.queryCount) := fun hbegun => by
    have hpos := h.begun s.queryCount hbegun
    omega
  exact ⟨not_not.1 fun hreported => hnone (Or.inl hreported), not_not.1 fun hquiet => hnone (Or.inr hquiet)⟩

theorem unsent_of_reported_nil {query : Nat} (h : s.reported query = []) : ¬ s.AllSent query := fun hall => hall.1 h

theorem right_of_error {query : Nat} {a : SendAnswer} (ha : a.isSuccess = false) (h : ¬ s.AllSent query) :
    s.Right query a := by
  cases a with
  | message messageId onlyId => cases ha
  | messages messageIds onlyId => cases ha
  | error error => exact h
  | retryAfter seconds => exact h

/-- Nothing but the answers has changed, and they have one more. -/
theorem answer (h : Answered s) (hplaced : Placed t) {query : Nat} {a : SendAnswer}
    (hpending : t.pendingSendMessageQueries = s.pendingSendMessageQueries) (hsending : t.sending = s.sending)
    (hreports : t.reports = s.reports) (hanswers : t.answers = s.answers ++ [(query, a)])
    (hright : s.Right query a) : Answered t := by
  have hreported : t.reported = s.reported := by
    unfold reported
    rw [hreports]
  have hquiet : t.Quiet = s.Quiet := by
    unfold Quiet
    rw [hsending]
  have hsame : t.Right = s.Right := by
    funext n a
    unfold Right AllSent
    rw [hreported, hquiet]
  refine ⟨hplaced, ?_, fun n hn => ?_, fun n b hb => ?_⟩
  · rw [hpending, hreported]
    exact h.pending
  · rw [hreported, hquiet] at hn
    have hpos := h.begun n hn
    have hmore : t.answersTo n = s.answersTo n + if query = n then 1 else 0 := by
      unfold answersTo
      rw [hanswers]
      exact filter_append_single s.answers query n a
    rw [hpending, hmore]
    omega
  · rw [hanswers] at hb
    rw [hsame]
    rcases List.mem_append.1 hb with hb | hb
    · exact h.right n b hb
    · cases List.mem_singleton.1 hb
      exact hright

/-- Neither the messages nor the answers have changed. -/
theorem frame (h : Answered s) (hplaced : Placed t)
    (hpending : t.pendingSendMessageQueries = s.pendingSendMessageQueries) (hsending : t.sending = s.sending)
    (hreports : t.reports = s.reports) (hanswers : t.answers = s.answers) : Answered t := by
  have hreported : t.reported = s.reported := by
    unfold reported
    rw [hreports]
  have hquiet : t.Quiet = s.Quiet := by
    unfold Quiet
    rw [hsending]
  have hsame : t.Right = s.Right := by
    funext n a
    unfold Right AllSent
    rw [hreported, hquiet]
  have hanswered : t.answersTo = s.answersTo := by
    unfold answersTo
    rw [hanswers]
  refine ⟨hplaced, ?_, ?_, ?_⟩
  · rw [hpending, hreported]
    exact h.pending
  · rw [hreported, hquiet, hpending, hanswered]
    exact h.begun
  · rw [hanswers, hsame]
    exact h.right

end Answered

theorem Right.congr {query : Nat} {a : SendAnswer} (h : s.Right query a)
    (hreported : t.reported query = s.reported query) (hquiet : t.Quiet query ↔ s.Quiet query) : t.Right query a := by
  have hall : t.AllSent query ↔ s.AllSent query := by
    unfold AllSent
    rw [hreported, hquiet]
  cases a with
  | message messageId onlyId => exact ⟨hreported.trans h.1, hquiet.2 h.2⟩
  | messages messageIds onlyId => exact ⟨h.1, hreported.trans h.2.1, hquiet.2 h.2.2⟩
  | error error => exact fun h' => h (hall.1 h')
  | retryAfter seconds => exact fun h' => h (hall.1 h')

theorem Placed.unique (h : Placed s) {q q' : Int} {p p' : PendingSendMessageQuery}
    (hp : s.pendingSendMessageQueries.lookup q = some p) (hp' : s.pendingSendMessageQueries.lookup q' = some p')
    (heq : p'.query = p.query) : q' = q := by
  by_contra hne
  have hsum := total_eq_add_erase (fun _ p'' => if p''.query = p.query then 1 else 0) hp
  have hle := le_total (fun _ p'' => if p''.query = p.query then 1 else 0)
    ((AList.lookup_erase_ne hne).trans hp')
  have hplaced := h p.query
  unfold waits at hplaced
  rw [if_pos rfl] at hsum
  rw [if_pos heq] at hle
  split_ifs at hplaced <;> omega

theorem Placed.unanswered (h : Placed s) {q : Int} {p : PendingSendMessageQuery}
    (hp : s.pendingSendMessageQueries.lookup q = some p) {n : Nat} {a : SendAnswer} (ha : (n, a) ∈ s.answers) :
    n ≠ p.query := fun heq => by
  have hle := le_total (fun _ p' => if p'.query = n then 1 else 0) hp
  have hpos := answersTo_pos ha
  have hplaced := h n
  unfold waits at hplaced
  rw [if_pos heq.symm] at hle
  split_ifs at hplaced <;> omega

theorem reported_append (reports : List (Nat × Option Int)) (query n : Nat) (outcome : Option Int) :
    ((reports ++ [(query, outcome)]).filter (·.1 = n)).map (·.2) =
      (reports.filter (·.1 = n)).map (·.2) ++ if query = n then [outcome] else [] := by
  rw [List.filter_append, List.map_append]
  by_cases hn : query = n
  · simp [hn]
  · simp [hn]

/-- The answer of a query whose last message was reported. -/
theorem right_of_last {p p' : PendingSendMessageQuery} {a : SendAnswer} {outcome : Option Int}
    (hsingle : p.isMultisend = false → s.reported p.query = [])
    (hmessages : p.messages = (s.reported p.query).filterMap id)
    (herror : p.error = none ↔ none ∉ s.reported p.query) (htold : Told p p' a outcome)
    (hreported : t.reported p.query = s.reported p.query ++ [outcome]) (hquiet : t.Quiet p.query) :
    t.Right p.query a := by
  cases outcome with
  | none =>
      obtain ⟨-, -, e, rfl⟩ := htold
      refine fun hall => hall.2.1 ?_
      rw [hreported]
      exact List.mem_append_right _ List.mem_cons_self
  | some newMessageId =>
      obtain ⟨-, -, rfl⟩ := htold
      unfold lastAnswer
      cases hmulti : p.isMultisend with
      | true =>
          rw [if_pos rfl]
          cases hfailed : p.error with
          | none =>
              refine ⟨List.append_ne_nil_of_right_ne_nil _ (List.cons_ne_nil _ _), ?_, hquiet⟩
              rw [hreported, List.map_append, hmessages, ← eq_map_some (herror.1 hfailed)]
              rfl
          | some e =>
              refine fun hall => hall.2.1 ?_
              rw [hreported]
              refine List.mem_append_left _ (not_not.1 fun hnone => ?_)
              rw [herror.2 hnone] at hfailed
              cases hfailed
      | false =>
          rw [if_neg Bool.false_ne_true]
          refine ⟨?_, hquiet⟩
          rw [hreported, hsingle hmulti]
          rfl

theorem Answered.reported (h : Answered s) (hbalanced : Balanced s) (htd : s.tdClient = true) {k : MessageFullId}
    {q : Int} {p p' : PendingSendMessageQuery} {a : SendAnswer} {outcome : Option Int}
    {messages : Finset MessageFullId} (hk : s.yetUnsentMessages.lookup k = some q)
    (hp : s.pendingSendMessageQueries.lookup q = some p) (hsending : s.sending.lookup k = some p.query)
    (hfollows : Follows p p') (htold : Told p p' a outcome) (hplaced : Placed ({ s with
        sending := s.sending.erase k
        reports := s.reports ++ [(p.query, outcome)]
        messages := messages }.settle k q p p' a)) :
    Answered ({ s with
        sending := s.sending.erase k
        reports := s.reports ++ [(p.query, outcome)]
        messages := messages }.settle k q p p' a) := by
  obtain ⟨hsingle, hmessages, herror⟩ := h.pending q p hp
  obtain ⟨-, -, hone⟩ := hbalanced.awaited q p hp
  generalize ht : ({ s with
    sending := s.sending.erase k
    reports := s.reports ++ [(p.query, outcome)]
    messages := messages }.settle k q p p' a) = t at hplaced
  have htsending : t.sending = s.sending.erase k := by
    rw [← ht]
    rfl
  have htreported : ∀ n, t.reported n = s.reported n ++ if p.query = n then [outcome] else [] := fun n => by
    rw [← ht]
    exact reported_append s.reports p.query n outcome
  have hother : ∀ {n}, n ≠ p.query → t.reported n = s.reported n := fun {n} hn => by
    rw [htreported, if_neg (Ne.symm hn), List.append_nil]
  have hself : t.reported p.query = s.reported p.query ++ [outcome] := by
    rw [htreported, if_pos rfl]
  have hquiet : ∀ {n}, n ≠ p.query → (t.Quiet n ↔ s.Quiet n) := fun {n} hn => by
    unfold Quiet
    rw [htsending]
    refine ⟨fun hall k' hk' => hall k' ?_, fun hall k' hk' => hall k' (TableLookup.of_erase hk').2⟩
    have hne : k' ≠ k := fun heq => by
      rw [heq, hsending] at hk'
      cases hk'
      exact hn rfl
    exact (AList.lookup_erase_ne hne).trans hk'
  refine ⟨hplaced, fun q' p'' hp'' => ?_, fun n hn => ?_, fun n b hb => ?_⟩
  · rw [← ht] at hp''
    rcases pending_settle hp'' with ⟨-, rfl, hlast⟩ | ⟨hq, hp'⟩
    · rw [hfollows.query, hfollows.isMultisend, hself, List.filterMap_append, ← hmessages]
      refine ⟨fun hmulti => absurd (hone hmulti) hlast, ?_, ?_⟩
      · cases outcome with
        | none => exact htold.1.trans (List.append_nil _).symm
        | some newMessageId => exact htold.1
      · cases outcome with
        | none => exact iff_of_false htold.2.1 fun hnone => hnone (List.mem_append_right _ List.mem_cons_self)
        | some newMessageId =>
            rw [htold.2.1, herror, List.mem_append]
            simp
    · rw [hother fun heq => hq (h.placed.unique hp hp' heq)]
      exact h.pending q' p'' hp'
  · have hsame : total (fun _ p => if p.query = n then 1 else 0) t.pendingSendMessageQueries + t.answersTo n =
        total (fun _ p => if p.query = n then 1 else 0) s.pendingSendMessageQueries + s.answersTo n := by
      have hsum := total_eq_add_erase (fun _ p => if p.query = n then 1 else 0) hp
      rw [← ht]
      unfold settle answersTo
      dsimp only
      by_cases hlast : p.awaitedMessageCount = 1
      · rw [if_pos hlast, if_pos hlast, filter_append_single]
        omega
      · rw [if_neg hlast, if_neg hlast, total_insert, hfollows.query]
        omega
    rw [hsame]
    by_cases heq : n = p.query
    · have hle := le_total (fun _ p => if p.query = n then 1 else 0) hp
      rw [if_pos heq.symm] at hle
      omega
    · rw [hother heq, hquiet heq] at hn
      exact h.begun n hn
  · rw [← ht] at hb
    rcases mem_answers_settle.1 hb with hold | ⟨hlast, rfl, rfl⟩
    · have hn := h.placed.unanswered hp hold
      exact (h.right n b hold).congr (hother hn) (hquiet hn)
    · refine right_of_last hsingle hmessages herror htold hself fun k' hk' => ?_
      -- a second message of the query would be awaited too
      rw [htsending] at hk'
      obtain ⟨hne, hk'⟩ := TableLookup.of_erase hk'
      rw [hbalanced.sending htd] at hk'
      cases hq' : s.yetUnsentMessages.lookup k' with
      | none =>
          rw [hq'] at hk'
          cases hk'
      | some q' =>
          obtain ⟨p'', hp''⟩ := hbalanced.pointed k' q' hq'
          rw [hq', Option.bind_some, hp''] at hk'
          exact hbalanced.ne_of_last hk hp hlast ((AList.lookup_erase_ne hne).trans hq')
            (h.placed.unique hp hp'' (Option.some_inj.1 hk'))

theorem Answered.entered (h : Answered s) {handler : Nat} {r : SendRequest} {counts : AList fun _ : Int => Int}
    {messageIds : List Int} (hr : s.handlers.lookup handler = some r)
    (hnew : ∀ messageId ∈ messageIds, s.sending.lookup ⟨r.chatId, messageId⟩ = none)
    (hfresh : s.pendingSendMessageQueries.lookup s.currentSendMessageQueryId = none) (hplaced : Placed { s with
      handlers := s.handlers.erase handler
      yetUnsentMessageCount := counts
      sending := insertAll s.sending (messageIds.map fun messageId => ⟨r.chatId, messageId⟩) r.query
      currentSendMessageQueryId := s.currentSendMessageQueryId + 1
      yetUnsentMessages := insertAll s.yetUnsentMessages (messageIds.map fun messageId => ⟨r.chatId, messageId⟩)
        s.currentSendMessageQueryId
      pendingSendMessageQueries := s.pendingSendMessageQueries.insert s.currentSendMessageQueryId
        (entered { query := r.query, method := r.method, isMultisend := r.method.isMultisend } messageIds.length) }) :
    Answered { s with
      handlers := s.handlers.erase handler
      yetUnsentMessageCount := counts
      sending := insertAll s.sending (messageIds.map fun messageId => ⟨r.chatId, messageId⟩) r.query
      currentSendMessageQueryId := s.currentSendMessageQueryId + 1
      yetUnsentMessages := insertAll s.yetUnsentMessages (messageIds.map fun messageId => ⟨r.chatId, messageId⟩)
        s.currentSendMessageQueryId
      pendingSendMessageQueries := s.pendingSendMessageQueries.insert s.currentSendMessageQueryId
        (entered { query := r.query, method := r.method, isMultisend := r.method.isMultisend }
          messageIds.length) } := by
  have hle := le_total (fun _ r' => if r'.query = r.query then 1 else 0) hr
  rw [if_pos rfl] at hle
  obtain ⟨hunreported, -⟩ := h.unbegun r.query (by omega)
  have hquiet : ∀ {n}, n ≠ r.query →
      ((∀ k, (insertAll s.sending (messageIds.map fun messageId => ⟨r.chatId, messageId⟩) r.query).lookup k ≠ some n) ↔
        s.Quiet n) := fun {n} hn => by
    refine forall_congr' fun k => not_congr ?_
    rw [lookup_insertAll]
    split_ifs with hmem
    · obtain ⟨messageId, hid, rfl⟩ := List.mem_map.1 hmem
      rw [hnew messageId hid]
      refine iff_of_false (fun heq => hn (Option.some_inj.1 heq).symm) fun heq => ?_
      cases heq
    · exact Iff.rfl
  refine ⟨hplaced, fun q p hp => ?_, fun n hn => ?_, fun n a ha => ?_⟩
  · change (s.pendingSendMessageQueries.insert _ _).lookup q = some p at hp
    rcases TableLookup.of_insert hp with ⟨rfl, rfl⟩ | ⟨-, hp⟩
    · change (_ → s.reported r.query = []) ∧ [] = (s.reported r.query).filterMap id ∧
        (none = none ↔ none ∉ s.reported r.query)
      rw [hunreported]
      exact ⟨fun _ => rfl, rfl, iff_of_true rfl List.not_mem_nil⟩
    · exact h.pending q p hp
  · change 0 < total _ (s.pendingSendMessageQueries.insert _ _) + s.answersTo n
    rw [total_insert_new _ _ hfresh]
    by_cases hquery : n = r.query
    · have hself : (SendClient.entered { query := r.query, method := r.method, isMultisend := r.method.isMultisend }
          messageIds.length).query = n := hquery.symm
      rw [if_pos hself]
      omega
    · have hpos := h.begun n (hn.imp_right fun hnot => fun hq => hnot ((hquiet hquery).2 hq))
      omega
  · have hquery : n ≠ r.query := fun heq => by
      have hpos : 0 < s.answersTo n := answersTo_pos ha
      have hplaced := h.placed n
      unfold waits at hplaced
      rw [heq] at hplaced hpos
      split_ifs at hplaced <;> omega
    exact (h.right n a ha).congr rfl (hquiet hquery)

theorem Answered.closed (h : Answered s) (hbalanced : Balanced s) (htd : s.tdClient = true) (error : ClosingError)
    (hplaced : Placed (s.onClosed error)) : Answered (s.onClosed error) := by
  refine ⟨hplaced, fun q p hp => (by cases hp), fun n hn => ?_, fun n a ha => ?_⟩
  · have hpos := h.begun n hn
    have hclosing : _ = total (fun _ p => if p.query = n then 1 else 0) s.pendingSendMessageQueries :=
      length_filter_closing s.pendingSendMessageQueries.entries error n
    change 0 < 0 + ((s.answers ++ s.pendingSendMessageQueries.entries.map fun e =>
      failQueryClosing e.2.query error).filter (·.1 = n)).length
    rw [List.filter_append, List.length_append, hclosing]
    unfold answersTo at hpos
    omega
  · rcases List.mem_append.1 ha with hold | hclosing
    · exact (h.right n a hold).congr rfl Iff.rfl
    · obtain ⟨⟨q, p⟩, hmem, heq⟩ := List.mem_map.1 hclosing
      unfold failQueryClosing at heq
      cases heq
      have hp : s.pendingSendMessageQueries.lookup q = some p := AList.mem_lookup_iff.2 hmem
      obtain ⟨hawaited, hpos, -⟩ := hbalanced.awaited q p hp
      obtain ⟨k, q', hk, hpoints⟩ := exists_of_total_pos (t := s.yetUnsentMessages)
        (f := fun _ q' => if q' = q then 1 else 0) (by unfold pointing at hawaited; omega)
      have hq : q' = q := by
        by_contra hne
        rw [if_neg hne] at hpoints
        exact lt_irrefl 0 hpoints
      -- one of its messages is still being sent
      have hloud : ¬ s.AllSent p.query := fun hall => hall.2.2 k (by
        rw [hbalanced.sending htd, hk, Option.bind_some, hq, hp]
        rfl)
      refine Answered.right_of_error ?_ hloud
      split_ifs <;> rfl

theorem Answered.move (h : Answered s) (hbalanced : Balanced s) (hmove : Move P s t) : Answered t := by
  have hplaced := h.placed.move hmove
  cases hmove with
  | quiet messages loggingOut closing => exact h.frame hplaced rfl rfl rfl rfl
  | rejected error =>
      exact h.answer hplaced rfl rfl rfl rfl (Answered.unsent_of_reported_nil h.unbegun_of_new.1)
  | started method hmethod hP => exact h.frame hplaced rfl rfl rfl rfl
  | looked query method stage chatId hquery => exact h.frame hplaced rfl rfl rfl rfl
  | refused query method stage counts a hquery hcounts ha =>
      have hle := le_total (fun q _ => if q = query then 1 else 0) hquery
      rw [if_pos rfl] at hle
      obtain ⟨hunreported, -⟩ := h.unbegun query (by omega)
      exact h.answer hplaced rfl rfl rfl rfl
        (Answered.right_of_error ha (Answered.unsent_of_reported_nil hunreported))
  | requested query method request stage chatId hquery hrequest hcount hfresh => exact h.frame hplaced rfl rfl rfl rfl
  | failed handler r counts a hr hcounts ha =>
      have hle := le_total (fun _ r' => if r'.query = r.query then 1 else 0) hr
      rw [if_pos rfl] at hle
      obtain ⟨hunreported, -⟩ := h.unbegun r.query (by omega)
      exact h.answer hplaced rfl rfl rfl rfl
        (Answered.right_of_error ha (Answered.unsent_of_reported_nil hunreported))
  | entered handler r counts messageIds hr hcounts hsome hnew hfresh => exact h.entered hr hnew hfresh hplaced
  | reported k q p p' a outcome messages hk hp hsending hfollows htold =>
      have htd : s.tdClient = true := by
        by_contra hgone
        have hempty := (hbalanced.closed (eq_false_of_ne_true hgone)).2.1
        rw [hempty] at hp
        cases hp
      exact h.reported hbalanced htd hk hp hsending hfollows htold hplaced
  | closed error hleaving htd hrequests => exact h.closed hbalanced htd error hplaced

theorem answered_initial : Answered {} where
  placed n := by
    rw [if_neg (Nat.not_lt_zero n)]
    rfl
  pending _ _ hp := by cases hp
  begun n hn := by
    rcases hn with hn | hn
    · exact absurd rfl hn
    · exact absurd (fun k hk => by cases hk) hn
  right _ _ ha := by cases ha

/-- A bound on the messages that one query asks for bounds the count of each chat. -/
structure Bounded (bound : Nat) (s : SendClient) : Prop where
  count : ∀ c, s.countOf c < maxConcurrentlySentChatMessages + bound
  checking : ∀ query method stage, s.checking.lookup query = some (method, stage) → method.messageCount ≤ bound

theorem Bounded.move {bound : Nat} (h : Bounded bound s)
    (hmove : Move (fun method => method.messageCount ≤ bound) s t) : Bounded bound t := by
  have hchecked : ∀ {query entry}, s.checking.lookup query = some entry → entry.1.messageCount ≤ bound :=
    fun {query entry} hentry => h.checking query entry.1 entry.2 hentry
  have herased : ∀ query query' method stage,
      (s.checking.erase query).lookup query' = some (method, stage) → method.messageCount ≤ bound :=
    fun query query' method stage hentry => hchecked (TableLookup.of_erase hentry).2
  have hinserted : ∀ query (entry : SendMethod × SendStage), entry.1.messageCount ≤ bound →
      ∀ query' method stage, (s.checking.insert query entry).lookup query' = some (method, stage) →
        method.messageCount ≤ bound := fun query entry hbound query' method stage hentry => by
    rcases TableLookup.of_insert hentry with ⟨-, rfl⟩ | ⟨-, hentry⟩
    · exact hbound
    · exact hchecked hentry
  cases hmove with
  | quiet messages loggingOut closing => exact ⟨h.count, h.checking⟩
  | rejected error => exact ⟨h.count, h.checking⟩
  | started method hmethod hP => exact ⟨h.count, hinserted _ _ hP⟩
  | looked query method stage chatId hquery =>
      exact ⟨h.count, hinserted _ _ (show method.messageCount ≤ bound from hchecked hquery)⟩
  | refused query method stage counts a hquery hcounts ha =>
      exact ⟨fun c => (hcounts c).trans_lt (h.count c), herased query⟩
  | requested query method request stage chatId hquery hrequest hcount hfresh =>
      refine ⟨fun c => ?_, herased query⟩
      have hmethod := hchecked hquery
      unfold countOf at hcount ⊢
      dsimp only at hmethod ⊢
      by_cases hc : c = chatId
      · rw [hc, AList.lookup_insert, Option.getD_some]
        omega
      · rw [AList.lookup_insert_ne hc]
        exact h.count c
  | failed handler r counts a hr hcounts ha => exact ⟨fun c => (hcounts c).trans_lt (h.count c), h.checking⟩
  | entered handler r counts messageIds hr hcounts hsome hnew hfresh =>
      exact ⟨fun c => (hcounts c).trans_lt (h.count c), h.checking⟩
  | reported k q p p' a outcome messages hk hp hsending hfollows htold =>
      refine ⟨fun c => ?_, h.checking⟩
      have hbefore := h.count c
      unfold settle countOf
      dsimp only
      rw [decreased_count]
      unfold countOf at hbefore
      split_ifs <;> omega
  | closed error hleaving htd hrequests =>
      refine ⟨fun c => ?_, h.checking⟩
      change (0 : Int) < maxConcurrentlySentChatMessages + bound
      unfold maxConcurrentlySentChatMessages
      omega

end SendClient

def SendEvent.mediaCount : SendEvent → Nat
  | .query (.sendMediaGroup count) => count
  | _ => 0

namespace SendClient

/-- The largest number of messages that one query of a run asks for; forwards and copies are limited to 100. -/
def largestQuery (xs : List SendInput) : Nat := xs.foldr (fun x n => max x.event.mediaCount n) 100

theorem messageCount_le_largestQuery {xs : List SendInput} {x : SendInput} (hx : x ∈ xs) {method : SendMethod}
    (hstarts : Starts x.event method) : method.messageCount ≤ largestQuery xs := by
  have hmedia : x.event.mediaCount ≤ largestQuery xs ∧ 100 ≤ largestQuery xs := by
    unfold largestQuery
    induction xs with
    | nil => cases hx
    | cons y xs ih =>
        rw [List.foldr_cons]
        have hall : ∀ ys : List SendInput, 100 ≤ ys.foldr (fun x n => max x.event.mediaCount n) 100 := fun ys => by
          induction ys with
          | nil => exact le_refl _
          | cons y ys ih => exact ih.trans (le_max_right _ _)
        rcases List.mem_cons.1 hx with rfl | hx
        · exact ⟨le_max_left _ _, (hall xs).trans (le_max_right _ _)⟩
        · exact ⟨(ih hx).1.trans (le_max_right _ _), (hall xs).trans (le_max_right _ _)⟩
  obtain ⟨hevent, hargument⟩ := hstarts
  have hforward : method.isForward = true → method.messageCount ≤ 100 := fun hforward => by
    unfold SendMethod.argumentError at hargument
    rw [if_neg (not_not.2 hforward)] at hargument
    split_ifs at hargument with htoo
    exact not_lt.1 htoo
  cases method with
  | sendMessage => exact (show 1 ≤ 100 by decide).trans hmedia.2
  | copyMessage => exact (show 1 ≤ 100 by decide).trans hmedia.2
  | sendMediaGroup count =>
      rw [hevent] at hmedia
      exact hmedia.1
  | forwardMessages count => exact (hforward rfl).trans hmedia.2
  | copyMessages count => exact (hforward rfl).trans hmedia.2

/-- In every state reached the count of a chat is the number of its messages that were requested and not yet
answered by TDLib, with those that are not sent yet; every query that waits awaits the messages that point to
it, of which there is one at least; no `CHECK` has failed; the count is bounded by what one query may ask for.
Every query that has come waits at one place or was answered once, a closed client has none that waits for its
messages, and a query succeeds if and only if TDLib returned messages for it and reported all of them as sent. -/
theorem send_accounting (xs : List SendInput) :
    let s := StepRun.run step {} xs
    (∀ c, s.countOf c = s.requested c + s.unsent c) ∧
    (∀ q p, s.pendingSendMessageQueries.lookup q = some p →
      p.awaitedMessageCount = s.pointing q ∧ 0 < p.awaitedMessageCount) ∧
    (∀ k q, s.yetUnsentMessages.lookup k = some q → ∃ p, s.pendingSendMessageQueries.lookup q = some p) ∧
    s.crashed = false ∧
    (∀ c, s.countOf c < maxConcurrentlySentChatMessages + largestQuery xs) ∧
    (∀ query, s.waits query + s.answersTo query = if query < s.queryCount then 1 else 0) ∧
    (s.tdClient = false → s.handlers = ∅ ∧ s.pendingSendMessageQueries = ∅) ∧
    ∀ query a, (query, a) ∈ s.answers → s.Right query a ∧ (a.isSuccess = true ↔ s.AllSent query) := by
  intro s
  have hrun : ∀ ys : List SendInput, (∀ x ∈ ys, ∀ method, Starts x.event method →
      method.messageCount ≤ largestQuery xs) → ∀ t : SendClient, Balanced t → Answered t →
        Bounded (largestQuery xs) t → Balanced (StepRun.run step t ys) ∧ Answered (StepRun.run step t ys) ∧
          Bounded (largestQuery xs) (StepRun.run step t ys) := fun ys => by
    induction ys with
    | nil => exact fun _ t hbalanced hanswered hbounded => ⟨hbalanced, hanswered, hbounded⟩
    | cons x ys ih =>
        intro hstarts t hbalanced hanswered hbounded
        obtain ⟨hnext, hmoves⟩ := hbalanced.step x (hstarts x List.mem_cons_self)
        exact ih (fun y hy => hstarts y (List.mem_cons_of_mem _ hy)) _ hnext
          (hmoves.keeps (fun _ _ hbalanced hmove hanswered => hanswered.move hbalanced hmove) hanswered)
          (hmoves.keeps (fun _ _ _ hmove hbounded => hbounded.move hmove) hbounded)
  have hinitial : Bounded (largestQuery xs) {} :=
    ⟨fun c => by change (0 : Int) < 310 + _; omega, fun _ _ _ hentry => by cases hentry⟩
  obtain ⟨hbalanced, hanswered, hbounded⟩ := hrun xs (fun x hx _ => messageCount_le_largestQuery hx) {}
    balanced_initial answered_initial hinitial
  refine ⟨fun c => (hbalanced.count c).trans (add_zero _), fun q p hp => ?_, hbalanced.pointed, hbalanced.sound,
    hbounded.count, hanswered.placed, fun hclosed => ?_, fun query a ha => ?_⟩
  · obtain ⟨hawaited, hpos, -⟩ := hbalanced.awaited q p hp
    exact ⟨hawaited, hpos⟩
  · obtain ⟨hrequests, hpending, -⟩ := hbalanced.closed hclosed
    exact ⟨hrequests, hpending⟩
  · have hright := hanswered.right query a ha
    exact ⟨hright, hright.isSuccess_iff⟩

/-- An album of 410 media is counted before TDLib refuses it. -/
theorem count_exceeds_limit : ¬ ∀ (xs : List SendInput) (c : Int),
    (StepRun.run step {} xs).countOf c ≤ maxConcurrentlySentChatMessages + 99 := fun h => by
  have hcount := h [⟨.query (.sendMediaGroup 410), { code := 500, message := "" }⟩,
    ⟨.checked 0 (.ok 1), { code := 500, message := "" }⟩] 1
  revert hcount
  decide

end SendClient

end TelegramBotApi
