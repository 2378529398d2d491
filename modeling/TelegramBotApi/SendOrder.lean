import TelegramBotApi.SendHistory

/-!
# Which answers name the right messages

Every query that waits for several messages is what its reports have made of it, and its answer is what they
add up to in the end. The list in a success is therefore in the order of the reports, and a position in an
error is the number of a report; they are right if and only if the reports have come in the order in which
TDLib returned the messages, as far as the answer depends on it.
-/

namespace TelegramBotApi

open TableSum

/-- The query of the messages after some of its reports. -/
def ReturnedMessages.after (messages : ReturnedMessages) (query : Nat) (reports : List SendReport) :
    PendingSendMessageQuery :=
  reports.foldl PendingSendMessageQuery.tell
    (SendClient.entered { query := query, method := messages.method, isMultisend := messages.method.isMultisend }
      messages.messageIds.length)

namespace ReturnedMessages

variable (messages : ReturnedMessages) (query : Nat) (reports : List SendReport)

theorem after_concat (report : SendReport) :
    messages.after query (reports ++ [report]) = (messages.after query reports).tell report := by
  unfold after
  rw [List.foldl_append, List.foldl_cons, List.foldl_nil]

theorem after_isMultisend : (messages.after query reports).isMultisend = messages.method.isMultisend :=
  (PendingSendMessageQuery.foldl_tell_frame reports _).2.2.1

theorem after_awaited : (messages.after query reports).awaitedMessageCount =
    (messages.messageIds.length : Int) - reports.length := by
  have hawaited := (PendingSendMessageQuery.foldl_tell_frame reports (SendClient.entered
    { query := query, method := messages.method, isMultisend := messages.method.isMultisend }
      messages.messageIds.length)).2.2.2.2.1
  exact hawaited.trans (by unfold SendClient.entered; dsimp only; omega)

theorem after_messages : (messages.after query reports).messages = newMessageIds reports :=
  (PendingSendMessageQuery.foldl_tell_frame reports _).2.2.2.2.2

theorem after_error : ErrorOf reports (messages.after query reports).error :=
  PendingSendMessageQuery.errorOf_foldl_tell rfl rfl reports

end ReturnedMessages

namespace SendClient

variable {s t : SendClient}

/-- The query waits for messages that were returned for it, or has its answer. -/
def Begun (s : SendClient) (query : Nat) : Prop :=
  (∃ q p, s.pendingSendMessageQueries.lookup q = some p ∧ p.query = query) ∨ ∃ a, (query, a) ∈ s.answers

theorem Begun.pos {query : Nat} (h : s.Begun query) :
    0 < total (fun _ p => if p.query = query then 1 else 0) s.pendingSendMessageQueries + s.answersTo query := by
  rcases h with ⟨q, p, hp, heq⟩ | ⟨a, ha⟩
  · have hle := le_total (fun _ p => if p.query = query then 1 else 0) hp
    rw [if_pos heq] at hle
    omega
  · have hpos := answersTo_pos ha
    omega

/-- A query that waited for the message still waits, or has its answer. -/
theorem Begun.settle {query : Nat} {k : MessageFullId} {q : Int} {p p' : PendingSendMessageQuery} (h : s.Begun query)
    (hp : s.pendingSendMessageQueries.lookup q = some p) (hquery : p'.query = p.query) (a : SendAnswer) :
    (s.settle k q p p' a).Begun query := by
  rcases h with ⟨q', r, hr, heq⟩ | ⟨b, hb⟩
  · by_cases hq : q' = q
    · rw [hq, hp] at hr
      cases hr
      by_cases hlast : p.awaitedMessageCount = 1
      · exact Or.inr ⟨a, mem_answers_settle.2 (Or.inr ⟨hlast, heq.symm, rfl⟩)⟩
      · exact Or.inl ⟨q, p', lookup_settle_self hlast, hquery.trans heq⟩
    · exact Or.inl ⟨q', r, (lookup_settle_ne hq).trans hr, heq⟩
  · exact Or.inr ⟨b, mem_answers_settle.2 (Or.inl hb)⟩

/-- A request that TDLib has not answered yet. -/
theorem Placed.not_begun (h : Placed s) {handler : Nat} {r : SendRequest} (hr : s.handlers.lookup handler = some r) :
    ¬ s.Begun r.query := fun hbegun => by
  have hle := le_total (fun _ r' => if r'.query = r.query then 1 else 0) hr
  have hpos := hbegun.pos
  have hplaced := h r.query
  unfold waits at hplaced
  rw [if_pos rfl] at hle
  split_ifs at hplaced <;> omega

/-- A query that gets an answer in passing has no messages. -/
theorem Beside.not_begun (h : Beside s t) (hplaced : Placed t) {query : Nat} {a : SendAnswer}
    (ha : (query, a) ∈ t.answers) : (query, a) ∈ s.answers ∨
      total (fun _ p => if p.query = query then 1 else 0) s.pendingSendMessageQueries + s.answersTo query = 0 := by
  obtain ⟨more, hmore⟩ := h.answers
  rw [hmore] at ha
  refine (List.mem_append.1 ha).imp_right fun hnew => ?_
  have hcount : s.answersTo query < t.answersTo query := by
    unfold answersTo
    rw [hmore, List.filter_append, List.length_append]
    have hpos : 0 < (more.filter (·.1 = query)).length :=
      List.length_pos_of_mem (List.mem_filter.2 ⟨hnew, decide_eq_true rfl⟩)
    omega
  have hbound := hplaced query
  unfold waits at hbound
  rw [h.pending] at hbound
  split_ifs at hbound <;> omega

end SendClient

namespace SendHistory

variable {h : SendHistory}

/-- An answer after the messages of its query were returned. -/
def Final (h : SendHistory) (query : Nat) (a : SendAnswer) : Prop :=
  (∀ messages, h.Complete query messages → a = (messages.after query (h.toldOf query)).finalAnswer) ∧
    ∀ messageIds onlyId, a = .messages messageIds onlyId → ∃ messages, h.Complete query messages

structure Kept (h : SendHistory) : Prop where
  balanced : SendClient.Balanced h.client
  answered : SendClient.Answered h.client
  pending : ∀ q p, h.client.pendingSendMessageQueries.lookup q = some p →
    ∃ messages, h.returned.lookup p.query = some messages ∧ p = messages.after p.query (h.toldOf p.query)
  sending : ∀ k query, h.client.sending.lookup k = some query → ∃ messages, h.returned.lookup query = some messages ∧
    k.chatId = messages.chatId ∧ k.messageId ∈ messages.messageIds ∧
      k.messageId ∉ (h.toldOf query).map (·.message.messageId)
  returned : ∀ query messages, h.returned.lookup query = some messages → h.client.Begun query
  told : ∀ report ∈ h.told, ∃ messages, h.returned.lookup report.query = some messages ∧
    report.message.chatId = messages.chatId
  once : ∀ query, ((h.toldOf query).map (·.message.messageId)).Nodup
  fresh : h.told.Pairwise fun report report' => report.newMessage = none ∨ report.newMessage ≠ report'.newMessage
  answers : ∀ query a, (query, a) ∈ h.client.answers → h.Final query a

theorem toldOf_concat {h' : SendHistory} {report : SendReport} (htold : h'.told = h.told ++ [report]) (query : Nat) :
    h'.toldOf query = h.toldOf query ++ if report.query = query then [report] else [] := by
  unfold toldOf
  rw [htold, List.filter_append, List.filter_singleton]
  congr 1
  split_ifs with heq
  · rw [decide_eq_true heq]
    rfl
  · rw [decide_eq_false heq]
    rfl

/-- What an answer is to be depends on the messages and on the reports of its query only. -/
theorem final_congr {h' : SendHistory} {query : Nat} (hreturned : h'.returned.lookup query = h.returned.lookup query)
    (htold : h'.toldOf query = h.toldOf query) (a : SendAnswer) : h'.Final query a ↔ h.Final query a := by
  unfold Final Complete
  rw [hreturned, htold]

theorem step_eq (hsound : h.client.crashed = false) {x : SendInput} (hx : h.reuses x.event = false) :
    h.step x = {
      client := h.client.step x
      returned := match h.client.returnsIn x.event with
        | none => h.returned
        | some (query, messages) => h.returned.insert query messages
      told := if h.client.tdClient then h.told ++ h.client.reportsIn x.event else h.told } :=
  if_neg (not_or.2 ⟨ne_true_of_eq_false hsound, ne_true_of_eq_false hx⟩)

namespace Kept

theorem not_complete_of_pending (hk : Kept h) {q : Int} {p : PendingSendMessageQuery}
    (hp : h.client.pendingSendMessageQueries.lookup q = some p) (messages : ReturnedMessages) :
    ¬ h.Complete p.query messages := by
  rintro ⟨hreturned, -, hlength⟩
  obtain ⟨messages', hreturned', hafter⟩ := hk.pending q p hp
  obtain ⟨-, hpos, -⟩ := hk.balanced.awaited q p hp
  cases hreturned.symm.trans hreturned'
  have hawaited := messages.after_awaited p.query (h.toldOf p.query)
  rw [← hafter] at hawaited
  omega

/-- The messages of the queries stay as they are. -/
theorem beside (hk : Kept h) {t : SendClient} (hbeside : SendClient.Beside h.client t)
    (hbalanced : SendClient.Balanced t) (hanswered : SendClient.Answered t) : Kept { h with client := t } := by
  have hbegun : ∀ {query}, h.client.Begun query → t.Begun query := fun {query} hold => by
    refine hold.imp (fun hwaits => ?_) fun ⟨a, ha⟩ => ?_
    · rw [hbeside.pending]
      exact hwaits
    · obtain ⟨more, hmore⟩ := hbeside.answers
      rw [hmore]
      exact ⟨a, List.mem_append_left _ ha⟩
  refine ⟨hbalanced, hanswered, ?_, ?_, fun query messages hreturned => hbegun (hk.returned query messages hreturned),
    hk.told, hk.once, hk.fresh, fun query a ha => ?_⟩
  · change ∀ q p, t.pendingSendMessageQueries.lookup q = some p → _
    rw [hbeside.pending]
    exact hk.pending
  · change ∀ k query, t.sending.lookup k = some query → _
    rw [hbeside.sending]
    exact hk.sending
  · rcases hbeside.not_begun hanswered.placed ha with hold | hnone
    · exact hk.answers query a hold
    · refine ⟨fun messages hcomplete => ?_, fun messageIds onlyId heq => ?_⟩
      · exact absurd hnone (hk.returned query messages hcomplete.1).pos.ne'
      · have hright := hanswered.right query a ha
        rw [heq] at hright
        have hreported : h.client.reported query ≠ [] := fun hnil => by
          have hsame : t.reported query = h.client.reported query := by
            unfold SendClient.reported
            rw [hbeside.reports]
          exact hright.1 (List.map_eq_nil_iff.1 (hright.2.1.symm.trans (hsame.trans hnil)))
        exact absurd hnone (hk.answered.begun query (Or.inl hreported)).ne'

/-- TDLib has returned messages for a request. -/
theorem entered (hk : Kept h) {handler : Nat} {r : SendRequest} (hr : h.client.handlers.lookup handler = some r)
    {messageIds : List Int} {s t : SendClient} (hentered : SendClient.Entered s t r messageIds)
    (hpending : s.pendingSendMessageQueries = h.client.pendingSendMessageQueries)
    (hsending : s.sending =
      insertAll h.client.sending (messageIds.map fun messageId => ⟨r.chatId, messageId⟩) r.query)
    (hanswers : s.answers = h.client.answers)
    (hfresh : h.client.pendingSendMessageQueries.lookup s.currentSendMessageQueryId = none)
    (hbalanced : SendClient.Balanced t) (hanswered : SendClient.Answered t) :
    Kept { h with client := t, returned := h.returned.insert r.query ⟨r.method, r.chatId, messageIds⟩ } := by
  have hnew : ¬ h.client.Begun r.query := hk.answered.placed.not_begun hr
  have hne : ∀ {query messages}, h.returned.lookup query = some messages → query ≠ r.query :=
    fun {query messages} hreturned heq => hnew (heq ▸ hk.returned query messages hreturned)
  have hkept : ∀ {query messages}, h.returned.lookup query = some messages →
      (h.returned.insert r.query ⟨r.method, r.chatId, messageIds⟩).lookup query = some messages :=
    fun {query messages} hreturned => (AList.lookup_insert_ne (hne hreturned)).trans hreturned
  have hnone : h.toldOf r.query = [] := List.filter_eq_nil_iff.2 fun report hmem heq => by
    obtain ⟨messages, hreturned, -⟩ := hk.told report hmem
    exact hne hreturned (of_decide_eq_true heq)
  have hbegun : ∀ {query}, h.client.Begun query → t.Begun query := fun {query} hold => by
    refine hold.imp (fun ⟨q, p, hp, heq⟩ => ⟨q, p, ?_, heq⟩) fun ⟨a, ha⟩ => ⟨a, ?_⟩
    · rw [hentered.pending, hpending, AList.lookup_insert_ne fun hq => ?_]
      · exact hp
      · rw [hq, hfresh] at hp
        cases hp
    · rw [hentered.answers, hanswers]
      exact ha
  refine ⟨hbalanced, hanswered, fun q p hp => ?_, fun k query hsent => ?_, fun query messages hreturned => ?_,
    fun report hmem => ?_, hk.once, hk.fresh, fun query a ha => ?_⟩
  · change t.pendingSendMessageQueries.lookup q = some p at hp
    rw [hentered.pending] at hp
    by_cases hq : q = s.currentSendMessageQueryId
    · rw [hq, AList.lookup_insert] at hp
      cases hp
      refine ⟨⟨r.method, r.chatId, messageIds⟩, AList.lookup_insert _, ?_⟩
      change _ = ReturnedMessages.after _ r.query (h.toldOf r.query)
      rw [hnone]
      rfl
    · rw [AList.lookup_insert_ne hq, hpending] at hp
      obtain ⟨messages, hreturned, hafter⟩ := hk.pending q p hp
      exact ⟨messages, hkept hreturned, hafter⟩
  · change t.sending.lookup k = some query at hsent
    rw [hentered.sending, hsending, lookup_insertAll] at hsent
    split_ifs at hsent with hmem
    · cases hsent
      obtain ⟨messageId, hid, rfl⟩ := List.mem_map.1 hmem
      refine ⟨_, AList.lookup_insert _, rfl, hid, ?_⟩
      change messageId ∉ (h.toldOf r.query).map _
      rw [hnone]
      exact List.not_mem_nil
    · obtain ⟨messages, hreturned, hof⟩ := hk.sending k query hsent
      exact ⟨messages, hkept hreturned, hof⟩
  · by_cases heq : query = r.query
    · left
      refine ⟨s.currentSendMessageQueryId, SendClient.entered
        { query := r.query, method := r.method, isMultisend := r.method.isMultisend } messageIds.length, ?_, heq.symm⟩
      rw [hentered.pending]
      exact AList.lookup_insert _
    · exact hbegun (hk.returned query messages ((AList.lookup_insert_ne heq).symm.trans hreturned))
  · obtain ⟨messages, hreturned, hchat⟩ := hk.told report hmem
    exact ⟨messages, hkept hreturned, hchat⟩
  · change (query, a) ∈ t.answers at ha
    rw [hentered.answers, hanswers] at ha
    have heq : query ≠ r.query := fun heq => hnew (heq ▸ Or.inr ⟨a, ha⟩)
    refine (final_congr ?_ ?_ a).2 (hk.answers query a ha)
    · exact AList.lookup_insert_ne heq
    · rfl

theorem closed (hk : Kept h) (error : ClosingError) (hbalanced : SendClient.Balanced (h.client.onClosed error))
    (hanswered : SendClient.Answered (h.client.onClosed error)) :
    Kept { h with client := h.client.onClosed error } := by
  refine ⟨hbalanced, hanswered, fun q p hp => (by cases hp), hk.sending, fun query messages hreturned => Or.inr ?_,
    hk.told, hk.once, hk.fresh, fun query a ha => ?_⟩
  · change ∃ a, (query, a) ∈ h.client.answers ++ h.client.pendingSendMessageQueries.entries.map fun e =>
      SendClient.failQueryClosing e.2.query error
    rcases hk.returned query messages hreturned with ⟨q, p, hp, heq⟩ | ⟨a, ha⟩
    · refine ⟨(SendClient.failQueryClosing p.query error).2, List.mem_append_right _ (List.mem_map.2
        ⟨⟨q, p⟩, AList.mem_lookup_iff.1 hp, ?_⟩)⟩
      exact Prod.ext heq rfl
    · exact ⟨a, List.mem_append_left _ ha⟩
  · rcases List.mem_append.1 ha with hold | hclosing
    · exact hk.answers query a hold
    · obtain ⟨⟨q, p⟩, hmem, heq⟩ := List.mem_map.1 hclosing
      have hp : h.client.pendingSendMessageQueries.lookup q = some p := AList.mem_lookup_iff.2 hmem
      unfold SendClient.failQueryClosing at heq
      cases heq
      refine ⟨fun messages hcomplete => absurd hcomplete (hk.not_complete_of_pending hp messages),
        fun ids onlyId hids => ?_⟩
      split_ifs at hids

section Reported

variable {h' : SendHistory} {k : MessageFullId} {query : Nat} {outcome : Except Status Int}

/-- A message that is still being sent is not the one that the report is about. -/
theorem sending_told (hk : Kept h) (hreturned : h'.returned = h.returned)
    (htold : h'.told = h.told ++ [⟨query, k, outcome⟩]) (hsending : h.client.sending.lookup k = some query)
    {k' : MessageFullId} {query' : Nat} (hne : k' ≠ k) (hsending' : h.client.sending.lookup k' = some query') :
    ∃ messages, h'.returned.lookup query' = some messages ∧ k'.chatId = messages.chatId ∧
      k'.messageId ∈ messages.messageIds ∧ k'.messageId ∉ (h'.toldOf query').map (·.message.messageId) := by
  obtain ⟨messages, hof, hchat, hid, hfirst⟩ := hk.sending k' query' hsending'
  rw [hreturned, toldOf_concat htold]
  refine ⟨messages, hof, hchat, hid, ?_⟩
  by_cases heq : query = query'
  · rw [if_pos heq, List.map_append, List.mem_append, not_or]
    refine ⟨hfirst, fun hmem => hne ?_⟩
    obtain ⟨messages', hof', hchat', -⟩ := hk.sending k query hsending
    rw [heq] at hof'
    cases hof.symm.trans hof'
    have hsame : k'.messageId = k.messageId := List.mem_singleton.1 hmem
    obtain ⟨c, m⟩ := k
    obtain ⟨c', m'⟩ := k'
    cases hsame
    cases hchat.trans hchat'.symm
    rfl
  · rw [if_neg heq, List.append_nil]
    exact hfirst

theorem once_told (hk : Kept h) (htold : h'.told = h.told ++ [⟨query, k, outcome⟩])
    (hsending : h.client.sending.lookup k = some query) (query' : Nat) :
    ((h'.toldOf query').map (·.message.messageId)).Nodup := by
  obtain ⟨-, -, -, -, hfirst⟩ := hk.sending k query hsending
  rw [toldOf_concat htold]
  by_cases heq : query = query'
  · rw [if_pos heq, List.map_append]
    exact (hk.once query').append (List.nodup_singleton _) (List.disjoint_singleton.2 (heq ▸ hfirst))
  · rw [if_neg heq, List.append_nil]
    exact hk.once query'

theorem fresh_told (hk : Kept h) (hnew : ∀ newMessageId, outcome = .ok newMessageId →
      some (⟨k.chatId, newMessageId⟩ : MessageFullId) ∉ h.told.map (·.newMessage)) :
    (h.told ++ [(⟨query, k, outcome⟩ : SendReport)]).Pairwise fun report report' =>
      report.newMessage = none ∨ report.newMessage ≠ report'.newMessage := by
  refine List.pairwise_append.2 ⟨hk.fresh, List.pairwise_singleton _ _, fun report hmem report' hlast => ?_⟩
  cases List.mem_singleton.1 hlast
  refine or_iff_not_imp_left.2 fun hsome heq => ?_
  unfold SendReport.newMessage at hsome heq
  cases outcome with
  | error error => exact hsome heq
  | ok newMessageId => exact hnew newMessageId rfl (List.mem_map.2 ⟨report, hmem, heq⟩)

/-- The answer of a query after the report of its last message. -/
theorem final_told (hreturned : h'.returned = h.returned) (htold : h'.told = h.told ++ [⟨query, k, outcome⟩])
    {messages : ReturnedMessages} (hof : h.returned.lookup query = some messages) {p : PendingSendMessageQuery}
    (hafter : p = messages.after query (h.toldOf query)) (hlast : p.awaitedMessageCount = 1) {a : SendAnswer}
    (ha : p.isMultisend = true → a = (p.tell ⟨query, k, outcome⟩).finalAnswer)
    (hsingle : p.isMultisend = false → ∀ messageIds onlyId, a ≠ .messages messageIds onlyId) : h'.Final query a := by
  have hmulti : p.isMultisend = messages.method.isMultisend := by
    rw [hafter]
    exact messages.after_isMultisend _ _
  have hself : h'.toldOf query = h.toldOf query ++ [⟨query, k, outcome⟩] := by
    rw [toldOf_concat htold, if_pos rfl]
  refine ⟨fun messages' ⟨hof', hmultisend, _⟩ => ?_, fun ids onlyId hids => ⟨messages, ?_, ?_, ?_⟩⟩
  · rw [hreturned, hof] at hof'
    cases hof'
    rw [hself, ReturnedMessages.after_concat, ← hafter]
    exact ha (hmulti.trans hmultisend)
  · rw [hreturned]
    exact hof
  · rw [← hmulti]
    by_contra hno
    exact hsingle (eq_false_of_ne_true hno) ids onlyId hids
  · have hawaited := messages.after_awaited query (h.toldOf query)
    rw [← hafter] at hawaited
    rw [hself, List.length_append, List.length_singleton]
    omega

end Reported

/-- TDLib has told what became of a message. -/
theorem reported (hk : Kept h) {k : MessageFullId} {q : Int} {p : PendingSendMessageQuery} {a : SendAnswer}
    {outcome : Except Status Int} {reports : List (Nat × Option Int)} {messages : Finset MessageFullId}
    (hp : h.client.pendingSendMessageQueries.lookup q = some p) (hsending : h.client.sending.lookup k = some p.query)
    (hnew : ∀ newMessageId, outcome = .ok newMessageId →
      some (⟨k.chatId, newMessageId⟩ : MessageFullId) ∉ h.told.map (·.newMessage))
    (ha : p.isMultisend = true → a = (p.tell ⟨p.query, k, outcome⟩).finalAnswer)
    (hsingle : p.isMultisend = false → ∀ messageIds onlyId, a ≠ .messages messageIds onlyId)
    {t : SendClient} (ht : t = { h.client with
      sending := h.client.sending.erase k
      reports := reports
      messages := messages }.settle k q p (p.tell ⟨p.query, k, outcome⟩) a)
    (hbalanced : SendClient.Balanced t) (hanswered : SendClient.Answered t) :
    Kept { h with client := t, told := h.told ++ [⟨p.query, k, outcome⟩] } := by
  obtain ⟨hquery, -⟩ := PendingSendMessageQuery.tell_frame p ⟨p.query, k, outcome⟩
  obtain ⟨returned, hreturned, hafter⟩ := hk.pending q p hp
  generalize hh : ({ h with client := t, told := h.told ++ [⟨p.query, k, outcome⟩] } : SendHistory) = h'
  have hclient : h'.client = t := by rw [← hh]
  have hsame : h'.returned = h.returned := by rw [← hh]
  have htold : h'.told = h.told ++ [⟨p.query, k, outcome⟩] := by rw [← hh]
  have hother : ∀ {query}, query ≠ p.query → h'.toldOf query = h.toldOf query := fun {query} hne => by
    rw [toldOf_concat htold, if_neg (Ne.symm hne), List.append_nil]
  refine ⟨hclient ▸ hbalanced, hclient ▸ hanswered, fun q' p' hp' => ?_, fun k' query hsent => ?_,
    fun query messages hof => ?_, fun report hmem => ?_, hk.once_told htold hsending, ?_, fun query b hb => ?_⟩
  · rw [hclient, ht] at hp'
    rw [hsame]
    rcases SendClient.pending_settle hp' with ⟨-, rfl, -⟩ | ⟨hq, hold⟩
    · refine ⟨returned, by rw [hquery]; exact hreturned, ?_⟩
      rw [hquery, toldOf_concat htold, if_pos rfl, ReturnedMessages.after_concat, ← hafter]
    · rw [hother fun heq => hq (hk.answered.placed.unique hp hold heq)]
      exact hk.pending q' p' hold
  · rw [hclient, ht] at hsent
    obtain ⟨hne, hsent⟩ := TableLookup.of_erase (t := h.client.sending) hsent
    exact hk.sending_told hsame htold hsending hne hsent
  · rw [hclient, ht]
    rw [hsame] at hof
    exact SendClient.Begun.settle (k := k) (hk.returned query messages hof) hp hquery a
  · rw [htold] at hmem
    rw [hsame]
    rcases List.mem_append.1 hmem with hold | hlast
    · exact hk.told report hold
    · cases List.mem_singleton.1 hlast
      obtain ⟨messages, hof, hchat, -⟩ := hk.sending k p.query hsending
      exact ⟨messages, hof, hchat⟩
  · rw [htold]
    exact hk.fresh_told hnew
  · rw [hclient, ht] at hb
    rcases SendClient.mem_answers_settle.1 hb with hold | ⟨hlast, rfl, rfl⟩
    · have hne : query ≠ p.query := hk.answered.placed.unanswered hp hold
      exact (final_congr (congrArg (AList.lookup query) hsame) (hother hne) b).2 (hk.answers query b hold)
    · exact final_told hsame htold hreturned hafter hlast ha hsingle

theorem sendFailed (hk : Kept h) (htd : h.client.tdClient = true) {k : MessageFullId} {query : Nat}
    (hsending : h.client.sending.lookup k = some query) (error : Status) :
    Kept { h with
      client := (h.client.report k none).onMessageSendFailed k error
      told := h.told ++ [⟨query, k, .error error⟩] } ∧
    ((h.client.report k none).onMessageSendFailed k error).sending = h.client.sending.erase k := by
  have hsome : h.client.sending.lookup k ≠ none := by
    rw [hsending]
    exact Option.some_ne_none query
  obtain ⟨q, p, hq, hp⟩ := hk.balanced.waiting htd hsome
  obtain ⟨-, -, hone⟩ := hk.balanced.awaited q p hp
  have hquery : p.query = query := by
    rw [hk.balanced.sending htd, hq, Option.bind_some, hp] at hsending
    exact Option.some_inj.1 hsending
  subst hquery
  obtain ⟨hbalanced, hmove, -⟩ := hk.balanced.sendFailed (P := fun _ => True) htd hsome error
  have hanswered := hk.answered.move hk.balanced hmove
  have hreport := hk.balanced.report_eq htd hq hp none
  obtain ⟨e, heq, hlast⟩ := SendClient.onMessageSendFailed_eq (s := h.client.report k none)
    (by rw [hreport]; exact hq) (by rw [hreport]; exact hp)
    (by rw [hreport]; exact hk.balanced.one_le_countOf hq (le_refl 0)) hone error
  rw [heq, hreport] at hbalanced hanswered ⊢
  refine ⟨hk.reported hp hsending (fun newMessageId hsent => (by cases hsent)) (fun hmulti => ?_)
    (fun _ messageIds onlyId hids => (by cases hids)) rfl hbalanced hanswered, rfl⟩
  change _ = PendingSendMessageQuery.finalAnswer
    { p.addError error with awaitedMessageCount := p.awaitedMessageCount - 1 }
  unfold PendingSendMessageQuery.finalAnswer
  rw [hlast hmulti]

theorem sendSucceeded (hk : Kept h) (htd : h.client.tdClient = true) {chatId newMessageId oldMessageId : Int}
    {query : Nat} (hsending : h.client.sending.lookup ⟨chatId, oldMessageId⟩ = some query) (hpos : 0 < newMessageId)
    (hunused : (h.client.sending.erase ⟨chatId, oldMessageId⟩).lookup ⟨chatId, newMessageId⟩ = none)
    (hnew : some (⟨chatId, newMessageId⟩ : MessageFullId) ∉ h.told.map (·.newMessage)) :
    Kept { h with
      client := (h.client.report ⟨chatId, oldMessageId⟩ (some newMessageId)).onMessageSendSucceeded chatId newMessageId
        oldMessageId
      told := h.told ++ [⟨query, ⟨chatId, oldMessageId⟩, .ok newMessageId⟩] } := by
  have hsome : h.client.sending.lookup ⟨chatId, oldMessageId⟩ ≠ none := by
    rw [hsending]
    exact Option.some_ne_none query
  obtain ⟨q, p, hq, hp⟩ := hk.balanced.waiting htd hsome
  obtain ⟨-, -, hone⟩ := hk.balanced.awaited q p hp
  have hquery : p.query = query := by
    rw [hk.balanced.sending htd, hq, Option.bind_some, hp] at hsending
    exact Option.some_inj.1 hsending
  subst hquery
  obtain ⟨hbalanced, hmove⟩ := hk.balanced.sendSucceeded (P := fun _ => True) htd hsome hpos hunused
  have hanswered := hk.answered.move hk.balanced hmove
  have hreport := hk.balanced.report_eq htd hq hp (some newMessageId)
  have heq := SendClient.onMessageSendSucceeded_eq
    (s := h.client.report ⟨chatId, oldMessageId⟩ (some newMessageId)) hpos
    (by rw [hreport]; exact hq) (by rw [hreport]; exact hp)
    (by rw [hreport]; exact hk.balanced.one_le_countOf hq (le_refl 0)) hone
  rw [heq, hreport] at hbalanced hanswered ⊢
  refine hk.reported hp hsending (fun id hsent => ?_) (fun hmulti => ?_) (fun hsingle messageIds onlyId hids => ?_)
    rfl hbalanced hanswered
  · cases hsent
    exact hnew
  · unfold SendClient.lastAnswer
    rw [if_pos hmulti]
    rfl
  · unfold SendClient.lastAnswer at hids
    rw [hsingle, if_neg Bool.false_ne_true] at hids
    cases hids

theorem deletions (hk : Kept h) (htd : h.client.tdClient = true) (chatId : Int) (messageIds : List Int)
    (reason : DeletedReason) :
    Kept { h with
      client := messageIds.foldl (fun s messageId =>
        (s.report ⟨chatId, messageId⟩ none).deleteMessage ⟨chatId, messageId⟩ reason) h.client
      told := h.told ++ deletionReports chatId reason.error h.client.sending messageIds } := by
  induction messageIds generalizing h with
  | nil =>
      unfold deletionReports
      rw [List.append_nil]
      exact hk
  | cons messageId messageIds ih =>
      obtain ⟨hbalanced, hmove, htd'⟩ := hk.balanced.deleted (P := fun _ => True) (k := ⟨chatId, messageId⟩) htd reason
      have hanswered := hk.answered.move hk.balanced hmove
      unfold deletionReports reportOf
      rw [List.foldl_cons]
      cases hsending : h.client.sending.lookup ⟨chatId, messageId⟩ with
      | none =>
          have hreport : h.client.report ⟨chatId, messageId⟩ none = h.client := by
            unfold SendClient.report
            rw [hsending]
          have hbeside : SendClient.Beside h.client
              ((h.client.report ⟨chatId, messageId⟩ none).deleteMessage ⟨chatId, messageId⟩ reason) := by
            rw [hreport]
            unfold SendClient.deleteMessage
            rw [(hk.balanced.sending_eq_none htd _).1 hsending, Option.isSome_none, if_neg Bool.false_ne_true]
            split_ifs
            · exact ⟨rfl, rfl, rfl, [], (List.append_nil _).symm⟩
            · exact SendClient.Beside.refl _
          have hnext := ih (hk.beside hbeside hbalanced hanswered) htd'
          rw [hbeside.sending] at hnext
          rw [erase_of_lookup_eq_none hsending]
          exact hnext
      | some query =>
          have hsome : h.client.sending.lookup ⟨chatId, messageId⟩ ≠ none := by
            rw [hsending]
            exact Option.some_ne_none query
          obtain ⟨q, p, hq, hp⟩ := hk.balanced.waiting htd hsome
          have hreport := hk.balanced.report_eq htd hq hp none
          -- the message is not one that the client knows
          have hdelete : (h.client.report ⟨chatId, messageId⟩ none).deleteMessage ⟨chatId, messageId⟩ reason =
              (h.client.report ⟨chatId, messageId⟩ none).onMessageSendFailed ⟨chatId, messageId⟩ reason.error := by
            unfold SendClient.deleteMessage
            rw [if_neg, if_pos]
            · rw [hreport]
              change (h.client.yetUnsentMessages.lookup _).isSome = true
              rw [hq]
              rfl
            · intro hmem
              rw [hreport] at hmem
              have hnone := hk.balanced.known _ hmem
              rw [hq] at hnone
              cases hnone
          rw [hdelete] at htd' ⊢
          obtain ⟨hfailed, herased⟩ := hk.sendFailed htd hsending reason.error
          have hnext := ih hfailed htd'
          rw [herased, List.append_assoc] at hnext
          exact hnext

/-- A step that neither returns nor reports messages. -/
theorem aside (hk : Kept h) (x : SendInput) (hreturns : h.client.returnsIn x.event = none)
    (hreports : h.client.tdClient = true → h.client.reportsIn x.event = [])
    (hbeside : SendClient.Beside h.client (h.client.step x)) : Kept (h.step x) := by
  obtain ⟨hbalanced, hmoves⟩ := hk.balanced.step (P := fun _ => True) x fun _ _ => trivial
  have hanswered := hmoves.keeps (fun _ _ hbalanced hmove hanswered => hanswered.move hbalanced hmove) hk.answered
  unfold SendHistory.step
  split
  · exact hk
  · rw [hreturns]
    have htold : (if h.client.tdClient then h.told ++ h.client.reportsIn x.event else h.told) = h.told := by
      split
      · rename_i htd
        rw [hreports htd, List.append_nil]
      · rfl
    rw [htold]
    exact hk.beside hbeside hbalanced hanswered

theorem result (hk : Kept h) (handler : Nat) (messageIds : List (Option Int)) (closingError : ClosingError) :
    Kept (h.step ⟨.result handler (.messages messageIds), closingError⟩) := by
  have hbeside := fun hreturns hbeside => hk.aside ⟨.result handler (.messages messageIds), closingError⟩ hreturns
    (fun _ => rfl) hbeside
  obtain ⟨hbalanced, hmoves⟩ := hk.balanced.step (P := fun _ => True)
    ⟨.result handler (.messages messageIds), closingError⟩ fun _ _ => trivial
  have hanswered := hmoves.keeps (fun _ _ hbalanced hmove hanswered => hanswered.move hbalanced hmove) hk.answered
  have hsound : ¬ h.client.crashed = true := ne_true_of_eq_false hk.balanced.sound
  cases hr : h.client.handlers.lookup handler with
  | none =>
      refine hbeside ?_ ?_
      · unfold SendClient.returnsIn
        dsimp only
        rw [hr]
        rfl
      · unfold SendClient.step
        rw [if_neg hsound]
        dsimp only
        rw [hr]
        exact SendClient.Beside.refl _
  | some r =>
      have htd := hk.balanced.tdClient_of_request hr
      have hstep : h.client.step ⟨.result handler (.messages messageIds), closingError⟩ =
          if h.client.Returns r (.messages messageIds) then
            { h.client with
              handlers := h.client.handlers.erase handler
              sending := insertAll h.client.sending (SendClient.returned r (.messages messageIds)) r.query
            }.onResult r (.messages messageIds)
          else h.client := by
        unfold SendClient.step
        rw [if_neg hsound]
        dsimp only
        rw [hr]
      have hin : h.client.returnsIn (.result handler (.messages messageIds)) =
          if h.client.Returns r (.messages messageIds) ∧ messageIds.filterMap id ≠ [] then
            some (r.query, ⟨r.method, r.chatId, messageIds.filterMap id⟩) else none := by
        unfold SendClient.returnsIn
        dsimp only
        rw [hr]
        rfl
      by_cases hreturns : h.client.Returns r (.messages messageIds)
      · rw [if_pos hreturns] at hstep
        obtain ⟨hpos, hlength, hnull, hnodup, hnew⟩ := hreturns
        by_cases hnil : messageIds.filterMap id = []
        · refine hbeside (by rw [hin, if_neg fun hall => hall.2 hnil]) ?_
          have hforward : r.method.isForward = true := by
            by_contra hno
            have hfull := SendClient.length_of_full hlength (hnull (eq_false_of_ne_true hno))
            rw [hnil] at hfull
            exact absurd hfull hpos.ne
          rw [hstep]
          refine SendClient.Beside.trans ?_ (SendClient.beside_onResult_empty hforward hnil)
          refine ⟨rfl, ?_, rfl, [], (List.append_nil _).symm⟩
          unfold SendClient.returned
          dsimp only
          rw [hnil]
          rfl
        · rw [step_eq hk.balanced.sound rfl]
          dsimp only
          rw [hin, if_pos ⟨⟨hpos, hlength, hnull, hnodup, hnew⟩, hnil⟩]
          rw [hstep] at hbalanced hanswered ⊢
          have hentered := SendClient.onResult_entered (r := r) (s := { h.client with
              handlers := h.client.handlers.erase handler
              sending := insertAll h.client.sending (SendClient.returned r (.messages messageIds)) r.query })
            hlength hnull hnil hnodup
            (fun messageId hmem => (hk.balanced.sending_eq_none htd _).1 (hnew messageId hmem).1)
            hk.balanced.lookup_fresh
          have hkept := hk.entered hr hentered rfl rfl rfl hk.balanced.lookup_fresh hbalanced hanswered
          have htold : (if h.client.tdClient then
              h.told ++ h.client.reportsIn (.result handler (.messages messageIds)) else h.told) = h.told := by
            rw [if_pos htd]
            exact List.append_nil _
          dsimp only
          rw [htold]
          exact hkept
      · refine hbeside (by rw [hin, if_neg fun hall => hreturns hall.1]) ?_
        rw [hstep, if_neg hreturns]
        exact SendClient.Beside.refl _

/-- An update when TDLib is still there; nothing is returned. -/
theorem update (hk : Kept h) (x : SendInput) (hreturns : h.client.returnsIn x.event = none)
    (hstep : h.client.step x = if h.client.tdClient then h.client.onUpdate x.event else h.client)
    (hupdate : h.client.tdClient = true → h.reuses x.event = false → Kept { h with
      client := h.client.onUpdate x.event
      told := h.told ++ h.client.reportsIn x.event }) : Kept (h.step x) := by
  cases htd : h.client.tdClient with
  | false =>
      refine hk.aside x hreturns (fun htrue => absurd (htd.symm.trans htrue) Bool.false_ne_true) ?_
      rw [hstep, htd]
      exact SendClient.Beside.refl _
  | true =>
      cases hreuses : h.reuses x.event with
      | true =>
          have hsame : h.step x = h := if_pos (Or.inr hreuses)
          rw [hsame]
          exact hk
      | false =>
          rw [step_eq hk.balanced.sound hreuses, hreturns, hstep, htd]
          exact hupdate htd hreuses

theorem step (hk : Kept h) (x : SendInput) : Kept (h.step x) := by
  have hsound : ¬ h.client.crashed = true := ne_true_of_eq_false hk.balanced.sound
  obtain ⟨event, closingError⟩ := x
  cases event with
  | query method =>
      refine hk.aside _ rfl (fun _ => rfl) ?_
      unfold SendClient.step
      rw [if_neg hsound]
      exact SendClient.beside_onQuery _ _
  | checked query result =>
      refine hk.aside _ rfl (fun _ => rfl) ?_
      unfold SendClient.step
      rw [if_neg hsound]
      dsimp only
      split
      · exact SendClient.Beside.refl _
      · split
        · exact ⟨rfl, rfl, rfl, _, rfl⟩
        · exact SendClient.beside_onChecked _ _ _ _ _ _
  | result handler result =>
      cases result with
      | messages messageIds => exact hk.result handler messageIds closingError
      | error error =>
          refine hk.aside _ rfl (fun _ => rfl) ?_
          unfold SendClient.step
          rw [if_neg hsound]
          dsimp only
          split
          · exact SendClient.Beside.refl _
          · split
            · refine SendClient.Beside.trans ?_ (SendClient.beside_onResult_error _ _ _)
              exact ⟨rfl, rfl, rfl, [], (List.append_nil _).symm⟩
            · exact SendClient.Beside.refl _
  | loggingOut =>
      refine hk.aside _ rfl (fun _ => rfl) ?_
      unfold SendClient.step
      rw [if_neg hsound]
      exact ⟨rfl, rfl, rfl, [], (List.append_nil _).symm⟩
  | closing =>
      refine hk.aside _ rfl (fun _ => rfl) ?_
      unfold SendClient.step
      rw [if_neg hsound]
      exact ⟨rfl, rfl, rfl, [], (List.append_nil _).symm⟩
  | closed =>
      obtain ⟨hbalanced, hmoves⟩ := hk.balanced.step (P := fun _ => True) ⟨.closed, closingError⟩ fun _ _ => trivial
      have hanswered := hmoves.keeps (fun _ _ hbalanced hmove hanswered => hanswered.move hbalanced hmove) hk.answered
      have hstep : h.client.step ⟨.closed, closingError⟩ =
          if h.client.tdClient ∧ (h.client.loggingOut ∨ h.client.closing) ∧ h.client.handlers.keys = [] then
            h.client.onClosed closingError else h.client := by
        unfold SendClient.step
        rw [if_neg hsound]
      by_cases hall : h.client.tdClient ∧ (h.client.loggingOut ∨ h.client.closing) ∧ h.client.handlers.keys = []
      · rw [step_eq hk.balanced.sound rfl]
        rw [hstep, if_pos hall] at hbalanced hanswered ⊢
        have htold : (if h.client.tdClient then h.told ++ h.client.reportsIn .closed else h.told) = h.told := by
          rw [if_pos hall.1]
          exact List.append_nil _
        dsimp only
        rw [htold]
        exact hk.closed closingError hbalanced hanswered
      · refine hk.aside _ rfl (fun _ => rfl) ?_
        rw [hstep, if_neg hall]
        exact SendClient.Beside.refl _
  | sendSucceeded chatId newMessageId oldMessageId =>
      refine hk.update _ rfl (if_neg hsound) fun htd hreuses => ?_
      have hnew : some (⟨chatId, newMessageId⟩ : MessageFullId) ∉ h.told.map (·.newMessage) :=
        of_decide_eq_false hreuses
      unfold SendClient.onUpdate SendClient.reportsIn reportOf
      dsimp only
      cases hsending : h.client.sending.lookup ⟨chatId, oldMessageId⟩ with
      | none =>
          rw [if_neg fun hall => absurd hall.1 Bool.false_ne_true, ite_self, List.append_nil]
          exact hk
      | some query =>
          by_cases hall : 0 < newMessageId ∧
              ((h.client.sending.erase ⟨chatId, oldMessageId⟩).lookup ⟨chatId, newMessageId⟩).isNone
          · rw [if_pos ⟨rfl, hall⟩, if_pos hall]
            exact hk.sendSucceeded htd hsending hall.1 (Option.isNone_iff_eq_none.1 hall.2) hnew
          · rw [if_neg fun hthree => hall hthree.2, if_neg hall, List.append_nil]
            exact hk
  | sendFailed chatId oldMessageId error =>
      refine hk.update _ rfl (if_neg hsound) fun htd _ => ?_
      unfold SendClient.onUpdate SendClient.reportsIn reportOf
      dsimp only
      cases hsending : h.client.sending.lookup ⟨chatId, oldMessageId⟩ with
      | none =>
          rw [Option.isSome_none, if_neg Bool.false_ne_true, List.append_nil]
          exact hk
      | some query =>
          rw [Option.isSome_some, if_pos rfl]
          exact (hk.sendFailed htd hsending error).1
  | deleted chatId messageIds reason =>
      exact hk.update _ rfl (if_neg hsound) fun htd _ => hk.deletions htd chatId messageIds reason
  | known message =>
      refine hk.update _ rfl (if_neg hsound) fun htd _ => ?_
      unfold SendClient.onUpdate SendClient.reportsIn
      dsimp only
      rw [List.append_nil]
      obtain ⟨hbalanced, hmoves⟩ := hk.balanced.update (P := fun _ => True) htd (.known message)
      have hanswered := hmoves.keeps (fun _ _ hbalanced hmove hanswered => hanswered.move hbalanced hmove) hk.answered
      refine hk.beside ?_ hbalanced hanswered
      split_ifs
      · exact ⟨rfl, rfl, rfl, [], (List.append_nil _).symm⟩
      · exact SendClient.Beside.refl _

theorem initial : Kept {} where
  balanced := SendClient.balanced_initial
  answered := SendClient.answered_initial
  pending _ _ hp := by cases hp
  sending _ _ hsent := by cases hsent
  returned _ _ hreturned := by cases hreturned
  told _ hmem := by cases hmem
  once _ := List.nodup_nil
  fresh := .nil
  answers _ _ ha := by cases ha

end Kept

end SendHistory

end TelegramBotApi
