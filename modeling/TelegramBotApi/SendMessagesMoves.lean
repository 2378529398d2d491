import TelegramBotApi.SendMessagesAccounts

/-!
# What one step can do to the messages that are being sent

Every step is a number of moves, and each move changes the tables in one place: a query enters, waits for
its next check, is refused, becomes a request to TDLib, or is told of the result; a message is reported; the
client is closed. The moves give the new tables outright, since no `CHECK` fails in a balanced state.
-/

namespace TelegramBotApi

open TableSum

def SendAnswer.isSuccess : SendAnswer → Bool
  | .message .. | .messages .. => true
  | .error _ | .retryAfter _ => false

namespace SendClient

variable {s t u : SendClient} {P : SendMethod → Prop}

/-- What a report makes of a query and of the answer it may get now. -/
def Told (p p' : PendingSendMessageQuery) (a : SendAnswer) : Option Int → Prop
  | some newMessageId => p'.messages = p.messages ++ [newMessageId] ∧ p'.error = p.error ∧ a = lastAnswer p newMessageId
  | none => p'.messages = p.messages ∧ p'.error ≠ none ∧ ∃ error, a = .error error

/-- One move; `P` is true of the methods that may be started. -/
inductive Move (P : SendMethod → Prop) (s : SendClient) : SendClient → Prop
  | quiet (messages : Finset MessageFullId) (loggingOut closing : Bool) :
      Move P s { s with messages := messages, loggingOut := loggingOut, closing := closing }
  | rejected (error : Status) :
      Move P s { s with queryCount := s.queryCount + 1, answers := s.answers ++ [(s.queryCount, .error error)] }
  | started (method : SendMethod) (hmethod : method.argumentError = none) (hP : P method) :
      Move P s { s with
        queryCount := s.queryCount + 1
        checking := s.checking.insert s.queryCount (method, .replyParameters) }
  | looked (query : Nat) (method : SendMethod) (stage : SendStage) (chatId : Int)
      (hquery : s.checking.lookup query = some (method, stage)) :
      Move P s { s with checking := s.checking.insert query (method, .messages chatId) }
  | refused (query : Nat) (method : SendMethod) (stage : SendStage) (counts : AList fun _ : Int => Int)
      (a : SendAnswer) (hquery : s.checking.lookup query = some (method, stage))
      (hcounts : ∀ c, (counts.lookup c).getD 0 ≤ s.countOf c) (ha : a.isSuccess = false) :
      Move P s { s with
        checking := s.checking.erase query
        yetUnsentMessageCount := counts
        answers := s.answers ++ [(query, a)] }
  | requested (query : Nat) (method request : SendMethod) (stage : SendStage) (chatId : Int)
      (hquery : s.checking.lookup query = some (method, stage))
      (hrequest : request.messageCount ≤ method.messageCount)
      (hcount : s.countOf chatId < maxConcurrentlySentChatMessages)
      (hfresh : s.handlers.lookup s.nextHandlerId = none) :
      Move P s { s with
        checking := s.checking.erase query
        yetUnsentMessageCount := s.yetUnsentMessageCount.insert chatId (s.countOf chatId + request.messageCount)
        handlers := s.handlers.insert s.nextHandlerId ⟨chatId, query, request⟩
        nextHandlerId := s.nextHandlerId + 1 }
  | failed (handler : Nat) (r : SendRequest) (counts : AList fun _ : Int => Int) (a : SendAnswer)
      (hr : s.handlers.lookup handler = some r) (hcounts : ∀ c, (counts.lookup c).getD 0 ≤ s.countOf c)
      (ha : a.isSuccess = false) :
      Move P s { s with
        handlers := s.handlers.erase handler
        yetUnsentMessageCount := counts
        answers := s.answers ++ [(r.query, a)] }
  | entered (handler : Nat) (r : SendRequest) (counts : AList fun _ : Int => Int) (messageIds : List Int)
      (hr : s.handlers.lookup handler = some r) (hcounts : ∀ c, (counts.lookup c).getD 0 ≤ s.countOf c)
      (hsome : messageIds ≠ []) (hnew : ∀ messageId ∈ messageIds, s.sending.lookup ⟨r.chatId, messageId⟩ = none)
      (hfresh : s.pendingSendMessageQueries.lookup s.currentSendMessageQueryId = none) :
      Move P s { s with
        handlers := s.handlers.erase handler
        yetUnsentMessageCount := counts
        sending := insertAll s.sending (messageIds.map fun messageId => ⟨r.chatId, messageId⟩) r.query
        currentSendMessageQueryId := s.currentSendMessageQueryId + 1
        yetUnsentMessages := insertAll s.yetUnsentMessages (messageIds.map fun messageId => ⟨r.chatId, messageId⟩)
          s.currentSendMessageQueryId
        pendingSendMessageQueries := s.pendingSendMessageQueries.insert s.currentSendMessageQueryId
          (entered { query := r.query, method := r.method, isMultisend := r.method.isMultisend } messageIds.length) }
  | reported (k : MessageFullId) (q : Int) (p p' : PendingSendMessageQuery) (a : SendAnswer) (outcome : Option Int)
      (messages : Finset MessageFullId) (hk : s.yetUnsentMessages.lookup k = some q)
      (hp : s.pendingSendMessageQueries.lookup q = some p) (hsending : s.sending.lookup k = some p.query)
      (hfollows : Follows p p') (htold : Told p p' a outcome) :
      Move P s ({ s with
        sending := s.sending.erase k
        reports := s.reports ++ [(p.query, outcome)]
        messages := messages }.settle k q p p' a)
  | closed (error : ClosingError) (hleaving : s.loggingOut = true ∨ s.closing = true) (htd : s.tdClient = true)
      (hrequests : s.handlers = ∅) : Move P s (s.onClosed error)

/-- A number of moves, each from a balanced state. -/
inductive Moves (P : SendMethod → Prop) : SendClient → SendClient → Prop
  | refl (s : SendClient) : Moves P s s
  | tail {s t u : SendClient} (h : Moves P s t) (hbalanced : Balanced t) (hmove : Move P t u) : Moves P s u

theorem Moves.single (h : Balanced s) (hmove : Move P s t) : Moves P s t := (Moves.refl s).tail h hmove

theorem Moves.trans (h : Moves P s t) (h' : Moves P t u) : Moves P s u := by
  induction h' with
  | refl => exact h
  | tail _ hbalanced hmove ih => exact ih.tail hbalanced hmove

/-- The invariant rule for moves. -/
theorem Moves.keeps {I : SendClient → Prop} (hkeep : ∀ s t, Balanced s → Move P s t → I s → I t) (h : Moves P s t)
    (hs : I s) : I t := by
  induction h with
  | refl => exact hs
  | tail _ hbalanced hmove ih => exact hkeep _ _ hbalanced hmove ih

theorem check_eq_self {condition : Bool} (h : condition = true) : s.check condition = s := by
  rw [h, check_true]

section Reports

variable {k : MessageFullId}

theorem Balanced.sendFailed (h : Balanced s) (htd : s.tdClient = true) (hk : s.sending.lookup k ≠ none)
    (error : Status) : Balanced ((s.report k none).onMessageSendFailed k error) ∧
      Move P s ((s.report k none).onMessageSendFailed k error) ∧
      ((s.report k none).onMessageSendFailed k error).tdClient = true := by
  obtain ⟨q, p, hq, hp⟩ := h.waiting htd hk
  obtain ⟨-, -, hone⟩ := h.awaited q p hp
  have hreport := h.report_eq htd hq hp none
  have hsending : s.sending.lookup k = some p.query := by
    rw [h.sending htd, hq, Option.bind_some, hp]
    rfl
  obtain ⟨e, heq, -⟩ := onMessageSendFailed_eq (s := s.report k none)
    (by rw [hreport]; exact hq) (by rw [hreport]; exact hp)
    (by rw [hreport]; exact h.one_le_countOf hq (le_refl 0)) hone error
  obtain ⟨e', he'⟩ := addError_eq p error
  have hfollows : Follows p { p.addError error with awaitedMessageCount := p.awaitedMessageCount - 1 } := by
    rw [he']
    exact ⟨rfl, rfl, rfl⟩
  have htold : Told p { p.addError error with awaitedMessageCount := p.awaitedMessageCount - 1 } (.error e) none := by
    rw [he']
    exact ⟨rfl, Option.some_ne_none e', e, rfl⟩
  have hsettled := h.report_settle (a := .error e) htd hq hp hfollows none
  rw [heq]
  rw [hreport] at hsettled ⊢
  exact ⟨hsettled, .reported k q p _ _ none s.messages hq hp hsending hfollows htold, htd⟩

theorem Balanced.sendSucceeded (h : Balanced s) (htd : s.tdClient = true) {chatId newMessageId oldMessageId : Int}
    (hk : s.sending.lookup ⟨chatId, oldMessageId⟩ ≠ none) (hpos : 0 < newMessageId)
    (hnew : (s.sending.erase ⟨chatId, oldMessageId⟩).lookup ⟨chatId, newMessageId⟩ = none) :
    Balanced ((s.report ⟨chatId, oldMessageId⟩ (some newMessageId)).onMessageSendSucceeded chatId newMessageId
        oldMessageId) ∧
      Move P s ((s.report ⟨chatId, oldMessageId⟩ (some newMessageId)).onMessageSendSucceeded chatId newMessageId
        oldMessageId) := by
  obtain ⟨q, p, hq, hp⟩ := h.waiting htd hk
  obtain ⟨-, -, hone⟩ := h.awaited q p hp
  have hreport := h.report_eq htd hq hp (some newMessageId)
  have hsending : s.sending.lookup ⟨chatId, oldMessageId⟩ = some p.query := by
    rw [h.sending htd, hq, Option.bind_some, hp]
    rfl
  have heq := onMessageSendSucceeded_eq (s := s.report ⟨chatId, oldMessageId⟩ (some newMessageId)) hpos
    (by rw [hreport]; exact hq) (by rw [hreport]; exact hp)
    (by rw [hreport]; exact h.one_le_countOf hq (le_refl 0)) hone
  rw [heq]
  have hfollows : Follows p { p with
      messages := p.messages ++ [newMessageId]
      awaitedMessageCount := p.awaitedMessageCount - 1 } := ⟨rfl, rfl, rfl⟩
  have hsettled : Balanced _ := h.report_settle (a := lastAnswer p newMessageId) htd hq hp hfollows (some newMessageId)
  rw [hreport] at hsettled ⊢
  exact ⟨hsettled.addMessage htd hnew,
    .reported _ q p _ _ (some newMessageId) _ hq hp hsending hfollows ⟨rfl, rfl, rfl⟩⟩

/-- The deletion of a message that the client knows, waits for, or has never heard of. -/
theorem Balanced.deleted (h : Balanced s) (htd : s.tdClient = true) (reason : DeletedReason) :
    Balanced ((s.report k none).deleteMessage k reason) ∧ Move P s ((s.report k none).deleteMessage k reason) ∧
      ((s.report k none).deleteMessage k reason).tdClient = true := by
  unfold deleteMessage
  by_cases hsending : s.sending.lookup k = none
  · have hreport : s.report k none = s := by
      unfold report
      rw [hsending]
    have hunsent := (h.sending_eq_none htd k).1 hsending
    rw [hreport]
    split
    · refine ⟨?_, .quiet (s.messages.erase k) s.loggingOut s.closing, htd⟩
      exact ⟨h.count, h.awaited, h.pointed, h.numbered, h.sending,
        fun k' hk' => h.known k' (Finset.mem_of_mem_erase hk'), h.requests, h.closed, h.sound⟩
    · rw [hunsent, Option.isSome_none, if_neg Bool.false_ne_true]
      exact ⟨h, .quiet s.messages s.loggingOut s.closing, htd⟩
  · obtain ⟨q, p, hq, hp⟩ := h.waiting htd hsending
    have hreport := h.report_eq htd hq hp none
    have hunknown : k ∉ (s.report k none).messages := fun hmem => by
      rw [hreport] at hmem
      have hnone := h.known k hmem
      rw [hq] at hnone
      cases hnone
    have hsome : ((s.report k none).yetUnsentMessages.lookup k).isSome = true := by
      rw [hreport]
      change (s.yetUnsentMessages.lookup k).isSome = true
      rw [hq]
      rfl
    rw [if_neg hunknown, if_pos hsome]
    exact h.sendFailed htd hsending reason.error

end Reports

section Results

variable {extra : Int → Int} {r : SendRequest}

theorem onError_eq (h : Accounts s (held r)) (error : Status) : ∃ counts : AList fun _ : Int => Int,
    s.onError r error = { s with
      yetUnsentMessageCount := counts
      answers := s.answers ++ [(r.query, .error error)] } ∧
    ∀ c, (counts.lookup c).getD 0 = s.countOf c - held r c := by
  unfold onError
  dsimp only
  split_ifs with hpos
  · have hcount : (r.method.messageCount : Int) ≤ s.countOf r.chatId := by
      have hbalance := h.count r.chatId
      rw [held_self] at hbalance
      omega
    rw [decrease_eq (Int.natCast_pos.2 hpos) hcount]
    exact ⟨_, rfl, fun c => decreased_count _ _ _ c⟩
  · refine ⟨s.yetUnsentMessageCount, rfl, fun c => ?_⟩
    have hzero : r.method.messageCount = 0 := by omega
    unfold held
    rw [hzero, Int.natCast_zero, ite_self, sub_zero]
    rfl

theorem onResult_error_eq (h : Accounts s (held r)) (error : Status) : ∃ counts : AList fun _ : Int => Int,
    s.onResult r (.error error) = { s with
      yetUnsentMessageCount := counts
      answers := s.answers ++ [(r.query, .error error)] } ∧
    ∀ c, (counts.lookup c).getD 0 = s.countOf c - held r c := by
  have hsingle : r.method.messageCount = 1 → s.onSendMessage r (.error error) = s.onError r error := fun hone => by
    unfold onSendMessage onError
    dsimp only
    rw [hone, if_pos Nat.one_pos]
    rfl
  have heq : s.onResult r (.error error) = s.onError r error := by
    unfold onResult
    cases hmethod : r.method with
    | sendMessage => exact hsingle (by rw [hmethod]; rfl)
    | copyMessage => exact hsingle (by rw [hmethod]; rfl)
    | sendMediaGroup count => rfl
    | forwardMessages count => rfl
    | copyMessages count => rfl
  rw [heq]
  exact onError_eq h error

theorem held_nonneg (r : SendRequest) (c : Int) : 0 ≤ held r c := by
  unfold held
  split_ifs
  · exact Int.natCast_nonneg _
  · exact le_refl 0

/-- The move of a callback that enters messages, from the state before its request was taken out. -/
theorem Balanced.move_entered (h : Balanced s) {handler : Nat} (hr : s.handlers.lookup handler = some r)
    {counts : AList fun _ : Int => Int} (hcounts : ∀ c, (counts.lookup c).getD 0 ≤ s.countOf c)
    {messageIds : List Int} (hsome : messageIds ≠ []) (hnodup : messageIds.Nodup)
    (hnew : ∀ messageId ∈ messageIds,
      s.sending.lookup ⟨r.chatId, messageId⟩ = none ∧ (⟨r.chatId, messageId⟩ : MessageFullId) ∉ s.messages) :
    Move P s ({ s with
        handlers := s.handlers.erase handler
        yetUnsentMessageCount := counts
        sending := insertAll s.sending (messageIds.map fun messageId => ⟨r.chatId, messageId⟩) r.query
      }.onSentMessages r messageIds) := by
  have htd := h.tdClient_of_request hr
  have heq := onSentMessages_eq (r := r) (s := { s with
      handlers := s.handlers.erase handler
      yetUnsentMessageCount := counts
      sending := insertAll s.sending (messageIds.map fun messageId => ⟨r.chatId, messageId⟩) r.query
    }) hsome hnodup (fun messageId hmem => (h.sending_eq_none htd _).1 (hnew messageId hmem).1) h.lookup_fresh
  rw [heq]
  exact .entered handler r counts messageIds hr hcounts hsome (fun messageId hmem => (hnew messageId hmem).1)
    h.lookup_fresh

theorem Balanced.move_forward (h : Balanced s) {handler : Nat} (hr : s.handlers.lookup handler = some r)
    {messageIds : List (Option Int)} (hlength : messageIds.length = r.method.messageCount)
    (hnodup : (messageIds.filterMap id).Nodup)
    (hnew : ∀ messageId ∈ messageIds.filterMap id,
      s.sending.lookup ⟨r.chatId, messageId⟩ = none ∧ (⟨r.chatId, messageId⟩ : MessageFullId) ∉ s.messages) :
    Move P s ({ s with
        handlers := s.handlers.erase handler
        sending := insertAll s.sending ((messageIds.filterMap id).map fun messageId => ⟨r.chatId, messageId⟩) r.query
      }.onForwardMessages r (.messages messageIds)) := by
  have hle : (messageIds.filterMap id).length ≤ r.method.messageCount := by
    rw [← hlength]
    exact List.length_filterMap_le _ _
  unfold onForwardMessages
  dsimp only
  rw [decide_eq_true hlength, check_true]
  by_cases hall : (messageIds.filterMap id).length = r.method.messageCount
  · rw [if_neg (not_not.2 hall)]
    by_cases hnil : messageIds.filterMap id = []
    · rw [if_pos hnil, hnil]
      exact .failed handler r s.yetUnsentMessageCount _ hr (fun c => le_refl _) rfl
    · rw [if_neg hnil]
      exact h.move_entered hr (fun c => le_refl _) hnil hnodup hnew
  · rw [if_pos hall]
    have hgone : (0 : Int) < (r.method.messageCount : Int) - (messageIds.filterMap id).length := by omega
    have hcount : (r.method.messageCount : Int) - (messageIds.filterMap id).length ≤ s.countOf r.chatId := by
      have hbalance := (h.take hr).count r.chatId
      rw [held_self] at hbalance
      change s.countOf r.chatId = _ at hbalance
      omega
    have hdecrease := decrease_eq (s := { s with
        handlers := s.handlers.erase handler
        sending := insertAll s.sending ((messageIds.filterMap id).map fun messageId => ⟨r.chatId, messageId⟩) r.query
      }) hgone hcount
    have hcounts : ∀ c, ((decreased s.yetUnsentMessageCount r.chatId
        ((r.method.messageCount : Int) - (messageIds.filterMap id).length)).lookup c).getD 0 ≤
          s.countOf c := fun c => by
      rw [decreased_count]
      unfold countOf
      split_ifs <;> omega
    rw [hdecrease]
    by_cases hnil : messageIds.filterMap id = []
    · rw [if_pos hnil]
      rw [hnil] at hcounts ⊢
      exact .failed handler r _ _ hr hcounts rfl
    · rw [if_neg hnil]
      exact h.move_entered hr hcounts hnil hnodup hnew

theorem Balanced.move_result (h : Balanced s) {handler : Nat} (hr : s.handlers.lookup handler = some r)
    {result : SendResult} (hreturns : s.Returns r result) :
    Move P s ({ s with
        handlers := s.handlers.erase handler
        sending := insertAll s.sending (returned r result) r.query
      }.onResult r result) := by
  cases result with
  | error error =>
      obtain ⟨counts, heq, hcounts⟩ := onResult_error_eq (h.take hr) error
      have hmove : Move P s ({ s with handlers := s.handlers.erase handler }.onResult r (.error error)) := by
        rw [heq]
        refine .failed handler r counts _ hr (fun c => ?_) rfl
        rw [hcounts]
        have := held_nonneg r c
        change s.countOf c - _ ≤ _
        omega
      exact hmove
  | messages messageIds =>
      obtain ⟨hpos, hlength, hnull, hnodup, hnew⟩ := hreturns
      cases hforward : r.method.isForward with
      | true =>
          rw [onResult_forward_eq _ hforward]
          exact h.move_forward hr hlength hnodup hnew
      | false =>
          rw [onResult_messages_eq hlength (hnull hforward) hforward]
          have hsome : messageIds.filterMap id ≠ [] := fun hnil => by
            have hfull := length_of_full hlength (hnull hforward)
            rw [hnil] at hfull
            exact absurd hfull.symm hpos.ne'
          exact h.move_entered hr (fun c => le_refl _) hsome hnodup hnew

/-- A query that has passed its checks becomes a request, or is refused. -/
theorem Balanced.move_send (h : Balanced s) {query : Nat} {method request : SendMethod} {stage : SendStage}
    (hquery : s.checking.lookup query = some (method, stage)) (hrequest : request.messageCount ≤ method.messageCount)
    (chatId : Int) (closingError : ClosingError) :
    Move P s ({ s with checking := s.checking.erase query }.send query request chatId closingError) := by
  unfold SendClient.send
  dsimp only
  split
  · exact .refused query method stage s.yetUnsentMessageCount _ hquery (fun c => le_refl _) rfl
  · rename_i hcount
    have hcounted : Accounts { s with
        checking := s.checking.erase query
        yetUnsentMessageCount := s.yetUnsentMessageCount.insert chatId (s.countOf chatId + request.messageCount)
      } (held ⟨chatId, query, request⟩) := (h.checking (s.checking.erase query)).addCount query request chatId
    unfold SendClient.sendRequest
    split
    · obtain ⟨counts, heq, hcounts⟩ := onResult_error_eq hcounted closingError.status
      have hsame : ∀ c, (counts.lookup c).getD 0 ≤ s.countOf c := fun c => by
        have hbefore := h.count c
        have hafter := hcounted.count c
        rw [hcounts, hafter]
        change (s.requested c : Int) + s.unsent c + _ - _ ≤ _
        omega
      refine Eq.mpr (congrArg (Move P s) heq) ?_
      exact .refused query method stage counts _ hquery hsame rfl
    · rename_i hopen
      have htd : s.tdClient = true := by
        by_contra hgone
        exact hopen (h.closed (eq_false_of_ne_true hgone)).2.2
      have hfresh : s.handlers.lookup s.nextHandlerId = none := by
        by_contra hsome
        obtain ⟨r, hr⟩ := Option.ne_none_iff_exists'.1 hsome
        exact absurd (h.requests _ r hr) (lt_irrefl _)
      dsimp only
      rw [check_eq_self htd]
      exact .requested query method request stage chatId hquery hrequest (not_le.1 hcount) hfresh

end Results

theorem messageCount_found_le (method : SendMethod) (count : Nat) :
    (method.found count).messageCount ≤ method.messageCount := by
  cases method with
  | forwardMessages n => exact min_le_right count n
  | copyMessages n => exact min_le_right count n
  | sendMessage => exact le_refl 1
  | copyMessage => exact le_refl 1
  | sendMediaGroup n => exact le_refl n

theorem Balanced.move_checked (h : Balanced s) {query : Nat} {method : SendMethod} {stage : SendStage}
    (hquery : s.checking.lookup query = some (method, stage)) (value : Int) (closingError : ClosingError) :
    Move P s (s.onChecked query method stage value closingError) := by
  unfold SendClient.onChecked
  cases stage with
  | replyParameters =>
      dsimp only
      split
      · split
        · exact .refused query method _ s.yetUnsentMessageCount _ hquery (fun c => le_refl _) rfl
        · exact .looked query method _ value hquery
      · exact h.move_send hquery (le_refl _) value closingError
  | messages chatId => exact h.move_send hquery (messageCount_found_le method _) chatId closingError

theorem move_query (s : SendClient) {method : SendMethod} (hP : method.argumentError = none → P method) :
    Move P s (s.onQuery method) := by
  unfold SendClient.onQuery
  dsimp only
  cases hmethod : method.argumentError with
  | some error => exact .rejected error
  | none => exact .started method hmethod (hP hmethod)

theorem Balanced.deletions (h : Balanced s) (htd : s.tdClient = true) (chatId : Int) (messageIds : List Int)
    (reason : DeletedReason) :
    let t := messageIds.foldl (fun s messageId =>
      (s.report ⟨chatId, messageId⟩ none).deleteMessage ⟨chatId, messageId⟩ reason) s
    Balanced t ∧ Moves P s t := by
  induction messageIds generalizing s with
  | nil => exact ⟨h, .refl s⟩
  | cons messageId messageIds ih =>
      obtain ⟨hnext, hmove, htd'⟩ := h.deleted (k := ⟨chatId, messageId⟩) htd reason
      obtain ⟨hlast, hmoves⟩ := ih hnext htd'
      exact ⟨hlast, (Moves.single h hmove).trans hmoves⟩

theorem Balanced.update (h : Balanced s) (htd : s.tdClient = true) (e : SendEvent) :
    Balanced (s.onUpdate e) ∧ Moves P s (s.onUpdate e) := by
  cases e with
  | sendSucceeded chatId newMessageId oldMessageId =>
      unfold onUpdate
      dsimp only
      split
      · rename_i hall
        obtain ⟨hsome, hpos, hnew⟩ := hall
        obtain ⟨hnext, hmove⟩ := h.sendSucceeded htd (Option.isSome_iff_ne_none.1 hsome) hpos
          (Option.isNone_iff_eq_none.1 hnew)
        exact ⟨hnext, .single h hmove⟩
      · exact ⟨h, .refl s⟩
  | sendFailed chatId oldMessageId error =>
      unfold onUpdate
      dsimp only
      split
      · rename_i hsome
        obtain ⟨hnext, hmove, -⟩ := h.sendFailed htd (Option.isSome_iff_ne_none.1 hsome) error
        exact ⟨hnext, .single h hmove⟩
      · exact ⟨h, .refl s⟩
  | deleted chatId messageIds reason => exact h.deletions htd chatId messageIds reason
  | known message =>
      unfold onUpdate
      dsimp only
      split
      · rename_i hnone
        exact ⟨h.addMessage htd (Option.isNone_iff_eq_none.1 hnone),
          .single h (.quiet (insert message s.messages) s.loggingOut s.closing)⟩
      · exact ⟨h, .refl s⟩
  | _ => exact ⟨h, .refl s⟩

/-- A query of the method may be started by the event. -/
def Starts (e : SendEvent) (method : SendMethod) : Prop := e = .query method ∧ method.argumentError = none

theorem Balanced.step (h : Balanced s) (x : SendInput) (hP : ∀ method, Starts x.event method → P method) :
    Balanced (s.step x) ∧ Moves P s (s.step x) := by
  have hupdate : ∀ e, Balanced (if s.tdClient then s.onUpdate e else s) ∧
      Moves P s (if s.tdClient then s.onUpdate e else s) := fun e => by
    split
    · rename_i htd
      exact h.update htd e
    · exact ⟨h, .refl s⟩
  unfold SendClient.step
  rw [if_neg (ne_true_of_eq_false h.sound)]
  obtain ⟨event, closingError⟩ := x
  cases event with
  | query method => exact ⟨h.onQuery method, .single h (move_query s fun hmethod => hP method ⟨rfl, hmethod⟩)⟩
  | checked query result =>
      dsimp only
      cases hquery : s.checking.lookup query with
      | none => exact ⟨h, .refl s⟩
      | some entry =>
          obtain ⟨method, stage⟩ := entry
          cases result with
          | error error =>
              exact ⟨Accounts.answer (h.checking _) _ _,
                .single h (.refused query method stage s.yetUnsentMessageCount _ hquery (fun c => le_refl _) rfl)⟩
          | ok chatId =>
              exact ⟨h.onChecked query method stage chatId closingError,
                .single h (h.move_checked hquery chatId closingError)⟩
  | result handler result =>
      dsimp only
      cases hr : s.handlers.lookup handler with
      | none => exact ⟨h, .refl s⟩
      | some r =>
          dsimp only
          split
          · rename_i hreturns
            exact ⟨h.result hr hreturns, .single h (h.move_result hr hreturns)⟩
          · exact ⟨h, .refl s⟩
  | loggingOut =>
      refine ⟨?_, .single h (.quiet s.messages true s.closing)⟩
      exact ⟨h.count, h.awaited, h.pointed, h.numbered, h.sending, h.known, h.requests,
        fun hclosed => ⟨(h.closed hclosed).1, (h.closed hclosed).2.1, Or.inr rfl⟩, h.sound⟩
  | closing =>
      refine ⟨?_, .single h (.quiet s.messages s.loggingOut true)⟩
      exact ⟨h.count, h.awaited, h.pointed, h.numbered, h.sending, h.known, h.requests,
        fun hclosed => ⟨(h.closed hclosed).1, (h.closed hclosed).2.1, Or.inl rfl⟩, h.sound⟩
  | closed =>
      dsimp only
      split
      · rename_i hall
        obtain ⟨htd, hleaving, hrequests⟩ := hall
        exact ⟨h.onClosed htd hleaving hrequests closingError,
          .single h (.closed closingError hleaving htd (AList.ext (List.map_eq_nil_iff.1 hrequests)))⟩
      · exact ⟨h, .refl s⟩
  | sendSucceeded chatId newMessageId oldMessageId => exact hupdate _
  | sendFailed chatId oldMessageId error => exact hupdate _
  | deleted chatId messageIds reason => exact hupdate _
  | known message => exact hupdate _

theorem balanced_initial : Balanced {} where
  count _ := rfl
  awaited _ _ hp := by cases hp
  pointed _ _ hk := by cases hk
  numbered _ _ hp := by cases hp
  sending _ _ := rfl
  known _ _ := rfl
  requests _ _ hr := by cases hr
  closed h := by cases h
  sound := rfl

end SendClient

end TelegramBotApi
