import TelegramBotApi.SendMessagesMoves

/-!
# Dead entries in the tables of messages

`messages_` and `yet_unsent_message_count_` are read through an `operator[]` that makes an entry of every key
it is asked for. An entry without a message, or one that counts no messages, is never removed by itself. The
table of the messages that the client knows is written here with its pointers, beside the client that sends
messages; an edit changes the content of a message that it finds.
-/

namespace TelegramBotApi

structure CachedMessage where
  chatId : Int
  id : Int
  content : Slice := []

abbrev MessageTable := AList fun _ : MessageFullId => Option CachedMessage

namespace MessageTable

def addMessage (t : MessageTable) (message : MessageFullId) : MessageTable :=
  t.insert message (some { chatId := message.chatId, id := message.messageId })

/-- What `delete_message` does to the table: the pointer is moved out of the entry of the message, and the
entry is removed if it had one. -/
def deleteMessage (t : MessageTable) (message : MessageFullId) : MessageTable :=
  match t.lookup message with
  | some (some _) => t.erase message
  | _ => t.insert message none

def updateMessageContent (t : MessageTable) (message : MessageFullId) (content : Slice) : MessageTable :=
  match t.lookup message with
  | some (some info) => t.insert message (some { info with content := content })
  | _ => t

def Clean (t : MessageTable) : Prop :=
  ∀ k entry, t.lookup k = some entry → ∃ info, entry = some info ∧ info.chatId = k.chatId ∧ info.id = k.messageId

def Cached (t : MessageTable) (k : MessageFullId) : Prop := ∃ info, t.lookup k = some (some info)

instance (t : MessageTable) (k : MessageFullId) : Decidable (t.Cached k) :=
  match h : t.lookup k with
  | some (some info) => isTrue ⟨info, h⟩
  | some none => isFalse fun hcached => (by rw [MessageTable.Cached, h] at hcached; cases hcached.choose_spec)
  | none => isFalse fun hcached => (by rw [MessageTable.Cached, h] at hcached; cases hcached.choose_spec)

end MessageTable

def SendEvent.isUpdate : SendEvent → Bool
  | .sendSucceeded .. | .sendFailed .. | .deleted .. | .known _ => true
  | _ => false

structure MessageTables where
  client : SendClient := {}
  messages : MessageTable := ∅

inductive MessageEvent where
  | client (x : SendInput)
  | edited (message : MessageFullId) (content : Slice)
  /-- TDLib has deleted a message that could not be sent. -/
  | failedDeleted (message : MessageFullId)

namespace MessageTables

variable (s : MessageTables)

def onUpdate : SendEvent → MessageTable
  | .sendSucceeded chatId newMessageId oldMessageId =>
    if (s.client.sending.lookup ⟨chatId, oldMessageId⟩).isSome ∧ 0 < newMessageId ∧
        ((s.client.sending.erase ⟨chatId, oldMessageId⟩).lookup ⟨chatId, newMessageId⟩).isNone then
      s.messages.addMessage ⟨chatId, newMessageId⟩
    else s.messages
  | .deleted chatId messageIds _ =>
    messageIds.foldl (fun t messageId => t.deleteMessage ⟨chatId, messageId⟩) s.messages
  | .known message => if (s.client.sending.lookup message).isNone then s.messages.addMessage message else s.messages
  | _ => s.messages

def step (s : MessageTables) : MessageEvent → MessageTables
  | .client x =>
    { client := s.client.step x
      messages := if s.client.crashed ∨ ¬ s.client.tdClient then s.messages else s.onUpdate x.event }
  | .edited message content => { s with messages := s.messages.updateMessageContent message content }
  | .failedDeleted message =>
    match s.messages.lookup message with
    | some (some _) =>
      { client := { s.client with messages := s.client.messages.erase message }
        messages := s.messages.deleteMessage message }
    | _ => s

end MessageTables

namespace SendClient

def Positive (s : SendClient) : Prop := ∀ c n, s.yetUnsentMessageCount.lookup c = some n → 0 < n

/-- The request that the end of a check makes, with its chat. -/
def starts (s : SendClient) : SendEvent → Option (SendMethod × Int)
  | .checked query (.ok value) =>
    match s.checking.lookup query with
    | some (method, .replyParameters) => if method.isForward then none else some (method, value)
    | some (method, .messages chatId) => some (method.found value.toNat, chatId)
    | none => none
  | _ => none

/-- A step that leaves the known messages alone and no count at zero. -/
structure Tidy (s t : SendClient) : Prop where
  messages : t.messages = s.messages
  positive : s.Positive → t.Positive

variable {s t u : SendClient}

theorem Tidy.refl (s : SendClient) : Tidy s s := ⟨rfl, id⟩

theorem Tidy.trans (h : Tidy s t) (h' : Tidy t u) : Tidy s u :=
  ⟨h'.messages.trans h.messages, fun hs => h'.positive (h.positive hs)⟩

theorem Tidy.of_eq (hmessages : t.messages = s.messages) (hcount : t.yetUnsentMessageCount = s.yetUnsentMessageCount) :
    Tidy s t := by
  refine ⟨hmessages, fun hs => ?_⟩
  unfold Positive
  rw [hcount]
  exact hs

theorem tidy_check (s : SendClient) (condition : Bool) : Tidy s (s.check condition) := .of_eq rfl rfl

theorem tidy_answer (s : SendClient) (query : Nat) (a : SendAnswer) : Tidy s (s.answer query a) := .of_eq rfl rfl

theorem positive_insert (h : s.Positive) {c n : Int} (hn : 0 < n) :
    ({ s with yetUnsentMessageCount := s.yetUnsentMessageCount.insert c n } : SendClient).Positive := by
  intro d m hm
  change (s.yetUnsentMessageCount.insert c n).lookup d = some m at hm
  rcases TableLookup.of_insert hm with ⟨-, rfl⟩ | ⟨-, hm⟩
  · exact hn
  · exact h d m hm

theorem tidy_decrease (s : SendClient) (c count : Int) : Tidy s (s.decreaseYetUnsentMessageCount c count) := by
  unfold decreaseYetUnsentMessageCount
  split
  · exact tidy_check s false
  · rename_i n hn
    split_ifs with hless hzero
    · exact tidy_check s false
    · refine ⟨rfl, fun hs d m hm => ?_⟩
      change (s.yetUnsentMessageCount.erase c).lookup d = some m at hm
      exact hs d m (TableLookup.of_erase hm).2
    · exact ⟨rfl, fun hs => positive_insert hs (by omega)⟩

theorem tidy_extract (s : SendClient) (k : MessageFullId) : Tidy s (s.extractYetUnsentMessageQueryId k).2 := by
  unfold extractYetUnsentMessageQueryId
  split
  · exact tidy_check s false
  · dsimp only
    exact Tidy.trans (t := { s with yetUnsentMessages := s.yetUnsentMessages.erase k }) (.of_eq rfl rfl)
      (tidy_decrease _ _ _)

theorem tidy_onMessageSendFailed (s : SendClient) (k : MessageFullId) (error : Status) :
    Tidy s (s.onMessageSendFailed k error) := by
  have hextract := tidy_extract s k
  unfold onMessageSendFailed
  split
  · rename_i heq
    rw [heq] at hextract
    exact hextract
  · rename_i queryId t heq
    rw [heq] at hextract
    refine hextract.trans ?_
    dsimp only
    split
    · exact tidy_check t false
    · split_ifs
      · split
        · exact tidy_check t false
        · exact .of_eq rfl rfl
      · exact .of_eq rfl rfl
      · exact .of_eq rfl rfl

theorem tidy_onMessageSendSucceeded (s : SendClient) (chatId newMessageId oldMessageId : Int) :
    Tidy { s with messages := insert (⟨chatId, newMessageId⟩ : MessageFullId) s.messages }
      (s.onMessageSendSucceeded chatId newMessageId oldMessageId) := by
  unfold onMessageSendSucceeded
  dsimp only
  have hcheck := tidy_check { s with messages := insert (⟨chatId, newMessageId⟩ : MessageFullId) s.messages }
    (decide (0 < newMessageId))
  have hextract := hcheck.trans (tidy_extract _ ⟨chatId, oldMessageId⟩)
  split
  · rename_i heq
    rw [heq] at hextract
    exact hextract
  · rename_i queryId t heq
    rw [heq] at hextract
    refine hextract.trans ?_
    dsimp only
    split
    · exact tidy_check t false
    · split_ifs
      · split
        · exact .of_eq rfl rfl
        · exact .of_eq rfl rfl
      · exact .of_eq rfl rfl
      · exact .of_eq rfl rfl

theorem tidy_onSentMessage (s : SendClient) (queryId : Int) (k : MessageFullId) :
    Tidy s (s.onSentMessage queryId k) := by
  unfold onSentMessage
  split_ifs
  · exact tidy_check s false
  · dsimp only
    split
    · exact .of_eq rfl rfl
    · exact .of_eq rfl rfl

theorem tidy_onSentMessages (s : SendClient) (r : SendRequest) (messageIds : List Int) :
    Tidy s (s.onSentMessages r messageIds) := by
  have hfold : ∀ (ids : List Int) (t : SendClient), Tidy t
      (ids.foldl (fun t messageId => t.onSentMessage s.currentSendMessageQueryId ⟨r.chatId, messageId⟩) t) := by
    intro ids
    induction ids with
    | nil => exact Tidy.refl
    | cons id ids ih => exact fun t => (tidy_onSentMessage t _ _).trans (ih _)
  exact Tidy.trans (t := s.getSendMessageQueryId r.query r.method r.method.isMultisend) (.of_eq rfl rfl)
    (hfold messageIds _)

theorem tidy_onError (s : SendClient) (r : SendRequest) (error : Status) : Tidy s (s.onError r error) := by
  unfold onError
  dsimp only
  split_ifs
  · exact (tidy_decrease s _ _).trans (tidy_answer _ _ _)
  · exact tidy_answer s _ _

theorem tidy_onForwardMessages (s : SendClient) (r : SendRequest) (result : SendResult) :
    Tidy s (s.onForwardMessages r result) := by
  cases result with
  | error error => exact tidy_onError s r error
  | messages messageIds =>
      have hcheck := tidy_check s (decide (messageIds.length = r.method.messageCount))
      unfold onForwardMessages
      dsimp only
      split_ifs
      · exact (hcheck.trans (tidy_decrease _ _ _)).trans (tidy_answer _ _ _)
      · exact hcheck.trans (tidy_answer _ _ _)
      · exact (hcheck.trans (tidy_decrease _ _ _)).trans (tidy_onSentMessages _ r _)
      · exact hcheck.trans (tidy_onSentMessages _ r _)

theorem tidy_onResult (s : SendClient) (r : SendRequest) (result : SendResult) : Tidy s (s.onResult r result) := by
  have hsingle : Tidy s (s.onSendMessage r result) := by
    unfold onSendMessage
    split
    · exact (tidy_decrease s _ _).trans (tidy_answer _ _ _)
    · exact tidy_onSentMessages s r _
    · exact tidy_check s false
  have halbum : Tidy s (s.onSendMessageAlbum r result) := by
    unfold onSendMessageAlbum
    split
    · exact tidy_onError s r _
    · exact ((tidy_check s _).trans (tidy_check _ _)).trans (tidy_onSentMessages _ r _)
  unfold onResult
  split
  · exact hsingle
  · exact hsingle
  · exact halbum
  · exact tidy_onForwardMessages s r result
  · exact tidy_onForwardMessages s r result

theorem tidy_sendRequest (s : SendClient) (r : SendRequest) (closingError : ClosingError) :
    Tidy s (s.sendRequest r closingError) := by
  unfold sendRequest
  split_ifs
  · exact tidy_onResult s r _
  · exact .of_eq rfl rfl

theorem tidy_report (s : SendClient) (k : MessageFullId) (outcome : Option Int) : Tidy s (s.report k outcome) := by
  unfold report
  split <;> exact .of_eq rfl rfl

theorem tidy_onClosed (s : SendClient) (closingError : ClosingError) : Tidy s (s.onClosed closingError) :=
  ⟨rfl, fun _ _ _ hn => by cases hn⟩

theorem tidy_onQuery (s : SendClient) (method : SendMethod) : Tidy s (s.onQuery method) := by
  unfold onQuery
  dsimp only
  split <;> exact .of_eq rfl rfl

theorem deleteMessage_messages (s : SendClient) (k : MessageFullId) (reason : DeletedReason) :
    (s.deleteMessage k reason).messages = s.messages.erase k ∧
      (s.Positive → (s.deleteMessage k reason).Positive) := by
  unfold deleteMessage
  split_ifs with hk hunsent
  · exact ⟨rfl, id⟩
  · rw [Finset.erase_eq_of_notMem hk]
    exact ⟨(tidy_onMessageSendFailed s k _).messages, (tidy_onMessageSendFailed s k _).positive⟩
  · rw [Finset.erase_eq_of_notMem hk]
    exact ⟨rfl, id⟩

theorem deletions_messages (chatId : Int) (messageIds : List Int) (reason : DeletedReason) (s : SendClient) :
    let t := messageIds.foldl (fun s messageId =>
      (s.report ⟨chatId, messageId⟩ none).deleteMessage ⟨chatId, messageId⟩ reason) s
    (∀ k, k ∈ t.messages ↔ k ∈ s.messages ∧ ¬ (k.chatId = chatId ∧ k.messageId ∈ messageIds)) ∧
      (s.Positive → t.Positive) := by
  induction messageIds generalizing s with
  | nil => exact ⟨fun k => (and_iff_left fun h => List.not_mem_nil h.2).symm, id⟩
  | cons id ids ih =>
      have hreport := tidy_report s ⟨chatId, id⟩ none
      obtain ⟨hmessages, hpositive⟩ := deleteMessage_messages (s.report ⟨chatId, id⟩ none) ⟨chatId, id⟩ reason
      obtain ⟨hrest, hkept⟩ := ih ((s.report ⟨chatId, id⟩ none).deleteMessage ⟨chatId, id⟩ reason)
      refine ⟨fun k => ?_, fun hs => hkept (hpositive (hreport.positive hs))⟩
      rw [List.foldl_cons, hrest k, hmessages, hreport.messages, Finset.mem_erase, List.mem_cons]
      obtain ⟨c, m⟩ := k
      rw [Ne, MessageFullId.mk.injEq]
      tauto

/-- A count of zero stays when the request has no messages. -/
theorem lookup_sendRequest (s : SendClient) {r : SendRequest} (hr : r.method.messageCount = 0)
    (closingError : ClosingError) :
    (s.sendRequest r closingError).yetUnsentMessageCount = s.yetUnsentMessageCount := by
  have hnone : ¬ 0 < r.method.messageCount := not_lt.2 (le_of_eq hr)
  unfold sendRequest
  split_ifs
  · unfold onResult
    split
    · rename_i hmethod
      rw [hmethod] at hr
      cases hr
    · rename_i hmethod
      rw [hmethod] at hr
      cases hr
    · unfold onSendMessageAlbum onError
      rw [if_neg hnone]
      rfl
    · unfold onForwardMessages onError
      rw [if_neg hnone]
      rfl
    · unfold onForwardMessages onError
      rw [if_neg hnone]
      rfl
  · rfl

/-- A request without messages to a chat that is not counted leaves a zero behind, and nothing else does. -/
theorem send_positive (h : s.Positive) (query : Nat) (method : SendMethod) (chatId : Int)
    (closingError : ClosingError) :
    (s.send query method chatId closingError).Positive ↔ 0 < method.messageCount ∨ 0 < s.countOf chatId := by
  have hnonneg : 0 ≤ s.countOf chatId := by
    unfold countOf
    cases hn : s.yetUnsentMessageCount.lookup chatId with
    | none => exact le_refl 0
    | some n => exact (h chatId n hn).le
  unfold send
  dsimp only
  split_ifs with hlimit
  · refine iff_of_true h (Or.inr ?_)
    exact lt_of_lt_of_le (by decide) hlimit
  · have htidy := tidy_sendRequest { s with
      yetUnsentMessageCount := s.yetUnsentMessageCount.insert chatId (s.countOf chatId + method.messageCount) }
      ⟨chatId, query, method⟩ closingError
    refine ⟨fun hpositive => ?_, fun hcount => ?_⟩
    · by_contra hcount
      have hzero : method.messageCount = 0 := by omega
      have hlookup := lookup_sendRequest { s with
        yetUnsentMessageCount := s.yetUnsentMessageCount.insert chatId (s.countOf chatId + method.messageCount) }
        (r := ⟨chatId, query, method⟩) hzero closingError
      have hpos := hpositive chatId (s.countOf chatId + method.messageCount)
        (by rw [hlookup]; exact AList.lookup_insert _)
      omega
    · exact htidy.positive (positive_insert h (by omega))

theorem send_messages (s : SendClient) (query : Nat) (method : SendMethod) (chatId : Int)
    (closingError : ClosingError) :
    (s.send query method chatId closingError).messages = s.messages := by
  unfold send
  dsimp only
  split_ifs
  · rfl
  · exact (tidy_sendRequest _ _ _).messages

theorem onUpdate_positive (h : s.Positive) (e : SendEvent) : (s.onUpdate e).Positive := by
  unfold onUpdate
  split
  · split_ifs
    · exact (tidy_onMessageSendSucceeded _ _ _ _).positive ((tidy_report s _ _).positive h)
    · exact h
  · split_ifs
    · exact ((tidy_report s _ _).trans (tidy_onMessageSendFailed _ _ _)).positive h
    · exact h
  · exact (deletions_messages _ _ _ s).2 h
  · split_ifs
    · exact h
    · exact h
  · exact h

theorem step_update (s : SendClient) {x : SendInput} (hx : x.event.isUpdate = true) :
    s.step x = if s.crashed ∨ ¬ s.tdClient then s else s.onUpdate x.event := by
  obtain ⟨event, closingError⟩ := x
  cases event with
  | query | checked | result | loggingOut | closing | closed => cases hx
  | sendSucceeded | sendFailed | deleted | known =>
      cases hcrashed : s.crashed <;> cases htd : s.tdClient <;> simp [step, hcrashed, htd]

theorem starts_checked {query : Nat} {method : SendMethod} {stage : SendStage}
    (hquery : s.checking.lookup query = some (method, stage)) (value : Int) :
    s.starts (.checked query (.ok value)) = match stage with
      | .replyParameters => if method.isForward then none else some (method, value)
      | .messages chatId => some (method.found value.toNat, chatId) := by
  cases stage <;> simp only [starts, hquery]

theorem onChecked_messages (s : SendClient) (query : Nat) (method : SendMethod) (stage : SendStage) (value : Int)
    (closingError : ClosingError) : (s.onChecked query method stage value closingError).messages = s.messages := by
  unfold onChecked
  split
  · split_ifs
    · rfl
    · rfl
    · exact send_messages _ _ _ _ _
  · exact send_messages _ _ _ _ _

theorem onChecked_positive (h : s.Positive) {query : Nat} {method : SendMethod} {stage : SendStage}
    (hquery : s.checking.lookup query = some (method, stage)) (value : Int) (closingError : ClosingError) :
    (s.onChecked query method stage value closingError).Positive ↔
      ∀ started chatId, s.starts (.checked query (.ok value)) = some (started, chatId) →
        0 < started.messageCount ∨ 0 < s.countOf chatId := by
  have hsend : ∀ started chatId, s.starts (.checked query (.ok value)) = some (started, chatId) →
      (({ s with checking := s.checking.erase query }.send query started chatId closingError).Positive ↔
        ∀ started chatId, s.starts (.checked query (.ok value)) = some (started, chatId) →
          0 < started.messageCount ∨ 0 < s.countOf chatId) := fun started chatId hstarts => by
    refine (send_positive (s := { s with checking := s.checking.erase query }) h
      query started chatId closingError).trans
        ⟨fun hcount started' chatId' hstarts' => ?_, fun hall => hall _ _ hstarts⟩
    rw [hstarts] at hstarts'
    cases hstarts'
    exact hcount
  have hstarts := starts_checked hquery value
  unfold onChecked
  cases stage with
  | replyParameters =>
      dsimp only at hstarts ⊢
      split_ifs at hstarts ⊢ with hforward
      · exact iff_of_true h fun _ _ heq => by rw [hstarts] at heq; cases heq
      · exact iff_of_true h fun _ _ heq => by rw [hstarts] at heq; cases heq
      · exact hsend _ _ hstarts
  | messages chatId => exact hsend _ _ hstarts

/-- A step that is no update of TDLib. -/
theorem step_other (hcrashed : s.crashed = false) {x : SendInput} (hx : x.event.isUpdate = false) :
    (s.step x).messages = s.messages ∧ (s.Positive → ((s.step x).Positive ↔
      ∀ method chatId, s.starts x.event = some (method, chatId) →
        0 < method.messageCount ∨ 0 < s.countOf chatId)) := by
  have hnone : ∀ {t : SendClient} {e : SendEvent}, Tidy s t → s.starts e = none →
      t.messages = s.messages ∧ (s.Positive → (t.Positive ↔ ∀ method chatId, s.starts e = some (method, chatId) →
        0 < method.messageCount ∨ 0 < s.countOf chatId)) := fun htidy hstarts =>
    ⟨htidy.messages, fun h => iff_of_true (htidy.positive h) fun _ _ heq => by rw [hstarts] at heq; cases heq⟩
  unfold step
  rw [if_neg (ne_true_of_eq_false hcrashed)]
  obtain ⟨event, closingError⟩ := x
  cases event with
  | query method => exact hnone (tidy_onQuery s method) rfl
  | checked query result =>
      dsimp only
      cases hquery : s.checking.lookup query with
      | none =>
          refine hnone (.refl s) ?_
          cases result with
          | error error => rfl
          | ok value => simp only [starts, hquery]
      | some entry =>
          obtain ⟨method, stage⟩ := entry
          cases result with
          | error error => exact hnone (.of_eq rfl rfl) rfl
          | ok value =>
              exact ⟨onChecked_messages s query method stage value closingError,
                fun h => onChecked_positive h hquery value closingError⟩
  | result handler result =>
      dsimp only
      cases hr : s.handlers.lookup handler with
      | none => exact hnone (.refl s) rfl
      | some r =>
          dsimp only
          split_ifs
          · refine hnone (Tidy.trans (t := { s with
              handlers := s.handlers.erase handler
              sending := TableSum.insertAll s.sending (returned r result) r.query }) (.of_eq rfl rfl)
              (tidy_onResult _ r result)) rfl
          · exact hnone (.refl s) rfl
  | loggingOut => exact hnone (.of_eq rfl rfl) rfl
  | closing => exact hnone (.of_eq rfl rfl) rfl
  | closed =>
      dsimp only
      split_ifs
      · exact hnone (tidy_onClosed s closingError) rfl
      · exact hnone (.refl s) rfl
  | sendSucceeded | sendFailed | deleted | known => cases hx

/-- The chats that are counted are those with messages in flight. -/
theorem counted_in_flight (h : Balanced s) (hpositive : s.Positive) :
    (∀ c ∈ s.yetUnsentMessageCount.keys, (∃ handler r, s.handlers.lookup handler = some r ∧ r.chatId = c) ∨
      ∃ k q, s.yetUnsentMessages.lookup k = some q ∧ k.chatId = c) ∧
    s.yetUnsentMessageCount.keys.length ≤ s.handlers.keys.length + s.yetUnsentMessages.keys.length := by
  have hcounted : ∀ c ∈ s.yetUnsentMessageCount.keys,
      (∃ handler r, s.handlers.lookup handler = some r ∧ r.chatId = c) ∨
        ∃ k q, s.yetUnsentMessages.lookup k = some q ∧ k.chatId = c := fun c hc => by
    obtain ⟨n, hn⟩ := Option.isSome_iff_exists.1 (AList.lookup_isSome.2 (AList.mem_keys.1 hc))
    have hpos := hpositive c n hn
    have hcount := h.count c
    rw [countOf, hn, Option.getD_some, add_zero] at hcount
    have hsome : 0 < s.requested c ∨ 0 < s.unsent c := by omega
    rcases hsome with hrequested | hunsent
    · obtain ⟨handler, r, hr, hcontribution⟩ := TableSum.exists_of_total_pos hrequested
      refine Or.inl ⟨handler, r, hr, ?_⟩
      by_contra hne
      rw [if_neg hne] at hcontribution
      exact lt_irrefl 0 hcontribution
    · obtain ⟨k, q, hk, hcontribution⟩ := TableSum.exists_of_total_pos hunsent
      refine Or.inr ⟨k, q, hk, ?_⟩
      by_contra hne
      rw [if_neg hne] at hcontribution
      exact lt_irrefl 0 hcontribution
  refine ⟨hcounted, ?_⟩
  have hsubset : s.yetUnsentMessageCount.keys ⊆
      (s.handlers.entries.map fun e => e.2.chatId) ++ s.yetUnsentMessages.entries.map fun e => e.1.chatId := by
    intro c hc
    rw [List.mem_append, List.mem_map, List.mem_map]
    rcases hcounted c hc with ⟨handler, r, hr, hchat⟩ | ⟨k, q, hk, hchat⟩
    · exact Or.inl ⟨⟨handler, r⟩, AList.mem_lookup_iff.1 hr, hchat⟩
    · exact Or.inr ⟨⟨k, q⟩, AList.mem_lookup_iff.1 hk, hchat⟩
  have hlength := (List.subperm_of_subset s.yetUnsentMessageCount.keys_nodup hsubset).length_le
  rw [List.length_append, List.length_map, List.length_map] at hlength
  unfold AList.keys at hlength ⊢
  unfold List.keys at hlength ⊢
  rw [List.length_map, List.length_map, List.length_map] at *
  exact hlength

end SendClient

namespace MessageTable

theorem lookup_deleteMessage (t : MessageTable) (k j : MessageFullId) :
    (t.deleteMessage k).lookup j = if j = k then (if t.Cached k then none else some none) else t.lookup j := by
  unfold deleteMessage
  by_cases hj : j = k
  · rw [if_pos hj, hj]
    split
    · rename_i info hk
      rw [if_pos ⟨info, hk⟩, AList.lookup_erase]
    · rename_i hk
      rw [if_neg fun hcached => hk _ hcached.choose_spec, AList.lookup_insert]
  · rw [if_neg hj]
    split
    · exact AList.lookup_erase_ne hj
    · exact AList.lookup_insert_ne hj

theorem cached_deleteMessage (t : MessageTable) (k j : MessageFullId) :
    (t.deleteMessage k).Cached j ↔ t.Cached j ∧ j ≠ k := by
  unfold Cached
  rw [lookup_deleteMessage]
  by_cases hj : j = k
  · rw [if_pos hj]
    refine iff_of_false (fun h => ?_) fun h => h.2 hj
    obtain ⟨info, hinfo⟩ := h
    split_ifs at hinfo
    cases hinfo
  · rw [if_neg hj]
    exact (and_iff_left hj).symm

/-- A deletion of a message that is not known leaves an entry without a message, which stays. -/
theorem hole_stays (chatId : Int) (messageIds : List Int) {t : MessageTable} {k : MessageFullId}
    (hk : t.lookup k = some none) :
    (messageIds.foldl (fun t messageId => t.deleteMessage ⟨chatId, messageId⟩) t).lookup k = some none := by
  have hnot : ¬ t.Cached k := fun hcached => by
    rw [Cached, hk] at hcached
    cases hcached.choose_spec
  induction messageIds generalizing t with
  | nil => exact hk
  | cons id ids ih =>
      have hkept : (t.deleteMessage ⟨chatId, id⟩).lookup k = some none := by
        rw [lookup_deleteMessage]
        by_cases hkid : k = ⟨chatId, id⟩
        · rw [if_pos hkid, if_neg (hkid ▸ hnot)]
        · rw [if_neg hkid, hk]
      exact ih hkept fun hcached => hnot ((cached_deleteMessage t _ k).1 hcached).1

theorem Clean.not_hole {t : MessageTable} (h : t.Clean) {k : MessageFullId} : t.lookup k ≠ some none := fun hk => by
  obtain ⟨info, hinfo, -⟩ := h k none hk
  cases hinfo

theorem Clean.erase {t : MessageTable} (h : t.Clean) (k : MessageFullId) : Clean (t.erase k) :=
  fun j entry hj => h j entry (TableLookup.of_erase hj).2

theorem Clean.insert {t : MessageTable} (h : t.Clean) {k : MessageFullId} {info : CachedMessage}
    (hchat : info.chatId = k.chatId) (hid : info.id = k.messageId) : Clean (AList.insert k (some info) t) := by
  intro j entry hj
  rcases TableLookup.of_insert hj with ⟨rfl, rfl⟩ | ⟨-, hj⟩
  · exact ⟨info, rfl, hchat, hid⟩
  · exact h j entry hj

theorem Clean.deleteMessage {t : MessageTable} (h : t.Clean) {k : MessageFullId} (hk : t.Cached k) :
    Clean (t.deleteMessage k) := by
  obtain ⟨info, hinfo⟩ := hk
  unfold MessageTable.deleteMessage
  rw [hinfo]
  exact h.erase k

theorem cached_deletions (chatId : Int) (messageIds : List Int) (t : MessageTable) (k : MessageFullId) :
    Cached (messageIds.foldl (fun t messageId => t.deleteMessage ⟨chatId, messageId⟩) t) k ↔
      t.Cached k ∧ ¬ (k.chatId = chatId ∧ k.messageId ∈ messageIds) := by
  induction messageIds generalizing t with
  | nil => exact (and_iff_left fun h => List.not_mem_nil h.2).symm
  | cons id ids ih =>
      rw [List.foldl_cons, ih, cached_deleteMessage, List.mem_cons]
      obtain ⟨c, m⟩ := k
      rw [Ne, MessageFullId.mk.injEq]
      tauto

/-- Deletions leave no entry without a message exactly when each of them finds its message. -/
theorem Clean.deletions (chatId : Int) (messageIds : List Int) {t : MessageTable} (h : t.Clean) :
    Clean (messageIds.foldl (fun t messageId => t.deleteMessage ⟨chatId, messageId⟩) t) ↔
      messageIds.Nodup ∧ ∀ messageId ∈ messageIds, t.Cached ⟨chatId, messageId⟩ := by
  induction messageIds generalizing t with
  | nil => exact iff_of_true h ⟨List.nodup_nil, fun _ hid => absurd hid List.not_mem_nil⟩
  | cons id ids ih =>
      rw [List.foldl_cons]
      by_cases hid : t.Cached ⟨chatId, id⟩
      · rw [ih (h.deleteMessage hid), List.nodup_cons, List.forall_mem_cons]
        have hrest : (∀ messageId ∈ ids, (t.deleteMessage ⟨chatId, id⟩).Cached ⟨chatId, messageId⟩) ↔
            id ∉ ids ∧ ∀ messageId ∈ ids, t.Cached ⟨chatId, messageId⟩ := by
          refine ⟨fun hall => ⟨fun hmem => ?_, fun messageId hmem => ?_⟩, fun hall messageId hmem => ?_⟩
          · exact ((cached_deleteMessage t _ _).1 (hall id hmem)).2 rfl
          · exact ((cached_deleteMessage t _ _).1 (hall messageId hmem)).1
          · refine (cached_deleteMessage t _ _).2 ⟨hall.2 messageId hmem, fun heq => ?_⟩
            rw [MessageFullId.mk.injEq] at heq
            exact hall.1 (heq.2 ▸ hmem)
        rw [hrest]
        tauto
      · refine iff_of_false (fun hclean => ?_) fun hall => hid (hall.2 id List.mem_cons_self)
        have hhole : (t.deleteMessage ⟨chatId, id⟩).lookup ⟨chatId, id⟩ = some none := by
          rw [lookup_deleteMessage, if_pos rfl, if_neg hid]
        exact hclean.not_hole (hole_stays chatId ids hhole)

end MessageTable

namespace MessageTables

/-- The client knows the messages whose entries have one, and its accounts are right. -/
structure Sound (s : MessageTables) : Prop where
  balanced : SendClient.Balanced s.client
  cached : ∀ k, k ∈ s.client.messages ↔ s.messages.Cached k

structure Alive (s : MessageTables) : Prop where
  messages : s.messages.Clean
  counts : s.client.Positive

/-- Every message that is deleted is found, and a request without messages goes to a chat that is counted
already. -/
def Finds (s : MessageTables) : MessageEvent → Prop
  | .client x =>
    (∀ chatId messageIds reason, x.event = .deleted chatId messageIds reason → s.client.tdClient = true →
      messageIds.Nodup ∧ ∀ messageId ∈ messageIds, s.messages.Cached ⟨chatId, messageId⟩) ∧
    ∀ method chatId, s.client.starts x.event = some (method, chatId) →
      0 < method.messageCount ∨ 0 < s.client.countOf chatId
  | _ => True

variable {s : MessageTables}

theorem cached_addMessage (t : MessageTable) (k j : MessageFullId) :
    (t.addMessage k).Cached j ↔ j = k ∨ t.Cached j := by
  unfold MessageTable.Cached MessageTable.addMessage
  by_cases hj : j = k
  · rw [hj, AList.lookup_insert]
    exact iff_of_true ⟨_, rfl⟩ (Or.inl rfl)
  · rw [AList.lookup_insert_ne hj]
    exact (or_iff_right hj).symm

theorem Sound.onUpdate (h : Sound s) (e : SendEvent) :
    ∀ k, k ∈ (s.client.onUpdate e).messages ↔ (s.onUpdate e).Cached k := by
  cases e with
  | query | checked | result | loggingOut | closing | closed => exact h.cached
  | sendFailed chatId oldMessageId error =>
      unfold SendClient.onUpdate MessageTables.onUpdate
      dsimp only
      split_ifs
      · have htidy := (SendClient.tidy_report s.client ⟨chatId, oldMessageId⟩ none).trans
          (SendClient.tidy_onMessageSendFailed _ ⟨chatId, oldMessageId⟩ error)
        rw [htidy.messages]
        exact h.cached
      · exact h.cached
  | sendSucceeded chatId newMessageId oldMessageId =>
      unfold SendClient.onUpdate MessageTables.onUpdate
      dsimp only
      split_ifs
      · intro k
        rw [(SendClient.tidy_onMessageSendSucceeded _ chatId newMessageId oldMessageId).messages, cached_addMessage,
          ← h.cached, Finset.mem_insert, (SendClient.tidy_report s.client _ _).messages]
      · exact h.cached
  | deleted chatId messageIds reason =>
      intro k
      exact ((SendClient.deletions_messages chatId messageIds reason s.client).1 k).trans
        (((and_congr_left' (h.cached k))).trans (MessageTable.cached_deletions chatId messageIds s.messages k).symm)
  | known message =>
      unfold SendClient.onUpdate MessageTables.onUpdate
      dsimp only
      split_ifs
      · intro k
        rw [Finset.mem_insert, cached_addMessage, h.cached]
      · exact h.cached

theorem onUpdate_other {e : SendEvent} (he : e.isUpdate = false) : s.onUpdate e = s.messages := by
  cases e with
  | query | checked | result | loggingOut | closing | closed => rfl
  | sendSucceeded | sendFailed | deleted | known => cases he

theorem Sound.step (h : Sound s) (x : MessageEvent) : Sound (s.step x) := by
  cases x with
  | client x =>
      refine ⟨(h.balanced.step x (P := fun _ => True) fun _ _ => trivial).1, fun k => ?_⟩
      unfold MessageTables.step
      dsimp only
      cases hx : x.event.isUpdate with
      | true =>
          rw [SendClient.step_update s.client hx]
          split_ifs
          · exact h.cached k
          · exact h.onUpdate x.event k
      | false =>
          rw [(SendClient.step_other h.balanced.sound hx).1, onUpdate_other hx, ite_self]
          exact h.cached k
  | edited message content =>
      refine ⟨h.balanced, fun k => ?_⟩
      refine (h.cached k).trans ?_
      unfold MessageTables.step MessageTable.updateMessageContent MessageTable.Cached
      dsimp only
      split
      · rename_i info hinfo
        by_cases hk : k = message
        · rw [hk, AList.lookup_insert]
          exact iff_of_true ⟨info, hinfo⟩ ⟨_, rfl⟩
        · rw [AList.lookup_insert_ne hk]
      · exact Iff.rfl
  | failedDeleted message =>
      unfold MessageTables.step
      dsimp only
      split
      · have hbalanced := h.balanced
        refine ⟨⟨hbalanced.count, hbalanced.awaited, hbalanced.pointed, hbalanced.numbered, hbalanced.sending,
          fun k hk => hbalanced.known k (Finset.mem_of_mem_erase hk), hbalanced.requests, hbalanced.closed,
          hbalanced.sound⟩, fun k => ?_⟩
        rw [Finset.mem_erase, MessageTable.cached_deleteMessage, h.cached, and_comm]
      · exact h

theorem Alive.addMessage (h : Alive s) (k : MessageFullId) : (s.messages.addMessage k).Clean :=
  h.messages.insert rfl rfl

theorem Alive.onUpdate (h : Alive s) (e : SendEvent) : (s.onUpdate e).Clean ↔
    ∀ chatId messageIds reason, e = .deleted chatId messageIds reason →
      messageIds.Nodup ∧ ∀ messageId ∈ messageIds, s.messages.Cached ⟨chatId, messageId⟩ := by
  cases e with
  | query | checked | result | loggingOut | closing | closed | sendFailed =>
      exact iff_of_true h.messages fun _ _ _ he => by cases he
  | sendSucceeded chatId newMessageId oldMessageId =>
      refine iff_of_true ?_ fun _ _ _ he => by cases he
      unfold MessageTables.onUpdate
      dsimp only
      split_ifs
      · exact h.addMessage _
      · exact h.messages
  | deleted chatId messageIds reason =>
      refine (h.messages.deletions chatId messageIds).trans ⟨fun hfound _ _ _ he => ?_, fun hall => hall _ _ _ rfl⟩
      cases he
      exact hfound
  | known message =>
      refine iff_of_true ?_ fun _ _ _ he => by cases he
      unfold MessageTables.onUpdate
      dsimp only
      split_ifs
      · exact h.addMessage _
      · exact h.messages

/-- One step leaves no dead entry exactly when it finds what it is asked for. -/
theorem Alive.step (h : Alive s) (hsound : Sound s) (x : MessageEvent) : Alive (s.step x) ↔ Finds s x := by
  cases x with
  | client x =>
      have hmessages : (s.step (.client x)).messages.Clean ↔
          ∀ chatId messageIds reason, x.event = .deleted chatId messageIds reason → s.client.tdClient = true →
            messageIds.Nodup ∧ ∀ messageId ∈ messageIds, s.messages.Cached ⟨chatId, messageId⟩ := by
        unfold MessageTables.step
        dsimp only
        split_ifs with hstopped
        · refine iff_of_true h.messages fun _ _ _ _ htd => ?_
          rw [hsound.balanced.sound, htd] at hstopped
          rcases hstopped with hcrashed | hclosed
          · cases hcrashed
          · exact absurd rfl hclosed
        · rw [h.onUpdate x.event]
          have htd : s.client.tdClient = true := by
            by_contra htd
            exact hstopped (Or.inr htd)
          exact ⟨fun hall c ids reason he _ => hall c ids reason he,
            fun hall c ids reason he => hall c ids reason he htd⟩
      have hcounts : (s.step (.client x)).client.Positive ↔ ∀ method chatId,
          s.client.starts x.event = some (method, chatId) →
            0 < method.messageCount ∨ 0 < s.client.countOf chatId := by
        change (s.client.step x).Positive ↔ _
        cases hx : x.event.isUpdate with
        | false => exact (SendClient.step_other hsound.balanced.sound hx).2 h.counts
        | true =>
            refine iff_of_true ?_ fun method chatId hstarts => ?_
            · rw [SendClient.step_update s.client hx]
              split_ifs
              · exact h.counts
              · exact SendClient.onUpdate_positive h.counts x.event
            · obtain ⟨event, closingError⟩ := x
              cases event with
              | query | checked | result | loggingOut | closing | closed => cases hx
              | sendSucceeded | sendFailed | deleted | known => cases hstarts
      exact ⟨fun halive => ⟨hmessages.1 halive.messages, hcounts.1 halive.counts⟩,
        fun hfinds => ⟨hmessages.2 hfinds.1, hcounts.2 hfinds.2⟩⟩
  | edited message content =>
      refine iff_of_true ⟨?_, h.counts⟩ trivial
      unfold MessageTables.step MessageTable.updateMessageContent
      dsimp only
      split
      · rename_i info hinfo
        obtain ⟨_, heq, hchat, hid⟩ := h.messages message _ hinfo
        cases heq
        exact h.messages.insert hchat hid
      · exact h.messages
  | failedDeleted message =>
      refine iff_of_true ?_ trivial
      unfold MessageTables.step
      dsimp only
      split
      · rename_i info hinfo
        exact ⟨h.messages.deleteMessage ⟨info, hinfo⟩, h.counts⟩
      · exact h

theorem sound_initial : Sound {} :=
  ⟨SendClient.balanced_initial, fun _ => iff_of_false (Finset.notMem_empty _) fun h => by cases h.choose_spec⟩

theorem alive_initial : Alive {} := ⟨fun _ _ h => (by cases h), fun _ _ h => (by cases h)⟩

/-- No table has a dead entry in any state of a run if and only if every step finds the messages that it is
asked for; the messages that are known are then the keys of their table, and every chat that is counted has
a request or a message in flight. -/
theorem tables_alive (xs : List MessageEvent) :
    (StepRun.AllSteps step (fun s x => Alive (s.step x)) {} xs ↔ StepRun.AllSteps step Finds {} xs) ∧
    let s := StepRun.run step {} xs
    (∀ k, k ∈ s.client.messages ↔ s.messages.Cached k) ∧
    (StepRun.AllSteps step Finds {} xs → Alive s ∧ s.messages.keys.toFinset = s.client.messages ∧
      s.client.yetUnsentMessageCount.keys.length ≤
        s.client.handlers.keys.length + s.client.yetUnsentMessages.keys.length) := by
  have hsound := StepRun.run_invariant_always (I := Sound) (fun _ x h => h.step x) sound_initial xs
  refine ⟨StepRun.allSteps_good_iff (I := Sound) (fun _ x h => h.step x) (fun _ x h halive => halive.step h x)
    sound_initial alive_initial xs, hsound.cached, fun hfinds => ?_⟩
  have halive : Alive (StepRun.run step {} xs) := (StepRun.run_invariant (I := fun s => Sound s ∧ Alive s)
    (fun _ x h hx => ⟨h.1.step x, (h.2.step h.1 x).2 hx⟩) ⟨sound_initial, alive_initial⟩ hfinds).2
  refine ⟨halive, ?_, (SendClient.counted_in_flight hsound.balanced halive.counts).2⟩
  ext k
  rw [List.mem_toFinset, hsound.cached k, ← AList.mem_keys, ← AList.lookup_isSome, Option.isSome_iff_exists]
  refine ⟨fun ⟨entry, hentry⟩ => ?_, fun ⟨info, hinfo⟩ => ⟨some info, hinfo⟩⟩
  obtain ⟨info, rfl, -⟩ := halive.messages k entry hentry
  exact ⟨info, hentry⟩

/-- A message that was never seen is deleted; no message is found for a copy. -/
theorem dead_entries :
    let closingError : ClosingError := { code := 500, message := "" }
    let deleted := StepRun.run step {} [.client ⟨.deleted 1 [5] .immediatelyDeleted, closingError⟩]
    let copied := StepRun.run step {} [.client ⟨.query (.copyMessages 3), closingError⟩,
      .client ⟨.checked 0 (.ok 1), closingError⟩, .client ⟨.checked 0 (.ok 0), closingError⟩,
      .client ⟨.result 1 (.error ⟨400, "There are no messages to forward"⟩), closingError⟩]
    deleted.messages.lookup ⟨1, 5⟩ = some none ∧
      copied.client.handlers.keys = [] ∧ copied.client.yetUnsentMessageCount.lookup 1 = some 0 ∧
      ¬ ∀ xs, Alive (StepRun.run step {} xs) := by
  refine ⟨rfl, rfl, rfl, fun h => ?_⟩
  have hclean := (h [.client ⟨.deleted 1 [5] .immediatelyDeleted, { code := 500, message := "" }⟩]).messages
  exact hclean.not_hole (k := ⟨1, 5⟩) rfl

end MessageTables

end TelegramBotApi
