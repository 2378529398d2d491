import TelegramBotApi.SendReports

/-!
# The order of the messages in an answer

The client that sends messages is run here beside what TDLib has returned and told: for every query the
messages that were returned, in the order of the request, and the reports in the order of their arrival.
TDLib gives every message of a chat a new identifier of its own. The answer of a query of several messages
is what its reports add up to, and so its order is the one of the reports.
-/

namespace TelegramBotApi

open TableSum

structure SendHistory where
  client : SendClient := {}
  returned : AList fun _ : Nat => ReturnedMessages := ∅
  told : List SendReport := []

def reportOf (sending : AList fun _ : MessageFullId => Nat) (message : MessageFullId) (outcome : Except Status Int) :
    List SendReport :=
  match sending.lookup message with
  | none => []
  | some query => [⟨query, message, outcome⟩]

def deletionReports (chatId : Int) (error : Status) : AList (fun _ : MessageFullId => Nat) → List Int → List SendReport
  | _, [] => []
  | sending, messageId :: messageIds => reportOf sending ⟨chatId, messageId⟩ (.error error) ++
      deletionReports chatId error (sending.erase ⟨chatId, messageId⟩) messageIds

namespace SendClient

def reportsIn (s : SendClient) : SendEvent → List SendReport
  | .sendSucceeded chatId newMessageId oldMessageId =>
    if 0 < newMessageId ∧ ((s.sending.erase ⟨chatId, oldMessageId⟩).lookup ⟨chatId, newMessageId⟩).isNone then
      reportOf s.sending ⟨chatId, oldMessageId⟩ (.ok newMessageId)
    else []
  | .sendFailed chatId oldMessageId error => reportOf s.sending ⟨chatId, oldMessageId⟩ (.error error)
  | .deleted chatId messageIds reason => deletionReports chatId reason.error s.sending messageIds
  | _ => []

def returnsIn (s : SendClient) : SendEvent → Option (Nat × ReturnedMessages)
  | .result handler (.messages messageIds) =>
    (s.handlers.lookup handler).bind fun r =>
      if s.Returns r (.messages messageIds) ∧ messageIds.filterMap id ≠ [] then
        some (r.query, ⟨r.method, r.chatId, messageIds.filterMap id⟩)
      else none
  | _ => none

end SendClient

def SendReport.newMessage (report : SendReport) : Option MessageFullId :=
  report.outcome.toOption.map fun newMessageId => ⟨report.message.chatId, newMessageId⟩

namespace SendHistory

variable (h : SendHistory)

/-- The new identifier in the update was given before. -/
def reuses : SendEvent → Bool
  | .sendSucceeded chatId newMessageId _ => some (⟨chatId, newMessageId⟩ : MessageFullId) ∈ h.told.map (·.newMessage)
  | _ => false

def step (h : SendHistory) (x : SendInput) : SendHistory :=
  if h.client.crashed ∨ h.reuses x.event then h
  else
    { client := h.client.step x
      returned := match h.client.returnsIn x.event with
        | none => h.returned
        | some (query, messages) => h.returned.insert query messages
      told := if h.client.tdClient then h.told ++ h.client.reportsIn x.event else h.told }

def toldOf (query : Nat) : List SendReport := h.told.filter (·.query = query)

def sentAs (query : Nat) (messageId : Int) : Option Int :=
  (h.toldOf query).findSome? fun report =>
    if report.message.messageId = messageId then report.outcome.toOption else none

def Failed (query : Nat) (messageId : Int) : Prop :=
  ∃ report ∈ h.toldOf query, report.message.messageId = messageId ∧ report.outcome.toOption = none

/-- TDLib has returned messages for a query of several messages, and has told what became of each of them. -/
def Complete (query : Nat) (messages : ReturnedMessages) : Prop :=
  h.returned.lookup query = some messages ∧ messages.method.isMultisend = true ∧
    (h.toldOf query).length = messages.messageIds.length

/-- The answer has the messages in the order in which they were returned, and a position in its error is the one
of a message that was not sent. -/
def NamesMessages (query : Nat) : SendAnswer → Prop
  | .messages messageIds _ =>
    ∃ messages, h.Complete query messages ∧ messageIds.map some = messages.messageIds.map (h.sentAs query)
  | .error error => ∀ messages, h.Complete query messages → ∀ k, error.Names k →
      ∃ i : Nat, k = i + 1 ∧ ∃ messageId, messages.messageIds[i]? = some messageId ∧ h.Failed query messageId
  | .message .. | .retryAfter _ => True

/-- If all messages were sent, the reports have come in the order of the messages; and a report that gives a
position has come at the place of a message that was not sent. -/
def InOrder (query : Nat) (messages : ReturnedMessages) : Prop :=
  (AllSent (h.toldOf query) → (h.toldOf query).map (·.message.messageId) = messages.messageIds) ∧
    ∀ (i : Nat) error, GivesPosition (h.toldOf query) i error →
      ∃ messageId, messages.messageIds[i]? = some messageId ∧ h.Failed query messageId

end SendHistory

namespace SendClient

variable {s t u : SendClient}

/-- A step that reports nothing and enters no messages; it may answer. -/
structure Beside (s t : SendClient) : Prop where
  pending : t.pendingSendMessageQueries = s.pendingSendMessageQueries
  sending : t.sending = s.sending
  reports : t.reports = s.reports
  answers : ∃ more, t.answers = s.answers ++ more

namespace Beside

theorem refl (s : SendClient) : Beside s s := ⟨rfl, rfl, rfl, [], (List.append_nil _).symm⟩

theorem trans (h : Beside s t) (h' : Beside t u) : Beside s u := by
  obtain ⟨more, hmore⟩ := h.answers
  obtain ⟨more', hmore'⟩ := h'.answers
  exact ⟨h'.pending.trans h.pending, h'.sending.trans h.sending, h'.reports.trans h.reports, more ++ more',
    by rw [hmore', hmore, List.append_assoc]⟩

theorem answer (h : Beside s t) (query : Nat) (a : SendAnswer) : Beside s (t.answer query a) :=
  h.trans ⟨rfl, rfl, rfl, [(query, a)], rfl⟩

end Beside

/-- The messages of a request are entered under a new query. -/
structure Entered (s t : SendClient) (r : SendRequest) (messageIds : List Int) : Prop where
  pending : t.pendingSendMessageQueries = s.pendingSendMessageQueries.insert s.currentSendMessageQueryId
    (entered { query := r.query, method := r.method, isMultisend := r.method.isMultisend } messageIds.length)
  sending : t.sending = s.sending
  answers : t.answers = s.answers

theorem decrease_frame (s : SendClient) (chatId count : Int) : ∃ counts crashed,
    s.decreaseYetUnsentMessageCount chatId count =
      { s with yetUnsentMessageCount := counts, crashed := crashed } := by
  unfold decreaseYetUnsentMessageCount
  split
  · exact ⟨_, _, rfl⟩
  · split_ifs
    · exact ⟨_, _, rfl⟩
    · exact ⟨_, _, rfl⟩
    · exact ⟨_, _, rfl⟩

theorem beside_decrease (s : SendClient) (chatId count : Int) :
    Beside s (s.decreaseYetUnsentMessageCount chatId count) := by
  obtain ⟨counts, crashed, heq⟩ := s.decrease_frame chatId count
  rw [heq]
  exact ⟨rfl, rfl, rfl, [], (List.append_nil _).symm⟩

theorem beside_onError (s : SendClient) (r : SendRequest) (error : Status) : Beside s (s.onError r error) := by
  unfold onError
  dsimp only
  split_ifs
  · exact (beside_decrease s _ _).answer _ _
  · exact (Beside.refl s).answer _ _

theorem beside_onResult_error (s : SendClient) (r : SendRequest) (error : Status) :
    Beside s (s.onResult r (.error error)) := by
  unfold onResult
  cases r.method with
  | sendMessage => exact (beside_decrease s _ _).answer _ _
  | copyMessage => exact (beside_decrease s _ _).answer _ _
  | sendMediaGroup count => exact beside_onError s r error
  | forwardMessages count => exact beside_onError s r error
  | copyMessages count => exact beside_onError s r error

theorem beside_send (s : SendClient) (query : Nat) (method : SendMethod) (chatId : Int)
    (closingError : ClosingError) : Beside s (s.send query method chatId closingError) := by
  have hcounted : Beside s { s with
      yetUnsentMessageCount := s.yetUnsentMessageCount.insert chatId (s.countOf chatId + method.messageCount) } :=
    ⟨rfl, rfl, rfl, [], (List.append_nil _).symm⟩
  unfold send sendRequest
  dsimp only
  split_ifs
  · exact (Beside.refl s).answer _ _
  · exact hcounted.trans (beside_onResult_error _ _ _)
  · exact ⟨rfl, rfl, rfl, [], (List.append_nil _).symm⟩

theorem beside_onChecked (s : SendClient) (query : Nat) (method : SendMethod) (stage : SendStage) (value : Int)
    (closingError : ClosingError) : Beside s (s.onChecked query method stage value closingError) := by
  have herased : Beside s { s with checking := s.checking.erase query } :=
    ⟨rfl, rfl, rfl, [], (List.append_nil _).symm⟩
  unfold onChecked
  dsimp only
  split
  · split_ifs
    · exact herased.answer _ _
    · exact ⟨rfl, rfl, rfl, [], (List.append_nil _).symm⟩
    · exact herased.trans (beside_send _ _ _ _ _)
  · exact herased.trans (beside_send _ _ _ _ _)

theorem beside_onQuery (s : SendClient) (method : SendMethod) : Beside s (s.onQuery method) := by
  unfold onQuery
  dsimp only
  split
  · exact ⟨rfl, rfl, rfl, _, rfl⟩
  · exact ⟨rfl, rfl, rfl, [], (List.append_nil _).symm⟩

section Results

variable {r : SendRequest} {messageIds : List (Option Int)}

theorem onSentMessages_entered {messageIds : List Int} (hsome : messageIds ≠ []) (hnodup : messageIds.Nodup)
    (hnew : ∀ messageId ∈ messageIds, s.yetUnsentMessages.lookup ⟨r.chatId, messageId⟩ = none)
    (hfresh : s.pendingSendMessageQueries.lookup s.currentSendMessageQueryId = none) :
    Entered s (s.onSentMessages r messageIds) r messageIds := by
  rw [onSentMessages_eq hsome hnodup hnew hfresh]
  exact ⟨rfl, rfl, rfl⟩

theorem onResult_entered (hlength : messageIds.length = r.method.messageCount)
    (hnull : r.method.isForward = false → none ∉ messageIds) (hsome : messageIds.filterMap id ≠ [])
    (hnodup : (messageIds.filterMap id).Nodup)
    (hnew : ∀ messageId ∈ messageIds.filterMap id, s.yetUnsentMessages.lookup ⟨r.chatId, messageId⟩ = none)
    (hfresh : s.pendingSendMessageQueries.lookup s.currentSendMessageQueryId = none) :
    Entered s (s.onResult r (.messages messageIds)) r (messageIds.filterMap id) := by
  cases hforward : r.method.isForward with
  | false =>
      rw [onResult_messages_eq hlength (hnull hforward) hforward]
      exact onSentMessages_entered hsome hnodup hnew hfresh
  | true =>
      rw [onResult_forward_eq _ hforward]
      unfold onForwardMessages
      dsimp only
      rw [if_neg hsome]
      split_ifs
      · obtain ⟨counts, crashed, heq⟩ := (s.check (decide (messageIds.length = r.method.messageCount))).decrease_frame
          r.chatId ((r.method.messageCount : Int) - (messageIds.filterMap id).length)
        rw [heq]
        obtain ⟨hpending, hsending, hanswers⟩ := onSentMessages_entered (r := r) (s := {
          s.check (decide (messageIds.length = r.method.messageCount)) with
            yetUnsentMessageCount := counts, crashed := crashed }) hsome hnodup hnew hfresh
        exact ⟨hpending, hsending, hanswers⟩
      · obtain ⟨hpending, hsending, hanswers⟩ := onSentMessages_entered (r := r)
          (s := s.check (decide (messageIds.length = r.method.messageCount))) hsome hnodup hnew hfresh
        exact ⟨hpending, hsending, hanswers⟩

/-- None of the messages that were to be forwarded has been found. -/
theorem beside_onResult_empty (hforward : r.method.isForward = true) (hnil : messageIds.filterMap id = []) :
    Beside s (s.onResult r (.messages messageIds)) := by
  rw [onResult_forward_eq _ hforward]
  unfold onForwardMessages
  dsimp only
  rw [if_pos hnil]
  have hcheck : Beside s (s.check (decide (messageIds.length = r.method.messageCount))) :=
    ⟨rfl, rfl, rfl, [], (List.append_nil _).symm⟩
  split_ifs
  · exact (hcheck.trans (beside_decrease _ _ _)).answer _ _
  · exact hcheck.answer _ _

end Results

end SendClient

end TelegramBotApi
