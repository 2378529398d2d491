import TelegramBotApi.IncomingLookups

/-!
# The treatment of one element

`advance_spec` says what the body of each loop does with its element: it asks for one thing and waits, or the
element leaves with at most one update, and without one only for a reason.
-/

namespace TelegramBotApi

open ResumableQueue

namespace QueueId

/-- What the key of a queue says about its elements. -/
def Keyed (c : IncomingCore) : (queue : QueueId) → queue.Element → Prop
  | .newMessage chatId => fun (element : NewMessage) =>
    element.messageInfo.chatId = chatId ∧ c.knowsChat chatId = true
  | .newCallbackQuery userId => fun (query : NewCallbackQuery) => query.senderUserId = userId
  | .newBusinessCallbackQuery userId => fun (query : NewBusinessCallbackQuery) => query.senderUserId = userId
  | .newBusinessMessage _ | .newGuestQuery _ => fun _ => True

/-- The element is a message of the chat that replies to one. -/
def Replies (c : IncomingCore) : (queue : QueueId) → queue.Element → Int → Prop
  | .newMessage key => fun (element : NewMessage) chatId =>
    key = chatId ∧ 0 < c.getSameChatReplyToMessageId (some element.messageInfo)
  | _ => fun _ _ => False

/-- The element leaves without an update by design. -/
def Rejects (c : IncomingCore) : (queue : QueueId) → queue.Element → Prop
  | .newMessage chatId => fun (element : NewMessage) =>
    (c.addMessage element.messageInfo false).2.needSkipUpdateMessage chatId
      (c.addMessage element.messageInfo false).1 element.isEdited = true
  | .newCallbackQuery _ => fun (query : NewCallbackQuery) =>
    c.getMessage query.chatId query.messageId true = none ∧
      asTdlibMessageId (asClientMessageIdUnchecked query.messageId) ≠ query.messageId
  | .newBusinessCallbackQuery _ => fun _ => False
  | .newBusinessMessage _ => fun (element : NewMessage) =>
    c.needSkipUpdateMessage 0 element.messageInfo element.isEdited = true
  | .newGuestQuery _ => fun (query : NewGuestQuery) => c.needSkipUpdateMessage 0 query.messageInfo false = true

end QueueId

namespace IncomingCore

/-- What the treatment of an element may do. -/
def Advanced (c : IncomingCore) (queue : QueueId) (element : queue.Element) : Advance → Prop
  | .waits c' =>
    (Lookups c' fun _ => 0) ∧
      Effect c c' (fun other => if other = queue then 1 else 0) [] (queue.Replies c element)
  | .leaves c' update =>
    (Lookups c' fun _ => 0) ∧ Effect c c' (fun _ => 0) update.toList (fun _ => False) ∧
      (update = none → queue.Rejects c element)

variable {c c' : IncomingCore} {queue : QueueId}

theorem Effect.addUpdate (h : Quiet c c') (update : IncomingUpdate) :
    Effect c (c'.addUpdate update) (fun _ => 0) [update] fun _ => False :=
  ⟨h.chats, h.supergroups, h.leaving, h.crashed,
    congrArg (· ++ [update]) (h.updates.trans (List.append_nil _)), h.outstanding, h.replies⟩

theorem Lookups.addUpdate (h : Lookups c fun _ => 0) (update : IncomingUpdate) :
    Lookups (c.addUpdate update) fun _ => 0 := ⟨h.awaited, h.handlers, h.promises, h.closures, h.states⟩

theorem Lookups.sendRequest (h : Lookups c fun _ => 0) (hleaving : c.leaving = false) (handler : IncomingCallback)
    (hpromise : handler.promise = none) (hqueue : handler.queue = some queue)
    (hstate : ∀ userId state, handler = .getCallbackQueryMessage userId state → state ≤ 1) :
    (Lookups (c.sendRequest handler) fun _ => 0) ∧
      Effect c (c.sendRequest handler) (fun other => if other = queue then 1 else 0) []
        fun chatId => handler = .getReplyMessage chatId := by
  unfold IncomingCore.sendRequest
  rw [check_of c (by rw [hleaving]; rfl)]
  have hslack : Lookups c fun id => 0 + if handler.promise = some id then 1 else 0 := by
    rw [hpromise]
    exact h.congr fun id => rfl
  refine ⟨hslack.doSendRequest handler (by rw [hpromise]; exact nofun) hstate, ?_⟩
  have heffect := effect_doSendRequest h.fresh handler
  have hsame : (fun other => if handler.queue = some other then 1 else 0) =
      fun other : QueueId => if other = queue then 1 else 0 := by
    funext other
    rw [hqueue]
    exact if_congr (Option.some_inj.trans eq_comm) rfl rfl
  rw [hsame] at heffect
  exact heffect

theorem Lookups.askForNames (h : Lookups c fun _ => 0) (queue : QueueId) (element : queue.Element)
    (stickerSetIds : List Int) {state : Nat} (hstate : state = queue.lastState) :
    Advanced c queue element (.waits (c.getStickerSetNames stickerSetIds (some (queue, state)))) := by
  rw [hstate]
  obtain ⟨hlookups, heffect⟩ := h.getStickerSetNames_some stickerSetIds queue
  refine ⟨hlookups, { heffect with replies := fun id chatId hid => ?_ }⟩
  exact Or.inl ((heffect.replies id chatId hid).resolve_right not_false)

/-- An element that is a message, and waits for nothing but the names of sticker sets. -/
theorem advanced_message (h : Lookups c fun _ => 0) {element : queue.Element} {state : Nat} {info : MessageInfo}
    {leave : IncomingCore → Advance} (hlast : queue.lastState = 1) (hstate : state ≤ queue.lastState)
    (hleave : Advanced c queue element (leave c)) :
    Advanced c queue element (c.advanceMessage queue state info leave) := by
  unfold advanceMessage
  dsimp only
  split_ifs with hids hzero
  · exact h.askForNames queue element _ hlast.symm
  · rw [check_of c (decide_eq_true rfl)]
    exact hleave
  · have hone : state = 1 := by omega
    rw [check_of c (decide_eq_true hone)]
    exact hleave

theorem advanced_leaveMessage (h : Lookups c fun _ => 0) {element : queue.Element} {type : IncomingUpdateType}
    {info : MessageInfo} {isEdited : Bool} {webhookQueueId : Int}
    (hskip : c.needSkipUpdateMessage 0 info isEdited = true → queue.Rejects c element) :
    Advanced c queue element (c.leaveMessage type info isEdited webhookQueueId) := by
  unfold leaveMessage
  dsimp only
  split_ifs with hskips
  · exact ⟨h, .refl c, fun _ => hskip hskips⟩
  · exact ⟨h.addUpdate _, (Effect.refl c).addUpdate _, nofun⟩

theorem Effect.knowsChat {more : QueueId → Nat} {added : List IncomingUpdate} {asks : Int → Prop}
    (h : Effect c c' more added asks) (chatId : Int) : c'.knowsChat chatId = c.knowsChat chatId := by
  unfold IncomingCore.knowsChat
  rw [h.chats, h.supergroups]

theorem advanced_newMessage (h : Lookups c fun _ => 0) (hleaving : c.leaving = false) {chatId : Int}
    {element : NewMessage} (hkeyed : QueueId.Keyed c (.newMessage chatId) element) {state : Nat} (hstate : state ≤ 2) :
    Advanced c (.newMessage chatId) element (c.advanceNewMessage chatId state element) := by
  obtain ⟨hchat, hknows⟩ := hkeyed
  unfold advanceNewMessage
  dsimp only
  rw [check_of c (decide_eq_true hchat.symm)]
  by_cases hreply : state = 0 ∧ 0 < c.getSameChatReplyToMessageId (some element.messageInfo) ∧
      c.getMessage chatId (c.getSameChatReplyToMessageId (some element.messageInfo)) false = none
  · rw [if_pos hreply]
    have hqueue : (IncomingCallback.getReplyMessage chatId).queue = some (.newMessage chatId) := rfl
    obtain ⟨hlookups, heffect⟩ := h.sendRequest hleaving (.getReplyMessage chatId) rfl hqueue fun _ _ heq => by
      cases heq
    refine ⟨hlookups, { heffect with replies := fun id other hid => ?_ }⟩
    refine (heffect.replies id other hid).imp_right fun heq => ?_
    cases heq
    exact ⟨rfl, hreply.2.1⟩
  rw [if_neg hreply]
  have hfirst : (if state = 0 then 1 else state) ≤ 2 ∧ 0 < if state = 0 then 1 else state := by
    split_ifs <;> omega
  generalize (if state = 0 then 1 else state) = state at hfirst ⊢
  by_cases hids : state = 1 ∧ getMessageStickerSetIds (some element.messageInfo) ++ getMessageStickerSetIds
      (c.getMessage chatId (c.getSameChatReplyToMessageId (some element.messageInfo)) true) ≠ []
  · rw [if_pos hids]
    exact h.askForNames (.newMessage chatId) element _ rfl
  rw [if_neg hids]
  have hlast : (if state = 1 then 2 else state) = 2 := by
    split_ifs <;> omega
  rw [hlast, check_of c (decide_eq_true rfl)]
  obtain ⟨hadded, hquiet⟩ := h.addMessage element.messageInfo false
  have hskip : (c.addMessage element.messageInfo false).2.needSkipUpdateMessage chatId
      (c.addMessage element.messageInfo false).1 element.isEdited = true →
      QueueId.Rejects c (.newMessage chatId) element := fun hskips => hskips
  generalize (c.addMessage element.messageInfo false).2 = c' at hadded hquiet hskip ⊢
  generalize (c.addMessage element.messageInfo false).1 = info at hskip ⊢
  rw [check_of c' ((hquiet.knowsChat chatId).trans hknows)]
  split_ifs with hskips
  · exact ⟨hadded, hquiet, fun _ => hskip hskips⟩
  · exact ⟨(hadded.messages _).addUpdate _, (hquiet.trans (quiet_messages c' _)).addUpdate _, nofun⟩

theorem advanced_newCallbackQuery (h : Lookups c fun _ => 0) (hleaving : c.leaving = false) {userId : Int}
    {query : NewCallbackQuery} (hkeyed : query.senderUserId = userId) {state : Nat} (hstate : state ≤ 3) :
    Advanced c (.newCallbackQuery userId) query (c.advanceNewCallbackQuery userId state query) := by
  -- both requests come back to the queue with the state that they were sent in
  have hsend : ∀ sent ≤ 1, Advanced c (.newCallbackQuery userId) query
      (.waits (c.sendRequest (.getCallbackQueryMessage userId sent))) := fun sent hsent => by
    have hqueue : (IncomingCallback.getCallbackQueryMessage userId sent).queue = some (.newCallbackQuery userId) := rfl
    obtain ⟨hlookups, heffect⟩ := h.sendRequest hleaving (.getCallbackQueryMessage userId sent) rfl hqueue
      fun _ _ heq => by
        cases heq
        exact hsent
    exact ⟨hlookups, { heffect with
      replies := fun id other hid => (heffect.replies id other hid).imp_right fun heq => by cases heq }⟩
  unfold advanceNewCallbackQuery
  dsimp only
  by_cases hmissing : state = 0 ∧ c.getMessage query.chatId query.messageId (decide (0 < state)) = none
  · rw [if_pos hmissing]
    exact hsend state (by omega)
  rw [if_neg hmissing]
  have hunknown : c.getMessage query.chatId query.messageId (decide (0 < state)) = none →
      c.getMessage query.chatId query.messageId true = none := fun hnone => by
    have hpos : 0 < state := Nat.pos_of_ne_zero fun hzero => hmissing ⟨hzero, hnone⟩
    rw [decide_eq_true hpos] at hnone
    exact hnone
  generalize c.getMessage query.chatId query.messageId (decide (0 < state)) = info at hunknown ⊢
  have hfirst : (if state = 0 then 1 else state) ≤ 3 ∧ 0 < if state = 0 then 1 else state := by
    split_ifs <;> omega
  generalize (if state = 0 then 1 else state) = state at hfirst ⊢
  by_cases hreply : state = 1 ∧ 0 < c.getSameChatReplyToMessageId info ∧
      c.getMessage query.chatId (c.getSameChatReplyToMessageId info) false = none
  · rw [if_pos hreply]
    exact hsend state (by omega)
  rw [if_neg hreply]
  have hsecond : (if state = 1 then 2 else state) ≤ 3 ∧ 1 < if state = 1 then 2 else state := by
    split_ifs <;> omega
  generalize (if state = 1 then 2 else state) = state at hsecond ⊢
  by_cases hids : state = 2 ∧ getMessageStickerSetIds info ++
      getMessageStickerSetIds (c.getMessage query.chatId (c.getSameChatReplyToMessageId info) true) ≠ []
  · rw [if_pos hids]
    exact h.askForNames (.newCallbackQuery userId) query _ rfl
  rw [if_neg hids]
  have hlast : (if state = 2 then 3 else state) = 3 := by
    split_ifs <;> omega
  rw [hlast, check_of c (decide_eq_true rfl), check_of c (decide_eq_true hkeyed.symm)]
  split_ifs with hknown
  · exact ⟨h.addUpdate _, (Effect.refl c).addUpdate _, nofun⟩
  · obtain ⟨hnone, hid⟩ := not_or.1 hknown
    exact ⟨h, .refl c, fun _ => ⟨hunknown (Option.not_isSome_iff_eq_none.1 hnone), hid⟩⟩

/-- The treatment of an element, in a stage that it has. -/
theorem advance_spec (h : Lookups c fun _ => 0) (hleaving : c.leaving = false) {element : queue.Element}
    (hkeyed : queue.Keyed c element) {state : Nat} (hstate : state ≤ queue.lastState) :
    Advanced c queue element (queue.advance c state element) := by
  cases queue with
  | newMessage chatId => exact advanced_newMessage h hleaving hkeyed hstate
  | newCallbackQuery userId => exact advanced_newCallbackQuery h hleaving hkeyed hstate
  | newBusinessCallbackQuery userId =>
      change Advanced c _ element (c.advanceNewBusinessCallbackQuery userId state element)
      unfold advanceNewBusinessCallbackQuery
      refine advanced_message h rfl hstate ?_
      dsimp only
      rw [check_of c (decide_eq_true (Eq.symm hkeyed))]
      exact ⟨h.addUpdate _, (Effect.refl c).addUpdate _, nofun⟩
  | newBusinessMessage connectionId =>
      change Advanced c _ element (c.advanceNewBusinessMessage connectionId state element)
      exact advanced_message h rfl hstate (advanced_leaveMessage h id)
  | newGuestQuery chatId =>
      change Advanced c _ element (c.advanceNewGuestQuery chatId state element)
      exact advanced_message h rfl hstate (advanced_leaveMessage h id)

end IncomingCore

end TelegramBotApi
