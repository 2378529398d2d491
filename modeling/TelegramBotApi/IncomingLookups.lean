import TelegramBotApi.IncomingUpdates
import TelegramBotApi.TableSum

/-!
# What the queues of incoming updates have asked for

A queue has an outstanding request, promise, or message of the client to itself. A promise awaits as many
lookups as requests point to it; inside a call some more are held, which `Lookups` counts as an extra number
for every promise. A function changes what is outstanding by a known amount, and `Effect` says by which.
-/

namespace TelegramBotApi

open TableSum ResumableQueue

namespace IncomingCallback

/-- The queue that the answer of a request resumes. -/
def queue : IncomingCallback → Option QueueId
  | .getCallbackQueryMessage userId _ => some (.newCallbackQuery userId)
  | .getReplyMessage chatId => some (.newMessage chatId)
  | .getEditedMessage | .getStickerSetName .. => none

def promise : IncomingCallback → Option Nat
  | .getStickerSetName _ promise => promise
  | _ => none

end IncomingCallback

namespace IncomingCore

/-- The requests and promises of a queue that have not come back to it. -/
def outstanding (c : IncomingCore) (queue : QueueId) : Nat :=
  total (fun _ handler => if handler.queue = some queue then 1 else 0) c.handlers +
    total (fun _ p => if p.queue = queue then 1 else 0) c.promises +
    (c.closures.filter (·.1 = queue)).length

structure Lookups (c : IncomingCore) (extra : Nat → Nat) : Prop where
  awaited : ∀ id p, c.promises.lookup id = some p →
    p.awaited = total (fun _ handler => if handler.promise = some id then 1 else 0) c.handlers + extra id ∧
      0 < p.awaited
  handlers : ∀ id handler, c.handlers.lookup id = some handler →
    id < c.nextHandlerId ∧ ∀ promise, handler.promise = some promise → promise < c.nextPromiseId
  promises : ∀ id p, c.promises.lookup id = some p → id < c.nextPromiseId ∧ p.state = p.queue.lastState
  closures : ∀ closure ∈ c.closures, closure.2 = closure.1.lastState
  states : ∀ id userId state, c.handlers.lookup id = some (.getCallbackQueryMessage userId state) → state ≤ 1

structure Effect (c c' : IncomingCore) (more : QueueId → Nat) (added : List IncomingUpdate) (asks : Int → Prop) :
    Prop where
  chats : c'.chats = c.chats
  supergroups : c'.supergroups = c.supergroups
  leaving : c'.leaving = c.leaving
  crashed : c'.crashed = c.crashed
  updates : c'.updates = c.updates ++ added
  outstanding : ∀ queue, c'.outstanding queue = c.outstanding queue + more queue
  replies : ∀ id chatId, c'.handlers.lookup id = some (.getReplyMessage chatId) →
    (∃ id, c.handlers.lookup id = some (.getReplyMessage chatId)) ∨ asks chatId

/-- A step that asks for nothing on behalf of a queue and adds no update. -/
abbrev Quiet (c c' : IncomingCore) : Prop := Effect c c' (fun _ => 0) [] fun _ => False

variable {c c' c'' : IncomingCore} {extra : Nat → Nat} {more : QueueId → Nat} {added added' : List IncomingUpdate}
  {asks : Int → Prop} {handler : IncomingCallback}

@[simp] theorem check_true (c : IncomingCore) : c.check true = c := by
  unfold check
  rw [Bool.not_true, Bool.or_false]

theorem check_of (c : IncomingCore) {condition : Bool} (h : condition = true) : c.check condition = c := by
  rw [h, check_true]

theorem Effect.refl (c : IncomingCore) : Quiet c c :=
  ⟨rfl, rfl, rfl, rfl, (List.append_nil _).symm, fun _ => rfl, fun id _ h => Or.inl ⟨id, h⟩⟩

theorem Effect.trans (h : Effect c c' (fun _ => 0) added fun _ => False) (h' : Effect c' c'' more added' asks) :
    Effect c c'' more (added ++ added') asks where
  chats := h'.chats.trans h.chats
  supergroups := h'.supergroups.trans h.supergroups
  leaving := h'.leaving.trans h.leaving
  crashed := h'.crashed.trans h.crashed
  updates := by rw [h'.updates, h.updates, List.append_assoc]
  outstanding queue := by rw [h'.outstanding, h.outstanding, Nat.add_zero]
  replies id chatId hid := by
    rcases h'.replies id chatId hid with ⟨id', hid'⟩ | hasks
    · exact Or.inl ((h.replies id' chatId hid').resolve_right not_false)
    · exact Or.inr hasks

theorem Quiet.trans (h : Quiet c c') (h' : Quiet c' c'') : Quiet c c'' := Effect.trans h h'

theorem Effect.quiet (h : Effect c c' more added asks) (h' : Quiet c' c'') : Effect c c'' more added asks where
  chats := h'.chats.trans h.chats
  supergroups := h'.supergroups.trans h.supergroups
  leaving := h'.leaving.trans h.leaving
  crashed := h'.crashed.trans h.crashed
  updates := by rw [h'.updates, h.updates, List.append_nil]
  outstanding queue := by rw [h'.outstanding, h.outstanding, Nat.add_zero]
  replies id chatId hid := by
    obtain ⟨id', hid'⟩ := (h'.replies id chatId hid).resolve_right not_false
    exact h.replies id' chatId hid'

theorem quiet_messages (c : IncomingCore) (messages : AList fun _ : MessageFullId => MessageInfo) :
    Quiet c { c with messages := messages } :=
  ⟨rfl, rfl, rfl, rfl, (List.append_nil _).symm, fun _ => rfl, fun id _ h => Or.inl ⟨id, h⟩⟩

theorem Lookups.congr (h : Lookups c extra) {extra' : Nat → Nat} (heq : ∀ id, extra' id = extra id) :
    Lookups c extra' := by
  have hsame : extra' = extra := funext heq
  rw [hsame]
  exact h

theorem Lookups.messages (h : Lookups c extra) (messages : AList fun _ : MessageFullId => MessageInfo) :
    Lookups { c with messages := messages } extra := ⟨h.awaited, h.handlers, h.promises, h.closures, h.states⟩

theorem Lookups.fresh (h : Lookups c extra) : c.handlers.lookup c.nextHandlerId = none := by
  by_contra hsome
  obtain ⟨handler, hhandler⟩ := Option.ne_none_iff_exists'.1 hsome
  exact absurd (h.handlers _ handler hhandler).1 (lt_irrefl _)

/-! ### Requests -/

theorem Lookups.doSendRequest (handler : IncomingCallback)
    (h : Lookups c fun id => extra id + if handler.promise = some id then 1 else 0)
    (hpromise : ∀ promise, handler.promise = some promise → promise < c.nextPromiseId)
    (hstate : ∀ userId state, handler = .getCallbackQueryMessage userId state → state ≤ 1) :
    Lookups (c.doSendRequest handler) extra := by
  have hfresh := h.fresh
  refine ⟨fun id p hp => ?_, fun id other hother => ?_, h.promises, h.closures, fun id userId state hother => ?_⟩
  · obtain ⟨hawaited, hpos⟩ := h.awaited id p hp
    change p.awaited = total _ (c.handlers.insert _ handler) + extra id ∧ _
    rw [total_insert_new _ _ hfresh]
    exact ⟨by omega, hpos⟩
  · change (c.handlers.insert _ handler).lookup id = some other at hother
    change id < c.nextHandlerId + 1 ∧ _
    rcases TableLookup.of_insert hother with ⟨rfl, rfl⟩ | ⟨-, hother⟩
    · exact ⟨by omega, hpromise⟩
    · obtain ⟨hlt, hof⟩ := h.handlers id other hother
      exact ⟨by omega, hof⟩
  · change (c.handlers.insert _ handler).lookup id = _ at hother
    rcases TableLookup.of_insert hother with ⟨-, hsame⟩ | ⟨-, hother⟩
    · exact hstate userId state hsame.symm
    · exact h.states id userId state hother

theorem effect_doSendRequest (hfresh : c.handlers.lookup c.nextHandlerId = none) (handler : IncomingCallback) :
    Effect c (c.doSendRequest handler) (fun queue => if handler.queue = some queue then 1 else 0) []
      fun chatId => handler = .getReplyMessage chatId := by
  refine ⟨rfl, rfl, rfl, rfl, (List.append_nil _).symm, fun queue => ?_, fun id chatId hid => ?_⟩
  · change total _ (c.handlers.insert _ handler) + total _ c.promises + (c.closures.filter _).length = _
    rw [total_insert_new _ _ hfresh]
    unfold outstanding
    omega
  · change (c.handlers.insert _ handler).lookup id = _ at hid
    rcases TableLookup.of_insert hid with ⟨-, hsame⟩ | ⟨-, hid⟩
    · exact Or.inr hsame.symm
    · exact Or.inl ⟨id, hid⟩

/-! ### Promises -/

section Release

variable {id : Nat} {p : StickerSetPromise}

/-- The other promises have lost nothing. -/
theorem Lookups.awaited_other (h : Lookups c fun id' => extra id' + if some id = some id' then 1 else 0) {id' : Nat}
    {p' : StickerSetPromise} (hne : id' ≠ id) (hp' : c.promises.lookup id' = some p') :
    p'.awaited = total (fun _ handler => if handler.promise = some id' then 1 else 0) c.handlers + extra id' ∧
      0 < p'.awaited := by
  have hawaited := h.awaited id' p' hp'
  rw [if_neg fun heq => hne (Option.some_inj.1 heq).symm] at hawaited
  exact hawaited

/-- The last request of a promise: its closure is to run. -/
theorem Lookups.release_last (h : Lookups c fun id' => extra id' + if some id = some id' then 1 else 0)
    (hp : c.promises.lookup id = some p) :
    let t := { c with promises := c.promises.erase id, closures := c.closures ++ [(p.queue, p.state)] }
    Lookups t extra ∧ Quiet c t := by
  intro t
  refine ⟨⟨fun id' p' hp' => ?_, h.handlers, fun id' p' hp' => ?_, fun closure hmem => ?_, h.states⟩,
    rfl, rfl, rfl, rfl, (List.append_nil _).symm, fun queue => ?_, fun id _ h => Or.inl ⟨id, h⟩⟩
  · obtain ⟨hne, hp'⟩ := TableLookup.of_erase hp'
    exact h.awaited_other hne hp'
  · exact h.promises id' p' (TableLookup.of_erase hp').2
  · rcases List.mem_append.1 hmem with hmem | hmem
    · exact h.closures closure hmem
    · cases List.mem_singleton.1 hmem
      exact (h.promises id p hp).2
  · change total _ c.handlers + total _ (c.promises.erase id) +
      ((c.closures ++ [(p.queue, p.state)]).filter (·.1 = queue)).length = _
    rw [List.filter_append, List.length_append, List.filter_singleton]
    have hbefore := total_eq_add_erase (fun _ p => if p.queue = queue then 1 else 0) hp
    unfold outstanding
    by_cases heq : p.queue = queue
    · rw [if_pos heq] at hbefore
      rw [decide_eq_true heq, hbefore]
      change _ + _ + (_ + 1) = _
      omega
    · rw [if_neg heq] at hbefore
      rw [decide_eq_false heq, hbefore]
      change _ + _ + (_ + 0) = _
      omega

/-- The promise waits for its other requests. -/
theorem Lookups.release_earlier (h : Lookups c fun id' => extra id' + if some id = some id' then 1 else 0)
    (hp : c.promises.lookup id = some p) (hlast : p.awaited ≠ 1) :
    let t := { c with promises := c.promises.insert id { p with awaited := p.awaited - 1 } }
    Lookups t extra ∧ Quiet c t := by
  intro t
  obtain ⟨hawaited, hpos⟩ := h.awaited id p hp
  rw [if_pos rfl] at hawaited
  refine ⟨⟨fun id' p' hp' => ?_, h.handlers, fun id' p' hp' => ?_, h.closures, h.states⟩,
    rfl, rfl, rfl, rfl, (List.append_nil _).symm, fun queue => ?_, fun id _ h => Or.inl ⟨id, h⟩⟩
  · rcases TableLookup.of_insert hp' with ⟨rfl, rfl⟩ | ⟨hne, hp'⟩
    · change p.awaited - 1 = _ ∧ 0 < p.awaited - 1
      change p.awaited = total _ c.handlers + _ at hawaited
      exact ⟨by change _ = total _ c.handlers + _; omega, by omega⟩
    · exact h.awaited_other hne hp'
  · rcases TableLookup.of_insert hp' with ⟨rfl, rfl⟩ | ⟨-, hp'⟩
    · exact h.promises id' p hp
    · exact h.promises id' p' hp'
  · change total _ c.handlers + total _ (c.promises.insert id _) + (c.closures.filter (·.1 = queue)).length = _
    rw [total_insert]
    have hbefore := total_eq_add_erase (fun _ p => if p.queue = queue then 1 else 0) hp
    unfold outstanding
    dsimp only
    omega

end Release

theorem Lookups.release {promise : Option Nat}
    (h : Lookups c fun id => extra id + if promise = some id then 1 else 0) :
    Lookups (c.release promise) extra ∧ Quiet c (c.release promise) := by
  unfold IncomingCore.release
  cases promise with
  | none => exact ⟨h, .refl c⟩
  | some id =>
      cases hp : c.promises.lookup id with
      | none =>
          rw [Option.bind_some, hp]
          change Lookups c extra ∧ Quiet c c
          refine ⟨⟨fun id' p hp' => h.awaited_other (fun heq => ?_) hp', h.handlers, h.promises, h.closures, h.states⟩,
            .refl c⟩
          rw [heq, hp] at hp'
          cases hp'
      | some p =>
          rw [Option.bind_some, hp]
          dsimp only [Option.map_some]
          split_ifs with hlast
          · exact h.release_last hp
          · exact h.release_earlier hp hlast

/-! ### The names of sticker sets -/

theorem nextPromiseId_release (c : IncomingCore) (promise : Option Nat) :
    (c.release promise).nextPromiseId = c.nextPromiseId := by
  unfold IncomingCore.release
  split
  · rfl
  · split <;> rfl

theorem nextPromiseId_requestStickerSetName (c : IncomingCore) (setId : Int) (promise : Option Nat) :
    (c.requestStickerSetName setId promise).nextPromiseId = c.nextPromiseId := by
  unfold IncomingCore.requestStickerSetName
  split
  · exact nextPromiseId_release c promise
  · rfl

theorem Lookups.requestStickerSetName {promise : Option Nat}
    (h : Lookups c fun id => extra id + if promise = some id then 1 else 0)
    (hpromise : ∀ id, promise = some id → id < c.nextPromiseId) (setId : Int) :
    Lookups (c.requestStickerSetName setId promise) extra ∧ Quiet c (c.requestStickerSetName setId promise) := by
  unfold IncomingCore.requestStickerSetName
  split
  · exact h.release
  · refine ⟨h.doSendRequest (.getStickerSetName setId promise) hpromise (fun _ _ heq => by cases heq), ?_⟩
    have heffect := effect_doSendRequest h.fresh (.getStickerSetName setId promise)
    exact { heffect with
      replies := fun id chatId hid => (heffect.replies id chatId hid).imp_right fun heq => by cases heq }

/-- The slack of the promise pays for the requests. -/
theorem Lookups.requestStickerSetNames {promise : Option Nat} (stickerSetIds : List Int)
    (h : Lookups c fun id => extra id + if promise = some id then stickerSetIds.length else 0)
    (hpromise : ∀ id, promise = some id → id < c.nextPromiseId) :
    Lookups (stickerSetIds.foldl (fun c setId => c.requestStickerSetName setId promise) c) extra ∧
      Quiet c (stickerSetIds.foldl (fun c setId => c.requestStickerSetName setId promise) c) := by
  induction stickerSetIds generalizing c with
  | nil => exact ⟨h.congr fun id => by rw [List.length_nil, ite_self, Nat.add_zero], .refl c⟩
  | cons setId stickerSetIds ih =>
      have hfirst : Lookups c fun id =>
          extra id + (if promise = some id then stickerSetIds.length else 0) + if promise = some id then 1 else 0 :=
        h.congr fun id => by
          rw [List.length_cons]
          split_ifs <;> omega
      obtain ⟨hlookups, hquiet⟩ := hfirst.requestStickerSetName hpromise setId
      have hnext := nextPromiseId_requestStickerSetName c setId promise
      obtain ⟨hrest, hquiet'⟩ := ih hlookups fun id heq => hnext ▸ hpromise id heq
      exact ⟨hrest, hquiet.trans hquiet'⟩

theorem Lookups.getStickerSetNames_none (h : Lookups c extra) (stickerSetIds : List Int) :
    Lookups (c.getStickerSetNames stickerSetIds none) extra ∧ Quiet c (c.getStickerSetNames stickerSetIds none) := by
  have hslack : Lookups c fun id =>
      extra id + if (none : Option Nat) = some id then (c.missingStickerSetIds stickerSetIds).length else 0 :=
    h.congr fun id => by rw [if_neg nofun, Nat.add_zero]
  exact hslack.requestStickerSetNames _ nofun

/-- A new promise is one more thing that its queue waits for. -/
theorem Lookups.newPromise (h : Lookups c fun _ => 0) (queue : QueueId) {awaited : Nat} (hawaited : 0 < awaited) :
    let c' := { c with
      nextPromiseId := c.nextPromiseId + 1
      promises := c.promises.insert c.nextPromiseId ⟨queue, queue.lastState, awaited⟩ }
    (Lookups c' fun id => if id = c.nextPromiseId then awaited else 0) ∧
      Effect c c' (fun other => if other = queue then 1 else 0) [] fun _ => False := by
  intro c'
  have hfresh : c.promises.lookup c.nextPromiseId = none := by
    by_contra hsome
    obtain ⟨p, hp⟩ := Option.ne_none_iff_exists'.1 hsome
    exact absurd (h.promises _ p hp).1 (lt_irrefl _)
  have hnone : total (fun _ handler => if handler.promise = some c.nextPromiseId then 1 else 0) c.handlers = 0 :=
    total_eq_zero fun id handler hhandler => if_neg fun heq =>
      absurd ((h.handlers id handler hhandler).2 _ heq) (lt_irrefl _)
  refine ⟨⟨fun id p hp => ?_, fun id handler hhandler => ?_, fun id p hp => ?_, h.closures, h.states⟩,
    rfl, rfl, rfl, rfl, (List.append_nil _).symm, fun other => ?_, fun id _ h => Or.inl ⟨id, h⟩⟩
  · change (c.promises.insert _ _).lookup id = some p at hp
    rcases TableLookup.of_insert hp with ⟨rfl, rfl⟩ | ⟨hne, hp⟩
    · rw [if_pos rfl]
      change awaited = total _ c.handlers + awaited ∧ _
      exact ⟨by omega, hawaited⟩
    · rw [if_neg hne]
      exact h.awaited id p hp
  · obtain ⟨hlt, hof⟩ := h.handlers id handler hhandler
    exact ⟨hlt, fun promise heq => Nat.lt_succ_of_lt (hof promise heq)⟩
  · change (c.promises.insert _ _).lookup id = some p at hp
    change id < c.nextPromiseId + 1 ∧ _
    rcases TableLookup.of_insert hp with ⟨rfl, rfl⟩ | ⟨-, hp⟩
    · exact ⟨by omega, rfl⟩
    · exact ⟨Nat.lt_succ_of_lt (h.promises id p hp).1, (h.promises id p hp).2⟩
  · change total _ c.handlers + total _ (c.promises.insert _ _) + (c.closures.filter _).length = _
    rw [total_insert_new _ _ hfresh]
    unfold outstanding
    have hsame : (if queue = other then 1 else 0) = if other = queue then 1 else 0 := if_congr eq_comm rfl rfl
    dsimp only
    omega

theorem Lookups.getStickerSetNames_some (h : Lookups c fun _ => 0) (stickerSetIds : List Int) (queue : QueueId) :
    (Lookups (c.getStickerSetNames stickerSetIds (some (queue, queue.lastState))) fun _ => 0) ∧
      Effect c (c.getStickerSetNames stickerSetIds (some (queue, queue.lastState)))
        (fun other => if other = queue then 1 else 0) [] fun _ => False := by
  unfold IncomingCore.getStickerSetNames
  dsimp only
  split_ifs with hmissing
  · refine ⟨⟨h.awaited, h.handlers, h.promises, fun closure hmem => ?_, h.states⟩,
      rfl, rfl, rfl, rfl, (List.append_nil _).symm, fun other => ?_, fun id _ h => Or.inl ⟨id, h⟩⟩
    · rcases List.mem_append.1 hmem with hmem | hmem
      · exact h.closures closure hmem
      · rw [List.mem_singleton.1 hmem]
    · change _ + _ + ((c.closures ++ [(queue, queue.lastState)]).filter (·.1 = other)).length = _
      rw [List.filter_append, List.length_append, List.filter_singleton]
      unfold outstanding
      by_cases heq : other = queue
      · rw [decide_eq_true heq.symm, if_pos heq]
        rfl
      · rw [decide_eq_false (Ne.symm heq), if_neg heq]
        rfl
  · set missing := c.missingStickerSetIds stickerSetIds
    obtain ⟨hlookups, heffect⟩ := h.newPromise queue (Nat.succ_pos missing.length)
    have hslack : Lookups _ fun id => (0 + if some c.nextPromiseId = some id then 1 else 0) +
        if some c.nextPromiseId = some id then missing.length else 0 :=
      hlookups.congr fun id => by
        by_cases heq : id = c.nextPromiseId
        · rw [if_pos heq, if_pos (congrArg some heq.symm), if_pos (congrArg some heq.symm)]
          omega
        · have hne : some c.nextPromiseId ≠ some id := fun h => heq (Option.some_inj.1 h).symm
          rw [if_neg heq, if_neg hne, if_neg hne]
    obtain ⟨hasked, hquiet⟩ := hslack.requestStickerSetNames missing fun id heq =>
      Option.some_inj.1 heq ▸ Nat.lt_succ_self c.nextPromiseId
    obtain ⟨hreleased, hquiet'⟩ := hasked.release
    exact ⟨hreleased, heffect.quiet (hquiet.trans hquiet')⟩

/-! ### Messages -/

theorem Lookups.onGetStickerSetName (h : Lookups c extra) (setId : Int) (name : String) :
    Lookups (c.onGetStickerSetName setId name) extra ∧ Quiet c (c.onGetStickerSetName setId name) := by
  unfold IncomingCore.onGetStickerSetName
  split
  · exact ⟨⟨h.awaited, h.handlers, h.promises, h.closures, h.states⟩,
      rfl, rfl, rfl, rfl, (List.append_nil _).symm, fun _ => rfl, fun id _ h => Or.inl ⟨id, h⟩⟩
  · exact ⟨h, .refl c⟩

theorem Lookups.createMessage (h : Lookups c extra) (message : Message) :
    Lookups (c.createMessage message).2 extra ∧ Quiet c (c.createMessage message).2 := by
  unfold IncomingCore.createMessage
  dsimp only
  split
  · exact h.getStickerSetNames_none _
  · exact ⟨h, .refl c⟩

theorem Lookups.createMessages (h : Lookups c extra) (messages : List Message) :
    Lookups (c.createMessages messages).2 extra ∧ Quiet c (c.createMessages messages).2 := by
  induction messages generalizing c with
  | nil => exact ⟨h, .refl c⟩
  | cons message messages ih =>
      obtain ⟨hfirst, hquiet⟩ := h.createMessage message
      obtain ⟨hrest, hquiet'⟩ := ih hfirst
      exact ⟨hrest, hquiet.trans hquiet'⟩

theorem Lookups.createBusinessMessage (h : Lookups c extra) (message : Message) (replyToMessage : Option Message) :
    Lookups (c.createBusinessMessage message replyToMessage).2 extra ∧
      Quiet c (c.createBusinessMessage message replyToMessage).2 := by
  obtain ⟨hmessage, hquiet⟩ := h.createMessage message
  cases replyToMessage with
  | none => exact ⟨hmessage, hquiet⟩
  | some reply =>
      obtain ⟨hreply, hquiet'⟩ := hmessage.createMessage reply
      exact ⟨hreply, hquiet.trans hquiet'⟩

theorem Lookups.addMessage (h : Lookups c extra) (info : MessageInfo) (forceUpdateContent : Bool) :
    Lookups (c.addMessage info forceUpdateContent).2 extra ∧ Quiet c (c.addMessage info forceUpdateContent).2 :=
  ⟨h.messages _, quiet_messages c _⟩

end IncomingCore

end TelegramBotApi
