import TelegramBotApi.IncomingAdvance
import TelegramBotApi.StepRun

/-!
# The queues of incoming updates are served in order

Between two events a queue with elements waits for exactly one thing, and no queue is empty. `Sound` says so
for every queue, and `Open` says it for all but the one whose elements are being treated.
-/

namespace TelegramBotApi

open TableSum ResumableQueue

namespace IncomingCore

variable {c c' : IncomingCore} {more : QueueId → Nat} {added : List IncomingUpdate} {asks : Int → Prop}

theorem getSameChatReplyToMessageId_congr {info : MessageInfo} (h : c'.chatType info.chatId = c.chatType info.chatId) :
    c'.getSameChatReplyToMessageId (some info) = c.getSameChatReplyToMessageId (some info) := by
  unfold getSameChatReplyToMessageId
  dsimp only
  split_ifs with hcontent
  · rfl
  split
  · rfl
  · unfold getImplicitReplyToMessageId
    rw [h]

structure Remembers (c c' : IncomingCore) : Prop where
  known : ∀ chatId, c.knowsChat chatId = true → c'.knowsChat chatId = true
  type : ∀ chatId, c.knowsChat chatId = true → c'.chatType chatId = c.chatType chatId

theorem Remembers.keyed (h : Remembers c c') {queue : QueueId} {element : queue.Element}
    (hkeyed : queue.Keyed c element) : queue.Keyed c' element := by
  cases queue with
  | newMessage chatId => exact ⟨hkeyed.1, h.known chatId hkeyed.2⟩
  | _ => exact hkeyed

theorem Remembers.replies (h : Remembers c c') {queue : QueueId} {element : queue.Element}
    (hkeyed : queue.Keyed c element) {chatId : Int} (hreplies : queue.Replies c element chatId) :
    queue.Replies c' element chatId := by
  cases queue with
  | newMessage key =>
      obtain ⟨hchat, hknown⟩ := hkeyed
      refine ⟨hreplies.1, ?_⟩
      rw [← hchat] at hknown
      rw [getSameChatReplyToMessageId_congr (h.type _ hknown)]
      exact hreplies.2
  | _ => exact hreplies

theorem remembers_of_eq (hchats : c'.chats = c.chats) (hsupergroups : c'.supergroups = c.supergroups) :
    Remembers c c' := by
  constructor
  · intro chatId hknown
    unfold IncomingCore.knowsChat at hknown ⊢
    rw [hchats, hsupergroups]
    exact hknown
  · intro chatId _
    unfold IncomingCore.chatType
    rw [hchats]

theorem Effect.remembers (h : Effect c c' more added asks) : Remembers c c' := remembers_of_eq h.chats h.supergroups

theorem Effect.imp (h : Effect c c' more added asks) {asks' : Int → Prop}
    (himp : ∀ chatId, asks chatId → asks' chatId) : Effect c c' more added asks' :=
  { h with replies := fun id chatId hid => (h.replies id chatId hid).imp_right (himp chatId) }

theorem outstanding_pos {id : Nat} {handler : IncomingCallback} (h : c.handlers.lookup id = some handler)
    {queue : QueueId} (hqueue : handler.queue = some queue) : 0 < c.outstanding queue := by
  have hle := le_total (fun _ (handler : IncomingCallback) => if handler.queue = some queue then 1 else 0) h
  rw [if_pos hqueue] at hle
  unfold outstanding
  omega

/-- One thing that a queue has waited for has come back. -/
structure Returned (c c' : IncomingCore) (queue : QueueId) : Prop where
  remembers : Remembers c c'
  crashed : c'.crashed = c.crashed
  updates : c'.updates = c.updates
  lookups : Lookups c' fun _ => 0
  outstanding : ∀ other, c.outstanding other = c'.outstanding other + if other = queue then 1 else 0
  handlers : ∀ id handler, c'.handlers.lookup id = some handler → ∃ id', c.handlers.lookup id' = some handler

theorem Lookups.eraseHandler (h : Lookups c fun _ => 0) {id : Nat} {handler : IncomingCallback}
    (hid : c.handlers.lookup id = some handler) :
    Lookups { c with handlers := c.handlers.erase id } fun promise =>
      0 + if handler.promise = some promise then 1 else 0 := by
  refine ⟨fun promise p hp => ?_,
    fun other handler' hother => h.handlers other handler' (TableLookup.of_erase hother).2, h.promises, h.closures,
    fun other userId state hother => h.states other userId state (TableLookup.of_erase hother).2⟩
  obtain ⟨hawaited, hpos⟩ := h.awaited promise p hp
  have hsum := total_eq_add_erase
    (fun _ (handler : IncomingCallback) => if handler.promise = some promise then 1 else 0) hid
  change p.awaited = total _ (c.handlers.erase id) + _ ∧ _
  exact ⟨by omega, hpos⟩

theorem outstanding_eraseHandler {id : Nat} {handler : IncomingCallback} (hid : c.handlers.lookup id = some handler)
    (queue : QueueId) :
    c.outstanding queue = { c with handlers := c.handlers.erase id }.outstanding queue +
      if handler.queue = some queue then 1 else 0 := by
  have hsum := total_eq_add_erase
    (fun _ (handler : IncomingCallback) => if handler.queue = some queue then 1 else 0) hid
  unfold outstanding
  change _ = total _ (c.handlers.erase id) + total _ c.promises + (c.closures.filter _).length + _
  omega

theorem Lookups.returned (h : Lookups c fun _ => 0) {id : Nat} {handler : IncomingCallback}
    (hid : c.handlers.lookup id = some handler) {queue : QueueId} (hqueue : handler.queue = some queue)
    (hpromise : handler.promise = none) : Returned c { c with handlers := c.handlers.erase id } queue := by
  refine ⟨remembers_of_eq rfl rfl, rfl, rfl, (h.eraseHandler hid).congr fun promise => ?_, fun other => ?_,
    fun other handler' hother => ⟨other, (TableLookup.of_erase hother).2⟩⟩
  · rw [hpromise]
    rfl
  · rw [outstanding_eraseHandler hid other, hqueue]
    exact congrArg _ (if_congr (Option.some_inj.trans eq_comm) rfl rfl)

theorem Lookups.quiet_eraseHandler (h : Lookups c fun _ => 0) {id : Nat} {handler : IncomingCallback}
    (hid : c.handlers.lookup id = some handler) (hqueue : handler.queue = none) :
    (Lookups { c with handlers := c.handlers.erase id } fun promise =>
      0 + if handler.promise = some promise then 1 else 0) ∧ Quiet c { c with handlers := c.handlers.erase id } := by
  refine ⟨h.eraseHandler hid, rfl, rfl, rfl, rfl, (List.append_nil _).symm, fun queue => ?_,
    fun other chatId hother => Or.inl ⟨other, (TableLookup.of_erase hother).2⟩⟩
  rw [outstanding_eraseHandler hid queue, hqueue]
  rfl

theorem Lookups.returned_closure (h : Lookups c fun _ => 0) {queue : QueueId} {state : Nat}
    {closures : List (QueueId × Nat)} (hclosures : c.closures = (queue, state) :: closures) :
    Returned c { c with closures := closures } queue := by
  refine ⟨remembers_of_eq rfl rfl, rfl, rfl,
    ⟨h.awaited, h.handlers, h.promises, fun closure hmem => h.closures closure ?_, h.states⟩, fun other => ?_,
    fun other handler hother => ⟨other, hother⟩⟩
  · rw [hclosures]
    exact List.mem_cons_of_mem _ hmem
  · unfold outstanding
    rw [hclosures, List.filter_cons]
    dsimp only
    by_cases heq : other = queue
    · rw [if_pos heq, if_pos (decide_eq_true heq.symm)]
      rfl
    · rw [if_neg heq, if_neg fun hdec => heq (of_decide_eq_true hdec).symm]
      rfl

end IncomingCore

theorem QueueId.Replies.queue_eq {c : IncomingCore} {queue : QueueId} {element : queue.Element} {chatId : Int}
    (h : queue.Replies c element chatId) : queue = .newMessage chatId := by
  cases queue with
  | newMessage key => exact congrArg _ h.1
  | _ => exact h.elim

namespace IncomingUpdates

open IncomingCore

def items (s : IncomingUpdates) (queue : QueueId) : List queue.Element := ((s.queues.lookup queue).getD {}).items

structure Entry (s : IncomingUpdates) (queue : QueueId) : Prop where
  active : ∀ q, s.queues.lookup queue = some q → q.hasActiveRequest = true ∧ q.items ≠ []
  outstanding : s.core.outstanding queue = if (s.queues.lookup queue).isSome then 1 else 0
  keyed : ∀ element ∈ s.items queue, queue.Keyed s.core element
  replies : ∀ id chatId, queue = .newMessage chatId → s.core.handlers.lookup id = some (.getReplyMessage chatId) →
    ∃ element ∈ (s.items queue).head?, queue.Replies s.core element chatId
  order : s.arrived.lookupAll queue = (s.departed.lookupAll queue).map Departure.element ++ s.items queue

structure Books (s : IncomingUpdates) : Prop where
  crashed : s.core.crashed = false
  lookups : Lookups s.core fun _ => 0
  updates : s.core.updates = s.departed.filterMap (·.2.update)
  rejected : ∀ d ∈ s.departed, d.2.update = none → d.2.core.leaving = true ∨ d.1.Rejects d.2.core d.2.element

structure Sound (s : IncomingUpdates) : Prop where
  books : Books s
  entry : ∀ queue, Entry s queue

/-- The elements of one queue are being treated. -/
structure Open (s : IncomingUpdates) (queue : QueueId) (items : List queue.Element) : Prop where
  books : Books s
  entry : ∀ other, other ≠ queue → Entry s other
  outstanding : s.core.outstanding queue = 0
  keyed : ∀ element ∈ items, queue.Keyed s.core element
  order : s.arrived.lookupAll queue = (s.departed.lookupAll queue).map Departure.element ++ items

variable {s s' : IncomingUpdates} {queue other : QueueId} {more : QueueId → Nat} {added : List IncomingUpdate}
  {asks : Int → Prop}

theorem items_eq (h : s'.queues.lookup queue = s.queues.lookup queue) : s'.items queue = s.items queue := by
  unfold items
  rw [h]

/-- A step leaves the queues alone that it does not touch. -/
theorem Entry.of_remembers (h : Entry s other) (hremembers : Remembers s.core s'.core)
    (houtstanding : s'.core.outstanding other = s.core.outstanding other)
    (hreplies : ∀ id chatId, other = .newMessage chatId → s'.core.handlers.lookup id = some (.getReplyMessage chatId) →
      ∃ id', s.core.handlers.lookup id' = some (.getReplyMessage chatId))
    (hlookup : s'.queues.lookup other = s.queues.lookup other)
    (harrived : s'.arrived.lookupAll other = s.arrived.lookupAll other)
    (hdeparted : s'.departed.lookupAll other = s.departed.lookupAll other) : Entry s' other where
  active q hq := h.active q (hlookup ▸ hq)
  outstanding := by rw [houtstanding, hlookup, h.outstanding]
  keyed element hmem := hremembers.keyed (h.keyed element (items_eq hlookup ▸ hmem))
  replies id chatId hqueue hid := by
    obtain ⟨id', hid'⟩ := hreplies id chatId hqueue hid
    obtain ⟨element, hmem, hof⟩ := h.replies id' chatId hqueue hid'
    rw [items_eq hlookup]
    exact ⟨element, hmem, hremembers.replies (h.keyed element (List.mem_of_mem_head? hmem)) hof⟩
  order := by rw [harrived, hdeparted, items_eq hlookup, h.order]

theorem Entry.of_effect (h : Entry s other) (heffect : Effect s.core s'.core more added asks) (hmore : more other = 0)
    (hasks : ∀ chatId, other = .newMessage chatId → ¬ asks chatId)
    (hlookup : s'.queues.lookup other = s.queues.lookup other)
    (harrived : s'.arrived.lookupAll other = s.arrived.lookupAll other)
    (hdeparted : s'.departed.lookupAll other = s.departed.lookupAll other) : Entry s' other :=
  h.of_remembers heffect.remembers (by rw [heffect.outstanding, hmore, Nat.add_zero])
    (fun id chatId hqueue hid => (heffect.replies id chatId hid).resolve_right (hasks chatId hqueue))
    hlookup harrived hdeparted

theorem Entry.of_quiet (h : Entry s other) {c : IncomingCore} (hquiet : Quiet s.core c) :
    Entry { s with core := c } other :=
  h.of_effect hquiet rfl (fun _ _ => not_false) rfl rfl rfl

theorem Books.of_quiet (h : Books s) {c : IncomingCore} (hquiet : Quiet s.core c) (hlookups : Lookups c fun _ => 0) :
    Books { s with core := c } where
  crashed := hquiet.crashed.trans h.crashed
  lookups := hlookups
  updates := (hquiet.updates.trans (List.append_nil _)).trans h.updates
  rejected := h.rejected

theorem Sound.of_quiet (h : Sound s) {c : IncomingCore} (hquiet : Quiet s.core c) (hlookups : Lookups c fun _ => 0) :
    Sound { s with core := c } :=
  ⟨h.books.of_quiet hquiet hlookups, fun queue => (h.entry queue).of_quiet hquiet⟩

theorem Open.of_quiet {items : List queue.Element} (h : Open s queue items) {c : IncomingCore} (hquiet : Quiet s.core c)
    (hlookups : Lookups c fun _ => 0) : Open { s with core := c } queue items where
  books := h.books.of_quiet hquiet hlookups
  entry other hne := (h.entry other hne).of_quiet hquiet
  outstanding := (hquiet.outstanding queue).trans h.outstanding
  keyed element hmem := hquiet.remembers.keyed (h.keyed element hmem)
  order := h.order

/-! ### The treatment of the elements -/

/-- Some elements have left, and the first of the others waits. -/
theorem Open.close {elements waiting : List queue.Element} (h : Open s queue elements) {c : IncomingCore}
    {gone : List (Departure queue)} {queues : AList fun queue : QueueId => Queue queue.Element}
    (helements : gone.map Departure.element ++ waiting = elements) (hlookups : Lookups c fun _ => 0)
    (heffect : Effect s.core c (fun other => if other = queue ∧ waiting ≠ [] then 1 else 0)
      (gone.filterMap Departure.update) asks)
    (hasks : ∀ chatId, asks chatId → ∃ element ∈ waiting.head?, queue.Replies c element chatId)
    (hothers : ∀ other, other ≠ queue → queues.lookup other = s.queues.lookup other)
    (hqueue : queues.lookup queue = if waiting = [] then none else some ⟨waiting, true⟩)
    (hgone : ∀ d ∈ gone, d.update = none → d.core.leaving = true ∨ queue.Rejects d.core d.element) :
    Sound { s with core := c, queues := queues, departed := s.departed ++ gone.map (Sigma.mk queue) } := by
  refine ⟨⟨heffect.crashed.trans h.books.crashed, hlookups, ?_, fun d hd => ?_⟩, fun other => ?_⟩
  · change c.updates = _
    rw [heffect.updates, h.books.updates, List.filterMap_append, List.filterMap_map]
    rfl
  · rcases List.mem_append.1 hd with hd | hd
    · exact h.books.rejected d hd
    · obtain ⟨d', hd', rfl⟩ := List.mem_map.1 hd
      exact hgone d' hd'
  · by_cases hother : other = queue
    · subst hother
      have hitems : ((queues.lookup other).getD {}).items = waiting := by
        rw [hqueue]
        split_ifs with hnil
        · exact hnil.symm
        · rfl
      refine ⟨fun q hq => ?_, ?_, fun element hmem => ?_, fun id chatId heq hid => ?_, ?_⟩
      · change queues.lookup other = some q at hq
        rw [hqueue] at hq
        split_ifs at hq with hnil
        cases hq
        exact ⟨rfl, hnil⟩
      · change c.outstanding other = if (queues.lookup other).isSome then 1 else 0
        rw [heffect.outstanding, h.outstanding, hqueue]
        by_cases hnil : waiting = []
        · rw [if_neg fun hand => hand.2 hnil, if_pos hnil]
          rfl
        · rw [if_pos ⟨rfl, hnil⟩, if_neg hnil]
          rfl
      · change element ∈ ((queues.lookup other).getD {}).items at hmem
        rw [hitems] at hmem
        exact heffect.remembers.keyed (h.keyed element (helements ▸ List.mem_append_right _ hmem))
      · change ∃ element ∈ ((queues.lookup other).getD {}).items.head?, _
        rw [hitems]
        refine hasks chatId ((heffect.replies id chatId hid).resolve_left ?_)
        rintro ⟨id', hid'⟩
        exact absurd h.outstanding (Nat.ne_of_gt (outstanding_pos hid' (congrArg some heq.symm)))
      · change s.arrived.lookupAll other = _ ++ ((queues.lookup other).getD {}).items
        rw [hitems, h.order, lookupAll_append, lookupAll_map_mk, List.map_append, List.append_assoc, helements]
    · refine (h.entry other hother).of_effect heffect (if_neg fun hand => hother hand.1) (fun chatId heq hask => ?_)
        (hothers other hother) rfl ?_
      · obtain ⟨element, -, hreplies⟩ := hasks chatId hask
        exact hother (heq.trans hreplies.queue_eq.symm)
      · rw [lookupAll_append, lookupAll_map_mk_ne hother, List.append_nil]

/-- The loop has asked for nothing yet, and has added these updates. -/
def Between (s : IncomingUpdates) (c : IncomingCore) (results : List (Option IncomingUpdate)) : Prop :=
  (Lookups c fun _ => 0) ∧ Effect s.core c (fun _ => 0) (results.filterMap id) fun _ => False

def Stopped (s : IncomingUpdates) (queue : QueueId) (c : IncomingCore) (results : List (Option IncomingUpdate))
    (element : queue.Element) : Prop :=
  (Lookups c fun _ => 0) ∧
    Effect s.core c (fun other => if other = queue then 1 else 0) (results.filterMap id) (queue.Replies c element)

/-- How the loop has ended, with the elements that wait. -/
def Ended (s : IncomingUpdates) (queue : QueueId) (c : IncomingCore) (results : List (Option IncomingUpdate))
    (waiting : List queue.Element) : Prop :=
  (Lookups c fun _ => 0) ∧
    Effect s.core c (fun other => if other = queue ∧ waiting ≠ [] then 1 else 0) (results.filterMap id)
      fun chatId => ∃ element ∈ waiting.head?, queue.Replies c element chatId

/-- What an element needs when the loop comes to it. -/
def Ready (queue : QueueId) (c : IncomingCore) (state : Nat) (element : queue.Element) : Prop :=
  state ≤ queue.lastState ∧ queue.Keyed c element ∧ c.leaving = false

theorem Between.ended {c : IncomingCore} {results : List (Option IncomingUpdate)} (h : Between s c results) :
    Ended s queue c results [] := by
  refine ⟨h.1, { h.2 with
    outstanding := fun other => ?_
    replies := fun id chatId hid => Or.inl ((h.2.replies id chatId hid).resolve_right not_false) }⟩
  rw [if_neg fun hand => hand.2 rfl]
  exact h.2.outstanding other

theorem Stopped.ended {c : IncomingCore} {results : List (Option IncomingUpdate)} {element : queue.Element}
    (h : Stopped s queue c results element) (rest : List queue.Element) :
    Ended s queue c results (element :: rest) := by
  have heffect : Effect s.core c _ _ fun chatId =>
      ∃ element' ∈ (element :: rest).head?, queue.Replies c element' chatId :=
    h.2.imp fun chatId hreplies => ⟨element, rfl, hreplies⟩
  refine ⟨h.1, { heffect with outstanding := fun other => ?_ }⟩
  rw [heffect.outstanding, if_congr (and_iff_left (List.cons_ne_nil element rest)) rfl rfl]

theorem Between.waits {c c' : IncomingCore} {results : List (Option IncomingUpdate)} (h : Between s c results)
    {state : Nat} {element : queue.Element} (hready : Ready queue c state element)
    (hadvance : queue.advance c state element = .waits c') : Stopped s queue c' results element := by
  have hspec := advance_spec h.1 hready.2.2 hready.2.1 hready.1
  rw [hadvance] at hspec
  obtain ⟨hlookups, heffect⟩ := hspec
  have hboth := h.2.trans (heffect.imp fun chatId => heffect.remembers.replies hready.2.1)
  rw [List.append_nil] at hboth
  exact ⟨hlookups, hboth⟩

theorem Between.leaves {c c' : IncomingCore} {results : List (Option IncomingUpdate)} (h : Between s c results)
    {state : Nat} {element : queue.Element} (hready : Ready queue c state element) {update : Option IncomingUpdate}
    (hadvance : queue.advance c state element = .leaves c' update) :
    Between s c' (results ++ [update]) ∧ (update = none → queue.Rejects c element) ∧
      ∀ next, Ready queue c 0 next → Ready queue c' 0 next := by
  have hspec := advance_spec h.1 hready.2.2 hready.2.1 hready.1
  rw [hadvance] at hspec
  obtain ⟨hlookups, heffect, hrejects⟩ := hspec
  refine ⟨⟨hlookups, ?_⟩, hrejects, fun next hnext => ?_⟩
  · have hboth := h.2.trans heffect
    rw [List.filterMap_append]
    cases update with
    | none => exact hboth
    | some update => exact hboth
  · exact ⟨hnext.1, heffect.remembers.keyed hnext.2.1, heffect.leaving.trans hnext.2.2⟩

/-- When the client is leaving, the elements of a queue are dropped. -/
theorem Open.drop {elements : List queue.Element} (h : Open s queue elements) (hleaving : s.core.leaving = true) :
    Sound { s with
      queues := s.queues.erase queue
      departed := s.departed ++ elements.map fun element => ⟨queue, s.core, element, none⟩ } := by
  have hmap : (elements.map fun element => (⟨queue, s.core, element, none⟩ : Sigma Departure)) =
      (elements.map fun element => (⟨s.core, element, none⟩ : Departure queue)).map (Sigma.mk queue) := by
    rw [List.map_map]
    rfl
  have hnone : (elements.map fun element =>
      (⟨s.core, element, none⟩ : Departure queue)).filterMap Departure.update = [] := by
    rw [List.filterMap_map]
    exact List.filterMap_eq_nil_iff.2 fun _ _ => rfl
  have hended : Ended s queue s.core [] [] := Between.ended ⟨h.books.lookups, .refl s.core⟩
  rw [hmap]
  refine h.close ?_ h.books.lookups (by rw [hnone]; exact hended.2) (fun _ hask => hask)
    (fun other hne => AList.lookup_erase_ne hne) (AList.lookup_erase queue _) fun d hd _ => ?_
  · rw [List.map_map, List.append_nil]
    exact List.map_id _
  · obtain ⟨element, -, rfl⟩ := List.mem_map.1 hd
    exact Or.inl hleaving

/-- The loop over the elements of a queue. -/
theorem Open.resume {elements : List queue.Element} (h : Open s queue elements) {state : Nat}
    (hstate : state ≤ queue.lastState) : Sound (s.resume queue elements state) := by
  unfold IncomingUpdates.resume
  split_ifs with hleaving
  · exact h.drop hleaving
  have hstays : s.core.leaving = false := Bool.eq_false_iff.2 hleaving
  have hready : ∀ element ∈ elements, ∀ state ≤ queue.lastState, Ready queue s.core state element :=
    fun element hmem state hstate => ⟨hstate, h.keyed element hmem, hstays⟩
  have hbetween : Between s s.core [] := ⟨h.books.lookups, .refl s.core⟩
  have hhead : ∀ element ∈ elements.head?, Ready queue s.core state element :=
    fun element hmem => hready element (List.mem_of_mem_head? hmem) state hstate
  have htail : ∀ element ∈ elements.tail, Ready queue s.core 0 element :=
    fun element hmem => hready element (List.mem_of_mem_tail hmem) 0 (Nat.zero_le _)
  obtain ⟨hlast, hgone⟩ := run_rule (I := Between s) (J := Stopped s queue) (R := Ready queue)
    (G := fun c element update => update = none → queue.Rejects c element)
    (fun _ _ _ _ _ hbetween hready hadvance => hbetween.waits hready hadvance)
    (fun _ _ _ _ _ _ hbetween hready hadvance => hbetween.leaves hready hadvance) hbetween hhead htail
  have hsplit := gone_append_waiting queue.advance s.core state elements
  dsimp only
  generalize run queue.advance s.core state elements = progress at hlast hgone hsplit ⊢
  have hupdates : (progress.gone.map fun g => (⟨g.1, g.2.1, g.2.2⟩ : Departure queue)).filterMap Departure.update =
      (progress.gone.map (·.2.2)).filterMap id := by
    rw [List.filterMap_map, List.filterMap_map]
    rfl
  have hend : Ended s queue progress.world (progress.gone.map (·.2.2)) progress.waiting := by
    rw [List.nil_append] at hlast
    cases hwaiting : progress.waiting with
    | nil =>
        rw [hwaiting] at hlast
        exact hlast.ended
    | cons element rest =>
        rw [hwaiting] at hlast
        exact hlast.ended rest
  have hmap : (progress.gone.map fun g => (⟨queue, g.1, g.2.1, g.2.2⟩ : Sigma Departure)) =
      (progress.gone.map fun g => (⟨g.1, g.2.1, g.2.2⟩ : Departure queue)).map (Sigma.mk queue) := by
    rw [List.map_map]
    rfl
  rw [hmap]
  refine h.close ?_ hend.1 (hupdates ▸ hend.2) (fun chatId hask => hask) (fun other hne => ?_) ?_ fun d hd hnone => ?_
  · rw [List.map_map]
    exact hsplit
  · split_ifs with hnil
    · exact AList.lookup_erase_ne hne
    · exact AList.lookup_insert_ne hne
  · split_ifs with hnil
    · exact AList.lookup_erase queue _
    · exact AList.lookup_insert _
  · obtain ⟨g, hg, rfl⟩ := List.mem_map.1 hd
    exact Or.inr (hgone g hg hnone)

theorem check_of (s : IncomingUpdates) {condition : Bool} (h : condition = true) : s.check condition = s := by
  unfold IncomingUpdates.check
  rw [IncomingCore.check_of s.core h]

/-- The queue is called back while it waits. -/
theorem Open.process {elements : List queue.Element} (h : Open s queue elements)
    (hlookup : s.queues.lookup queue = some ⟨elements, true⟩) (hne : elements ≠ []) {state : Nat} (hpos : 0 < state)
    (hstate : state ≤ queue.lastState) : Sound (s.process queue state) := by
  have hcheck : (!queue.checksActive || !elements.isEmpty) = true := by
    rw [List.isEmpty_eq_false_iff.2 hne, Bool.not_false, Bool.or_true]
  unfold IncomingUpdates.process
  rw [hlookup]
  dsimp only [Option.getD_some]
  rw [if_pos rfl, check_of s hcheck, if_pos (Nat.ne_of_gt hpos)]
  exact h.resume hstate

/-- A new element waits behind the others, or is treated at once. -/
theorem Sound.push (h : Sound s) (queue : QueueId) {element : queue.Element} (hkeyed : queue.Keyed s.core element) :
    Sound ((s.push queue element).process queue 0) := by
  have hlog : ∀ other : QueueId, other ≠ queue →
      ([⟨queue, element⟩] : List (Sigma QueueId.Element)).lookupAll other = [] :=
    fun other hne => lookupAll_map_mk_ne hne [element]
  have hself : ([⟨queue, element⟩] : List (Sigma QueueId.Element)).lookupAll queue = [element] :=
    lookupAll_map_mk queue [element]
  have hothers : ∀ other, other ≠ queue → Entry (s.push queue element) other := fun other hne => by
    refine (h.entry other).of_effect (.refl s.core) rfl (fun _ _ => not_false) (AList.lookup_insert_ne hne) ?_ rfl
    change (s.arrived ++ _).lookupAll other = _
    rw [lookupAll_append, hlog other hne, List.append_nil]
  have hbooks : Books (s.push queue element) := ⟨h.books.crashed, h.books.lookups, h.books.updates, h.books.rejected⟩
  have hentry := h.entry queue
  have horder := hentry.order
  have houtstanding := hentry.outstanding
  cases hlookup : s.queues.lookup queue with
  | none =>
      have hitems : s.items queue = [] := by
        unfold items
        rw [hlookup]
        rfl
      have hpushed : (s.push queue element).queues.lookup queue = some ⟨[element], false⟩ := by
        unfold IncomingUpdates.push
        rw [hlookup]
        exact AList.lookup_insert _
      rw [hlookup] at houtstanding
      rw [hitems] at horder
      have hopen : Open (s.push queue element) queue [element] := by
        refine ⟨hbooks, hothers, houtstanding, fun element' hmem => ?_, ?_⟩
        · rw [List.mem_singleton.1 hmem]
          exact hkeyed
        · change (s.arrived ++ _).lookupAll queue = (s.departed.lookupAll queue).map _ ++ _
          rw [lookupAll_append, hself, horder, List.append_nil]
      unfold IncomingUpdates.process
      rw [hpushed]
      dsimp only [Option.getD_some]
      rw [if_neg Bool.false_ne_true, check_of _ (decide_eq_true rfl)]
      exact hopen.resume (Nat.zero_le _)
  | some q =>
      obtain ⟨hactive, hne⟩ := hentry.active q hlookup
      have hitems : s.items queue = q.items := by
        unfold items
        rw [hlookup]
        rfl
      have hpushed : (s.push queue element).queues.lookup queue = some ⟨q.items ++ [element], true⟩ := by
        unfold IncomingUpdates.push
        rw [hlookup]
        refine (AList.lookup_insert _).trans ?_
        rw [← hactive]
        rfl
      have hpushedItems : (s.push queue element).items queue = q.items ++ [element] := by
        unfold items
        rw [hpushed]
        rfl
      have hcheck : (!queue.checksActive || !(q.items ++ [element]).isEmpty) = true := by
        rw [List.isEmpty_eq_false_iff.2 (List.append_ne_nil_of_left_ne_nil hne _), Bool.not_false, Bool.or_true]
      have hprocess : (s.push queue element).process queue 0 = s.push queue element := by
        unfold IncomingUpdates.process
        rw [hpushed]
        dsimp only [Option.getD_some]
        rw [if_pos rfl, check_of _ hcheck, if_neg (not_not.2 rfl)]
      rw [hprocess]
      refine ⟨hbooks, fun other => ?_⟩
      by_cases hother : other = queue
      · subst hother
        refine ⟨fun q' hq' => ?_, ?_, fun element' hmem => ?_, fun id chatId heq hid => ?_, ?_⟩
        · rw [hpushed] at hq'
          cases hq'
          exact ⟨rfl, List.append_ne_nil_of_left_ne_nil hne _⟩
        · rw [hpushed]
          rw [hlookup] at houtstanding
          exact houtstanding
        · rw [hpushedItems] at hmem
          rcases List.mem_append.1 hmem with hmem | hmem
          · exact hentry.keyed element' (hitems ▸ hmem)
          · rw [List.mem_singleton.1 hmem]
            exact hkeyed
        · obtain ⟨first, hfirst, hreplies⟩ := hentry.replies id chatId heq hid
          rw [hitems] at hfirst
          refine ⟨first, ?_, hreplies⟩
          rw [hpushedItems, List.head?_append_of_ne_nil _ hne]
          exact hfirst
        · change (s.arrived ++ _).lookupAll other = (s.departed.lookupAll other).map _ ++ _
          rw [hpushedItems, lookupAll_append, hself, horder, hitems, List.append_assoc]
      · exact hothers other hother

/-! ### What has been asked for comes back -/

theorem Sound.returned (h : Sound s) {c : IncomingCore} (hreturned : Returned s.core c queue) :
    ∃ elements, elements ≠ [] ∧ s.queues.lookup queue = some ⟨elements, true⟩ ∧
      Open { s with core := c } queue elements := by
  have hentry := h.entry queue
  have hone := hentry.outstanding
  have hcount := hreturned.outstanding queue
  rw [if_pos rfl] at hcount
  cases hlookup : s.queues.lookup queue with
  | none =>
      rw [hlookup] at hone
      change s.core.outstanding queue = 0 at hone
      omega
  | some q =>
      obtain ⟨hactive, hne⟩ := hentry.active q hlookup
      rw [hlookup] at hone
      change s.core.outstanding queue = 1 at hone
      have hitems : s.items queue = q.items := by
        unfold items
        rw [hlookup]
        rfl
      refine ⟨q.items, hne, by rw [← hactive], ⟨hreturned.crashed.trans h.books.crashed, hreturned.lookups,
        hreturned.updates.trans h.books.updates, h.books.rejected⟩, fun other hother => ?_, ?_, fun element hmem => ?_,
        hitems ▸ hentry.order⟩
      · refine (h.entry other).of_remembers hreturned.remembers ?_ (fun id chatId _ hid => ?_) rfl rfl rfl
        · have hsame := hreturned.outstanding other
          rw [if_neg hother] at hsame
          exact hsame.symm
        · exact hreturned.handlers id _ hid
      · change c.outstanding queue = 0
        omega
      · exact hreturned.remembers.keyed (hentry.keyed element (hitems ▸ hmem))

/-- A message that was looked up is remembered. -/
theorem lookups_addMessage {c : IncomingCore} (h : Lookups c fun _ => 0) (message : Message)
    (forceUpdateContent : Bool) :
    (Lookups ((c.createMessage message).2.addMessage (c.createMessage message).1 forceUpdateContent).2 fun _ => 0) ∧
      Quiet c ((c.createMessage message).2.addMessage (c.createMessage message).1 forceUpdateContent).2 := by
  obtain ⟨hcreated, hquiet⟩ := h.createMessage message
  obtain ⟨hadded, hquiet'⟩ := hcreated.addMessage (c.createMessage message).1 forceUpdateContent
  exact ⟨hadded, hquiet.trans hquiet'⟩

theorem Sound.addMessage (h : Sound s) (message : Message) (forceUpdateContent : Bool) :
    Sound (s.addMessage message forceUpdateContent) := by
  obtain ⟨hadded, hquiet⟩ := lookups_addMessage h.books.lookups message forceUpdateContent
  exact h.of_quiet hquiet hadded

theorem Open.addMessage {elements : List queue.Element} (h : Open s queue elements) (message : Message)
    (forceUpdateContent : Bool) : Open (s.addMessage message forceUpdateContent) queue elements := by
  obtain ⟨hadded, hquiet⟩ := lookups_addMessage h.books.lookups message forceUpdateContent
  exact h.of_quiet hquiet hadded

theorem front_eq {elements : List queue.Element} {active : Bool} (h : s.queues.lookup queue = some ⟨elements, active⟩) :
    s.front queue = elements.head? := by
  unfold front
  rw [h]
  rfl

theorem Open.onGetCallbackQueryMessage {userId : Int} {elements : List NewCallbackQuery}
    (h : Open s (.newCallbackQuery userId) elements)
    (hlookup : s.queues.lookup (.newCallbackQuery userId) = some ⟨elements, true⟩) (hne : elements ≠ []) {state : Nat}
    (hstate : state ≤ 1) (message : Option Message) : Sound (s.onGetCallbackQueryMessage message userId state) := by
  have hfront := front_eq hlookup
  obtain ⟨query, elements, rfl⟩ := List.exists_cons_of_ne_nil hne
  have hlast : QueueId.lastState (.newCallbackQuery userId) = 3 := rfl
  unfold IncomingUpdates.onGetCallbackQueryMessage
  rw [hfront]
  dsimp only [List.head?_cons]
  cases message with
  | some message => exact (h.addMessage message false).process hlookup hne (by omega) (by omega)
  | none =>
      dsimp only
      split_ifs with hzero
      · exact h.process hlookup hne (by omega) (by omega)
      · have hone : state = 1 := by omega
        rw [check_of s (decide_eq_true hone)]
        exact h.process hlookup hne (by omega) (by omega)
      · have hone : state = 1 := by omega
        rw [check_of s (decide_eq_true hone)]
        exact h.process hlookup hne (by omega) (by omega)

theorem Open.onGetReplyMessage {chatId : Int} {elements : List NewMessage} (h : Open s (.newMessage chatId) elements)
    (hlookup : s.queues.lookup (.newMessage chatId) = some ⟨elements, true⟩) (hne : elements ≠ [])
    (hreplies : ∃ element ∈ elements.head?, QueueId.Replies s.core (.newMessage chatId) element chatId)
    (replyToMessage : Option Message) : Sound (s.onGetReplyMessage chatId replyToMessage) := by
  have hfront := front_eq hlookup
  obtain ⟨element, elements, rfl⟩ := List.exists_cons_of_ne_nil hne
  obtain ⟨first, hfirst, -, hpositive⟩ := hreplies
  cases hfirst
  have hlast : QueueId.lastState (.newMessage chatId) = 2 := rfl
  have hchat : element.messageInfo.chatId = chatId := (h.keyed element List.mem_cons_self).1
  unfold IncomingUpdates.onGetReplyMessage
  rw [hfront]
  dsimp only [List.head?_cons]
  rw [check_of s (decide_eq_true hchat.symm), check_of s (decide_eq_true hpositive)]
  cases replyToMessage with
  | none => exact h.process hlookup hne (by omega) (by omega)
  | some message => exact (h.addMessage message false).process hlookup hne (by omega) (by omega)

theorem Sound.addNewMessage (h : Sound s) {message : Message} (hannounced : s.Announced message) (isEdited : Bool) :
    Sound (s.addNewMessage message isEdited) := by
  unfold IncomingUpdates.addNewMessage
  split_ifs with hsending
  · exact h
  · obtain ⟨hcreated, hquiet⟩ := h.books.lookups.createMessage message
    have hsound := h.of_quiet hquiet hcreated
    exact hsound.push (.newMessage message.chatId) ⟨message.chatId_toInfo, hquiet.remembers.known _ hannounced⟩

theorem Sound.onGetStickerSetName (h : Sound s) {c : IncomingCore} (hquiet : Quiet s.core c) {promise : Option Nat}
    (hlookups : Lookups c fun id => 0 + if promise = some id then 1 else 0) (setId : Int) {result : TdResult}
    (hresult : ∀ message, result ≠ .message message) :
    Sound ({ s with core := c }.onGetStickerSetName setId promise result) := by
  have hnamed : ∀ name, Sound { s with core := (c.onGetStickerSetName setId name).release promise } := fun name => by
    obtain ⟨hnames, hquiet'⟩ := hlookups.onGetStickerSetName setId name
    obtain ⟨hreleased, hquiet''⟩ := hnames.release
    exact h.of_quiet (hquiet.trans (hquiet'.trans hquiet'')) hreleased
  unfold IncomingUpdates.onGetStickerSetName
  split
  · exact hnamed _
  · split_ifs with hinvalid
    · exact hnamed ""
    · obtain ⟨hreleased, hquiet'⟩ := hlookups.release
      exact h.of_quiet (hquiet.trans hquiet') hreleased
  · exact absurd rfl (hresult _)

theorem Sound.onResult (h : Sound s) {id : Nat} {handler : IncomingCallback}
    (hid : s.core.handlers.lookup id = some handler) {result : TdResult} (hanswers : s.Answers handler result) :
    Sound ({ s with core := { s.core with handlers := s.core.handlers.erase id } }.onResult handler result) := by
  have hlookups := h.books.lookups
  cases handler with
  | getCallbackQueryMessage userId state =>
      obtain ⟨elements, hne, hlookup, hopen⟩ := h.returned (hlookups.returned hid rfl rfl)
      exact hopen.onGetCallbackQueryMessage hlookup hne (hlookups.states id userId state hid) _
  | getReplyMessage chatId =>
      have hreturned : Returned s.core _ (.newMessage chatId) := hlookups.returned hid rfl rfl
      obtain ⟨elements, hne, hlookup, hopen⟩ := h.returned hreturned
      have hitems : s.items (.newMessage chatId) = elements := by
        unfold items
        rw [hlookup]
        rfl
      obtain ⟨element, hmem, hreplies⟩ := (h.entry (.newMessage chatId)).replies id chatId rfl hid
      have hkeyed := (h.entry (.newMessage chatId)).keyed element (List.mem_of_mem_head? hmem)
      rw [hitems] at hmem
      exact hopen.onGetReplyMessage hlookup hne ⟨element, hmem, hreturned.remembers.replies hkeyed hreplies⟩ _
  | getEditedMessage =>
      obtain ⟨herased, hquiet⟩ := hlookups.quiet_eraseHandler hid rfl
      have hsound := h.of_quiet hquiet (herased.congr fun _ => rfl)
      cases result with
      | message message => exact hsound.addNewMessage (hquiet.remembers.known _ hanswers) true
      | error error => exact hsound
      | text text => exact hsound
  | getStickerSetName setId promise =>
      obtain ⟨herased, hquiet⟩ := hlookups.quiet_eraseHandler hid rfl
      refine h.onGetStickerSetName hquiet herased setId fun message heq => ?_
      rw [heq] at hanswers
      exact hanswers

/-! ### Every step -/

theorem Sound.of_remembers (h : Sound s) {c : IncomingCore} (hremembers : Remembers s.core c)
    (hcrashed : c.crashed = s.core.crashed) (hupdates : c.updates = s.core.updates) (hlookups : Lookups c fun _ => 0)
    (houtstanding : ∀ queue, c.outstanding queue = s.core.outstanding queue)
    (hhandlers : c.handlers = s.core.handlers) :
    Sound { s with core := c } where
  books := ⟨hcrashed.trans h.books.crashed, hlookups, hupdates.trans h.books.updates, h.books.rejected⟩
  entry queue := (h.entry queue).of_remembers hremembers (houtstanding queue)
    (fun id _ _ hid => ⟨id, hhandlers ▸ hid⟩) rfl rfl rfl

theorem Sound.edit (h : Sound s) (message : MessageFullId) (change : MessageInfo → MessageInfo) :
    Sound (s.edit message change) := by
  unfold IncomingUpdates.edit
  split
  · exact h
  · exact h.of_quiet (quiet_messages s.core _) (h.books.lookups.messages _)

theorem Sound.closure (h : Sound s) {closures : List (QueueId × Nat)} {state : Nat}
    (hclosures : s.core.closures = (queue, state) :: closures) :
    Sound ({ s with core := { s.core with closures := closures } }.process queue state) := by
  have hstate : state = queue.lastState :=
    h.books.lookups.closures (queue, state) (by rw [hclosures]; exact List.mem_cons_self)
  have hpos : 0 < queue.lastState := by
    cases queue <;> exact Nat.succ_pos _
  obtain ⟨elements, hne, hlookup, hopen⟩ := h.returned (h.books.lookups.returned_closure hclosures)
  exact hopen.process hlookup hne (by omega) (by omega)

/-- A new chat, whose supergroup is known if it is one. -/
theorem Sound.newChat (h : Sound s) {chatId : Int} {chat : ChatInfo} (hnew : s.core.chats.lookup chatId = none) :
    Sound { s with core := { s.core with chats := s.core.chats.insert chatId chat } } := by
  have hne : ∀ other, s.core.knowsChat other = true → other ≠ chatId := fun other hknown heq => by
    unfold IncomingCore.knowsChat at hknown
    rw [heq, hnew] at hknown
    cases hknown
  have hlookups := h.books.lookups
  refine h.of_remembers ⟨fun other hknown => ?_, fun other hknown => ?_⟩ rfl rfl
    ⟨hlookups.awaited, hlookups.handlers, hlookups.promises, hlookups.closures, hlookups.states⟩ (fun _ => rfl) rfl
  · have hother := hne other hknown
    unfold IncomingCore.knowsChat at hknown ⊢
    rw [AList.lookup_insert_ne hother]
    exact hknown
  · unfold IncomingCore.chatType
    rw [AList.lookup_insert_ne (hne other hknown)]

theorem Sound.supergroup (h : Sound s) (supergroupId : Int) (supergroup : SupergroupInfo) :
    Sound { s with core := { s.core with supergroups := s.core.supergroups.insert supergroupId supergroup } } := by
  have hlookups := h.books.lookups
  refine h.of_remembers ⟨fun other hknown => ?_, fun _ _ => rfl⟩ rfl rfl
    ⟨hlookups.awaited, hlookups.handlers, hlookups.promises, hlookups.closures, hlookups.states⟩ (fun _ => rfl) rfl
  unfold IncomingCore.knowsChat at hknown ⊢
  cases hchat : s.core.chats.lookup other with
  | none =>
      rw [hchat] at hknown
      cases hknown
  | some chat =>
      rw [hchat] at hknown
      dsimp only at hknown ⊢
      by_cases heq : chat.supergroupId = supergroupId
      · rw [heq, AList.lookup_insert, Option.isSome_some, Bool.or_true]
      · rw [AList.lookup_insert_ne heq]
        exact hknown

theorem Sound.messageEdited (h : Sound s) : Sound { s with core := s.core.doSendRequest .getEditedMessage } := by
  have hlookups := h.books.lookups
  have hslack : Lookups s.core fun id => 0 + if IncomingCallback.promise .getEditedMessage = some id then 1 else 0 :=
    hlookups.congr fun id => rfl
  have heffect := effect_doSendRequest hlookups.fresh .getEditedMessage
  refine h.of_quiet ⟨heffect.chats, heffect.supergroups, heffect.leaving, heffect.crashed, heffect.updates,
    heffect.outstanding, fun id chatId hid => ?_⟩ (hslack.doSendRequest _ nofun fun _ _ heq => by cases heq)
  exact (heffect.replies id chatId hid).imp_right fun heq => by cases heq

theorem Sound.onEvent (h : Sound s) (event : IncomingEvent) : Sound (s.onEvent event) := by
  have hlookups := h.books.lookups
  cases event with
  | newMessage message =>
      change Sound (if s.Announced message then s.addNewMessage message false else s)
      split_ifs with hannounced
      · exact h.addNewMessage hannounced false
      · exact h
  | newCallbackQuery query => exact h.push (.newCallbackQuery query.senderUserId) rfl
  | newBusinessCallbackQuery id senderUserId message replyToMessage =>
      obtain ⟨hcreated, hquiet⟩ := hlookups.createBusinessMessage message replyToMessage
      exact (h.of_quiet hquiet hcreated).push (.newBusinessCallbackQuery senderUserId) rfl
  | newBusinessMessage connectionId message replyToMessage isEdited =>
      obtain ⟨hcreated, hquiet⟩ := hlookups.createBusinessMessage message replyToMessage
      exact (h.of_quiet hquiet hcreated).push (.newBusinessMessage connectionId) trivial
  | newGuestQuery message referenceMessages =>
      obtain ⟨hcreated, hquiet⟩ := hlookups.createMessage message
      obtain ⟨hreferences, hquiet'⟩ := hcreated.createMessages referenceMessages
      exact (h.of_quiet (hquiet.trans hquiet') hreferences).push (.newGuestQuery message.chatId) trivial
  | result handler result =>
      dsimp only [IncomingUpdates.onEvent]
      cases hcallback : s.core.handlers.lookup handler with
      | none => exact h
      | some callback =>
          dsimp only
          split_ifs with hanswers
          · exact h.onResult hcallback hanswers
          · exact h
  | closure =>
      dsimp only [IncomingUpdates.onEvent]
      cases hclosures : s.core.closures with
      | nil => exact h
      | cons closure closures => exact h.closure hclosures
  | message message forceUpdateContent => exact h.addMessage message forceUpdateContent
  | stickerSetName setId name =>
      obtain ⟨hnames, hquiet⟩ := hlookups.onGetStickerSetName setId name
      exact h.of_quiet hquiet hnames
  | messageContent message content => exact h.edit message _
  | messageAnswered message => exact h.edit message _
  | messageSuggestedPostInfo message suggestedPostInfo => exact h.edit message _
  | messageEdited message editDate replyMarkup =>
      have hedited := h.edit message fun info => { info with editDate := editDate }.setReplyMarkup replyMarkup
      change Sound (if (s.edit message _).core.leaving then s.edit message _ else _)
      split_ifs with hleaving
      · exact hedited
      · exact hedited.messageEdited
  | deleteMessages chatId messageIds => exact h.of_quiet (quiet_messages s.core _) (hlookups.messages _)
  | newChat chatId chat =>
      change Sound (if (s.core.chats.lookup chatId).isSome ∨ _ then s else _)
      split_ifs with hknown
      · exact h
      · exact h.newChat (Option.not_isSome_iff_eq_none.1 (not_or.1 hknown).1)
  | supergroup supergroupId supergroup => exact h.supergroup supergroupId supergroup
  | loggingOut =>
      exact h.of_remembers (remembers_of_eq rfl rfl) rfl rfl
        ⟨hlookups.awaited, hlookups.handlers, hlookups.promises, hlookups.closures, hlookups.states⟩ (fun _ => rfl) rfl
  | closing =>
      exact h.of_remembers (remembers_of_eq rfl rfl) rfl rfl
        ⟨hlookups.awaited, hlookups.handlers, hlookups.promises, hlookups.closures, hlookups.states⟩ (fun _ => rfl) rfl

theorem Sound.step (h : Sound s) (x : IncomingInput) : Sound (s.step x) := by
  have hlookups := h.books.lookups
  have htime : Sound { s with core := { s.core with unixTime := x.unixTime } } :=
    h.of_remembers (remembers_of_eq rfl rfl) rfl rfl
      ⟨hlookups.awaited, hlookups.handlers, hlookups.promises, hlookups.closures, hlookups.states⟩ (fun _ => rfl) rfl
  unfold IncomingUpdates.step
  split_ifs with hcrashed
  · exact h
  · exact htime.onEvent x.event

/-- A client that has started, with its identifier and the time of its authorization. -/
def start (myId authorizationDate : Int) : IncomingUpdates :=
  { core := { myId := myId, authorizationDate := authorizationDate } }

theorem sound_start (myId authorizationDate : Int) : Sound (start myId authorizationDate) where
  books := {
    crashed := rfl
    lookups := {
      awaited := fun _ _ hp => absurd hp (Option.some_ne_none _).symm
      handlers := fun _ _ hid => absurd hid (Option.some_ne_none _).symm
      promises := fun _ _ hp => absurd hp (Option.some_ne_none _).symm
      closures := fun _ hmem => absurd hmem List.not_mem_nil
      states := fun _ _ _ hid => absurd hid (Option.some_ne_none _).symm }
    updates := rfl
    rejected := fun _ hmem => absurd hmem List.not_mem_nil }
  entry _ := {
    active := fun _ hq => absurd hq (Option.some_ne_none _).symm
    outstanding := rfl
    keyed := fun _ hmem => absurd hmem List.not_mem_nil
    replies := fun _ _ _ hid => absurd hid (Option.some_ne_none _).symm
    order := rfl }

theorem sound_run (myId authorizationDate : Int) (inputs : List IncomingInput) :
    Sound (StepRun.run step (start myId authorizationDate) inputs) :=
  StepRun.run_invariant_always (fun _ x h => h.step x) (sound_start myId authorizationDate) inputs

/-- In every run a queue waits for exactly one thing or is not there, its elements leave in the order in which they
came, each with at most one update and without one only by design, and no `CHECK` fails. -/
theorem queues_of_run (myId authorizationDate : Int) (inputs : List IncomingInput) :
    let s := StepRun.run step (start myId authorizationDate) inputs
    s.core.crashed = false ∧
    (∀ queue, (((s.queues.lookup queue).getD {}).hasActiveRequest = true ↔ s.core.outstanding queue = 1) ∧
      s.core.outstanding queue ≤ 1) ∧
    (∀ queue q, s.queues.lookup queue = some q → q.items ≠ []) ∧
    (∀ id p, s.core.promises.lookup id = some p → 0 < p.awaited ∧
      p.awaited = total (fun _ handler => if handler.promise = some id then 1 else 0) s.core.handlers) ∧
    (∀ queue, s.arrived.lookupAll queue = (s.departed.lookupAll queue).map Departure.element ++ s.items queue) ∧
    s.core.updates = s.departed.filterMap (·.2.update) ∧
    ∀ d ∈ s.departed, d.2.update = none → d.2.core.leaving = true ∨ d.1.Rejects d.2.core d.2.element := by
  intro s
  have h : Sound s := sound_run myId authorizationDate inputs
  refine ⟨h.books.crashed, fun queue => ?_, fun queue q hq => ((h.entry queue).active q hq).2, fun id p hp => ?_,
    fun queue => (h.entry queue).order, h.books.updates, h.books.rejected⟩
  · have houtstanding := (h.entry queue).outstanding
    cases hlookup : s.queues.lookup queue with
    | none =>
        rw [hlookup] at houtstanding
        change s.core.outstanding queue = 0 at houtstanding
        rw [houtstanding]
        exact ⟨iff_of_false Bool.false_ne_true Nat.zero_ne_one, Nat.zero_le 1⟩
    | some q =>
        rw [hlookup] at houtstanding
        change s.core.outstanding queue = 1 at houtstanding
        rw [houtstanding]
        exact ⟨iff_of_true ((h.entry queue).active q hlookup).1 rfl, le_rfl⟩
  · obtain ⟨hawaited, hpos⟩ := h.books.lookups.awaited id p hp
    exact ⟨hpos, hawaited⟩

end IncomingUpdates

end TelegramBotApi
