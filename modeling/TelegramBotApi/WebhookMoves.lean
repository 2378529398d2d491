import TelegramBotApi.WebhookScheduleStep
import TelegramBotApi.WebhookActor
import Mathlib.Logic.Relation

/-!
# The steps of the actor as moves of its schedule

A step of the actor is an answer of one connection, if any, and then the moves of `loop`: updates are
loaded, connections are opened, updates are sent. No assertion fails on the way. The invariants of the
schedule are derived from the moves and never from the code of a step.
-/

namespace TelegramBotApi

namespace WebhookSchedule

/-- The schedule is sound and within the limits of the configuration. -/
structure Within (cfg : WebhookConfig) (s : WebhookSchedule) : Prop extends s.Integrity where
  queues_le : s.queueUpdates.keys.length ≤ cfg.maxLoadedUpdates
  connections_le : s.connections.keys.length ≤ cfg.maxConnections

/-- One move of `loop`; the events that it may load are given. -/
inductive LoopMove (cfg : WebhookConfig) (reads : TQueueEvent → Prop) :
    WebhookSchedule → WebhookSchedule → Prop
  | load {s : WebhookSchedule} (now : Int) (e : TQueueEvent) (hreads : reads e)
      (hid : isValidEventId e.id) (hnew : s.updateMap.lookup e.id = none)
      (hroom : s.queueUpdates.keys.length < cfg.maxLoadedUpdates) :
      LoopMove cfg reads s (s.withUpdate now e)
  | connect {s : WebhookSchedule} (ipGeneration : Int)
      (hroom : s.connections.keys.length < cfg.maxConnections) :
      LoopMove cfg reads s (s.createConnection ipGeneration)
  | send {s t : WebhookSchedule} (now : Int) (ok : Bool) (hsend : SendOutcome cfg now s ok t) :
      LoopMove cfg reads s t

/-- The moves of a whole call of `loop`. -/
abbrev LoopMoves (cfg : WebhookConfig) (reads : TQueueEvent → Prop) :
    WebhookSchedule → WebhookSchedule → Prop :=
  Relation.ReflTransGen (LoopMove cfg reads)

theorem LoopMoves.mono {cfg : WebhookConfig} {reads reads' : TQueueEvent → Prop} {s t : WebhookSchedule}
    (h : LoopMoves cfg reads s t) (hreads : ∀ e, reads e → reads' e) : LoopMoves cfg reads' s t := by
  refine Relation.ReflTransGen.mono ?_ _ _ h
  rintro a b (⟨now, e, he, hid, hnew, hroom⟩ | ⟨g, hroom⟩ | ⟨now, ok, hsend⟩)
  · exact .load now e (hreads e he) hid hnew hroom
  · exact .connect g hroom
  · exact .send now ok hsend

/-- The invariant rule of `loop`. -/
theorem LoopMoves.invariant {cfg : WebhookConfig} {reads : TQueueEvent → Prop}
    {I : WebhookSchedule → Prop} (hstep : ∀ a b, I a → LoopMove cfg reads a b → I b)
    {s t : WebhookSchedule} (h : LoopMoves cfg reads s t) (hs : I s) : I t := by
  induction h with
  | refl => exact hs
  | tail _ hmove ih => exact hstep _ _ ih hmove

section limits

variable {cfg : WebhookConfig} {reads : TQueueEvent → Prop} {s t : WebhookSchedule}

theorem insert_keys_length_le {β : Type*} (m : AList fun _ : Int => β) (k : Int) (b : β) :
    (m.insert k b).keys.length ≤ m.keys.length + 1 := by
  rw [AList.keys_insert]
  have := List.length_erase_le (a := k) (l := m.keys)
  simp only [List.length_cons]
  omega

theorem insert_keys_length {β : Type*} {m : AList fun _ : Int => β} {k : Int} {b b' : β}
    (hk : m.lookup k = some b') : (m.insert k b).keys.length = m.keys.length := by
  have hmem : k ∈ m.keys := AList.mem_keys.1 (AList.lookup_isSome.1 (by rw [hk]; rfl))
  rw [AList.keys_insert, List.length_cons, List.length_erase_of_mem hmem]
  have := List.length_pos_of_mem hmem
  omega

theorem erase_keys_length_le {β : Type*} (m : AList fun _ : Int => β) (k : Int) :
    (m.erase k).keys.length ≤ m.keys.length := by
  rw [AList.keys_erase]
  exact List.length_erase_le

theorem setEvent_keys_length (c : Int) (ev : Option Int) :
    (s.setEvent c ev).keys.length = s.connections.keys.length := by
  unfold setEvent
  split
  · rfl
  · rename_i connection hc
    exact insert_keys_length hc

theorem releaseConnection_keys_length_le (c : Int) (close : Bool) :
    (s.releaseConnection c close).connections.keys.length ≤ s.connections.keys.length := by
  cases close with
  | true => exact erase_keys_length_le _ _
  | false => exact (setEvent_keys_length c none).le

theorem withoutEvent_keys_length_le {eventId : Int} {u : WebhookUpdate} {rest : List Int}
    (hf : s.Leads eventId u rest) :
    (s.withoutEvent eventId u.queueId rest).queueUpdates.keys.length ≤ s.queueUpdates.keys.length := by
  cases rest with
  | nil => exact erase_keys_length_le _ _
  | cons next rest => exact (insert_keys_length hf.front).le

theorem LoopMove.within (h : s.Within cfg) (hmove : LoopMove cfg reads s t) : t.Within cfg := by
  cases hmove with
  | load now e hreads hid hnew hroom =>
      refine ⟨h.toIntegrity.withUpdate hid hnew, ?_, h.connections_le⟩
      exact (insert_keys_length_le _ _ _).trans hroom
  | connect ipGeneration hroom =>
      refine ⟨h.toIntegrity.createConnection ipGeneration, h.queues_le, ?_⟩
      exact (insert_keys_length_le _ _ _).trans hroom
  | send now ok hsend =>
      refine ⟨hsend.integrity h.toIntegrity, ?_, ?_⟩
      · cases hsend <;> exact h.queues_le
      · cases hsend with
        | idle => exact h.connections_le
        | tooLong => exact h.connections_le
        | sent => exact (setEvent_keys_length _ _).le.trans h.connections_le

theorem LoopMoves.within (h : s.Within cfg) (hmoves : LoopMoves cfg reads s t) : t.Within cfg :=
  hmoves.invariant (fun _ _ => LoopMove.within) h

end limits

end WebhookSchedule

namespace LoopInput

/-- The event is in the queue that a call of `loop` reads. -/
def Reads (io : LoopInput) (e : TQueueEvent) : Prop := ∃ queue, io.queue = some queue ∧ e ∈ queue.events

end LoopInput

namespace WebhookActor

open WebhookSchedule

variable {cfg : WebhookConfig} {s t : WebhookActor} {io : LoopInput}

/-- The events that were fetched are in the queue, not expired, and not too many. -/
theorem fetchUpdates_some (s : WebhookActor) (io : LoopInput) (limit : Nat) :
    ∃ events offset, s.fetchUpdates io limit = some (events, offset) ∧ events.length ≤ limit ∧
      ∀ e ∈ events, io.Reads e ∧ io.unixTime ≤ e.expiresAt := by
  unfold fetchUpdates
  cases hqueue : io.queue with
  | none => exact ⟨[], _, rfl, by simp, by simp⟩
  | some queue =>
      simp only
      generalize (if s.tqueueOffset = 0 then queue.head else s.tqueueOffset) = offset
      have hget : ∀ fromId, (queue.doGet fromId io.unixTime limit).length ≤ limit ∧
          ∀ e ∈ queue.doGet fromId io.unixTime limit, io.Reads e ∧ io.unixTime ≤ e.expiresAt := by
        intro fromId
        refine ⟨TQueue.doGet_length _ _ _ _, fun e he => ?_⟩
        obtain ⟨hmem, -, hexpires, -⟩ := TQueue.mem_doGet he
        exact ⟨⟨queue, hqueue, hmem⟩, hexpires⟩
      by_cases hoffset : offset = 0
      · rw [if_pos hoffset]
        exact ⟨[], _, rfl, by simp, by simp⟩
      rw [if_neg hoffset, TQueue.get_head]
      cases hgot : queue.get offset io.unixTime limit with
      | error status => exact ⟨_, _, rfl, hget _⟩
      | ok events =>
          refine ⟨events, offset, rfl, ?_⟩
          unfold TQueue.get at hgot
          split_ifs at hgot
          rw [← Except.ok.inj hgot]
          exact hget offset

theorem reads_valid {e : TQueueEvent} (he : io.Reads e) :
    isValidEventId e.id ∧ isValidEventId (e.id + 1) := by
  obtain ⟨queue, -, hmem⟩ := he
  have h := TQueue.next_valid hmem
  unfold isValidEventId
  omega

/-- The loop of `load_updates`: every event that is not loaded yet finds room. -/
theorem loadLoop_moves {events : List TQueueEvent} {sched : WebhookSchedule} (offset : Int)
    (hevents : ∀ e ∈ events, io.Reads e ∧ io.unixTime ≤ e.expiresAt)
    (hroom : sched.queueUpdates.keys.length + events.length ≤ cfg.maxLoadedUpdates) :
    ∃ sched' offset', loadLoop io.now io.unixTime events (sched, offset) = .ok (sched', offset') ∧
      LoopMoves cfg io.Reads sched sched' := by
  induction events generalizing sched offset with
  | nil => exact ⟨sched, offset, rfl, .refl⟩
  | cons e events ih =>
      obtain ⟨hreads, hexpires⟩ := hevents e (by simp)
      obtain ⟨hid, hnext⟩ := reads_valid hreads
      have hrest := fun e he => hevents e (List.mem_cons_of_mem _ he)
      simp only [List.length_cons] at hroom
      unfold loadLoop
      rw [loadUpdate_eq hid hnext hexpires]
      simp only
      split_ifs with hdup
      · exact ih _ hrest (by omega)
      · have hlen := insert_keys_length_le sched.queueUpdates (sched.queueOf e)
          ((sched.queueUpdates.lookup (sched.queueOf e)).getD [] ++ [e.id])
        have hroom' : (sched.withUpdate io.now e).queueUpdates.keys.length + events.length ≤
            cfg.maxLoadedUpdates := by
          change (sched.queueUpdates.insert _ _).keys.length + _ ≤ _
          omega
        obtain ⟨sched', offset', hload, hmoves⟩ := ih _ hrest hroom'
        refine ⟨sched', offset', hload, .head ?_ hmoves⟩
        exact .load io.now e hreads hid (by simpa using hdup) (by omega)

theorem loadUpdates_moves (h : s.sched.Within cfg) :
    ∃ t, s.loadUpdates cfg io = .ok t ∧ LoopMoves cfg io.Reads s.sched t.sched := by
  have hle := h.queues_le
  unfold loadUpdates
  simp only
  split_ifs with hempty hfull heq
  · exact ⟨s, rfl, .refl⟩
  · exact ⟨s, rfl, .refl⟩
  · omega
  · obtain ⟨events, offset, hfetch, hlen, hevents⟩ := s.fetchUpdates_some io
      (min 1000 (cfg.maxLoadedUpdates - s.sched.queueUpdates.keys.length))
    have hroom : s.sched.queueUpdates.keys.length + events.length ≤ cfg.maxLoadedUpdates := by omega
    obtain ⟨sched', offset', hload, hmoves⟩ := loadLoop_moves offset hevents hroom
    rw [hfetch]
    simp only [hload]
    exact ⟨_, rfl, hmoves⟩

/-- The step has to do with neither the updates nor the storage. -/
structure Frame (s t : WebhookActor) : Prop where
  sched : t.sched = s.sched
  tqueueOffset : t.tqueueOffset = s.tqueueOffset

section unchanged

theorem Frame.trans {t u : WebhookActor} (h : Frame s t) (h' : Frame t u) : Frame s u :=
  ⟨h'.sched.trans h.sched, h'.tqueueOffset.trans h.tqueueOffset⟩

theorem onError_frame (status : Status) : Frame s (s.onError status) := by
  unfold onError
  split_ifs <;> exact ⟨rfl, rfl⟩

theorem onStatus_frame (status : Except Status Unit) : Frame s (s.onStatus status) := by
  cases status with
  | error status => exact onError_frame status
  | ok _ => exact ⟨rfl, rfl⟩

theorem onWebhookError_frame (error : String) : Frame s (s.onWebhookError error) := by
  unfold onWebhookError
  split_ifs <;> exact ⟨rfl, rfl⟩

theorem createWebhookError_frame (error : String) (status : Status) (isPublic : Bool) :
    Frame s (s.createWebhookError error status isPublic) := by
  unfold createWebhookError
  exact (onWebhookError_frame _).trans (onError_frame _)

theorem checked_frame : Frame s s.checked := by
  unfold checked
  split_ifs <;> exact ⟨rfl, rfl⟩

theorem settle_frame : Frame s s.settle := by
  unfold settle
  split_ifs <;> exact ⟨rfl, rfl⟩

theorem resolveIpAddress_frame (now : Int) : Frame s (s.resolveIpAddress cfg now) := by
  unfold resolveIpAddress
  split_ifs <;> exact ⟨rfl, rfl⟩

theorem onSslContextCreated_frame (result : Except Status Unit) : Frame s (s.onSslContextCreated result) := by
  cases result with
  | error error => exact createWebhookError_frame _ _ _
  | ok _ => exact ⟨rfl, rfl⟩

theorem onSocketReadyAsync_frame (result : Except Status Unit) (id : Int) :
    Frame s (s.onSocketReadyAsync result id) := by
  cases result with
  | error error =>
      refine Frame.trans ?_ ((onWebhookError_frame _).trans (onError_frame _))
      exact ⟨rfl, rfl⟩
  | ok _ => exact ⟨rfl, rfl⟩

theorem onResolvedIpAddress_frame (result : Except Status IPAddress) :
    Frame s (s.onResolvedIpAddress cfg result io) := by
  unfold onResolvedIpAddress
  simp only
  split
  · refine Frame.trans ?_ (onError_frame _)
    exact ⟨rfl, rfl⟩
  · split
    · refine Frame.trans ?_ (onError_frame _)
      exact ⟨rfl, rfl⟩
    · split_ifs <;> exact ⟨rfl, rfl⟩

theorem openConnection_tqueueOffset (outcome : ConnectOutcome) :
    (s.openConnection cfg outcome).2.tqueueOffset = s.tqueueOffset := by
  unfold openConnection
  cases outcome with
  | flood => rfl
  | openFailed error => exact (createWebhookError_frame _ _ _).tqueueOffset
  | sslFailed error =>
      simp only
      split_ifs
      · exact checked_frame.tqueueOffset
      · exact (createWebhookError_frame _ _ _).tqueueOffset
  | opened =>
      simp only
      split_ifs <;> exact checked_frame.tqueueOffset

theorem openLoop_tqueueOffset (need : Nat) (outcomes : List ConnectOutcome) (s : WebhookActor) :
    (openLoop cfg need outcomes s).2.tqueueOffset = s.tqueueOffset := by
  induction outcomes generalizing s with
  | nil => rfl
  | cons outcome outcomes ih =>
      have hopen : (s.openConnection cfg outcome).2.tqueueOffset = s.tqueueOffset :=
        openConnection_tqueueOffset outcome
      unfold openLoop
      split_ifs
      · rfl
      · rcases hresult : s.openConnection cfg outcome with ⟨ok, t⟩
        rw [hresult] at hopen
        cases ok with
        | false => exact hopen
        | true => exact (ih t).trans hopen
      · rfl

theorem readyLoop_tqueueOffset (need : Nat) (ssl : Nat → Bool) (k : Nat) (s : WebhookActor) :
    (readyLoop need ssl k s).tqueueOffset = s.tqueueOffset := by
  induction k generalizing s with
  | zero => rfl
  | succ k ih =>
      unfold readyLoop
      split_ifs
      · exact (ih s.addConnection).trans checked_frame.tqueueOffset
      · exact (createWebhookError_frame _ _ _).tqueueOffset
      · rfl

theorem createNewConnections_tqueueOffset (cfg : WebhookConfig) (s : WebhookActor) (io : LoopInput) :
    (s.createNewConnections cfg io).tqueueOffset = s.tqueueOffset := by
  unfold createNewConnections
  by_cases hvalid : s.ipAddress.isValid = true
  · rw [if_neg (not_not_intro hvalid)]
    by_cases hssl : cfg.url.protocol ≠ .http ∧ ¬ s.hasSslContext = true
    · rw [if_pos hssl]
    rw [if_neg hssl]
    have hopen : (openLoop cfg (s.needConnections cfg io.now) io.connects s).2.tqueueOffset = s.tqueueOffset :=
      openLoop_tqueueOffset _ io.connects s
    simp only
    rcases hresult : openLoop cfg (s.needConnections cfg io.now) io.connects s with ⟨goesOn, t⟩
    rw [hresult] at hopen
    cases goesOn with
    | false => exact hopen
    | true => exact (readyLoop_tqueueOffset _ io.proxySsl t.readySockets t).trans hopen
  · rw [if_pos hvalid]

end unchanged

/-- A connection attempt opens a connection or leaves the schedule alone. -/
theorem openConnection_sched (cfg : WebhookConfig) (outcome : ConnectOutcome) :
    ((s.openConnection cfg outcome).1 = true ∧
      (s.openConnection cfg outcome).2.sched = s.sched.createConnection s.ipGeneration) ∨
    ((s.openConnection cfg outcome).1 = false ∧ (s.openConnection cfg outcome).2.sched = s.sched) := by
  unfold openConnection
  cases outcome with
  | flood => exact Or.inr ⟨rfl, rfl⟩
  | openFailed error => exact Or.inr ⟨rfl, (createWebhookError_frame _ _ _).sched⟩
  | sslFailed error =>
      simp only
      split_ifs
      · exact Or.inr ⟨rfl, checked_frame.sched⟩
      · exact Or.inr ⟨rfl, (createWebhookError_frame _ _ _).sched⟩
  | opened =>
      simp only
      split_ifs
      · exact Or.inr ⟨rfl, checked_frame.sched⟩
      · exact Or.inl ⟨rfl, checked_frame.sched⟩

theorem openLoop_moves {need : Nat} (hneed : need ≤ cfg.maxConnections) (reads : TQueueEvent → Prop)
    (outcomes : List ConnectOutcome) (s : WebhookActor) :
    LoopMoves cfg reads s.sched (openLoop cfg need outcomes s).2.sched := by
  induction outcomes generalizing s with
  | nil => exact .refl
  | cons outcome outcomes ih =>
      unfold openLoop
      split_ifs with hroom hflood
      · exact .refl
      · rcases hopen : s.openConnection cfg outcome with ⟨ok, t⟩
        have h := s.openConnection_sched cfg outcome
        rw [hopen] at h
        rcases h with ⟨rfl, ht⟩ | ⟨rfl, ht⟩
        · refine .head (.connect s.ipGeneration (by omega)) ?_
          change t.sched = _ at ht
          rw [← ht]
          exact ih t
        · change t.sched = _ at ht
          simp only [ht]
          exact .refl
      · exact .refl

theorem readyLoop_moves {need : Nat} (hneed : need ≤ cfg.maxConnections) (reads : TQueueEvent → Prop)
    (ssl : Nat → Bool) (k : Nat) (s : WebhookActor) :
    LoopMoves cfg reads s.sched (readyLoop need ssl k s).sched := by
  induction k generalizing s with
  | zero => exact .refl
  | succ k ih =>
      unfold readyLoop
      split_ifs with hroom hssl
      · refine .head (.connect s.ipGeneration (by omega)) ?_
        have hadd : s.addConnection.sched = s.sched.createConnection s.ipGeneration := checked_frame.sched
        rw [← hadd]
        exact ih s.addConnection
      · rw [(createWebhookError_frame _ _ _).sched]
      · exact .refl

theorem needConnections_le (s : WebhookActor) (now : Int) :
    s.needConnections cfg now ≤ cfg.maxConnections := by
  have := cfg.maxConnections_pos
  unfold needConnections
  simp only
  split_ifs <;> omega

theorem createNewConnections_moves (cfg : WebhookConfig) (s : WebhookActor) (io : LoopInput)
    (reads : TQueueEvent → Prop) :
    LoopMoves cfg reads s.sched (s.createNewConnections cfg io).sched := by
  have hneed : s.needConnections cfg io.now ≤ cfg.maxConnections := s.needConnections_le io.now
  unfold createNewConnections
  by_cases hvalid : s.ipAddress.isValid = true
  · rw [if_neg (not_not_intro hvalid)]
    by_cases hssl : cfg.url.protocol ≠ .http ∧ ¬ s.hasSslContext = true
    · rw [if_pos hssl]
    rw [if_neg hssl]
    have hopen := openLoop_moves hneed reads io.connects s
    simp only
    rcases hresult : openLoop cfg (s.needConnections cfg io.now) io.connects s with ⟨goesOn, t⟩
    rw [hresult] at hopen
    cases goesOn with
    | false => exact hopen
    | true => exact hopen.trans (readyLoop_moves hneed reads io.proxySsl t.readySockets t)
  · rw [if_pos hvalid]

theorem sendLoop_moves (reads : TQueueEvent → Prop) {now : Nat → Int} {sched : WebhookSchedule}
    (h : sched.Within cfg) (fuel : Nat) :
    ∃ sched', sched.sendLoop cfg now fuel = .ok sched' ∧ LoopMoves cfg reads sched sched' := by
  obtain ⟨sched', hsend, -, hmoves⟩ := sendLoop_induct
    (I := fun t => t.Within cfg ∧ LoopMoves cfg reads sched t) (fun t ht => ht.1.toIntegrity)
    (fun k a ok b ha hout => ⟨(LoopMove.send _ _ hout : LoopMove cfg reads a b).within ha.1,
      ha.2.tail (.send _ _ hout)⟩) fuel ⟨h, .refl⟩
  exact ⟨sched', hsend, hmoves⟩

/-- A call of `loop` loads updates, unless the actor stops, and then opens connections and sends. -/
theorem loop_parts (h : s.sched.Within cfg) :
    ∃ u t, s.loop cfg io = .ok t ∧ (u = s ∨ s.loadUpdates cfg io = .ok u) ∧
      LoopMoves cfg io.Reads s.sched u.sched ∧ LoopMoves cfg (fun _ => False) u.sched t.sched ∧
      t.tqueueOffset = u.tqueueOffset := by
  unfold loop
  by_cases hstop : s.stopFlag = true
  · rw [if_pos hstop]
    exact ⟨s, _, rfl, Or.inl rfl, .refl, by rw [settle_frame.sched], settle_frame.tqueueOffset⟩
  rw [if_neg hstop]
  obtain ⟨u, hload, hmoves⟩ := loadUpdates_moves h
  rw [hload]
  simp only
  have hconnect := createNewConnections_moves cfg (u.resolveIpAddress cfg io.now) io fun _ => False
  have hoffset := createNewConnections_tqueueOffset cfg (u.resolveIpAddress cfg io.now) io
  rw [(resolveIpAddress_frame _).sched] at hconnect
  rw [(resolveIpAddress_frame _).tqueueOffset] at hoffset
  generalize (u.resolveIpAddress cfg io.now).createNewConnections cfg io = v at hconnect hoffset ⊢
  have hv := LoopMoves.within (LoopMoves.within h hmoves) hconnect
  by_cases hstop : v.stopFlag = true
  · rw [if_pos hstop]
    refine ⟨u, _, rfl, Or.inr rfl, hmoves, ?_, ?_⟩
    · rw [settle_frame.sched]
      exact hconnect
    · rw [settle_frame.tqueueOffset, hoffset]
  rw [if_neg hstop]
  obtain ⟨sched', hsend, hsent⟩ := sendLoop_moves (fun _ => False) hv
    (v.sched.readyConnections.length + 1)
  unfold sendUpdates WebhookSchedule.sendUpdates
  rw [hsend]
  simp only
  refine ⟨u, _, rfl, Or.inr rfl, hmoves, ?_, ?_⟩
  · rw [settle_frame.sched]
    exact hconnect.trans hsent
  · rw [settle_frame.tqueueOffset]
    exact hoffset

theorem loop_moves (h : s.sched.Within cfg) :
    ∃ t, s.loop cfg io = .ok t ∧ LoopMoves cfg io.Reads s.sched t.sched := by
  obtain ⟨u, t, hloop, -, hload, hrest, -⟩ := loop_parts h
  exact ⟨t, hloop, hload.trans (hrest.mono fun _ => False.elim)⟩

end WebhookActor

namespace WebhookEvent

/-- The event is a 2xx response on the connection. -/
def Confirms (c : Int) : WebhookEvent → Prop
  | .handle c' response _ _ => c' = c ∧ response.isSuccess = true
  | _ => False

/-- The event is another response on the connection, or its end. -/
def Fails (c : Int) (input : AnswerInput) (retryAfter : Int) : WebhookEvent → Prop
  | .handle c' response input' _ => c' = c ∧ response.isSuccess = false ∧ input' = input ∧
      retryAfter = if response.isResponse then response.retryAfter else 0
  | .hangupShared c' input' _ _ => c' = c ∧ input' = input ∧ retryAfter = 0
  | _ => False

/-- The inputs of the calls of `loop` in one step. -/
def inputs : WebhookEvent → List LoopInput
  | .loop io | .update io | .onResolvedIpAddress _ io | .onSslContextCreated _ io
  | .onSocketReadyAsync _ _ io | .handle _ _ _ io => [io]
  | .hangupShared _ _ io io' => [io, io']
  | .onConnectionError _ | .close | .hangup => []

def Reads (event : WebhookEvent) (e : TQueueEvent) : Prop := ∃ io ∈ event.inputs, io.Reads e

end WebhookEvent

namespace WebhookActor

open WebhookSchedule

variable {cfg : WebhookConfig} {s t : WebhookActor} {io : LoopInput}

/-- What the answer of a connection, if the event is one, makes of the schedule. -/
inductive Answered (s : WebhookSchedule) (event : WebhookEvent) : WebhookSchedule → Prop
  | unchanged : Answered s event s
  | closed (c : Int) (connection : WebhookConnection) (hc : s.connections.lookup c = some connection)
      (hidle : connection.eventId = none) : Answered s event (s.releaseConnection c true)
  | delivered (c eventId : Int) (u : WebhookUpdate) (rest : List Int) (close : Bool)
      (hc : s.Carries c eventId) (hf : s.Leads eventId u rest) (hnot : u.queueId ∉ s.scheduled)
      (hconfirms : event.Confirms c) :
      Answered s event ((s.releaseConnection c close).withoutEvent eventId u.queueId rest)
  | dropped (c eventId : Int) (u : WebhookUpdate) (rest : List Int) (close : Bool)
      (input : AnswerInput) (retryAfter : Int) (hc : s.Carries c eventId)
      (hf : s.Leads eventId u rest) (hnot : u.queueId ∉ s.scheduled)
      (hfails : event.Fails c input retryAfter)
      (hlate : u.expiresAt < input.unixTime + (nextDelay u retryAfter input.maxTimeout).2) :
      Answered s event ((s.releaseConnection c close).withoutEvent eventId u.queueId rest)
  | retried (c eventId : Int) (u : WebhookUpdate) (rest : List Int) (close : Bool)
      (input : AnswerInput) (retryAfter : Int) (hc : s.Carries c eventId)
      (hf : s.Leads eventId u rest) (hnot : u.queueId ∉ s.scheduled)
      (hfails : event.Fails c input retryAfter)
      (hintime : ¬ u.expiresAt < input.unixTime + (nextDelay u retryAfter input.maxTimeout).2) :
      Answered s event ((s.releaseConnection c close).withRetry eventId u input.now retryAfter
        input.maxTimeout)

theorem Carries.connection {sched : WebhookSchedule} {c eventId : Int} (h : sched.Carries c eventId) :
    ∃ connection, sched.connections.lookup c = some connection ∧ connection.eventId ≠ none := by
  obtain ⟨connection, hc, hid⟩ := h
  exact ⟨connection, hc, by rw [hid]; simp⟩

theorem Answered.within {sched sched' : WebhookSchedule} {event : WebhookEvent}
    (h : sched.Within cfg) (ha : Answered sched event sched') : sched'.Within cfg := by
  have hrelease : ∀ {c eventId : Int} {u : WebhookUpdate} {rest : List Int} (close : Bool),
      sched.Carries c eventId → sched.Leads eventId u rest → u.queueId ∉ sched.scheduled →
      (sched.releaseConnection c close).Within cfg ∧
        (sched.releaseConnection c close).Floating eventId u rest := by
    intro c eventId u rest close hc hf hnot
    obtain ⟨connection, hconn, hbusy⟩ := Carries.connection hc
    refine ⟨⟨h.toIntegrity.releaseConnection hconn fun _ => hbusy, ?_, ?_⟩,
      h.toIntegrity.floating hc hf hnot close⟩
    · cases close <;> exact h.queues_le
    · exact (releaseConnection_keys_length_le c close).trans h.connections_le
  have hwithout : ∀ {c eventId : Int} {u : WebhookUpdate} {rest : List Int} (close : Bool),
      sched.Carries c eventId → sched.Leads eventId u rest → u.queueId ∉ sched.scheduled →
      ((sched.releaseConnection c close).withoutEvent eventId u.queueId rest).Within cfg := by
    intro c eventId u rest close hc hf hnot
    obtain ⟨hr, hfloat⟩ := hrelease close hc hf hnot
    refine ⟨hr.toIntegrity.withoutEvent hfloat,
      (withoutEvent_keys_length_le hfloat.toLeads).trans hr.queues_le, ?_⟩
    cases rest <;> exact hr.connections_le
  cases ha with
  | unchanged => exact h
  | closed c connection hc hidle =>
      refine ⟨h.toIntegrity.releaseConnection hc (by simp), h.queues_le, ?_⟩
      exact (releaseConnection_keys_length_le c true).trans h.connections_le
  | delivered c eventId u rest close hc hf hnot hconfirms => exact hwithout close hc hf hnot
  | dropped c eventId u rest close input retryAfter hc hf hnot hfails hlate =>
      exact hwithout close hc hf hnot
  | retried c eventId u rest close input retryAfter hc hf hnot hfails hintime =>
      obtain ⟨hr, hfloat⟩ := hrelease close hc hf hnot
      exact ⟨hr.toIntegrity.withRetry hfloat _ _ _, hr.queues_le, hr.connections_le⟩

section answer

variable {c : Int} {connection : WebhookConnection} {input : AnswerInput} {event : WebhookEvent}

theorem judge_failed (s : WebhookActor) (connection : WebhookConnection) (now : Int)
    (r : WebhookResponse) : (s.judge connection now (some r)).failed = !r.isSuccess := by
  unfold judge
  simp only
  cases hsuccess : r.isSuccess with
  | true => rfl
  | false => cases r.isResponse <;> rfl

theorem judge_retryAfter (s : WebhookActor) (connection : WebhookConnection) (now : Int)
    {r : WebhookResponse} (hr : r.isSuccess = false) :
    (s.judge connection now (some r)).retryAfter = if r.isResponse then r.retryAfter else 0 := by
  unfold judge
  simp only
  rw [if_neg (by simp [hr])]
  split_ifs <;> rfl

/-- The answer of a connection that carries an event. -/
theorem answer_busy (h : s.sched.Within cfg) (hconn : s.sched.connections.lookup c = some connection)
    {eventId : Int} (hid : connection.eventId = some eventId) {response : Option WebhookResponse}
    (hok : (s.judge connection input.now response).failed = false → event.Confirms c)
    (hfail : (s.judge connection input.now response).failed = true →
      event.Fails c input (s.judge connection input.now response).retryAfter) :
    ∃ t needClose, s.answer c response input = .ok (some (t, needClose)) ∧
      Answered s.sched event t.sched ∧ t.tqueueOffset = s.tqueueOffset := by
  have hc : s.sched.Carries c eventId := ⟨connection, hconn, hid⟩
  obtain ⟨u, rest, hf, hnot⟩ := h.toIntegrity.leads hc
  unfold answer answerEvent
  rw [hconn]
  simp only [hid]
  generalize s.judge connection input.now response = verdict at hok hfail ⊢
  cases hfailed : verdict.failed with
  | false =>
      rw [if_neg (by simp), dropEvent_eq h.toIntegrity hf]
      refine ⟨_, _, rfl, ?_, rfl⟩
      simp only [withoutEvent_release]
      exact .delivered c eventId u rest _ hc hf hnot (hok hfailed)
  | true =>
      rw [if_pos rfl, onUpdateError_eq h.toIntegrity hf]
      refine ⟨_, _, rfl, ?_, rfl⟩
      simp only
      split_ifs with hlate
      · rw [withoutEvent_release]
        exact .dropped c eventId u rest _ input _ hc hf hnot (hfail hfailed) hlate
      · rw [withRetry_release]
        exact .retried c eventId u rest _ input _ hc hf hnot (hfail hfailed) hlate

theorem answer_idle (hconn : s.sched.connections.lookup c = some connection)
    (hid : connection.eventId = none) :
    ∃ t needClose, s.answer c none input = .ok (some (t, needClose)) ∧
      Answered s.sched event t.sched ∧ t.tqueueOffset = s.tqueueOffset := by
  unfold answer answerEvent
  rw [hconn]
  simp only [hid]
  exact ⟨_, _, rfl, .closed c connection hconn hid, rfl⟩

/-- A response comes on a connection that carries an event. -/
theorem answer_response (h : s.sched.Within cfg) (hawaits : s.awaitsResponse c = true)
    (response : WebhookResponse) (io : LoopInput) :
    ∃ t needClose, s.answer c (some response) input = .ok (some (t, needClose)) ∧
      Answered s.sched (.handle c response input io) t.sched ∧ t.tqueueOffset = s.tqueueOffset := by
  unfold awaitsResponse at hawaits
  cases hconn : s.sched.connections.lookup c with
  | none =>
      rw [hconn] at hawaits
      cases hawaits
  | some connection =>
      rw [hconn] at hawaits
      obtain ⟨eventId, hid⟩ := Option.isSome_iff_exists.1 hawaits
      refine answer_busy h hconn hid (fun hok => ?_) (fun hfail => ?_)
      · rw [judge_failed] at hok
        exact ⟨rfl, by simpa using hok⟩
      · rw [judge_failed] at hfail
        have hr : response.isSuccess = false := by simpa using hfail
        exact ⟨rfl, hr, rfl, judge_retryAfter s connection _ hr⟩

/-- The end of a connection. -/
theorem answer_hangup (h : s.sched.Within cfg) (c : Int) (input : AnswerInput) (io io' : LoopInput) :
    s.answer c none input = .ok none ∨
    ∃ t needClose, s.answer c none input = .ok (some (t, needClose)) ∧
      Answered s.sched (.hangupShared c input io io') t.sched ∧
        t.tqueueOffset = s.tqueueOffset := by
  cases hconn : s.sched.connections.lookup c with
  | none =>
      left
      unfold answer
      rw [hconn]
  | some connection =>
      right
      cases hid : connection.eventId with
      | none => exact answer_idle hconn hid
      | some eventId =>
          refine answer_busy h hconn hid (fun hok => ?_) (fun hfail => ⟨rfl, rfl, rfl⟩)
          exact absurd hok (by simp [judge])

end answer

/-- What one step does to the schedule. -/
def Changes (cfg : WebhookConfig) (event : WebhookEvent) (s t : WebhookSchedule) : Prop :=
  ∃ m, Answered s event m ∧ LoopMoves cfg event.Reads m t

theorem Changes.within {sched sched' : WebhookSchedule} {event : WebhookEvent}
    (h : sched.Within cfg) (hc : Changes cfg event sched sched') : sched'.Within cfg := by
  obtain ⟨m, hanswer, hmoves⟩ := hc
  exact LoopMoves.within (hanswer.within h) hmoves

/-- Calls of `loop`, one after another; some may be left out. -/
inductive Loops (cfg : WebhookConfig) : List LoopInput → WebhookActor → WebhookActor → Prop
  | nil (s : WebhookActor) : Loops cfg [] s s
  | skip {ios : List LoopInput} {s t : WebhookActor} (io : LoopInput) (h : Loops cfg ios s t) :
      Loops cfg (io :: ios) s t
  | call {ios : List LoopInput} {s u t : WebhookActor} (io : LoopInput) (hloop : s.loop cfg io = .ok u)
      (h : Loops cfg ios u t) : Loops cfg (io :: ios) s t

def Steps (cfg : WebhookConfig) (event : WebhookEvent) (s t : WebhookActor) : Prop :=
  ∃ u, Answered s.sched event u.sched ∧ u.tqueueOffset = s.tqueueOffset ∧ Loops cfg event.inputs u t

theorem Loops.moves {ios : List LoopInput} {reads : TQueueEvent → Prop} (h : Loops cfg ios s t)
    (hs : s.sched.Within cfg) (hreads : ∀ io ∈ ios, ∀ e, io.Reads e → reads e) :
    LoopMoves cfg reads s.sched t.sched := by
  induction h with
  | nil s => exact .refl
  | skip io _ ih => exact ih hs fun io hio => hreads io (List.mem_cons_of_mem _ hio)
  | call io hloop _ ih =>
      obtain ⟨u, hu, hmoves⟩ := loop_moves hs
      rw [hloop] at hu
      obtain rfl := Except.ok.inj hu
      exact (hmoves.mono (hreads io (by simp))).trans
        (ih (LoopMoves.within hs hmoves) fun io hio => hreads io (List.mem_cons_of_mem _ hio))

theorem Steps.changes {event : WebhookEvent} (hs : s.sched.Within cfg) (h : Steps cfg event s t) :
    Changes cfg event s.sched t.sched := by
  obtain ⟨u, hanswer, -, hloops⟩ := h
  exact ⟨u.sched, hanswer, hloops.moves (hanswer.within hs) fun io hio e he => ⟨io, hio, he⟩⟩

/-- A step that only calls `loop`. -/
theorem loop_steps {event : WebhookEvent} {u : WebhookActor} (h : s.sched.Within cfg) (hframe : Frame s u)
    (hio : event.inputs = [io]) : ∃ t, u.loop cfg io = .ok t ∧ Steps cfg event s t := by
  obtain ⟨t, hloop, -⟩ := loop_moves (s := u) (hframe.sched ▸ h)
  refine ⟨t, hloop, u, ?_, hframe.tqueueOffset, ?_⟩
  · rw [hframe.sched]
    exact .unchanged
  · rw [hio]
    exact .call io hloop (.nil t)

/-- `handle` answers and then calls `loop`, or stops before it. -/
theorem handle_steps {event : WebhookEvent} {c : Int} {response : Option WebhookResponse}
    {input : AnswerInput} (h : s.sched.Within cfg)
    (hanswer : s.answer c response input = .ok none ∨
      ∃ t needClose, s.answer c response input = .ok (some (t, needClose)) ∧
        Answered s.sched event t.sched ∧ t.tqueueOffset = s.tqueueOffset) :
    ∃ u t, s.handle cfg c response input io = .ok t ∧ Answered s.sched event u.sched ∧
      u.tqueueOffset = s.tqueueOffset ∧ (t = u ∨ u.loop cfg io = .ok t) := by
  unfold handle
  rcases hanswer with hnone | ⟨t, needClose, hsome, hanswered, hoffset⟩
  · rw [hnone]
    exact ⟨s, s, rfl, .unchanged, rfl, Or.inl rfl⟩
  · rw [hsome]
    simp only
    cases needClose with
    | true => exact ⟨t, t, rfl, hanswered, hoffset, Or.inl rfl⟩
    | false =>
        obtain ⟨v, hloop, -⟩ := loop_moves (hanswered.within h)
        exact ⟨t, v, hloop, hanswered, hoffset, Or.inr hloop⟩

/-- No assertion fails in a step. -/
theorem step_steps (h : s.sched.Within cfg) (event : WebhookEvent) :
    ∃ t, s.step cfg event = .ok t ∧ Steps cfg event s t := by
  have hskip : ∀ ios, Loops cfg ios s s := by
    intro ios
    induction ios with
    | nil => exact .nil s
    | cons io ios ih => exact .skip io ih
  unfold step
  by_cases hstopped : s.stopped = true
  · rw [if_pos hstopped]
    exact ⟨s, rfl, s, .unchanged, rfl, hskip _⟩
  rw [if_neg hstopped]
  cases event with
  | loop io => exact loop_steps h ⟨rfl, rfl⟩ rfl
  | update io => exact loop_steps h ⟨rfl, rfl⟩ rfl
  | onResolvedIpAddress result io => exact loop_steps h (onResolvedIpAddress_frame result) rfl
  | onSslContextCreated result io => exact loop_steps h (onSslContextCreated_frame result) rfl
  | onSocketReadyAsync result id io => exact loop_steps h (onSocketReadyAsync_frame result id) rfl
  | handle c response input io =>
      simp only
      split_ifs with hawaits
      · obtain ⟨u, t, hhandle, hanswer, hoffset, hend⟩ := handle_steps h
          (Or.inr (answer_response h hawaits response io))
        refine ⟨t, hhandle, u, hanswer, hoffset, ?_⟩
        rcases hend with rfl | hloop
        · exact .skip io (.nil t)
        · exact .call io hloop (.nil t)
      · exact ⟨s, rfl, s, .unchanged, rfl, hskip _⟩
  | hangupShared c input io io' =>
      obtain ⟨u, t, hhandle, hanswer, hoffset, hend⟩ := handle_steps h
        (answer_hangup h c input io io')
      have hfirst : ∀ {v}, Loops cfg [io'] t v → Loops cfg [io, io'] u v := by
        intro v hv
        rcases hend with rfl | hloop
        · exact .skip io hv
        · exact .call io hloop hv
      simp only [hhandle]
      split_ifs
      · exact ⟨t, rfl, u, hanswer, hoffset, hfirst (.skip io' (.nil t))⟩
      · have ht : t.sched.Within cfg := by
          have hloops : Loops cfg [io] u t := by
            rcases hend with rfl | hloop
            · exact .skip io (.nil t)
            · exact .call io hloop (.nil t)
          have hmoves : LoopMoves cfg io.Reads u.sched t.sched := hloops.moves (hanswer.within h) (by simp)
          exact LoopMoves.within (hanswer.within h) hmoves
        obtain ⟨v, hloop, -⟩ := loop_moves ht
        exact ⟨v, hloop, u, hanswer, hoffset, hfirst (.call io' hloop (.nil v))⟩
  | onConnectionError error =>
      refine ⟨_, rfl, s.onWebhookError error, ?_, (onWebhookError_frame error).tqueueOffset, .nil _⟩
      rw [(onWebhookError_frame error).sched]
      exact .unchanged
  | close => exact ⟨_, rfl, { s.emit (.webhookClosed none) with stopped := true }, .unchanged, rfl, .nil _⟩
  | hangup => exact ⟨_, rfl, { s with stopped := true }, .unchanged, rfl, .nil _⟩

theorem step_changes (h : s.sched.Within cfg) (event : WebhookEvent) :
    ∃ t, s.step cfg event = .ok t ∧ Changes cfg event s.sched t.sched := by
  obtain ⟨t, hstep, hsteps⟩ := step_steps h event
  exact ⟨t, hstep, hsteps.changes h⟩

theorem startUp_frame (cfg : WebhookConfig) (now resolveDelay : Int) : Frame {} (startUp cfg now resolveDelay) := by
  unfold startUp
  have hport (s : WebhookActor) (hs : Frame {} s) : Frame {} (s.onStatus (checkPort cfg)) :=
    hs.trans (onStatus_frame _)
  have hfixed (s : WebhookActor) (hs : Frame {} s) :
      Frame {} (if cfg.fixIpAddress ∧ ¬ s.stopFlag then s.onStatus (checkIpAddress cfg s.ipAddress) else s) := by
    split_ifs
    · exact hs.trans (onStatus_frame _)
    · exact hs
  have hchecked (s : WebhookActor) (hs : Frame {} s) :
      Frame {} (if cfg.fromDb ∧ ¬ s.stopFlag then s.checked else s) := by
    split_ifs
    · exact hs.trans checked_frame
    · exact hs
  exact hchecked _ (hfixed _ (hport _ ⟨rfl, rfl⟩))

theorem within_empty (cfg : WebhookConfig) : WebhookSchedule.Within cfg {} :=
  ⟨integrity_empty, by simp, by simp⟩

/-- The invariant rule for runs: every run goes through, and what the changes of its steps keep holds
at its end. -/
theorem run_invariant (cfg : WebhookConfig) {I : WebhookSchedule → Prop} {ok : WebhookEvent → Prop}
    (hempty : I {}) (hstep : ∀ event s t, ok event → s.Within cfg → I s → Changes cfg event s t → I t)
    (now resolveDelay : Int) {events : List WebhookEvent} (hok : ∀ e ∈ events, ok e) :
    ∃ s, run cfg now resolveDelay events = .ok s ∧ s.sched.Within cfg ∧ I s.sched := by
  induction events using List.reverseRecOn with
  | nil =>
      refine ⟨startUp cfg now resolveDelay, rfl, ?_⟩
      rw [(startUp_frame cfg now resolveDelay).sched]
      exact ⟨within_empty cfg, hempty⟩
  | append_singleton events e ih =>
      obtain ⟨s, hs, hwithin, hI⟩ := ih fun e he => hok e (by simp [he])
      obtain ⟨t, ht, hchanges⟩ := step_changes hwithin e
      refine ⟨t, ?_, hchanges.within hwithin, hstep e _ _ (hok e (by simp)) hwithin hI hchanges⟩
      unfold run at hs ⊢
      rw [StepRun.run_concat, hs]
      exact ht

end WebhookActor

end TelegramBotApi
