import TelegramBotApi.WebhookAddress

/-!
# The connections of a webhook

The actor connects, or asks the proxy to connect, to the address that it has at that moment. The address
changes only when a resolved one has passed the check, so outside the local mode an actor whose first
address is public, or was checked, never connects to another kind of address. An actor that was refused
when it started makes no connection at all.
-/

namespace TelegramBotApi

/-- Where a connection goes to, directly or from the proxy. -/
structure WebhookTarget where
  address : IPAddress
  protocol : HttpProtocol
  deriving DecidableEq

/-- A connection that may be opened outside the local mode. -/
structure WebhookTarget.Allowed (target : WebhookTarget) : Prop where
  https : target.protocol = .https
  isPublic : target.address.IsPublic
  port : target.address.port ∈ [80, 88, 443, 8443]

namespace WebhookActor

variable (cfg : WebhookConfig)

/-- The connections of the first loop of `create_new_connections`, also those that fail. -/
def openTargets (need : Nat) : List ConnectOutcome → WebhookActor → List WebhookTarget
  | [], _ => []
  | outcome :: outcomes, s =>
    if s.sched.connections.keys.length + s.pendingSockets.length + s.readySockets < need then
      if outcome = .flood then []
      else ⟨s.ipAddress, cfg.url.protocol⟩ :: match s.openConnection cfg outcome with
        | (true, t) => openTargets need outcomes t
        | (false, _) => []
    else []

def newTargets (s : WebhookActor) (io : LoopInput) : List WebhookTarget :=
  if ¬ s.ipAddress.isValid then []
  else if cfg.url.protocol ≠ .http ∧ ¬ s.hasSslContext then []
  else openTargets cfg (s.needConnections cfg io.now) io.connects s

def loopTargets (s : WebhookActor) (io : LoopInput) : List WebhookTarget :=
  if s.stopFlag then []
  else match s.loadUpdates cfg io with
    | .error _ => []
    | .ok s => (s.resolveIpAddress cfg io.now).newTargets cfg io

/-- The call of `loop` at the end of `handle`. -/
def handleCalls (s : WebhookActor) (connectionId : Int) (response : Option WebhookResponse) (input : AnswerInput)
    (io : LoopInput) : List (WebhookActor × LoopInput) :=
  match s.answer connectionId response input with
  | .ok (some (t, false)) => [(t, io)]
  | _ => []

def loopCalls (s : WebhookActor) (e : WebhookEvent) : List (WebhookActor × LoopInput) :=
  if s.stopped then []
  else match e with
    | .loop io => [(s, io)]
    | .update io => [({ s with tqueueEmpty := false }, io)]
    | .onResolvedIpAddress result io => [(s.onResolvedIpAddress cfg result io, io)]
    | .onSslContextCreated result io => [(s.onSslContextCreated result, io)]
    | .onSocketReadyAsync result id io => [(s.onSocketReadyAsync result id, io)]
    | .handle connectionId response input io =>
      if s.awaitsResponse connectionId then s.handleCalls connectionId (some response) input io else []
    | .hangupShared connectionId input io io' =>
      s.handleCalls connectionId none input io ++ match s.handle cfg connectionId none input io with
        | .error _ => []
        | .ok t => if t.stopped then [] else [(t, io')]
    | _ => []

def stepTargets (s : WebhookActor) (e : WebhookEvent) : List WebhookTarget :=
  (s.loopCalls cfg e).flatMap fun call => call.1.loopTargets cfg call.2

variable {cfg} {s t u : WebhookActor} {io : LoopInput}

/-! ### The address stays -/

/-- The address is the same, and no other address is reported. -/
structure Keeps (s t : WebhookActor) : Prop where
  address : t.ipAddress = s.ipAddress
  reports : ∀ address, .webhookVerified address ∈ t.out → .webhookVerified address ∈ s.out ∨ address = s.ipAddress

theorem Keeps.refl (s : WebhookActor) : Keeps s s := ⟨rfl, fun _ => Or.inl⟩

theorem Keeps.trans (h : Keeps s t) (h' : Keeps t u) : Keeps s u := by
  refine ⟨h'.address.trans h.address, fun address hmem => ?_⟩
  cases h'.reports address hmem with
  | inl hmem => exact h.reports address hmem
  | inr haddress => exact Or.inr (haddress.trans h.address)

theorem Keeps.of_eq (haddress : t.ipAddress = s.ipAddress) (hout : t.out = s.out) : Keeps s t :=
  ⟨haddress, fun address hmem => Or.inl (by rw [← hout]; exact hmem)⟩

theorem Keeps.append {messages : List WebhookMessage} (haddress : t.ipAddress = s.ipAddress)
    (hout : t.out = s.out ++ messages) (hmessages : ∀ a, .webhookVerified a ∈ messages → a = s.ipAddress) :
    Keeps s t := by
  refine ⟨haddress, fun address hmem => ?_⟩
  rw [hout] at hmem
  cases List.mem_append.1 hmem with
  | inl hold => exact Or.inl hold
  | inr hnew => exact Or.inr (hmessages address hnew)

theorem keeps_onError (s : WebhookActor) (status : Status) : Keeps s (s.onError status) := by
  unfold onError
  split_ifs
  · exact Keeps.append rfl rfl (by simp)
  · exact Keeps.refl s

theorem keeps_onWebhookError (s : WebhookActor) (error : String) : Keeps s (s.onWebhookError error) := by
  unfold onWebhookError
  split_ifs
  · exact Keeps.append rfl rfl (by simp)
  · exact Keeps.refl s

theorem keeps_createWebhookError (s : WebhookActor) (errorMessage : String) (result : Status) (isPublic : Bool) :
    Keeps s (s.createWebhookError errorMessage result isPublic) :=
  (keeps_onWebhookError s _).trans (keeps_onError _ result)

theorem keeps_onWebhookVerified (s : WebhookActor) : Keeps s s.onWebhookVerified :=
  Keeps.append rfl rfl (by simp)

theorem keeps_checked (s : WebhookActor) : Keeps s s.checked := by
  have hsame : Keeps s { s with wasChecked := true } := Keeps.of_eq rfl rfl
  unfold checked
  split_ifs
  · exact Keeps.refl s
  · exact hsame.trans (keeps_onWebhookVerified _)

theorem keeps_addConnection (s : WebhookActor) : Keeps s s.addConnection := by
  have hsame : Keeps s { s with sched := s.sched.createConnection s.ipGeneration } := Keeps.of_eq rfl rfl
  exact hsame.trans (keeps_checked _)

theorem keeps_openConnection (cfg : WebhookConfig) (s : WebhookActor) (outcome : ConnectOutcome) :
    Keeps s (s.openConnection cfg outcome).2 := by
  have hpending : Keeps s s.addPendingSocket := (keeps_checked s).trans (Keeps.of_eq rfl rfl)
  unfold openConnection
  cases outcome with
  | flood => exact Keeps.refl s
  | openFailed error => exact keeps_createWebhookError s _ error false
  | sslFailed error =>
      dsimp only
      split_ifs
      · exact hpending
      · exact keeps_createWebhookError s _ error true
  | opened =>
      dsimp only
      split_ifs
      · exact hpending
      · exact keeps_addConnection s

theorem keeps_openLoop (cfg : WebhookConfig) (need : Nat) (outcomes : List ConnectOutcome) (s : WebhookActor) :
    Keeps s (openLoop cfg need outcomes s).2 := by
  induction outcomes generalizing s with
  | nil => exact Keeps.refl s
  | cons outcome outcomes ih =>
      have hopen := keeps_openConnection cfg s outcome
      unfold openLoop
      split_ifs
      · exact Keeps.refl s
      · revert hopen
        obtain ⟨ok, t⟩ := s.openConnection cfg outcome
        intro hopen
        cases ok with
        | true => exact hopen.trans (ih t)
        | false => exact hopen
      · exact Keeps.refl s

theorem keeps_readyLoop (need : Nat) (ssl : Nat → Bool) (k : Nat) (s : WebhookActor) :
    Keeps s (readyLoop need ssl k s) := by
  induction k generalizing s with
  | zero => exact Keeps.refl s
  | succ k ih =>
      unfold readyLoop
      split_ifs
      · exact (keeps_addConnection s).trans (ih _)
      · exact keeps_createWebhookError s _ _ true
      · exact Keeps.refl s

theorem keeps_createNewConnections (cfg : WebhookConfig) (s : WebhookActor) (io : LoopInput) :
    Keeps s (s.createNewConnections cfg io) := by
  unfold createNewConnections
  split
  · exact Keeps.refl s
  split
  · exact Keeps.refl s
  · have hopen := keeps_openLoop cfg (s.needConnections cfg io.now) io.connects s
    dsimp only
    revert hopen
    obtain ⟨ok, t⟩ := openLoop cfg (s.needConnections cfg io.now) io.connects s
    intro hopen
    cases ok with
    | false => exact hopen
    | true => exact (hopen.trans (keeps_readyLoop _ _ _ t)).trans (Keeps.of_eq rfl rfl)

theorem keeps_loadUpdates (hload : s.loadUpdates cfg io = .ok t) : Keeps s t := by
  unfold loadUpdates at hload
  dsimp only at hload
  split_ifs at hload
  · cases hload
    exact Keeps.refl s
  · cases hload
    exact Keeps.refl s
  · split at hload
    · cases hload
    · split at hload
      · cases hload
      · cases hload
        exact Keeps.of_eq rfl rfl

theorem keeps_resolveIpAddress (cfg : WebhookConfig) (s : WebhookActor) (now : Int) :
    Keeps s (s.resolveIpAddress cfg now) := by
  unfold resolveIpAddress
  split_ifs
  · exact Keeps.refl s
  · exact Keeps.of_eq rfl rfl

theorem keeps_sendUpdates (hsend : s.sendUpdates cfg io = .ok t) : Keeps s t := by
  unfold sendUpdates at hsend
  split at hsend
  · cases hsend
  · cases hsend
    exact Keeps.of_eq rfl rfl

theorem keeps_settle (s : WebhookActor) : Keeps s s.settle := by
  unfold settle
  split_ifs
  · exact Keeps.of_eq rfl rfl
  · exact Keeps.refl s

theorem keeps_loop (hloop : s.loop cfg io = .ok t) : Keeps s t := by
  unfold loop at hloop
  split_ifs at hloop with hstop
  · cases hloop
    exact keeps_settle s
  · split at hloop
    · cases hloop
    · rename_i u hload
      have hconnect := (keeps_loadUpdates hload).trans ((keeps_resolveIpAddress cfg u io.now).trans
        (keeps_createNewConnections cfg _ io))
      dsimp only at hloop
      split_ifs at hloop
      · cases hloop
        exact hconnect.trans (keeps_settle _)
      · split at hloop
        · cases hloop
        · rename_i v hsend
          cases hloop
          exact hconnect.trans ((keeps_sendUpdates hsend).trans (keeps_settle v))

theorem judge_reports (s : WebhookActor) (connection : WebhookConnection) (now : Int)
    (response : Option WebhookResponse) (address : IPAddress) :
    .webhookVerified address ∉ (s.judge connection now response).out := by
  unfold judge
  cases response with
  | none => simp
  | some r =>
      dsimp only
      split_ifs <;> simp

theorem answer_spec {connectionId : Int} {response : Option WebhookResponse} {input : AnswerInput} {close : Bool}
    (h : s.answer connectionId response input = .ok (some (t, close))) :
    t.ipAddress = s.ipAddress ∧ t.stopFlag = s.stopFlag ∧ t.wasChecked = s.wasChecked ∧
      ∀ address, .webhookVerified address ∈ t.out → .webhookVerified address ∈ s.out := by
  unfold answer at h
  split at h
  · cases h
  · rename_i connection _
    dsimp only at h
    split at h
    · cases h
    · cases h
      refine ⟨rfl, rfl, rfl, fun address hmem => ?_⟩
      cases List.mem_append.1 hmem with
      | inl hold => exact hold
      | inr hnew => exact absurd hnew (judge_reports s connection input.now response address)

/-! ### Actors that may connect -/

/-- The address of the webhook may be used, and so may the IP address, once there is one. -/
structure Admitted (cfg : WebhookConfig) (s : WebhookActor) : Prop where
  https : cfg.url.protocol = .https
  port : cfg.url.port ∈ [443, 88, 80, 8443]
  address : s.ipAddress = .invalid ∨ s.ipAddress.IsPublic ∧ s.ipAddress.port = cfg.url.port % 2 ^ 16
  reports : ∀ address, .webhookVerified address ∈ s.out → address = .invalid ∨ address.IsPublic

/-- The actor was refused before it has reported anything; it only waits for its end. -/
structure Refused (s : WebhookActor) : Prop where
  stopFlag : s.stopFlag = true
  unchecked : s.wasChecked = false
  reports : ∀ address, .webhookVerified address ∉ s.out

def Guarded (cfg : WebhookConfig) (s : WebhookActor) : Prop := Admitted cfg s ∨ Refused s

theorem Admitted.keeps (h : Admitted cfg s) (hkeeps : Keeps s t) : Admitted cfg t := by
  refine ⟨h.https, h.port, by rw [hkeeps.address]; exact h.address, fun address hmem => ?_⟩
  cases hkeeps.reports address hmem with
  | inl hold => exact h.reports address hold
  | inr haddress =>
      rw [haddress]
      exact h.address.imp_right And.left

theorem Refused.of_eq (h : Refused s) (hstop : t.stopFlag = s.stopFlag) (hchecked : t.wasChecked = s.wasChecked)
    (hout : t.out = s.out) : Refused t :=
  ⟨hstop.trans h.stopFlag, hchecked.trans h.unchecked, by rw [hout]; exact h.reports⟩

theorem Refused.onError (h : Refused s) (status : Status) : s.onError status = s := by
  unfold WebhookActor.onError
  rw [if_neg fun hall => hall.2 h.stopFlag]

theorem Refused.onWebhookError (h : Refused s) (error : String) : s.onWebhookError error = s := by
  unfold WebhookActor.onWebhookError
  rw [h.unchecked, if_neg Bool.false_ne_true]

theorem Refused.settle (h : Refused s) : Refused s.settle := by
  unfold WebhookActor.settle
  rw [if_pos h.stopFlag]
  exact h.of_eq rfl rfl rfl

theorem Refused.createWebhookError (h : Refused s) (errorMessage : String) (result : Status) (isPublic : Bool) :
    s.createWebhookError errorMessage result isPublic = s := by
  unfold WebhookActor.createWebhookError
  rw [h.onWebhookError, h.onError]

theorem Guarded.loop (h : Guarded cfg s) (hloop : s.loop cfg io = .ok t) : Guarded cfg t := by
  cases h with
  | inl hadmitted => exact Or.inl (hadmitted.keeps (keeps_loop hloop))
  | inr hrefused =>
      unfold WebhookActor.loop at hloop
      rw [if_pos hrefused.stopFlag] at hloop
      cases hloop
      exact Or.inr hrefused.settle

theorem Guarded.of_eq (h : Guarded cfg s) (haddress : t.ipAddress = s.ipAddress) (hstop : t.stopFlag = s.stopFlag)
    (hchecked : t.wasChecked = s.wasChecked) (hout : t.out = s.out) : Guarded cfg t :=
  h.imp (fun hadmitted => hadmitted.keeps (Keeps.of_eq haddress hout)) fun hrefused =>
    hrefused.of_eq hstop hchecked hout

/-- Outside the local mode only a public address passes the check. -/
theorem isPublic_of_check (hlocal : cfg.localMode = false) {address : IPAddress}
    (hcheck : checkIpAddress cfg address = .ok ()) : address.IsPublic := by
  unfold checkIpAddress at hcheck
  rw [hlocal, if_neg Bool.false_ne_true] at hcheck
  cases address with
  | invalid => cases hcheck
  | ipv6 address port => cases hcheck
  | ipv4 address port =>
      split at hcheck
      · cases hcheck
      dsimp only at hcheck
      split_ifs at hcheck with hreserved
      exact Bool.eq_false_of_not_eq_true hreserved

theorem port_setPort {address : IPAddress} {port : Int} (h : (address.setPort port).IsPublic) :
    (address.setPort port).port = port % 2 ^ 16 := by
  cases address with
  | invalid => exact absurd h id
  | ipv4 address _ => rfl
  | ipv6 address _ => rfl

/-- A resolved address is taken only after the check, and is reported only then. -/
theorem Guarded.onResolvedIpAddress (hlocal : cfg.localMode = false) (h : Guarded cfg s)
    (result : Except Status IPAddress) (io : LoopInput) :
    Guarded cfg (s.onResolvedIpAddress cfg (IPAddress.getIpPort cfg.url.port result) io) := by
  unfold WebhookActor.onResolvedIpAddress
  have hsame : Guarded cfg { s with
      isIpAddressBeingResolved := false
      nextIpAddressResolveTime := io.now + ipAddressCacheTime + io.resolveDelay } := h.of_eq rfl rfl rfl rfl
  have herror : ∀ status, Guarded cfg (WebhookActor.onError { s with
      isIpAddressBeingResolved := false
      nextIpAddressResolveTime := io.now + ipAddressCacheTime + io.resolveDelay } status) := fun status => by
    cases hsame with
    | inl hadmitted => exact Or.inl (hadmitted.keeps (keeps_onError _ status))
    | inr hrefused =>
        rw [hrefused.onError]
        exact Or.inr hrefused
  cases result with
  | error status => exact herror status
  | ok address =>
      dsimp only [IPAddress.getIpPort]
      split
      · exact herror _
      · rename_i hcheck
        have hpublic := isPublic_of_check hlocal hcheck
        split_ifs with heq hchecked
        · exact hsame
        · -- the new address is reported at once
          cases h with
          | inl hadmitted =>
              refine Or.inl ⟨hadmitted.https, hadmitted.port, Or.inr ⟨hpublic, port_setPort hpublic⟩, ?_⟩
              intro a ha
              cases List.mem_append.1 ha with
              | inl hold => exact hadmitted.reports a hold
              | inr hnew =>
                  cases List.mem_singleton.1 hnew
                  exact Or.inr hpublic
          | inr hrefused => exact absurd hchecked (by simp [hrefused.unchecked])
        · cases h with
          | inl hadmitted =>
              exact Or.inl ⟨hadmitted.https, hadmitted.port, Or.inr ⟨hpublic, port_setPort hpublic⟩,
                hadmitted.reports⟩
          | inr hrefused => exact Or.inr (hrefused.of_eq rfl rfl rfl)

theorem Guarded.onSslContextCreated (h : Guarded cfg s) (result : Except Status Unit) :
    Guarded cfg (s.onSslContextCreated result) := by
  unfold WebhookActor.onSslContextCreated
  cases result with
  | ok _ => exact h.of_eq rfl rfl rfl rfl
  | error error =>
      cases h with
      | inl hadmitted => exact Or.inl (hadmitted.keeps (keeps_createWebhookError s _ error true))
      | inr hrefused =>
          dsimp only
          rw [hrefused.createWebhookError]
          exact Or.inr hrefused

theorem Guarded.onSocketReadyAsync (h : Guarded cfg s) (result : Except Status Unit) (id : Int) :
    Guarded cfg (s.onSocketReadyAsync result id) := by
  have hsame : Guarded cfg { s with pendingSockets := s.pendingSockets.filter (· ≠ id) } := h.of_eq rfl rfl rfl rfl
  unfold WebhookActor.onSocketReadyAsync
  cases result with
  | ok _ => exact h.of_eq rfl rfl rfl rfl
  | error error =>
      cases hsame with
      | inl hadmitted =>
          exact Or.inl (hadmitted.keeps ((keeps_onWebhookError _ error.message).trans (keeps_onError _ error)))
      | inr hrefused =>
          dsimp only
          rw [hrefused.onWebhookError, hrefused.onError]
          exact Or.inr hrefused

theorem Guarded.answer (h : Guarded cfg s) {connectionId : Int} {response : Option WebhookResponse}
    {input : AnswerInput} {close : Bool} (hanswer : s.answer connectionId response input = .ok (some (t, close))) :
    Guarded cfg t := by
  obtain ⟨haddress, hstop, hchecked, hreports⟩ := answer_spec hanswer
  cases h with
  | inl hadmitted => exact Or.inl (hadmitted.keeps ⟨haddress, fun address hmem => Or.inl (hreports address hmem)⟩)
  | inr hrefused =>
      exact Or.inr ⟨hstop.trans hrefused.stopFlag, hchecked.trans hrefused.unchecked, fun address hmem =>
        hrefused.reports address (hreports address hmem)⟩

theorem Guarded.handle (h : Guarded cfg s) {connectionId : Int} {response : Option WebhookResponse}
    {input : AnswerInput} (hhandle : s.handle cfg connectionId response input io = .ok t) : Guarded cfg t := by
  unfold WebhookActor.handle at hhandle
  split at hhandle
  · cases hhandle
  · cases hhandle
    exact h
  · rename_i u needClose hanswer
    split_ifs at hhandle
    · cases hhandle
      exact h.answer hanswer
    · exact (h.answer hanswer).loop hhandle

theorem Guarded.handleCalls (h : Guarded cfg s) {connectionId : Int} {response : Option WebhookResponse}
    {input : AnswerInput} {call : WebhookActor × LoopInput}
    (hcall : call ∈ s.handleCalls connectionId response input io) : Guarded cfg call.1 := by
  unfold WebhookActor.handleCalls at hcall
  split at hcall
  · rename_i u hanswer
    cases List.mem_singleton.1 hcall
    exact h.answer hanswer
  · cases hcall

end WebhookActor

/-- The answer of the name resolver comes with the port of the webhook. -/
def WebhookEvent.onPort (port : Int) : WebhookEvent → WebhookEvent
  | .onResolvedIpAddress result io => .onResolvedIpAddress (IPAddress.getIpPort port result) io
  | event => event

namespace WebhookActor

variable {cfg : WebhookConfig} {s t : WebhookActor} {io : LoopInput}

theorem Guarded.loopCalls (hlocal : cfg.localMode = false) (h : Guarded cfg s) (event : WebhookEvent)
    {call : WebhookActor × LoopInput} (hcall : call ∈ s.loopCalls cfg (event.onPort cfg.url.port)) :
    Guarded cfg call.1 := by
  unfold WebhookActor.loopCalls at hcall
  split_ifs at hcall
  · cases hcall
  cases event with
  | loop io =>
      cases List.mem_singleton.1 hcall
      exact h
  | update io =>
      cases List.mem_singleton.1 hcall
      exact h.of_eq rfl rfl rfl rfl
  | onResolvedIpAddress result io =>
      cases List.mem_singleton.1 hcall
      exact h.onResolvedIpAddress hlocal result io
  | onSslContextCreated result io =>
      cases List.mem_singleton.1 hcall
      exact h.onSslContextCreated result
  | onSocketReadyAsync result id io =>
      cases List.mem_singleton.1 hcall
      exact h.onSocketReadyAsync result id
  | handle connectionId response input io =>
      dsimp only [WebhookEvent.onPort] at hcall
      split_ifs at hcall
      · exact h.handleCalls hcall
      · cases hcall
  | hangupShared connectionId input io io' =>
      dsimp only [WebhookEvent.onPort] at hcall
      cases List.mem_append.1 hcall with
      | inl hfirst => exact h.handleCalls hfirst
      | inr hsecond =>
          split at hsecond
          · cases hsecond
          · rename_i u hhandle
            split_ifs at hsecond
            · cases hsecond
            · cases List.mem_singleton.1 hsecond
              exact h.handle hhandle
  | onConnectionError error => cases hcall
  | close => cases hcall
  | hangup => cases hcall

theorem Guarded.step (hlocal : cfg.localMode = false) (h : Guarded cfg s) (event : WebhookEvent)
    (hstep : s.step cfg (event.onPort cfg.url.port) = .ok t) : Guarded cfg t := by
  unfold WebhookActor.step at hstep
  split_ifs at hstep
  · cases hstep
    exact h
  cases event with
  | loop io => exact h.loop hstep
  | update io =>
      have hsame : Guarded cfg { s with tqueueEmpty := false } := h.of_eq rfl rfl rfl rfl
      exact hsame.loop hstep
  | onResolvedIpAddress result io => exact (h.onResolvedIpAddress hlocal result io).loop hstep
  | onSslContextCreated result io => exact (h.onSslContextCreated result).loop hstep
  | onSocketReadyAsync result id io => exact (h.onSocketReadyAsync result id).loop hstep
  | handle connectionId response input io =>
      dsimp only [WebhookEvent.onPort] at hstep
      split_ifs at hstep
      · exact h.handle hstep
      · cases hstep
        exact h
  | hangupShared connectionId input io io' =>
      dsimp only [WebhookEvent.onPort] at hstep
      split at hstep
      · cases hstep
      · rename_i u hhandle
        split_ifs at hstep
        · cases hstep
          exact h.handle hhandle
        · exact (h.handle hhandle).loop hstep
  | onConnectionError error =>
      cases hstep
      cases h with
      | inl hadmitted => exact Or.inl (hadmitted.keeps (keeps_onWebhookError s error))
      | inr hrefused =>
          rw [hrefused.onWebhookError]
          exact Or.inr hrefused
  | close =>
      cases hstep
      cases h with
      | inl hadmitted => exact Or.inl (hadmitted.keeps (Keeps.append rfl rfl (by simp)))
      | inr hrefused =>
          refine Or.inr ⟨hrefused.stopFlag, hrefused.unchecked, fun address hmem => ?_⟩
          cases List.mem_append.1 hmem with
          | inl hold => exact hrefused.reports address hold
          | inr hnew => cases List.mem_singleton.1 hnew
  | hangup =>
      cases hstep
      exact h.of_eq rfl rfl rfl rfl

/-- Every connection of the first loop goes to the address that the actor has. -/
theorem mem_openTargets {need : Nat} {outcomes : List ConnectOutcome} {target : WebhookTarget}
    (h : target ∈ openTargets cfg need outcomes s) : target = ⟨s.ipAddress, cfg.url.protocol⟩ := by
  induction outcomes generalizing s with
  | nil => cases h
  | cons outcome outcomes ih =>
      unfold openTargets at h
      split_ifs at h
      · cases h
      · cases List.mem_cons.1 h with
        | inl hfirst => exact hfirst
        | inr hrest =>
            have hopen := (keeps_openConnection cfg s outcome).address
            revert hopen hrest
            obtain ⟨ok, t⟩ := s.openConnection cfg outcome
            intro hrest hopen
            cases ok with
            | true =>
                rw [← hopen]
                exact ih hrest
            | false => cases hrest
      · cases h

theorem Guarded.loopTargets (h : Guarded cfg s) {target : WebhookTarget} (htarget : target ∈ s.loopTargets cfg io) :
    target.Allowed := by
  unfold WebhookActor.loopTargets at htarget
  split_ifs at htarget with hstop
  · cases htarget
  · cases h with
    | inr hrefused => exact absurd hrefused.stopFlag hstop
    | inl hadmitted =>
        split at htarget
        · cases htarget
        · rename_i u hload
          have hu := hadmitted.keeps ((keeps_loadUpdates hload).trans
            (keeps_resolveIpAddress cfg u io.now))
          unfold newTargets at htarget
          split at htarget
          · cases htarget
          rename_i hvalid
          split at htarget
          · cases htarget
          · have heq := mem_openTargets htarget
            cases hu.address with
            | inl hinvalid =>
                rw [hinvalid] at hvalid
                exact absurd Bool.false_ne_true hvalid
            | inr hpublic =>
                rw [heq]
                refine ⟨hu.https, hpublic.1, ?_⟩
                change (u.resolveIpAddress cfg io.now).ipAddress.port ∈ _
                rw [hpublic.2]
                have hport := hu.port
                revert hport
                simp only [List.mem_cons, List.not_mem_nil, or_false]
                omega

/-- An actor whose address was checked makes only allowed connections. -/
theorem Guarded.stepTargets (hlocal : cfg.localMode = false) (h : Guarded cfg s) (event : WebhookEvent) :
    ∀ target ∈ s.stepTargets cfg (event.onPort cfg.url.port), target.Allowed := by
  intro target htarget
  obtain ⟨call, hcall, htarget⟩ := List.mem_flatMap.1 htarget
  exact (h.loopCalls hlocal event hcall).loopTargets htarget

/-- The resolution fails, or its address does not pass the check. -/
def Fails (cfg : WebhookConfig) (result : Except Status IPAddress) : Prop :=
  ∀ address, result = .ok address → ∀ u, checkIpAddress cfg address ≠ .ok u

theorem step_unresolved {result : Except Status IPAddress} (hfails : Fails cfg result)
    (hstep : s.step cfg (.onResolvedIpAddress result io) = .ok t) : t.ipAddress = s.ipAddress := by
  unfold WebhookActor.step at hstep
  split_ifs at hstep
  · cases hstep
    rfl
  · dsimp only at hstep
    rw [(keeps_loop hstep).address]
    unfold WebhookActor.onResolvedIpAddress
    cases result with
    | error status => exact (keeps_onError _ status).address
    | ok address =>
        dsimp only
        split
        · rename_i status _
          exact (keeps_onError _ status).address
        · rename_i u hcheck
          exact absurd hcheck (hfails address rfl u)

/-! ### The start -/

/-- The first address of the actor is fixed, and then checked, or it is public if there is one. -/
structure SafeConfig (cfg : WebhookConfig) : Prop where
  notLocal : cfg.localMode = false
  port : cfg.cachedIpAddress = .invalid ∨ cfg.cachedIpAddress.port = cfg.url.port % 2 ^ 16
  address : cfg.fixIpAddress = true ∨ cfg.cachedIpAddress = .invalid ∨ cfg.cachedIpAddress.IsPublic

theorem checkPort_ok (hlocal : cfg.localMode = false) (hcheck : checkPort cfg = .ok ()) :
    cfg.url.protocol = .https ∧ cfg.url.port ∈ [443, 88, 80, 8443] := by
  unfold checkPort at hcheck
  rw [hlocal, if_neg Bool.false_ne_true] at hcheck
  split_ifs at hcheck with hhttp hport
  refine ⟨?_, hport⟩
  cases hprotocol : cfg.url.protocol with
  | http => exact absurd hprotocol hhttp
  | https => rfl

/-- Nothing has happened yet. -/
structure Fresh (s : WebhookActor) : Prop where
  unchecked : s.wasChecked = false
  running : s.stopFlag = false
  silent : s.out = []

theorem Fresh.onError (h : Fresh s) (status : Status) : Refused (s.onError status) := by
  unfold WebhookActor.onError
  rw [if_pos ⟨by rw [h.unchecked]; decide, by rw [h.running]; decide⟩]
  refine ⟨rfl, h.unchecked, ?_⟩
  unfold emit
  rw [h.silent]
  simp

theorem SafeConfig.admitted (h : SafeConfig cfg) (hfresh : Fresh s) (haddress : s.ipAddress = cfg.cachedIpAddress)
    (hcheck : checkPort cfg = .ok ()) (hpublic : s.ipAddress = .invalid ∨ s.ipAddress.IsPublic) :
    Admitted cfg s := by
  obtain ⟨hhttps, hin⟩ := checkPort_ok h.notLocal hcheck
  have hport := h.port
  rw [← haddress] at hport
  refine ⟨hhttps, hin, ?_, by rw [hfresh.silent]; exact fun _ hmem => by cases hmem⟩
  cases hport with
  | inl hinvalid => exact Or.inl hinvalid
  | inr hport => exact hpublic.imp_right fun hpublic => ⟨hpublic, hport⟩

/-- The check of a fixed address. -/
theorem SafeConfig.checkFixed (h : SafeConfig cfg) (hfresh : Fresh s) (haddress : s.ipAddress = cfg.cachedIpAddress)
    (hcheck : checkPort cfg = .ok ()) :
    Guarded cfg (if cfg.fixIpAddress = true ∧ ¬ s.stopFlag = true then s.onStatus (checkIpAddress cfg s.ipAddress)
      else s) := by
  by_cases hfix : cfg.fixIpAddress = true
  · rw [if_pos ⟨hfix, by rw [hfresh.running]; decide⟩]
    cases hstatus : checkIpAddress cfg s.ipAddress with
    | error status => exact Or.inr (hfresh.onError status)
    | ok _ => exact Or.inl (h.admitted hfresh haddress hcheck (Or.inr (isPublic_of_check h.notLocal hstatus)))
  · rw [if_neg fun hall => hfix hall.1]
    refine Or.inl (h.admitted hfresh haddress hcheck ?_)
    rw [haddress]
    exact h.address.resolve_left hfix

theorem Refused.checkFixed (h : Refused s) :
    Guarded cfg (if cfg.fixIpAddress = true ∧ ¬ s.stopFlag = true then s.onStatus (checkIpAddress cfg s.ipAddress)
      else s) := by
  rw [if_neg fun hall => hall.2 h.stopFlag]
  exact Or.inr h

theorem Guarded.restored (h : Guarded cfg s) (fromDb : Bool) :
    Guarded cfg (if fromDb = true ∧ ¬ s.stopFlag = true then s.checked else s) := by
  split_ifs with hall
  · cases h with
    | inl hadmitted => exact Or.inl (hadmitted.keeps (keeps_checked s))
    | inr hrefused => exact absurd hrefused.stopFlag hall.2
  · exact h

theorem guarded_startUp (h : SafeConfig cfg) (now resolveDelay : Int) :
    Guarded cfg (startUp cfg now resolveDelay) := by
  have hfresh : Fresh {
      ipAddress := cfg.cachedIpAddress
      lastSuccessTime := now - 2 * ipAddressCacheTime
      nextIpAddressResolveTime := if cfg.fromDb then now + resolveDelay else now - 2 * ipAddressCacheTime } :=
    ⟨rfl, rfl, rfl⟩
  unfold startUp
  apply Guarded.restored
  cases hcheck : checkPort cfg with
  | error status => exact (hfresh.onError status).checkFixed
  | ok _ => exact h.checkFixed hfresh rfl hcheck

end WebhookActor

end TelegramBotApi
