import TelegramBotApi.WebhookTargets
import TelegramBotApi.ClientWebhook

/-!
# A client and the actors of its webhook

The client creates an actor for each webhook that is set and takes its reports of verified addresses; it
stores the webhook together with the last of these addresses, and a server that is started again decodes
what is stored into an internal request. Requests, answers of the name resolver, connections and the
times of all messages are inputs; a report may be delivered at any time and more than once.
-/

namespace TelegramBotApi

/-- An actor that the client has created; it has a state from `start_up` on. -/
structure WebhookProcess where
  generation : Nat
  cfg : WebhookConfig
  actor : Option WebhookActor := none

structure WebhookSystem where
  client : ClientWebhook := {}
  /-- The request that a restarted server has decoded from its storage. -/
  restoring : Option BotQuery := none
  processes : List WebhookProcess := []
  webhookDb : Option Slice := none
  /-- A `CHECK` has failed. -/
  crashed : Bool := false
  /-- All connections since the server was started for the first time. -/
  targets : List WebhookTarget := []

inductive WebhookSystemEvent where
  | client (event : ClientWebhookEvent)
  | restore (now : Int)
  | startUp (index : Nat) (now resolveDelay : Int)
  | webhook (index : Nat) (event : WebhookEvent)
  /-- A report of an actor is delivered. -/
  | verified (index message : Nat)
  | restart

/-- The messages to the client that do not come from its actors or its storage. -/
def ClientWebhookEvent.isForeign : ClientWebhookEvent → Bool
  | .query q _ => !q.isInternal
  | .webhookVerified .. => false
  | _ => true

namespace WebhookSystem

variable (inet : InetText) (P : WebhookParameters) (hasProxy : Bool) (token : Slice) (s : WebhookSystem)

/-- What an effect of the client does outside of it. -/
def apply (s : WebhookSystem) : ClientWebhookEffect → WebhookSystem
  | .saveWebhook value => { s with webhookDb := some value }
  | .eraseWebhook => { s with webhookDb := none }
  | .createWebhook generation settings =>
    -- the query that sets the webhook waits for its verification
    let fromDb := (s.client.webhookSetQuery.map (·.query.isInternal)).getD false
    match WebhookConfig.create inet P hasProxy settings fromDb with
    | none => { s with crashed := true }
    | some cfg => { s with processes := s.processes ++ [{ generation := generation, cfg := cfg }] }
  | _ => s

def onClient : Except WebhookAssertion ClientWebhook → WebhookSystem
  | .error _ => { s with crashed := true }
  | .ok client => (client.out.drop s.client.out.length).foldl (apply inet P hasProxy) { s with client := client }

def setActor (index : Nat) (process : WebhookProcess) (actor : WebhookActor) : WebhookSystem :=
  { s with processes := s.processes.set index { process with actor := some actor } }

def onWebhook (index : Nat) (process : WebhookProcess) (actor : WebhookActor) (event : WebhookEvent) :
    WebhookSystem :=
  let event := event.onPort process.cfg.url.port
  let s := { s with targets := s.targets ++ actor.stepTargets process.cfg event }
  match actor.step process.cfg event with
  | .error _ => { s with crashed := true }
  | .ok actor => s.setActor index process actor

/-- The report of an actor, if it is one of a verified address. -/
def onReport (generation : Nat) : Option WebhookMessage → WebhookSystem
  | some (.webhookVerified address) =>
    s.onClient inet P hasProxy
      (s.client.step inet.toInetPton P (.webhookVerified generation (address.verifiedText inet)))
  | _ => s

def step (s : WebhookSystem) (e : WebhookSystemEvent) : WebhookSystem :=
  match e with
  | .restart =>
    { restoring := s.webhookDb.map (getWebhookRestoreQuery token), webhookDb := s.webhookDb, targets := s.targets }
  | .client event =>
    if s.crashed ∨ ¬ event.isForeign then s
    else s.onClient inet P hasProxy (s.client.step inet.toInetPton P event)
  | .restore now =>
    if s.crashed then s
    else match s.restoring with
      | none => s
      | some query =>
        { s with restoring := none }.onClient inet P hasProxy (s.client.step inet.toInetPton P (.query query now))
  | .startUp index now resolveDelay =>
    match s.processes[index]? with
    | some { generation, cfg, actor := none } =>
      if s.crashed then s
      else s.setActor index { generation, cfg } (WebhookActor.startUp cfg now resolveDelay)
    | _ => s
  | .webhook index event =>
    match s.processes[index]? with
    | some { generation, cfg, actor := some actor } =>
      if s.crashed then s else s.onWebhook index { generation, cfg } actor event
    | _ => s
  | .verified index message =>
    match s.processes[index]? with
    | some { generation, cfg := _, actor := some actor } =>
      if s.crashed then s else s.onReport inet P hasProxy generation actor.out[message]?
    | _ => s

end WebhookSystem

end TelegramBotApi
