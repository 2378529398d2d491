import TelegramBotApi.ClientLife
import TelegramBotApi.ClientManagerStep
import TelegramBotApi.StepRun

/-!
# The client manager and its clients

The manager creates clients, takes their messages in the order in which each of them was sent, and is
closed in two phases: first the clients, then the two databases, each with a deadline. A promise of
`close` is known by its number. Requests, what happens to the clients, the closing of the databases and
the times are inputs.
-/

namespace TelegramBotApi

structure ManagedClients where
  manager : ClientManager := {}
  /-- The clients whose hanging up was not handled yet. -/
  lives : AList fun _ : Nat => ClientLife := ∅
  /-- When the timer that `close` or `close_db` has set expires. -/
  deadline : ℚ := 0
  closePromises : List Nat := []
  promiseCount : Nat := 0
  fulfilled : List Nat := []
  tqueueClosed : Bool := false
  webhookDbClosed : Bool := false

inductive ManagedClientsEvent where
  | send (query : BotQuery)
  | sendFileStream (r : StreamRequest)
  | releaseFileStream (streamId : Int)
  | setWebhookDb (key value : Slice)
  | setDiskEmergency (value : Bool)
  | client (id : Nat) (event : ClientLifeEvent)
  /-- The next message of a client is handled. -/
  | deliver (id : Nat)
  | close
  | timeoutExpired
  | tqueueClosed
  | webhookDbClosed
  /-- The message that `close_db` has prepared for the time when both databases are closed. -/
  | finishClose

structure ManagedClientsInput where
  event : ManagedClientsEvent
  now : ℚ

namespace ManagedClients

variable (S : ManagerSetup) (s : ManagedClients)

def addLife (lives : AList fun _ : Nat => ClientLife) : ManagerAction → AList fun _ : Nat => ClientLife
  | .createClient id token isTestDc _ => lives.insert id { token := token, isTestDc := isTestDc }
  | _ => lives

/-- A message of the manager; `close_db` gives the databases ten seconds. -/
def onManager (event : ClientManager.Event) (now : ℚ) : ManagedClients :=
  let manager := s.manager.step S ⟨event, now⟩
  { s with
    manager := manager
    lives := manager.out.foldl addLife s.lives
    deadline := if manager.closeDbStarted ∧ ¬ s.manager.closeDbStarted then now + 10 else s.deadline }

/-- All promises so far are fulfilled, in `finish_close`. -/
def fulfill : ManagedClients := { s with fulfilled := s.fulfilled ++ s.closePromises, closePromises := [] }

/-- `close`, which sets a timer of thirty seconds when it is called first. -/
def close (now : ℚ) : ManagedClients :=
  let t := { s with
    closePromises := s.closePromises ++ [s.promiseCount]
    promiseCount := s.promiseCount + 1
    deadline := if s.manager.closeFlag then s.deadline else now + 30 }
  t.onManager S .close now

def deliver (id : Nat) (life : ClientLife) (now : ℚ) : ManagedClients :=
  match life.mailbox with
  | [] => s
  | .rawEvent isActive :: mailbox =>
    { s with lives := s.lives.insert id { life with
        mailbox := mailbox
        processed := life.processed ++ [ParentMessage.rawEvent isActive] } }.onManager S (.rawEvent id isActive) now
  | .hangupShared :: _ => { s with lives := s.lives.erase id }.onManager S (.hangupShared id) now

/-- Nothing happens in a manager that was stopped; a failed `CHECK` of a client stops the whole server. -/
def isRunning : Bool := s.manager.isRunning && !s.lives.entries.any (·.2.crashed)

/-- The timer of a closing manager has run out, or its databases are closed. -/
def Ends (x : ManagedClientsInput) : Prop :=
  s.isRunning = true ∧
    ((x.event = .timeoutExpired ∧ s.manager.closeFlag = true ∧ s.deadline ≤ x.now) ∨
      (x.event = .finishClose ∧ s.tqueueClosed = true ∧ s.webhookDbClosed = true))

def step (s : ManagedClients) (x : ManagedClientsInput) : ManagedClients :=
  if ¬ s.isRunning then s
  else match x.event with
    | .send query => s.onManager S (.send query) x.now
    | .sendFileStream r => s.onManager S (.sendFileStream r) x.now
    | .releaseFileStream streamId => s.onManager S (.releaseFileStream streamId) x.now
    | .setWebhookDb key value => s.onManager S (.setWebhookDb key value) x.now
    | .setDiskEmergency value => s.onManager S (.setDiskEmergency value) x.now
    | .client id event =>
      match s.lives.lookup id with
      | none => s
      | some life => { s with lives := s.lives.insert id (life.step event) }
    | .deliver id =>
      match s.lives.lookup id with
      | none => s
      | some life => s.deliver S id life x.now
    | .close => s.close S x.now
    | .timeoutExpired =>
      if ¬ s.manager.closeFlag then s.onManager S .timeoutExpired x.now
      else if s.deadline ≤ x.now then (s.onManager S .timeoutExpired x.now).fulfill
      else s
    | .tqueueClosed => if s.manager.closeDbStarted then { s with tqueueClosed := true } else s
    | .webhookDbClosed => if s.manager.closeDbStarted then { s with webhookDbClosed := true } else s
    | .finishClose =>
      if s.tqueueClosed ∧ s.webhookDbClosed then (s.onManager S .finishClose x.now).fulfill else s

end ManagedClients

end TelegramBotApi
