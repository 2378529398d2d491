import TelegramBotApi.ClientDeparture
import TelegramBotApi.ClientEffects
import TelegramBotApi.FileStreamIdentity
import TelegramBotApi.RequestLog
import TelegramBotApi.StepRun

/-!
# Streams, a client and TDLib

The parties of file streaming with the messages between them. TDLib takes the requests of the client
in the order in which they were sent and may say anything at any time; what it says carries the
number of requests it had processed. Its messages reach the client in order, and so do the messages
of the client to one stream. `set_client` comes from the client manager, which starts the stream at
the client at the same time. The fields `started`, `readied` and `removed` only record which
`start_file_stream`, `on_file_ready` and `remove_file_stream` messages there were.
-/

namespace TelegramBotApi

structure TdMessage where
  event : Client.Event
  stamp : Nat
  deriving DecidableEq

/-- A message to a stream, with the message of TDLib that made the client send it. -/
structure StreamMail where
  event : StreamEvent
  origin : Option TdMessage := none
  deriving DecidableEq

structure StreamActor where
  setup : FileStreamSetup
  state : FileStreamConnection
  /-- `set_client` is on its way. -/
  greeting : Bool := false
  inbox : List StreamMail := []

/-- A `remove_file_stream` on its way to the client. -/
structure Removal where
  streamId : Int
  fileId : Int
  removeLocalFile : Bool
  deriving DecidableEq

structure StreamSystem where
  client : Client
  streams : Int → Option StreamActor := fun _ => none
  removals : List Removal := []
  requests : List TdRequest := []
  processed : Nat := 0
  reports : List TdMessage := []
  started : List Int := []
  readied : List (Int × Int) := []
  removed : List Int := []

namespace StreamActor

variable (a : StreamActor)

/-- A stopped actor gets no messages. -/
def receive (mails : List StreamMail) : StreamActor :=
  if a.state.stopped then a else { a with inbox := a.inbox ++ mails }

def step (x : StreamInput) : StreamActor := { a with state := a.state.step a.setup x }

end StreamActor

namespace StreamSystem

inductive Event where
  /-- A request of the streaming endpoint. -/
  | create (setup : FileStreamSetup)
  /-- The client manager accepts a stream. -/
  | connect (streamId now : Int)
  /-- The client manager refuses a stream. -/
  | refuse (streamId : Int) (error : Status) (io : FileAccess)
  | greet (streamId : Int) (io : FileAccess)
  | mail (streamId : Int) (io : FileAccess)
  | stream (streamId : Int) (event : StreamEvent) (io : FileAccess)
  | removal (removal : Removal) (now : Int)
  | external (event : Client.Event) (now : Int)
  | report (now : Int)
  | process
  | produce (event : Client.Event)

/-- Events that neither a stream nor TDLib sends. -/
def isExternal : Client.Event → Bool
  | .send _ | .close | .finishClosing | .timeoutExpired => true
  | _ => false

/-- TDLib answers requests that it was sent. -/
def isFromTdlib (c : Client) : Client.Event → Bool
  | .onResult n _ => n < c.nextHandlerId
  | .onUpdate _ | .onAuthorizationState _ => true
  | _ => false

/-- Events of a stream that come from its HTTP connection or its timer. -/
def isLocal : StreamEvent → Bool
  | .onHeadersFlushed _ | .onChunkFlushed _ | .timeoutExpired => true
  | _ => false

def mailOf (origin : Option TdMessage) (streamId : Int) : ClientAction → Option StreamMail
  | .stream id event => if id = streamId then some ⟨event, origin⟩ else none
  | _ => none

def requestOf : ClientAction → Option TdRequest
  | .request _ request => some request
  | _ => none

def removalOf : StreamAction → Option Removal
  | .send (.removeFileStream streamId fileId removeLocalFile) =>
    some ⟨streamId, fileId, removeLocalFile⟩
  | _ => none

variable (S : ClientSetup) (s : StreamSystem)

def streamStep (streamId : Int) (x : StreamInput) : StreamSystem :=
  match s.streams streamId with
  | none => s
  | some a =>
    { s with
      streams := Function.update s.streams streamId (some (a.step x))
      removals := s.removals ++ (a.step x).state.out.filterMap removalOf }

/-- Replaces a stream by what `f` makes of it. -/
def modify (streamId : Int) (f : StreamActor → StreamActor) : StreamSystem :=
  { s with streams := Function.update s.streams streamId ((s.streams streamId).map f) }

def takeMail (streamId : Int) (io : FileAccess) : StreamSystem :=
  match s.streams streamId with
  | none => s
  | some a => match a.inbox with
    | [] => s
    | mail :: rest =>
      (s.modify streamId fun a => { a with inbox := rest }).streamStep streamId ⟨mail.event, io⟩

def takeGreeting (streamId : Int) (io : FileAccess) : StreamSystem :=
  match s.streams streamId with
  | none => s
  | some a =>
    if a.greeting then
      (s.modify streamId fun a => { a with greeting := false }).streamStep streamId ⟨.setClient, io⟩
    else s

/-- What an event does outside the client. -/
def environment : Event → StreamSystem
  | .create setup => match s.streams setup.streamId with
    | some _ => s
    | none =>
      { s with
        streams := Function.update s.streams setup.streamId
          (some { setup := setup, state := FileStreamConnection.startUp setup }) }
  | .connect streamId _ =>
    if streamId ∈ s.started then s
    else s.modify streamId fun a => { a with greeting := !a.state.stopped }
  | .refuse streamId error io =>
    if streamId ∈ s.started then s else s.streamStep streamId ⟨.onFileError error, io⟩
  | .greet streamId io => s.takeGreeting streamId io
  | .mail streamId io => s.takeMail streamId io
  | .stream streamId event io => if isLocal event then s.streamStep streamId ⟨event, io⟩ else s
  | .removal r _ =>
    if r ∈ s.removals then
      { s with
        removals := s.removals.erase r
        removed := if s.client.isRunning then s.removed ++ [r.streamId] else s.removed }
    else s
  | .external _ _ => s
  | .report _ => { s with reports := s.reports.tail }
  | .process => { s with processed := min (s.processed + 1) s.requests.length }
  | .produce event =>
    if isFromTdlib s.client event then { s with reports := s.reports ++ [⟨event, s.processed⟩] }
    else s

/-- What an event makes the client handle. -/
def delivered : Event → Option (Client.Input × Option TdMessage)
  | .connect streamId now => match s.streams streamId with
    | none => none
    | some a =>
      if streamId ∈ s.started then none
      else some (⟨.startFileStream ⟨streamId, a.setup.route.fileId, a.setup.route.expectedSize⟩,
        now⟩, none)
  | .removal r now =>
    if r ∈ s.removals then
      some (⟨.removeFileStream r.streamId r.fileId r.removeLocalFile, now⟩, none)
    else none
  | .external event now => if isExternal event then some (⟨event, now⟩, none) else none
  | .report now => s.reports.head?.map fun m => (⟨m.event, now⟩, some m)
  | _ => none

/-- The client handles an event; its actions are sent on. -/
def clientStep (x : Client.Input) (origin : Option TdMessage) : StreamSystem :=
  let c := s.client.step S x
  { s with
    client := c
    streams := fun id => (s.streams id).map (·.receive (c.out.filterMap (mailOf origin id)))
    requests := s.requests ++ c.out.filterMap requestOf
    started := s.started ++ Client.startsOf x.event
    readied := s.readied ++ Client.readiesOf c.out }

def step (e : Event) : StreamSystem :=
  match s.delivered e with
  | none => s.environment e
  | some (x, origin) => (s.environment e).clientStep S x origin

def init (now : Int) : StreamSystem := { client := Client.startUp S now }

end StreamSystem

end TelegramBotApi
