import TelegramBotApi.BinlogEventsProcessor

/-!
# Binlogs

`Binlog` reads its file at the start and appends to it afterwards; when most of the file is about events
that are gone, it writes the others into a new file and replaces the old one by it. The server opens its
binlogs without a key, so that an encryption event ends the loading; what else is about encryption is left
out, and so are the debug output, the times of the flushes and the events buffer, which is turned off.
Operations on files succeed.
-/

namespace TelegramBotApi

open LittleEndian

structure BinlogReader where
  /-- The state is `State::ReadEvent`, and `size_` has been read. -/
  size : Option Nat := none
  offset : Nat := 0
  deriving DecidableEq

inductive BinlogReadError where
  /-- "Too big event". -/
  | tooBig
  /-- "Too small event". -/
  | tooSmall
  /-- The size is not divisible by four, an error -2. -/
  | unaligned
  | invalid (error : BinlogEvent.ValidationError)
  deriving DecidableEq

inductive BinlogReadNext where
  | needSize (size : Nat) (reader : BinlogReader)
  | event (event : BinlogEvent) (reader : BinlogReader) (input : Bytes)
  | error (error : BinlogReadError)
  deriving DecidableEq

namespace BinlogReader

variable (crc32 : Bytes → UInt32)

/-- `read_next` after the size is known. -/
def readEvent (reader : BinlogReader) (size : Nat) (input : Bytes) : BinlogReadNext :=
  if input.length < size then .needSize size { reader with size := some size }
  else
    let event := BinlogEvent.init (input.take size)
    match event.validate crc32 with
    | .error error => .error (.invalid error)
    | .ok _ =>
      let offset := reader.offset + size
      .event { event with offset := offset } { size := none, offset := offset } (input.drop size)

def readNext (reader : BinlogReader) (input : Bytes) : BinlogReadNext :=
  match reader.size with
  | some size => reader.readEvent crc32 size input
  | none =>
    if input.length < 4 then .needSize 4 reader
    else
      let size := decode (input.take 4)
      if BinlogEvent.maxSize < size then .error .tooBig
      else if size < BinlogEvent.minSize then .error .tooSmall
      else if size % 4 ≠ 0 then .error .unaligned
      else reader.readEvent crc32 size input

end BinlogReader

/-- The members of `Binlog` that are about its events. -/
structure Binlog where
  processor : BinlogEventsProcessor := {}
  pendingEvents : List BinlogEvent := []
  fdSize : Nat := 0
  lastEventId : Nat := 0

inductive LoadFailure where
  /-- An event that `BinlogEventsProcessor` refuses; the process stops. -/
  | badEvent
  /-- An event of an unaligned size; the process stops. -/
  | unaligned
  /-- The binlog is encrypted, and there is no key. -/
  | wrongPassword
  deriving DecidableEq

namespace Binlog

/-- `do_event` while the file is loaded. -/
def loadEvent (b : Binlog) (event : BinlogEvent) : Except LoadFailure Binlog :=
  if event.type = BinlogEvent.typeAesCtrEncryption then .error .wrongPassword
  else match b.processor.doEvent event with
    | none => .error .badEvent
    | some processor => .ok { b with processor := processor, fdSize := b.fdSize + event.rawEvent.length }

/-- `do_add_event`, over either `do_event`. -/
def doAddEvent {σ ε : Type} (doEvent : σ → BinlogEvent → Except ε σ) (pendingEvents : List BinlogEvent)
    (s : σ) (event : BinlogEvent) : Except ε (List BinlogEvent × σ) :=
  if event.isPartial then
    .ok (pendingEvents ++ [{ event with flags := event.flags - BinlogEvent.flagPartial }], s)
  else do
    let s ← pendingEvents.foldlM doEvent s
    let s ← doEvent s event
    return ([], s)

/-- The loop of `load_binlog`; `input` has been read from the file, `rest` not yet. The loop ends with the
binlog, or with the failure and the size that the file is cut to. -/
def loadLoop (crc32 : Bytes → UInt32) :
    Nat → BinlogReader → Bytes → Bytes → Binlog → Option (Except (LoadFailure × Nat) Binlog)
  | 0, _, _, _, _ => none
  | fuel + 1, reader, input, rest, b =>
    match reader.readNext crc32 input with
    | .error .unaligned => some (.error (.unaligned, reader.offset))
    | .error _ => some (.ok b)
    | .event event reader input =>
      match doAddEvent loadEvent b.pendingEvents b event with
      | .error failure => some (.error (failure, b.fdSize))
      | .ok r => loadLoop crc32 fuel reader input rest { r.2 with pendingEvents := r.1 }
    | .needSize size reader =>
      let input' := input ++ rest.take (max size 4096)
      if input'.length < size then some (.ok b)
      else loadLoop crc32 fuel reader input' (rest.drop (max size 4096)) b

/-- `load_binlog` and the rest of `init`: the binlog and its file, which is cut behind the last event. -/
def load (crc32 : Bytes → UInt32) (file : Bytes) : Option (Except (LoadFailure × Bytes) (Binlog × Bytes)) :=
  (loadLoop crc32 (file.length + 4) {} [] file {}).map fun
    | .error e => .error (e.1, file.take e.2)
    | .ok b => .ok ({ b with lastEventId := b.processor.lastEventId }, file.take b.processor.offset.toNat)

end Binlog

structure BinlogFile where
  binlog : Binlog
  /-- The file at `path_`. -/
  disk : Bytes
  /-- `buffer_reader_`. -/
  buffer : Bytes := []
  /-- The bytes of the file that a crash of the machine leaves. -/
  synced : Nat

namespace BinlogFile

/-- A binlog that was loaded. `load_binlog` does not synchronize the file: a start is assumed to follow a crash of
the machine, so that what it reads is on the disk, and its truncation is assumed to stay. -/
def opened (b : Binlog) (file : Bytes) : BinlogFile where
  binlog := b
  disk := file
  synced := file.length

def flush (f : BinlogFile) : BinlogFile := { f with disk := f.disk ++ f.buffer, buffer := [] }

def sync (f : BinlogFile) : BinlogFile := { f.flush with synced := f.flush.disk.length }

def lazyFlush (f : BinlogFile) : BinlogFile := if 2 ^ 14 < f.buffer.length then f.flush else f

variable (crc32 : Bytes → UInt32)

/-- `do_event` of a binlog that runs; an error stops the process. -/
def doEvent (f : BinlogFile) (event : BinlogEvent) : Except Unit BinlogFile :=
  match event.validate crc32 with
  | .error _ => .error ()
  | .ok _ =>
    if event.type = BinlogEvent.typeAesCtrEncryption then .error ()
    else match f.binlog.processor.doEvent event with
      | none => .error ()
      | some processor => .ok { f with
          binlog := { f.binlog with processor := processor, fdSize := f.binlog.fdSize + event.rawEvent.length }
          buffer := f.buffer ++ event.rawEvent }

def regenerated (f : BinlogFile) : Bytes := (f.binlog.processor.alive.map (·.2.rawEvent)).flatten

/-- `do_reindex`, after the new file has replaced the old one. It is synchronized before, unless the old
one was empty. -/
def doReindex (f : BinlogFile) : BinlogFile where
  binlog := { f.binlog with fdSize := f.regenerated.length }
  disk := f.regenerated
  synced := if f.disk = [] then 0 else f.regenerated.length

def needReindex (f : BinlogFile) (minSize rate : Nat) : Bool :=
  minSize < f.binlog.fdSize ∧ f.binlog.processor.totalRawEventsSize < (f.binlog.fdSize / rate : Nat)

def reindexIfNeeded (f : BinlogFile) : BinlogFile :=
  if f.needReindex 50000 5 || f.needReindex 100000 4 || f.needReindex 300000 3 || f.needReindex 500000 2 then
    f.doReindex
  else f

def addEvent (f : BinlogFile) (event : BinlogEvent) : Except Unit BinlogFile :=
  if event.size % 4 ≠ 0 then .error ()
  else do
    let r ← Binlog.doAddEvent (doEvent crc32) f.binlog.pendingEvents f event
    let f := { r.2 with binlog := { r.2.binlog with pendingEvents := r.1 } }
    return f.lazyFlush.reindexIfNeeded

def addRawEvent (f : BinlogFile) (rawEvent : Bytes) : Except Unit BinlogFile :=
  f.addEvent crc32 (BinlogEvent.init rawEvent)

end BinlogFile

structure BinlogFiles where
  main : Option Bytes
  new : Option Bytes
  deriving DecidableEq

inductive FileOp where
  | openNew
  | writeNew (bytes : Bytes)
  | unlinkMain
  | renameNew

namespace BinlogFiles

def apply (files : BinlogFiles) : FileOp → BinlogFiles
  | .openNew => { files with new := some [] }
  | .writeNew bytes => { files with new := files.new.map (· ++ bytes) }
  | .unlinkMain => { files with main := none }
  | .renameNew => { main := files.new, new := none }

/-- `do_reindex`, with the parts in which the new file is written. -/
def reindexOps (parts : List Bytes) : List FileOp :=
  .openNew :: (parts.map .writeNew ++ [.unlinkMain, .renameNew])

/-- The file that `init` opens: the new one if there is no other. -/
def opened (files : BinlogFiles) : Bytes := (files.main.or files.new).getD []

end BinlogFiles

end TelegramBotApi
