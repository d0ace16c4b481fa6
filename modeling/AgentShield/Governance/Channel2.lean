import Mathlib.Data.List.Infix
import AgentShield.Lib.Async
import AgentShield.Lib.Dict
import AgentShield.Sdk.Schema

/-!
# The Channel-2 consumer

A consumer reads a batch of stream entries from a transport, hands every entry that
parses to its handler, and acknowledges it when the handler is done.  The transport
is a consumer group of Redis, or a log in memory with a cursor for each group.

A handler works on a state of its own, so a call of `runOnce` changes the transport
with its own steps only.  `Channel` keeps what the calls have read and acknowledged.
-/

namespace AgentShield.Governance

open AgentShield.Lib AgentShield.Lib.Async AgentShield.Sdk

def defaultStreamPrefix : String := "shield:actions"

def defaultGroup : String := "shield-governance"

/-- The stream of a workflow. -/
def streamKey (workflowId streamPrefix : String) : String := streamPrefix ++ ":" ++ workflowId

/-- One stream entry: an id and its fields. -/
structure StreamEntry where
  id : String
  fields : List (String × String)
  deriving DecidableEq

/-- The parsers of the record's model. -/
structure RecordModel where
  modelValidateJson : String → Option ShieldActionRecord
  modelValidate : List (String × String) → Option ShieldActionRecord

/-- The record of an entry: the JSON in its field `record`, or else its fields. -/
def decodeRecord (model : RecordModel) (entry : StreamEntry) : Option ShieldActionRecord :=
  match Dict.get? entry.fields "record" with
  | some raw => model.modelValidateJson raw
  | none => model.modelValidate entry.fields

/-! ## Transports -/

/-- What a call to a transport or a handler raises. -/
inductive Raised where
  | responseError (message : String)
  | other (message : String)
  deriving DecidableEq

/-- A transport with a state of type `σ`.  `xadd` is what a producer does to it. -/
structure Channel2Transport (σ : Type) where
  ensureGroup (stream group : String) : σ → σ × Except Raised Unit
  read (stream group consumer : String) (count blockMs : Int) :
    σ → σ × Except Raised (List StreamEntry)
  ack (stream group : String) (ids : List String) : σ → σ × Except Raised Unit
  xadd (stream : String) (fields : List (String × String)) : σ → σ

/-- `d.setdefault(k, v)`. -/
def setDefault {κ ν : Type} [DecidableEq κ] (d : Dict κ ν) (k : κ) (v : ν) : Dict κ ν :=
  match Dict.get? d k with
  | some _ => d
  | none => Dict.set d k v

/-- `xs[start:stop]` for a start that is not negative. -/
def slice {α : Type} (xs : List α) (start : Nat) (stop : Int) : List α :=
  let stop := if stop < 0 then stop + xs.length else stop
  (xs.take stop.toNat).drop start

/-- The streams in memory: their entries, the groups with their positions, and what was
acknowledged. -/
structure InMemoryChannel2 where
  streams : Dict String (List StreamEntry) := []
  groups : List (String × String) := []
  cursor : Dict (String × String) Nat := []
  acked : List (String × String × String) := []
  seq : Nat := 0
  deriving DecidableEq

namespace InMemoryChannel2

def entries (t : InMemoryChannel2) (stream : String) : List StreamEntry :=
  (Dict.get? t.streams stream).getD []

def position (t : InMemoryChannel2) (stream group : String) : Nat :=
  (Dict.get? t.cursor (stream, group)).getD 0

/-- Appends an entry.  A record is published as its JSON in the field `record`. -/
def publish (t : InMemoryChannel2) (stream : String) (fields : List (String × String)) :
    InMemoryChannel2 :=
  let eid := toString (t.seq + 1) ++ "-0"
  { t with
    seq := t.seq + 1
    streams := Dict.set t.streams stream (t.entries stream ++ [⟨eid, fields⟩]) }

/-- The group and the stream are made where they are not there; a group starts at the
beginning. -/
def ensureGroup (t : InMemoryChannel2) (stream group : String) : InMemoryChannel2 :=
  { t with
    groups := if (stream, group) ∈ t.groups then t.groups else t.groups ++ [(stream, group)]
    streams := setDefault t.streams stream []
    cursor := setDefault t.cursor (stream, group) 0 }

/-- A read takes the entries behind the group's position and moves the position past them,
acknowledged or not. -/
def read (t : InMemoryChannel2) (stream group : String) (count : Int) :
    InMemoryChannel2 × List StreamEntry :=
  let pos := t.position stream group
  let batch := slice (t.entries stream) pos (pos + count)
  ({ t with cursor := Dict.set t.cursor (stream, group) (pos + batch.length) }, batch)

/-- An acknowledgement is only noted. -/
def ack (t : InMemoryChannel2) (stream group : String) (ids : List String) :
    InMemoryChannel2 :=
  { t with acked := t.acked ++ ids.map fun i => (stream, group, i) }

def transport : Channel2Transport InMemoryChannel2 where
  ensureGroup stream group t := (t.ensureGroup stream group, .ok ())
  read stream group _ count _ t := let (t, batch) := t.read stream group count; (t, .ok batch)
  ack stream group ids t := (t.ack stream group ids, .ok ())
  xadd stream fields t := t.publish stream fields

end InMemoryChannel2

/-- A message of a stream as the client returns it. -/
abbrev RedisMessage := String × List (String × String)

/-- The stream commands of a Redis client with a state of type `σ`.  `xreadgroup` is the
call with the id `>`. -/
structure RedisStreams (σ : Type) where
  xgroupCreate (stream group : String) : σ → σ × Except Raised Unit
  xreadgroup (group consumer stream : String) (count block : Int) :
    σ → σ × Except Raised (Option (List (String × List RedisMessage)))
  xack (stream group : String) (ids : List String) : σ → σ × Except Raised Unit
  xadd (stream : String) (fields : List (String × String)) : σ → σ

namespace RedisStreams

variable {σ : Type} (redis : RedisStreams σ)

/-- A group that exists already is no error. -/
def ensureGroup (stream group : String) (s : σ) : σ × Except Raised Unit :=
  match redis.xgroupCreate stream group s with
  | (s, .error (.responseError message)) =>
      if "BUSYGROUP".toList <:+: message.toList then (s, .ok ())
      else (s, .error (.responseError message))
  | (s, r) => (s, r)

/-- The entries in the answer of a read. -/
def messages (resp : Option (List (String × List RedisMessage))) : List StreamEntry :=
  (resp.getD []).flatMap fun (_, messages) => messages.map fun (id, fields) => ⟨id, fields⟩

def transport : Channel2Transport σ where
  ensureGroup := redis.ensureGroup
  read stream group consumer count blockMs s :=
    match redis.xreadgroup group consumer stream count blockMs s with
    | (s, .ok resp) => (s, .ok (messages resp))
    | (s, .error e) => (s, .error e)
  ack stream group ids s :=
    if ids = [] then (s, .ok ()) else redis.xack stream group ids s
  xadd := redis.xadd

end RedisStreams

/-! ## The consumer -/

/-- The transport, the state of the handlers, and the history: every entry that a read
has returned, and every id that has been acknowledged, with its stream and group. -/
structure Channel (σ τ : Type) where
  transport : σ
  outside : τ
  returned : List (String × String × StreamEntry) := []
  acked : List (String × String × String) := []

/-- Who reads a stream, and as whom. -/
structure Channel2Consumer where
  streamPrefix : String := defaultStreamPrefix
  group : String := defaultGroup
  consumer : String := "gov-1"

/-- One call of `runOnce`: the consumer, the workflow whose stream is read, the handler of a
record, and how many entries are read and how long is waited. -/
structure RunOnce (τ : Type) where
  consumer : Channel2Consumer := {}
  workflowId : String
  handler : ShieldActionRecord → Async τ Raised Unit
  count : Int := 16
  blockMs : Int := 1000

section Consumer

variable {σ τ : Type} (t : Channel2Transport σ) (model : RecordModel)

def Channel.ensureGroup (stream group : String) (w : Channel σ τ) :
    Channel σ τ × Except Raised Unit :=
  let (s, r) := t.ensureGroup stream group w.transport
  ({ w with transport := s }, r)

def Channel.read (stream group consumer : String) (count blockMs : Int) (w : Channel σ τ) :
    Channel σ τ × Except Raised (List StreamEntry) :=
  match t.read stream group consumer count blockMs w.transport with
  | (s, .ok batch) =>
      ({ w with
          transport := s
          returned := w.returned ++ batch.map fun entry => (stream, group, entry) }, .ok batch)
  | (s, .error e) => ({ w with transport := s }, .error e)

def Channel.ack (stream group : String) (ids : List String) (w : Channel σ τ) :
    Channel σ τ × Except Raised Unit :=
  match t.ack stream group ids w.transport with
  | (s, .ok ()) =>
      ({ w with
          transport := s
          acked := w.acked ++ ids.map fun i => (stream, group, i) }, .ok ())
  | (s, .error e) => ({ w with transport := s }, .error e)

/-- The loop over a batch.  An entry that does not parse is skipped and stays
unacknowledged. -/
def processEntries (stream group : String) (handler : ShieldActionRecord → Async τ Raised Unit) :
    List StreamEntry → Nat → Async (Channel σ τ) Raised Nat
  | [], handled => pure handled
  | entry :: rest, handled =>
      match decodeRecord model entry with
      | none => processEntries stream group handler rest handled
      | some record => do
          within Channel.outside (fun w o => { w with outside := o }) (handler record)
          call (Channel.ack t stream group [entry.id])
          processEntries stream group handler rest (handled + 1)

/-- Reads one batch and returns the number of entries handled and acknowledged. -/
def runOnce (once : RunOnce τ) : Async (Channel σ τ) Raised Nat := do
  let stream := streamKey once.workflowId once.consumer.streamPrefix
  call (Channel.ensureGroup t stream once.consumer.group)
  let entries ← call (Channel.read t stream once.consumer.group once.consumer.consumer
    once.count once.blockMs)
  processEntries t model stream once.consumer.group once.handler entries 0

/-- What happens outside the calls: a producer appends an entry, or the state of the
handlers changes. -/
inductive ChannelEvent (τ : Type) where
  | xadd (stream : String) (fields : List (String × String))
  | outside (f : τ → τ)

/-- The calls of `runOnce` on one transport, with producers that add entries and other
activity between their steps. -/
def channelService (fault : Raised) : Service (Channel σ τ) Raised where
  Req := RunOnce τ
  Res := Nat
  handle := runOnce t model
  Ext := ChannelEvent τ
  external
    | .xadd stream fields, w => { w with transport := t.xadd stream fields w.transport }
    | .outside f, w => { w with outside := f w.outside }
  fault := fault

end Consumer

end AgentShield.Governance
