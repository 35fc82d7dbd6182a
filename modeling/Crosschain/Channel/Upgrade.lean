import Crosschain.Channel.Error

/-!
# Upgrades of a channel

An upgrade renegotiates the ordering, the connection hops and the version of an open channel. A
proposal has a deadline for the other chain and holds the last sequence sent before it; an upgrade
that failed leaves an error receipt.
-/

namespace Crosschain

/-- The version of a channel, which only its applications understand. -/
abbrev ChannelVersion := String

/-! ### Fields -/

structure UpgradeFields where
  ordering : Order
  hops : List ConnectionId
  version : ChannelVersion
  deriving DecidableEq, Repr

namespace UpgradeFields

/-- The one hop of a list of hops; channels over more hops are not supported. -/
def oneHop (hops : List ConnectionId) : Except ChannelError ConnectionId :=
  match hops with
  | [hop] => .ok hop
  | hops => .error (.hopCount 1 hops.length)

def hop (f : UpgradeFields) : Except ChannelError ConnectionId := oneHop f.hops

/-- Whether two proposals agree on ordering and version. Hops name connections of one chain, so
they are compared elsewhere. -/
def agreesWith (f g : UpgradeFields) : Bool := f.ordering = g.ordering ∧ f.version = g.version

def text (f : UpgradeFields) : String :=
  "UpgradeFields \x7b ordering: " ++ f.ordering.text ++ ", connection_hops: "
    ++ Identifier.debugList f.hops ++ ", version: " ++ f.version ++ " \x7d"

def toJson (f : UpgradeFields) : Json :=
  .obj [("ordering", f.ordering.toJson), ("connection_hops", .list Identifier.toJson f.hops),
    ("version", .str f.version)]

def ofJson? (j : Json) : Option UpgradeFields := do
  match ← j.fields? ["ordering", "connection_hops", "version"] with
  | [some ordering, some hops, some version] =>
    pure ⟨← Order.ofJson? ordering, ← hops.asList? Identifier.ofJson?, ← version.asText?⟩
  | _ => none

end UpgradeFields

/-! ### Deadlines -/

/-- The deadline of an upgrade, by the height and the time of the other chain. -/
structure UpgradeTimeout where
  height : TimeoutHeight
  timestamp : Timestamp
  deriving DecidableEq, Repr

namespace UpgradeTimeout

def unset : UpgradeTimeout := ⟨.never, .unset⟩

def atHeight (h : Height) : UpgradeTimeout := ⟨.atHeight h, .unset⟩

def atTimestamp (t : Timestamp) : UpgradeTimeout := ⟨.never, t⟩

/-- Whether a bound is set, so that the deadline can elapse. -/
def isSet (t : UpgradeTimeout) : Bool := t.height.isSet || t.timestamp.isSet

/-- A deadline with at least one bound. -/
def ofParts (height : TimeoutHeight) (timestamp : Timestamp) : Except ChannelError UpgradeTimeout :=
  if (UpgradeTimeout.mk height timestamp).isSet then .ok ⟨height, timestamp⟩
  else .error .upgradeTimeoutUnset

/-- Whether a chain at a height and a time has reached the deadline. -/
def elapsedAt (t : UpgradeTimeout) (height : Height) (now : Timestamp) : Bool :=
  t.height.reachedAt height || t.timestamp.reachedAt now

def text (t : UpgradeTimeout) : String :=
  "UpgradeTimeout \x7b height: " ++ t.height.text ++ ", timestamp: " ++ t.timestamp.text ++ " \x7d"

def toJson (t : UpgradeTimeout) : Json :=
  .obj [("height", t.height.toJson), ("timestamp", t.timestamp.toJson)]

def ofJson? (j : Json) : Option UpgradeTimeout := do
  match ← j.fields? ["height", "timestamp"] with
  | [some height, some timestamp] =>
    pure ⟨← TimeoutHeight.ofJson? height, ← Timestamp.ofJson? timestamp⟩
  | _ => none

end UpgradeTimeout

/-! ### Proposals -/

/-- An upgrade on its way, as one end stores it. -/
structure Upgrade where
  fields : UpgradeFields
  timeout : UpgradeTimeout
  /-- The last sequence sent when the upgrade was proposed or answered. -/
  latestSend : Sequence
  deriving DecidableEq, Repr

namespace Upgrade

def toJson (u : Upgrade) : Json :=
  .obj [("fields", u.fields.toJson), ("timeout", u.timeout.toJson),
    ("latest_sequence_send", .word u.latestSend)]

def ofJson? (j : Json) : Option Upgrade := do
  match ← j.fields? ["fields", "timeout", "latest_sequence_send"] with
  | [some fields, some timeout, some sequence] =>
    pure ⟨← UpgradeFields.ofJson? fields, ← UpgradeTimeout.ofJson? timeout, ← sequence.asWord?⟩
  | _ => none

def encode (u : Upgrade) : Bytes := u.toJson.encode

end Upgrade

/-! ### Failures -/

/-- What an end leaves behind when it gave an upgrade up. -/
structure ErrorReceipt where
  sequence : Sequence
  message : String
  deriving DecidableEq, Repr

namespace ErrorReceipt

/-- The receipt of an upgrade given up because of an error. -/
def ofError {ε : Type} [Explains ε] (sequence : Sequence) (e : ε) : ErrorReceipt :=
  ⟨sequence, report e⟩

def toJson (r : ErrorReceipt) : Json :=
  .obj [("sequence", .word r.sequence), ("message", .str r.message)]

def ofJson? (j : Json) : Option ErrorReceipt := do
  match ← j.fields? ["sequence", "message"] with
  | [some sequence, some message] => pure ⟨← sequence.asWord?, ← message.asText?⟩
  | _ => none

def encode (r : ErrorReceipt) : Bytes := r.toJson.encode

end ErrorReceipt

end Crosschain
