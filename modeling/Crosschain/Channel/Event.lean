import Crosschain.Channel.Packet

/-!
# Events

What the channel layer tells the host about: steps of the handshakes, the fate of packets, and
channel ends that close. An event can be flattened into pairs of keys and values.
-/

namespace Crosschain

/-! ### Kinds of events -/

/-- The steps of opening and closing a channel end that the end's own chain takes. -/
inductive HandshakeStep
  | openInit
  | openTry
  | openAck
  | openConfirm
  | closeInit
  deriving DecidableEq, Repr

inductive UpgradeStage
  | init
  | answered
  | ack
  | confirm
  | opened
  | cancelled
  | timedOut
  deriving DecidableEq, Repr

/-- What happens to a packet, but for its acknowledgement being written. -/
inductive PacketStage
  | sent
  | received
  | acknowledged
  | timedOut
  deriving DecidableEq, Repr

inductive EventKind
  | handshake (step : HandshakeStep)
  | closed
  | upgrade (stage : UpgradeStage)
  | upgradeError
  | packet (stage : PacketStage)
  | acknowledgement
  deriving DecidableEq, Repr

namespace EventKind

/-- The name of a kind as the host shows it. -/
def text : EventKind → String
  | .handshake .openInit => "channel_open_init"
  | .handshake .openTry => "channel_open_try"
  | .handshake .openAck => "channel_open_ack"
  | .handshake .openConfirm => "channel_open_confirm"
  | .handshake .closeInit => "channel_close_init"
  | .closed => "channel_closed"
  | .upgrade .init => "channel_upgrade_init"
  | .upgrade .answered => "channel_upgrade_try"
  | .upgrade .ack => "channel_upgrade_ack"
  | .upgrade .confirm => "channel_upgrade_confirm"
  | .upgrade .opened => "channel_upgrade_open"
  | .upgrade .cancelled => "channel_upgrade_cancelled"
  | .upgrade .timedOut => "channel_upgrade_timeout"
  | .upgradeError => "channel_upgrade_error"
  | .packet .sent => "send_packet"
  | .packet .received => "recv_packet"
  | .acknowledgement => "write_acknowledgement"
  | .packet .acknowledged => "acknowledge_packet"
  | .packet .timedOut => "timeout_packet"

def name : EventKind → String
  | .handshake .openInit => "OpenInitChannel"
  | .handshake .openTry => "OpenTryChannel"
  | .handshake .openAck => "OpenAckChannel"
  | .handshake .openConfirm => "OpenConfirmChannel"
  | .handshake .closeInit => "CloseInitChannel"
  | .closed => "ChannelClosed"
  | .upgrade .init => "UpgradeInitChannel"
  | .upgrade .answered => "UpgradeTryChannel"
  | .upgrade .ack => "UpgradeAckChannel"
  | .upgrade .confirm => "UpgradeConfirmChannel"
  | .upgrade .opened => "UpgradeOpenChannel"
  | .upgrade .cancelled => "UpgradeCancelChannel"
  | .upgrade .timedOut => "UpgradeTimeoutChannel"
  | .upgradeError => "UpgradeErrorChannel"
  | .packet .sent => "SendPacket"
  | .packet .received => "ReceivePacket"
  | .acknowledgement => "WriteAcknowledgement"
  | .packet .acknowledged => "AcknowledgePacket"
  | .packet .timedOut => "TimeoutPacket"

end EventKind

/-! ### What events carry -/

/-- A pair of the flattened form. -/
abbrev Attribute := String × String

/-- The names of an end, of its connection and of its peer. -/
structure EndAttributes where
  port : PortId
  channel : Option ChannelId
  connection : ConnectionId
  peer : ChannelPeer
  deriving DecidableEq, Repr

namespace EndAttributes

def pairs (a : EndAttributes) : List Attribute :=
  [("port_id", a.port.text)] ++ (a.channel.map fun c => ("channel_id", c.text)).toList
    ++ [("counterparty_port_id", a.peer.port.text)]
    ++ (a.peer.channel.map fun c => ("counterparty_channel_id", c.text)).toList
    ++ [("connection_id", a.connection.text)]

def toJson (a : EndAttributes) : Json :=
  .obj [("port_id", a.port.toJson), ("channel_id", .option Identifier.toJson a.channel),
    ("connection_id", a.connection.toJson), ("counterparty_port_id", a.peer.port.toJson),
    ("counterparty_channel_id", .option Identifier.toJson a.peer.channel)]

end EndAttributes

/-- The names of an end and of its peer, with the upgrade on its way. -/
structure UpgradeAttributes where
  owner : EndId
  peer : ChannelPeer
  sequence : Sequence
  fields : UpgradeFields
  deriving DecidableEq, Repr

namespace UpgradeAttributes

def ofEnd (owner : EndId) (e : ChannelEnd) (fields : UpgradeFields) : UpgradeAttributes :=
  ⟨owner, e.peer, e.upgradeSequence, fields⟩

def pairs (a : UpgradeAttributes) : List Attribute :=
  [("port_id", a.owner.port.text), ("channel_id", a.owner.channel.text),
    ("counterparty_port_id", a.peer.port.text)]
    ++ (a.peer.channel.map fun c => ("counterparty_channel_id", c.text)).toList
    ++ [("upgrade_sequence", Word.text a.sequence),
      ("upgrade_connection_hops", ",".intercalate (a.fields.hops.map Identifier.text)),
      ("upgrade_version", a.fields.version), ("upgrade_ordering", a.fields.ordering.text)]

def toJson (a : UpgradeAttributes) : Json :=
  .obj [("port_id", a.owner.port.toJson), ("channel_id", a.owner.channel.toJson),
    ("counterparty_port_id", a.peer.port.toJson),
    ("counterparty_channel_id", .option Identifier.toJson a.peer.channel),
    ("upgrade_sequence", .word a.sequence), ("upgrade_fields", a.fields.toJson)]

end UpgradeAttributes

/-! ### Events -/

inductive Event
  | handshake (step : HandshakeStep) (attributes : EndAttributes)
  /-- A timeout closed an ordered channel end. -/
  | closed (attributes : EndAttributes) (ordering : Order)
  | upgrade (stage : UpgradeStage) (attributes : UpgradeAttributes)
  /-- An upgrade was given up and an error receipt written. -/
  | upgradeError (owner : EndId) (receipt : ErrorReceipt)
  | packet (stage : PacketStage) (packet : Packet)
  | acknowledgement (packet : Packet) (ack : Acknowledgement)
  deriving DecidableEq, Repr

namespace Event

def kind : Event → EventKind
  | .handshake step _ => .handshake step
  | .closed _ _ => .closed
  | .upgrade stage _ => .upgrade stage
  | .upgradeError _ _ => .upgradeError
  | .packet stage _ => .packet stage
  | .acknowledgement _ _ => .acknowledgement

def packet? : Event → Option Packet
  | .packet _ p => some p
  | .acknowledgement p _ => some p
  | _ => none

/-- The display of an event: its kind, and its packet if it is about one. -/
def text (e : Event) : String :=
  match e.packet? with
  | some p => e.kind.text ++ "(" ++ p.text ++ ")"
  | none => e.kind.text

/-- The fields of a packet as pairs. -/
def packetPairs [Digest] (p : Packet) : List Attribute :=
  [("packet_sequence", Word.text p.sequence), ("packet_src_port", p.source.port.text),
    ("packet_src_channel", p.source.channel.text), ("packet_dst_port", p.destination.port.text),
    ("packet_dst_channel", p.destination.channel.text),
    ("packet_timeout_height", p.timeoutHeight.text),
    ("packet_timeout_timestamp", p.timeoutTime.nanoseconds.repr),
    ("packet_data_hex", Hex.encode .lower p.data),
    ("packet_data_hash", Hex.encode .lower (Digest.hash p.data))]

def pairs [Digest] : Event → List Attribute
  | .handshake _ a => a.pairs
  | .closed a ordering => a.pairs ++ [("packet_channel_ordering", ordering.text)]
  | .upgrade _ a => a.pairs
  | .upgradeError e r =>
    [("port_id", e.port.text), ("channel_id", e.channel.text),
      ("upgrade_sequence", Word.text r.sequence), ("upgrade_error_receipt", r.message)]
  | .packet _ p => packetPairs p
  | .acknowledgement p ack => packetPairs p ++ [("packet_ack_hex", Hex.encode .lower ack)]

/-- The first value under a key of the flattened form. -/
def attribute? [Digest] (e : Event) (key : String) : Option String := e.pairs.lookup key

/-- What an event carries. -/
def bodyJson : Event → Json
  | .handshake _ a => a.toJson
  | .closed a ordering => .obj [("attributes", a.toJson), ("channel_ordering", ordering.toJson)]
  | .upgrade _ a => a.toJson
  | .upgradeError e r =>
    .obj [("port_id", e.port.toJson), ("channel_id", e.channel.toJson),
      ("upgrade_sequence", .word r.sequence), ("message", .str r.message)]
  | .packet _ p => .obj [("packet", p.toJson)]
  | .acknowledgement p ack => .obj [("packet", p.toJson), ("ack", .bytes ack)]

def toJson (e : Event) : Json := .obj [(e.kind.name, e.bodyJson)]

def flatJson [Digest] (e : Event) : Json :=
  .obj [("kind", .str e.kind.text),
    ("attributes", .list (fun a => .array [.str a.1, .str a.2]) e.pairs)]

end Event

/-! ### Outputs -/

/-- What a step of the channel layer brings forth: a result to be stored, lines for people to read,
and events to be sent once the result is stored. -/
structure Output (α : Type) where
  result : α
  log : List String
  events : List Event

namespace Output

variable {α β : Type}

def append (o : Output α) (log : List String) (events : List Event) : Output α :=
  { o with log := o.log ++ log, events := o.events ++ events }

def map (f : α → β) (o : Output α) : Output β := ⟨f o.result, o.log, o.events⟩

end Output

end Crosschain
