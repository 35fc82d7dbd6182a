import Crosschain.Channel.Event

/-!
# Messages

What relayers bring from the other chain: the steps of the opening handshake and of an upgrade, and
packets with their acknowledgements and timeouts. Two further messages, which start an upgrade and
close a channel, come from the application that owns the end. Each message has a name on the wire
and checks that need no store.
-/

namespace Crosschain

/-- The name of the layer that takes all messages. -/
def messageRoute : String := "ibc"

/-- The name of a message on the wire. -/
def messageUrl (name : String) : String := "/ibc.core.channel.v1.Msg" ++ name

/-! ### Opening a channel -/

/-- Proposes a channel. -/
structure OpenInit where
  port : PortId
  proposal : ChannelEnd
  deriving DecidableEq, Repr

/-- Answers a proposal of the other chain. -/
structure OpenTry where
  port : PortId
  proposal : ChannelEnd
  peerVersion : ChannelVersion
  evidence : Evidence
  deriving DecidableEq, Repr

/-- Tells the proposing end of the answer. -/
structure OpenAck where
  owner : EndId
  peerChannel : ChannelId
  peerVersion : ChannelVersion
  evidence : Evidence
  deriving DecidableEq, Repr

/-- Tells the answering end that the other one is open. -/
structure OpenConfirm where
  owner : EndId
  evidence : Evidence
  deriving DecidableEq, Repr

/-- The relayed messages of the opening handshake. -/
inductive HandshakeMessage
  | openInit (m : OpenInit)
  | openTry (m : OpenTry)
  | openAck (m : OpenAck)
  | openConfirm (m : OpenConfirm)
  deriving DecidableEq, Repr

namespace HandshakeMessage

def port : HandshakeMessage → PortId
  | .openInit m => m.port
  | .openTry m => m.port
  | .openAck m => m.owner.port
  | .openConfirm m => m.owner.port

def url : HandshakeMessage → String
  | .openInit _ => messageUrl "ChannelOpenInit"
  | .openTry _ => messageUrl "ChannelOpenTry"
  | .openAck _ => messageUrl "ChannelOpenAck"
  | .openConfirm _ => messageUrl "ChannelOpenConfirm"

/-- The checks that need no store. -/
def validate : HandshakeMessage → Except ChannelError Unit
  | .openInit m => m.proposal.validate
  | .openTry m => do
    m.proposal.validate
    if m.proposal.peer.channel.isNone then .error .peerChannelUnknown else .ok ()
  | .openAck _ => .ok ()
  | .openConfirm _ => .ok ()

end HandshakeMessage

/-! ### Upgrading a channel -/

/-- Answers an upgrade the other chain proposed. -/
structure UpgradeTry where
  owner : EndId
  hops : List ConnectionId
  timeout : UpgradeTimeout
  peerUpgrade : Upgrade
  peerSequence : Sequence
  evidence : Evidence
  deriving DecidableEq, Repr

/-- Tells the proposing end of the answer. -/
structure UpgradeAck where
  owner : EndId
  peerUpgrade : Upgrade
  evidence : Evidence
  deriving DecidableEq, Repr

/-- Tells the answering end that the other one saw its answer. -/
structure UpgradeConfirm where
  owner : EndId
  evidence : Evidence
  deriving DecidableEq, Repr

/-- Tells an end that saw the answer that the other one is done or saw its answer too. -/
structure UpgradeOpen where
  owner : EndId
  peerState : ChannelState
  evidence : Evidence
  deriving DecidableEq, Repr

/-- Tells an end that the other one gave the upgrade up. -/
structure UpgradeCancel where
  owner : EndId
  receipt : ErrorReceipt
  evidence : Evidence
  deriving DecidableEq, Repr

/-- Tells an end that the other one did not move before the deadline. -/
structure UpgradeExpire where
  owner : EndId
  peerEnd : ChannelEnd
  evidence : Evidence
  deriving DecidableEq, Repr

/-- The relayed messages of an upgrade. -/
inductive UpgradeMessage
  | answer (m : UpgradeTry)
  | ack (m : UpgradeAck)
  | confirm (m : UpgradeConfirm)
  | finish (m : UpgradeOpen)
  | cancel (m : UpgradeCancel)
  | expire (m : UpgradeExpire)
  deriving DecidableEq, Repr

namespace UpgradeMessage

def owner : UpgradeMessage → EndId
  | .answer m => m.owner
  | .ack m => m.owner
  | .confirm m => m.owner
  | .finish m => m.owner
  | .cancel m => m.owner
  | .expire m => m.owner

def url : UpgradeMessage → String
  | .answer _ => messageUrl "ChannelUpgradeTry"
  | .ack _ => messageUrl "ChannelUpgradeAck"
  | .confirm _ => messageUrl "ChannelUpgradeConfirm"
  | .finish _ => messageUrl "ChannelUpgradeOpen"
  | .cancel _ => messageUrl "ChannelUpgradeCancel"
  | .expire _ => messageUrl "ChannelUpgradeTimeout"

def needsSecond (e : Evidence) : Except ChannelError Unit :=
  (e.second.mapError .badEvidence).map fun _ => ()

def validate : UpgradeMessage → Except ChannelError Unit
  | .answer m =>
    if m.hops.length ≠ 1 then .error (.hopCount 1 m.hops.length)
    else if !m.timeout.isSet then .error .upgradeTimeoutUnset
    else needsSecond m.evidence
  | .ack m => needsSecond m.evidence
  | .confirm _ => .ok ()
  | .finish m =>
    match m.peerState with
    | .opened | .ackUpgrade => .ok ()
    | s => .error (.wrongState m.owner.channel s)
  | .cancel _ => .ok ()
  | .expire _ => .ok ()

end UpgradeMessage

/-! ### Packets -/

/-- Brings a packet to its destination. -/
structure ReceivePacket where
  packet : Packet
  evidence : Evidence
  deriving DecidableEq, Repr

/-- Brings the answer to a packet back to its source. -/
structure AcknowledgePacket where
  packet : Packet
  ack : Acknowledgement
  evidence : Evidence
  deriving DecidableEq, Repr

/-- Tells the source that the destination did not receive a packet in time. -/
structure TimeoutPacket where
  packet : Packet
  nextRecv : Sequence
  evidence : Evidence
  deriving DecidableEq, Repr

/-- The relayed messages about packets. -/
inductive PacketMessage
  | receive (m : ReceivePacket)
  | acknowledge (m : AcknowledgePacket)
  | timeout (m : TimeoutPacket)
  deriving DecidableEq, Repr

namespace PacketMessage

def packet : PacketMessage → Packet
  | .receive m => m.packet
  | .acknowledge m => m.packet
  | .timeout m => m.packet

def owner : PacketMessage → EndId
  | .receive m => m.packet.destination
  | .acknowledge m => m.packet.source
  | .timeout m => m.packet.source

def url : PacketMessage → String
  | .receive _ => messageUrl "RecvPacket"
  | .acknowledge _ => messageUrl "Acknowledgement"
  | .timeout _ => messageUrl "Timeout"

def validate : PacketMessage → Except ChannelError Unit
  | .receive m => m.packet.validate
  | .acknowledge m => do
    m.packet.validate
    if m.ack.isEmpty then .error .emptyAcknowledgement else .ok ()
  | .timeout m => m.packet.validate

end PacketMessage

/-! ### Datagrams -/

/-- Any relayed message. -/
inductive Datagram
  | handshake (m : HandshakeMessage)
  | upgrade (m : UpgradeMessage)
  | packet (m : PacketMessage)
  deriving DecidableEq, Repr

namespace Datagram

def url : Datagram → String
  | .handshake m => m.url
  | .upgrade m => m.url
  | .packet m => m.url

def validate : Datagram → Except ChannelError Unit
  | .handshake m => m.validate
  | .upgrade m => m.validate
  | .packet m => m.validate

end Datagram

/-! ### Messages of applications -/

/-- Closes a channel end. -/
structure CloseInit where
  owner : EndId
  deriving DecidableEq, Repr

namespace CloseInit

def url : String := messageUrl "ChannelCloseInit"

end CloseInit

/-- Proposes an upgrade; without a deadline, the host's parameters give one. -/
structure UpgradeInit where
  owner : EndId
  fields : UpgradeFields
  timeout : Option UpgradeTimeout
  deriving DecidableEq, Repr

namespace UpgradeInit

def url : String := messageUrl "ChannelUpgradeInit"

def validate (m : UpgradeInit) : Except ChannelError Unit := do
  let _ ← m.fields.hop
  match m.timeout with
  | some t => if t.isSet then .ok () else .error .upgradeTimeoutUnset
  | none => .ok ()

end UpgradeInit

end Crosschain
