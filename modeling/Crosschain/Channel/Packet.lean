import Crosschain.Channel.End
import Crosschain.Digest

/-!
# Packets

A packet goes from a source end to a destination end under a sequence, with data that only the
applications understand and a timeout by height, by time or by both. Chains store hashes only: a
packet's commitment binds its timeouts and its data, an acknowledgement's commitment its bytes.
-/

namespace Crosschain

/-- The bytes a destination answers a packet with. -/
abbrev Acknowledgement := Bytes

structure Packet where
  sequence : Sequence
  source : EndId
  destination : EndId
  data : Bytes
  timeoutHeight : TimeoutHeight
  timeoutTime : Timestamp
  deriving DecidableEq, Repr

namespace Packet

def default : Packet :=
  ⟨0, ⟨Inhabited.default, Inhabited.default⟩, ⟨Inhabited.default, Inhabited.default⟩, [], .never,
    .unset⟩

instance : Inhabited Packet := ⟨default⟩

/-- The place of the packet on the end it was sent from. -/
def sourceSlot (p : Packet) : Slot := ⟨p.source, p.sequence⟩

/-- The place of the packet on the end it is sent to. -/
def destinationSlot (p : Packet) : Slot := ⟨p.destination, p.sequence⟩

/-- Whether a timeout is reached on a destination at a height and a time. Such a packet is not
received any more, and its commitment may be taken back. -/
def timedOut (p : Packet) (height : Height) (now : Timestamp) : Bool :=
  p.timeoutHeight.reachedAt height || p.timeoutTime.reachedAt now

/-- A relayed packet has a sequence, a timeout and data. -/
def validate (p : Packet) : Except ChannelError Unit :=
  if p.sequence = 0 then .error .zeroSequence
  else if !p.timeoutHeight.isSet && !p.timeoutTime.isSet then .error .noTimeout
  else if p.data.isEmpty then .error .emptyData
  else .ok ()

/-! ### Text and JSON -/

def text (p : Packet) : String :=
  "seq:" ++ Word.text p.sequence ++ ", path:" ++ p.source.channel.text ++ "/" ++ p.source.port.text
    ++ "->" ++ p.destination.channel.text ++ "/" ++ p.destination.port.text ++ ", toh:"
    ++ p.timeoutHeight.text ++ ", tos:" ++ p.timeoutTime.text ++ ")"

def debugText (p : Packet) : String :=
  "Packet \x7b sequence: Sequence(" ++ Word.text p.sequence ++ "), source_port: "
    ++ p.source.port.debugText ++ ", source_channel: " ++ p.source.channel.debugText
    ++ ", destination_port: " ++ p.destination.port.debugText ++ ", destination_channel: "
    ++ p.destination.channel.debugText ++ ", data: ["
    ++ ", ".intercalate (p.data.map fun b => b.toNat.repr) ++ "], timeout_height: "
    ++ p.timeoutHeight.debugText ++ ", timeout_timestamp: " ++ p.timeoutTime.debugText ++ " \x7d"

/-- The fields of a packet, its data in upper-case hexadecimal. -/
def toJson (p : Packet) : Json :=
  .obj [("sequence", .word p.sequence), ("source_port", p.source.port.toJson),
    ("source_channel", p.source.channel.toJson), ("destination_port", p.destination.port.toJson),
    ("destination_channel", p.destination.channel.toJson),
    ("data", .str (Hex.encode .upper p.data)), ("timeout_height", p.timeoutHeight.toJson),
    ("timeout_timestamp", p.timeoutTime.toJson)]

def fieldNames : List String :=
  ["sequence", "source_port", "source_channel", "destination_port", "destination_channel", "data",
    "timeout_height", "timeout_timestamp"]

def ofJson? (j : Json) : Option Packet := do
  match ← j.fields? fieldNames with
  | [some sequence, some sourcePort, some sourceChannel, some port, some channel, some data,
      some height, some time] =>
    let sequence ← sequence.asWord?
    let source := EndId.mk (← Identifier.ofJson? sourcePort) (← Identifier.ofJson? sourceChannel)
    let destination := EndId.mk (← Identifier.ofJson? port) (← Identifier.ofJson? channel)
    let data ← data.asText?.bind Hex.decodeUpper?
    pure ⟨sequence, source, destination, data, ← TimeoutHeight.ofJson? height,
      ← Timestamp.ofJson? time⟩
  | _ => none

end Packet

/-- What an application asks to be sent; the channel layer adds sequence and destination. -/
structure OutgoingPacket where
  source : EndId
  data : Bytes
  timeoutHeight : TimeoutHeight
  timeoutTime : Timestamp
  deriving DecidableEq, Repr

/-! ### Commitments -/

namespace Commitment

variable [Digest]

/-- What stands under the path of a received packet of an unordered channel. -/
def receiptMark : Bytes := [1]

/-- The bytes that are hashed for a packet: its timeouts in three words of eight bytes, no timeout
standing as zero, and the hash of its data. -/
def packetInput (data : Bytes) (height : TimeoutHeight) (nanoseconds : UInt64) : Bytes :=
  Word.bytes nanoseconds ++ Word.bytes height.committed.revision
    ++ Word.bytes height.committed.height ++ Digest.hash data

/-- The commitment to a packet's data and timeouts, if the time fits a word. -/
def ofParts? (data : Bytes) (height : TimeoutHeight) (time : Timestamp) : Option Bytes :=
  time.nanoseconds?.map fun n => Digest.hash (packetInput data height n)

def ofPacket? (p : Packet) : Option Bytes := ofParts? p.data p.timeoutHeight p.timeoutTime

def ofAcknowledgement (ack : Acknowledgement) : Bytes := Digest.hash ack

def packetDebugText (c : Bytes) : String := "PacketCommitment(\"" ++ Hex.encode .upper c ++ "\")"

def acknowledgementDebugText (c : Bytes) : String :=
  "AcknowledgementCommitment(\"" ++ Hex.encode .upper c ++ "\")"

end Commitment

end Crosschain
