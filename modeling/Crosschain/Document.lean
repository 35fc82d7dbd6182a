import Crosschain.Channel.Event
import Crosschain.Params

/-!
# Documents

A JSON text does not say of which type the value is that it spells; whoever inspects it has to. A
document is what there is to see once it was read: the value's canonical form, and for some types
its display, the value written out, or the bytes it is committed as.
-/

namespace Crosschain

/-- What there is to see of a value that was read. -/
structure Document where
  json : Json
  text : Option String
  debugText : Option String
  encoded : Option Bytes

namespace Document

variable {α : Type}

/-- How documents of a type are read and shown. -/
structure Form (α : Type) where
  ofJson? : Json → Option α
  toJson : α → Json
  text : Option (α → String) := none
  debugText : Option (α → String) := none
  encode : Option (α → Bytes) := none

def Form.view (f : Form α) (a : α) : Document :=
  ⟨f.toJson a, f.text.map (· a), f.debugText.map (· a), f.encode.map (· a)⟩

/-- Why a text is not a document of its type. -/
inductive Error
  | malformed
  deriving DecidableEq, Repr

/-- How a text becomes a document. -/
abbrev Reader := String → Except (Fault Error) Document

def Form.reader (f : Form α) : Reader := fun s =>
  Fault.require (((Json.parse? s).bind f.ofJson?).map f.view) .malformed

def paramsReader : Reader := fun s =>
  match Params.ofJsonText s with
  | .ok p => .ok ⟨p.toJson, none, none, none⟩
  | .error e => .error (e.map fun _ => .malformed)

def displayed (of? : Json → Option α) (write : α → Json) (text : α → String) : Form α :=
  { ofJson? := of?, toJson := write, text := some text }

/-- A form whose values can be written out. -/
def writtenOut (of? : Json → Option α) (write : α → Json) (text : α → String) : Form α :=
  { ofJson? := of?, toJson := write, debugText := some text }

/-- A form whose values are committed to. -/
def committed (of? : Json → Option α) (write : α → Json) (encode : α → Bytes) : Form α :=
  { ofJson? := of?, toJson := write, encode := some encode }

def bare (of? : Json → Option α) (write : α → Json) : Form α := { ofJson? := of?, toJson := write }

/-- The readers of all types of documents, by the names of the types. -/
def readers : List (String × Reader) :=
  [("Height", (displayed Height.ofJson? Height.toJson Height.text).reader),
    ("Timestamp", (displayed Timestamp.ofJson? Timestamp.toJson Timestamp.text).reader),
    ("TimeoutHeight",
      (displayed TimeoutHeight.ofJson? TimeoutHeight.toJson TimeoutHeight.text).reader),
    ("UpgradeTimeout",
      (displayed UpgradeTimeout.ofJson? UpgradeTimeout.toJson UpgradeTimeout.text).reader),
    ("UpgradeFields",
      (displayed UpgradeFields.ofJson? UpgradeFields.toJson UpgradeFields.text).reader),
    ("Upgrade", (committed Upgrade.ofJson? Upgrade.toJson Upgrade.encode).reader),
    ("ErrorReceipt",
      (committed ErrorReceipt.ofJson? ErrorReceipt.toJson ErrorReceipt.encode).reader),
    ("ChannelEnd",
      { displayed ChannelEnd.ofJson? ChannelEnd.toJson ChannelEnd.text with
        encode := some ChannelEnd.encode : Form ChannelEnd }.reader),
    ("IdentifiedChannelEnd", (bare NamedEnd.ofJson? NamedEnd.toJson).reader),
    ("Counterparty", (displayed ChannelPeer.ofJson? ChannelPeer.toJson ChannelPeer.text).reader),
    ("Packet",
      { displayed Packet.ofJson? Packet.toJson Packet.text with
        debugText := some Packet.debugText : Form Packet }.reader),
    ("Sequence", (displayed Json.asWord? Json.word Word.text).reader),
    ("Order", (displayed Order.ofJson? Order.toJson Order.text).reader),
    ("State", (displayed ChannelState.ofJson? ChannelState.toJson ChannelState.text).reader),
    ("Version", (displayed Json.asText? Json.str id).reader),
    ("Path", (displayed Path.ofJson? Path.toJson Path.text).reader),
    ("PortId",
      (displayed (Identifier.ofJson? (k := .port)) Identifier.toJson Identifier.text).reader),
    ("ChannelId",
      (displayed (Identifier.ofJson? (k := .channel)) Identifier.toJson Identifier.text).reader),
    ("PortChannelId", (displayed EndId.ofJson? EndId.toJson EndId.text).reader),
    ("ConnVersion",
      (displayed ConnectionVersion.ofJson? ConnectionVersion.toJson ConnectionVersion.text).reader),
    ("CommitmentRoot", (writtenOut StateRoot.ofJson? StateRoot.toJson StateRoot.debugText).reader),
    ("CommitmentPrefix",
      (writtenOut StorePrefix.ofJson? StorePrefix.toJson StorePrefix.debugText).reader),
    ("CommitmentProofBytes",
      (writtenOut StateProof.ofJson? StateProof.toJson StateProof.debugText).reader),
    ("PacketCommitment",
      (writtenOut Json.asBytes? Json.bytes Commitment.packetDebugText).reader),
    ("AcknowledgementCommitment",
      (writtenOut Json.asBytes? Json.bytes Commitment.acknowledgementDebugText).reader),
    ("Acknowledgement", (bare Json.asBytes? Json.bytes).reader),
    ("Proofs", (bare Evidence.ofJson? Evidence.toJson).reader),
    ("ConnectionEnd", (bare ConnectionEnd.ofJson? ConnectionEnd.toJson).reader),
    ("ClientState", (bare ClientState.ofJson? ClientState.toJson).reader),
    ("ConsensusState", (bare ConsensusState.ofJson? ConsensusState.toJson).reader),
    ("Header", (bare Header.ofJson? Header.toJson).reader),
    ("Params", paramsReader)]

def ofText (type : String) : Reader := fun s =>
  match readers.lookup type with
  | some read => read s
  | none => .error (.refused .malformed)

end Document

end Crosschain
