import Crosschain.Identifier

/-!
# Paths of the store

Every value of a chain that the other chain may ask for is kept under a path made from the names of
what it belongs to. One kind of path, for capabilities, names things that are not proven.
-/

namespace Crosschain

inductive Path
  | connection (id : ConnectionId)
  | channelEnd (owner : EndId)
  | nextSend (owner : EndId)
  | nextRecv (owner : EndId)
  | nextAck (owner : EndId)
  | commitment (slot : Slot)
  | acknowledgement (slot : Slot)
  | receipt (slot : Slot)
  | upgrade (owner : EndId)
  | upgradeError (owner : EndId)
  | capability (owner : EndId)
  deriving DecidableEq, Repr

namespace Path

/-- Whether the store under the path is part of what a block commits to. -/
def isProvable : Path → Bool
  | .capability _ => false
  | _ => true

/-- The part of a path that names an end. -/
def ownerText (e : EndId) : String := "/ports/" ++ e.port.text ++ "/channels/" ++ e.channel.text

/-- The part of a path that names a packet. -/
def slotText (s : Slot) : String := ownerText s.owner ++ "/sequences/" ++ Word.text s.sequence

def text : Path → String
  | .connection id => "connections/" ++ id.text
  | .channelEnd e => "channelEnds" ++ ownerText e
  | .nextSend e => "nextSequenceSend" ++ ownerText e
  | .nextRecv e => "nextSequenceRecv" ++ ownerText e
  | .nextAck e => "nextSequenceAck" ++ ownerText e
  | .commitment s => "commitments" ++ slotText s
  | .acknowledgement s => "acks" ++ slotText s
  | .receipt s => "receipts" ++ slotText s
  | .upgrade e => "channelUpgrades/upgrades" ++ ownerText e
  | .upgradeError e => "channelUpgrades/upgradeError" ++ ownerText e
  | .capability e => "capabilities" ++ ownerText e

def bytes (p : Path) : Bytes := Bytes.ofText p.text

/-! ### JSON -/

/-- What a path of an end carries. -/
def ownerJson (e : EndId) : Json := .array [e.port.toJson, e.channel.toJson]

def slotJson (s : Slot) : Json :=
  .obj [("port_id", s.owner.port.toJson), ("channel_id", s.owner.channel.toJson),
    ("sequence", .word s.sequence)]

def toJson : Path → Json
  | .connection id => .obj [("Connections", id.toJson)]
  | .channelEnd e => .obj [("ChannelEnds", ownerJson e)]
  | .nextSend e => .obj [("SeqSends", ownerJson e)]
  | .nextRecv e => .obj [("SeqRecvs", ownerJson e)]
  | .nextAck e => .obj [("SeqAcks", ownerJson e)]
  | .commitment s => .obj [("Commitments", slotJson s)]
  | .acknowledgement s => .obj [("Acks", slotJson s)]
  | .receipt s => .obj [("Receipts", slotJson s)]
  | .upgrade e => .obj [("ChannelUpgrade", ownerJson e)]
  | .upgradeError e => .obj [("UpgradeErrorReceipt", ownerJson e)]
  | .capability e => .obj [("ChannelCapability", ownerJson e)]

/-- Reads what a path of an end carries: an array of port and channel. -/
def ownerOfJson? : Json → Option EndId
  | .array [p, c] => do pure ⟨← Identifier.ofJson? p, ← Identifier.ofJson? c⟩
  | _ => none

def slotOfJson? (j : Json) : Option Slot := do
  match ← j.fields? ["port_id", "channel_id", "sequence"] with
  | [some p, some c, some s] =>
    pure ⟨⟨← Identifier.ofJson? p, ← Identifier.ofJson? c⟩, ← s.asWord?⟩
  | _ => none

def ofJson? (j : Json) : Option Path := do
  match ← j.choice? with
  | ("Connections", some v) => (Identifier.ofJson? v).map .connection
  | ("ChannelEnds", some v) => (ownerOfJson? v).map .channelEnd
  | ("SeqSends", some v) => (ownerOfJson? v).map .nextSend
  | ("SeqRecvs", some v) => (ownerOfJson? v).map .nextRecv
  | ("SeqAcks", some v) => (ownerOfJson? v).map .nextAck
  | ("Commitments", some v) => (slotOfJson? v).map .commitment
  | ("Acks", some v) => (slotOfJson? v).map .acknowledgement
  | ("Receipts", some v) => (slotOfJson? v).map .receipt
  | ("ChannelUpgrade", some v) => (ownerOfJson? v).map .upgrade
  | ("UpgradeErrorReceipt", some v) => (ownerOfJson? v).map .upgradeError
  | ("ChannelCapability", some v) => (ownerOfJson? v).map .capability
  | _ => none

end Path

end Crosschain
