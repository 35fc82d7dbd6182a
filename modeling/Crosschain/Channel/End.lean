import Crosschain.Channel.Upgrade

/-!
# Channel ends

One end of a channel: its state, its ordering, the other end, the connection it runs over, its
version, and the sequence of its last upgrade.
-/

namespace Crosschain

/-- The other end of a channel, whose channel may not be known yet. -/
structure ChannelPeer where
  port : PortId
  channel : Option ChannelId
  deriving DecidableEq, Repr, Inhabited

namespace ChannelPeer

def ofEnd (e : EndId) : ChannelPeer := ⟨e.port, some e.channel⟩

/-- The end the peer is, once its channel is known. -/
def endId (p : ChannelPeer) : Except ChannelError EndId :=
  match p.channel with
  | some c => .ok ⟨p.port, c⟩
  | none => .error .peerChannelUnknown

def text (p : ChannelPeer) : String :=
  let channel := match p.channel with
    | some c => c.text
    | none => "None"
  "Counterparty(port_id: " ++ p.port.text ++ ", channel_id: " ++ channel ++ ")"

def toJson (p : ChannelPeer) : Json :=
  .obj [("port_id", p.port.toJson), ("channel_id", .option Identifier.toJson p.channel)]

def ofJson? (j : Json) : Option ChannelPeer := do
  match ← j.fields? ["port_id", "channel_id"] with
  | [some port, channel] =>
    pure ⟨← Identifier.ofJson? port, ← Json.optionalField? Identifier.ofJson? channel⟩
  | _ => none

end ChannelPeer

structure ChannelEnd where
  state : ChannelState
  ordering : Order
  peer : ChannelPeer
  hops : List ConnectionId
  version : ChannelVersion
  /-- The sequence of the last upgrade, zero before the first. -/
  upgradeSequence : Sequence
  deriving DecidableEq, Repr

namespace ChannelEnd

def default : ChannelEnd := ⟨.uninitialized, .unordered, Inhabited.default, [], "", 0⟩

instance : Inhabited ChannelEnd := ⟨default⟩

/-- An end that was never upgraded. -/
def ofParts (state : ChannelState) (ordering : Order) (peer : ChannelPeer)
    (hops : List ConnectionId) (version : ChannelVersion) : ChannelEnd :=
  ⟨state, ordering, peer, hops, version, 0⟩

def isOpen (e : ChannelEnd) : Bool := e.state.isOpen

def fields (e : ChannelEnd) : UpgradeFields := ⟨e.ordering, e.hops, e.version⟩

def withFields (e : ChannelEnd) (f : UpgradeFields) : ChannelEnd :=
  { e with ordering := f.ordering, hops := f.hops, version := f.version }

def withPeerChannel (e : ChannelEnd) (c : ChannelId) : ChannelEnd :=
  { e with peer := { e.peer with channel := some c } }

def hop (e : ChannelEnd) : Except ChannelError ConnectionId := UpgradeFields.oneHop e.hops

/-- An end has to run over one connection. -/
def validate (e : ChannelEnd) : Except ChannelError Unit := e.hop.map fun _ => ()

def text (e : ChannelEnd) : String :=
  "ChannelEnd \x7b state: " ++ e.state.text ++ ", ordering: " ++ e.ordering.text ++ ", remote: "
    ++ e.peer.text ++ ", connection_hops: " ++ Identifier.debugList e.hops ++ ", version: "
    ++ e.version ++ ", upgrade_sequence: " ++ Word.text e.upgradeSequence ++ " \x7d"

def toJson (e : ChannelEnd) : Json :=
  .obj [("state", e.state.toJson), ("ordering", e.ordering.toJson), ("remote", e.peer.toJson),
    ("connection_hops", .list Identifier.toJson e.hops), ("version", .str e.version),
    ("upgrade_sequence", .word e.upgradeSequence)]

def ofJson? (j : Json) : Option ChannelEnd := do
  match ← j.fields? ["state", "ordering", "remote", "connection_hops", "version",
      "upgrade_sequence"] with
  | [some state, some ordering, some peer, some hops, some version, some sequence] =>
    pure ⟨← ChannelState.ofJson? state, ← Order.ofJson? ordering, ← ChannelPeer.ofJson? peer,
      ← hops.asList? Identifier.ofJson?, ← version.asText?, ← sequence.asWord?⟩
  | _ => none

def encode (e : ChannelEnd) : Bytes := e.toJson.encode

end ChannelEnd

structure NamedEnd where
  owner : EndId
  value : ChannelEnd
  deriving DecidableEq, Repr

namespace NamedEnd

def toJson (e : NamedEnd) : Json :=
  .obj [("port_id", e.owner.port.toJson), ("channel_id", e.owner.channel.toJson),
    ("channel_end", e.value.toJson)]

def ofJson? (j : Json) : Option NamedEnd := do
  match ← j.fields? ["port_id", "channel_id", "channel_end"] with
  | [some port, some channel, some value] =>
    pure ⟨⟨← Identifier.ofJson? port, ← Identifier.ofJson? channel⟩, ← ChannelEnd.ofJson? value⟩
  | _ => none

end NamedEnd

end Crosschain
