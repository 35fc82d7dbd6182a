import Crosschain.Channel.Message
import Crosschain.Channel.Verify

/-!
# Opening and closing a channel

Each step checks a message against the host and yields the end as it is to be stored. The two
first steps create an end under the next free channel name; the others change an end that is there.
-/

namespace Crosschain

/-- A channel end to be stored, and whether the step created it. -/
structure EndChange where
  owner : EndId
  isNew : Bool
  value : ChannelEnd
  deriving DecidableEq, Repr

namespace Handshake

/-- The name of the end that is created next on a port. -/
def freshEnd (h : Host) (port : PortId) : EndId := ⟨port, Identifier.channel h.store.created⟩

def freshLine (owner : EndId) : String :=
  "success: generated new channel identifier: " ++ owner.channel.text

def event (step : HandshakeStep) (owner : EndId) (hop : ConnectionId) (peer : ChannelPeer) : Event :=
  .handshake step ⟨owner.port, some owner.channel, hop, peer⟩

/-- Proposes a channel over an open connection that supports its ordering. -/
def openInit (h : Host) (m : OpenInit) : Attempt (Output EndChange) := do
  let c ← h.openConnection m.proposal
  let hop ← Fault.lift m.proposal.hop
  Fault.ensure (c.supports m.proposal.ordering) .orderUnsupported
  let owner := freshEnd h m.port
  let value := ChannelEnd.ofParts .init m.proposal.ordering m.proposal.peer m.proposal.hops
    m.proposal.version
  pure ⟨⟨owner, true, value⟩, [freshLine owner],
    [event .openInit owner hop ⟨m.proposal.peer.port, none⟩]⟩

variable [Digest]

/-- Answers a proposal that the other chain stores. -/
def openTry (h : Host) (m : OpenTry) : Attempt (Output EndChange) := do
  let peer ← Fault.lift m.proposal.peer.endId
  let c ← h.openConnection m.proposal
  let hop ← Fault.lift m.proposal.hop
  Fault.ensure (c.supports m.proposal.ordering) .orderUnsupported
  let value := ChannelEnd.ofParts .tryOpen m.proposal.ordering m.proposal.peer m.proposal.hops
    m.peerVersion
  let peerHop ← Host.peerHop c
  -- The other chain cannot know yet which channel is chosen here.
  let expected := ChannelEnd.ofParts .init m.proposal.ordering ⟨m.port, none⟩ [peerHop]
    m.peerVersion
  h.provesEnd c value m.evidence.height m.evidence.object expected
  let owner := freshEnd h m.port
  pure ⟨⟨owner, true, value⟩, [freshLine owner, "success: channel open try"],
    [event .openTry owner hop (.ofEnd peer)]⟩

/-- Opens the proposing end, once the other chain stores an answer that names it. -/
def openAck (h : Host) (m : OpenAck) : Attempt (Output EndChange) := do
  let e ← Fault.lift (h.store.endAt m.owner)
  Fault.ensure (e.state = .init ∨ e.state = .tryOpen) (.wrongState m.owner.channel e.state)
  let c ← h.openConnection e
  let peerHop ← Host.peerHop c
  let expected := ChannelEnd.ofParts .tryOpen e.ordering (.ofEnd m.owner) [peerHop] m.peerVersion
  -- The answer is looked for under the channel that it brings.
  let e := e.withPeerChannel m.peerChannel
  h.provesEnd c e m.evidence.height m.evidence.object expected
  let hop ← Fault.lift e.hop
  pure ⟨⟨m.owner, false, { e with state := .opened, version := m.peerVersion }⟩,
    ["success: channel open ack"], [event .openAck m.owner hop e.peer]⟩

/-- Opens the answering end, once the other chain stores an open end that names it. -/
def openConfirm (h : Host) (m : OpenConfirm) : Attempt (Output EndChange) := do
  let e ← Fault.lift (h.store.endAt m.owner)
  Fault.ensure (e.state = .tryOpen) (.wrongState m.owner.channel e.state)
  let c ← h.openConnection e
  let peerHop ← Host.peerHop c
  let expected := ChannelEnd.ofParts .opened e.ordering (.ofEnd m.owner) [peerHop] e.version
  h.provesEnd c e m.evidence.height m.evidence.object expected
  let hop ← Fault.lift e.hop
  pure ⟨⟨m.owner, false, { e with state := .opened }⟩, ["success: channel open confirm "],
    [event .openConfirm m.owner hop e.peer]⟩

def step (h : Host) : HandshakeMessage → Attempt (Output EndChange)
  | .openInit m => openInit h m
  | .openTry m => openTry h m
  | .openAck m => openAck h m
  | .openConfirm m => openConfirm h m

/-- Closes an end on behalf of the handle that owns it. -/
def closeInit (h : Host) (cap : Capability) (m : CloseInit) : Attempt (Output EndChange) := do
  let e ← Fault.lift (h.store.endAt m.owner)
  Fault.lift (h.store.authenticate m.owner cap)
  Fault.ensure (e.state ≠ .closed) (.channelClosed m.owner.channel)
  let _ ← h.openConnection e
  let hop ← Fault.lift e.hop
  pure ⟨⟨m.owner, false, { e with state := .closed }⟩, ["success: channel close init"],
    [event .closeInit m.owner hop e.peer]⟩

end Handshake

/-- Stores an end, and gives a new one its counters and its capability. -/
def ChannelStore.applyEnd (s : ChannelStore) (c : EndChange) :
    Attempt (Option Capability) × ChannelStore :=
  match c.value.hop with
  | .error e => (.error (.refused e), s)
  | .ok hop =>
    -- From here on nothing is taken back: what was written before a refusal stays.
    let s := s.setEnd c.owner c.value
    if c.isNew then
      match Word.add? s.created 1 with
      | none => (.error .overflow, s)
      | some created =>
        let s := ({ s with created }.addOverConnection hop c.owner).startCounters c.owner
        match s.registry.create (.ofEnd c.owner) with
        | .error f => (.error (f.map .port), s)
        | .ok (cap, registry) => (.ok (some cap), { s with registry })
    else (.ok none, s)

end Crosschain
