import Crosschain.Host

/-!
# Checking what the other chain stores

A message about the other chain is believed only if the client behind the connection knows the root
of the proofs' height, is not frozen, and the proof opens that root to the very value, or to no
value, under the path in question.
-/

namespace Crosschain.Host

variable [Digest]

/-! ### Connections -/

def connectionAt (h : Host) (id : ConnectionId) : Attempt ConnectionEnd :=
  Fault.wrap .connection (h.connection id)

/-- The one connection of a list of hops, which has to be open. -/
def openHop (h : Host) (hop : Except ChannelError ConnectionId) : Attempt ConnectionEnd := do
  let id ← Fault.lift hop
  let c ← h.connectionAt id
  Fault.ensure (c.isOpen) (.connectionNotOpen id)
  pure c

def openConnection (h : Host) (e : ChannelEnd) : Attempt ConnectionEnd := h.openHop e.hop

/-- The name the other chain knows a connection by. -/
def peerHop (c : ConnectionEnd) : Attempt ConnectionId := Fault.wrap .connection c.peerConnection

/-! ### Proofs -/

/-- What the client behind a connection knows of a height; the client must not be frozen. -/
def consensusAt (h : Host) (c : ConnectionEnd) (height : Height) : Attempt ConsensusState := do
  let state ← Fault.wrap .client (h.clientState c.client)
  Fault.ensure (!state.isFrozen) (.frozenClient c.client)
  Fault.wrap .client (h.consensusState c.client height)

/-- Checks that the other chain stores a value under a path made from the peer of an end. -/
def provesPeerValue (h : Host) (c : ConnectionEnd) (e : ChannelEnd) (height : Height)
    (proof : StateProof) (path : EndId → Path) (value : Bytes)
    (failure : ClientError → ChannelError) : Attempt Unit := do
  let consensus ← h.consensusAt c height
  let peer ← Fault.lift e.peer.endId
  Fault.wrap failure
    (h.showsValue c.client c.peer.label proof consensus.root (path peer) value)

def provesEnd (h : Host) (c : ConnectionEnd) (e : ChannelEnd) (height : Height)
    (proof : StateProof) (expected : ChannelEnd) : Attempt Unit :=
  h.provesPeerValue c e height proof .channelEnd expected.encode .channelProof

def provesUpgrade (h : Host) (c : ConnectionEnd) (e : ChannelEnd) (height : Height)
    (proof : StateProof) (u : Upgrade) : Attempt Unit :=
  h.provesPeerValue c e height proof .upgrade u.encode .upgradeProof

def provesReceipt (h : Host) (c : ConnectionEnd) (e : ChannelEnd) (height : Height)
    (proof : StateProof) (r : ErrorReceipt) : Attempt Unit :=
  h.provesPeerValue c e height proof .upgradeError r.encode .receiptProof

/-- Checks that the other chain stores a value under a path of a packet. -/
def provesPacketValue (h : Host) (c : ConnectionEnd) (evidence : Evidence) (path : Path)
    (value : Attempt Bytes) (sequence : Sequence) : Attempt Unit := do
  let consensus ← h.consensusAt c evidence.height
  let value ← value
  Fault.wrap (.packetProof sequence)
    (h.showsValue c.client c.peer.label evidence.object consensus.root path value)

def provesPacket (h : Host) (c : ConnectionEnd) (p : Packet) (evidence : Evidence) :
    Attempt Unit :=
  h.provesPacketValue c evidence (.commitment p.sourceSlot)
    (Fault.checked (Commitment.ofPacket? p)) p.sequence

def provesAcknowledgement (h : Host) (c : ConnectionEnd) (p : Packet) (ack : Acknowledgement)
    (evidence : Evidence) : Attempt Unit :=
  h.provesPacketValue c evidence (.acknowledgement p.destinationSlot)
    (pure (Commitment.ofAcknowledgement ack)) p.sequence

/-- Checks what packet the destination end of a packet expects next. -/
def provesNextRecv (h : Host) (c : ConnectionEnd) (p : Packet) (next : Sequence)
    (evidence : Evidence) : Attempt Unit :=
  h.provesPacketValue c evidence (.nextRecv p.destination) (pure (Word.bytes next)) next

def provesNoReceipt (h : Host) (c : ConnectionEnd) (p : Packet) (evidence : Evidence) :
    Attempt Unit := do
  let consensus ← h.consensusAt c evidence.height
  Fault.wrap (.packetProof p.sequence)
    (h.showsAbsence c.client c.peer.label evidence.object consensus.root
      (.receipt p.destinationSlot))

end Crosschain.Host
