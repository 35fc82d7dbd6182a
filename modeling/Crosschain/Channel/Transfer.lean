import Crosschain.Channel.Upgrading

/-!
# Sending and receiving packets

A packet is sent under the next sequence of its source end, received at most once on its
destination end, acknowledged there, and resolved on the source by its acknowledgement or its
timeout, which takes the commitment back. A message that comes again changes nothing.
-/

namespace Crosschain

/-- Why a message about a packet changes nothing. -/
inductive NoOpReason
  | alreadyReceived (sequence : Sequence)
  | alreadyWritten (sequence : Sequence)
  | commitmentAbsent (sequence : Sequence)
  deriving DecidableEq, Repr

namespace NoOpReason

def text : NoOpReason → String
  | .alreadyReceived s => "packet " ++ Word.text s ++ " was already received"
  | .alreadyWritten s => "acknowledgement for packet " ++ Word.text s ++ " was already written"
  | .commitmentAbsent s => "commitment for packet " ++ Word.text s ++ " is absent"

end NoOpReason

/-- What a step about a packet writes. A packet that is resolved loses its commitment; an ordered end
counts on with an acknowledgement, and a timeout closes it unless it was closed. -/
inductive PacketChange
  | sent (slot : Slot) (next : Sequence) (commitment : Bytes)
  | receivedInOrder (owner : EndId) (next : Sequence)
  | received (slot : Slot)
  | answered (slot : Slot) (commitment : Bytes)
  | acknowledged (slot : Slot) (next : Option Sequence)
  | timedOut (slot : Slot) (closed : Option ChannelEnd)
  | nothing (reason : NoOpReason)
  deriving DecidableEq, Repr

namespace PacketChange

def noOp? : PacketChange → Option NoOpReason
  | .nothing reason => some reason
  | _ => none

end PacketChange

namespace Transfer

def noOp (line : String) (reason : NoOpReason) : Output PacketChange :=
  ⟨.nothing reason, [line], []⟩

/-- Checks that a packet goes to, or comes from, the peer of an end. -/
def ensurePeer (e : ChannelEnd) (peer : EndId) : Attempt Unit :=
  Fault.ensure (e.peer = .ofEnd peer) (.wrongPeer peer)

variable [Digest]

/-! ### Sending -/

/-- Checks that the timeouts of a packet are not reached as far as the client of the destination
knows, which must not be frozen. -/
def ensureNotTimedOut (h : Host) (e : ChannelEnd) (m : OutgoingPacket) : Attempt Unit := do
  let hop ← Fault.lift e.hop
  let c ← h.connectionAt hop
  let client ← Fault.wrap .client (h.clientState c.client)
  Fault.ensure (!client.isFrozen) (.frozenClient c.client)
  match m.timeoutHeight with
  | .never => pure ()
  | .atHeight limit =>
    Fault.ensure (¬ limit ≤ client.latestHeight) (.timeoutHeightPassed limit client.latestHeight)
  let consensus ← Fault.wrap .client (h.consensusState c.client client.latestHeight)
  Fault.ensure (!m.timeoutTime.reachedAt consensus.timestamp)
    (.timeoutTimePassed m.timeoutTime consensus.timestamp)

/-- Commits to a packet on behalf of the handle that owns the source end, under the next sequence
of the end. -/
def send (h : Host) (cap : Capability) (m : OutgoingPacket) : Attempt (Output PacketChange) := do
  let e ← Fault.lift (h.store.endAt m.source)
  Fault.lift (h.store.authenticate m.source cap)
  Fault.ensure (e.state ≠ .closed) (.channelClosed m.source.channel)
  Fault.ensure (e.state.allowsPackets) (.wrongState m.source.channel e.state)
  -- The counters of both ends are set by the last packet sent before the ordering changes.
  let pending ← Upgrading.pendingOrderChange h m.source e
  Fault.ensure (pending.isNone) (.orderChangePending m.source.channel)
  Fault.ensure (!m.data.isEmpty) .emptyData
  Fault.ensure (m.timeoutHeight.isSet || m.timeoutTime.isSet) .noTimeout
  let destination ← Fault.lift e.peer.endId
  ensureNotTimedOut h e m
  let sequence ← Fault.lift (h.store.nextSendOf m.source)
  let packet : Packet :=
    ⟨sequence, m.source, destination, m.data, m.timeoutHeight, m.timeoutTime⟩
  let next ← Fault.checked (Word.add? sequence 1)
  let commitment ← Fault.checked (Commitment.ofPacket? packet)
  pure ⟨.sent packet.sourceSlot next commitment, ["success: packet send"], [.packet .sent packet]⟩

/-! ### Receiving -/

/-- Checks that a packet is not timed out at the host. -/
def ensureInTime (h : Host) (p : Packet) : Attempt Unit := do
  match p.timeoutHeight with
  | .never => pure ()
  | .atHeight limit => Fault.ensure (¬ limit ≤ h.height) (.heightTooLow h.height limit)
  let now ← h.now
  Fault.ensure (!p.timeoutTime.reachedAt now) .timeTooLow

/-- Receives a packet that the source chain committed to. -/
def receive (h : Host) (cap : Capability) (m : ReceivePacket) : Attempt (Output PacketChange) := do
  let p := m.packet
  let e ← Fault.lift (h.store.endAt p.destination)
  Fault.lift (h.store.authenticate p.destination cap)
  Fault.ensure (e.state.allowsPackets) (.wrongState p.destination.channel e.state)
  ensurePeer e p.source
  -- Once it saw the other end agree, an end about to change its ordering receives nothing.
  if e.state = .ackUpgrade then
    let pending ← Upgrading.pendingOrderChange h p.destination e
    Fault.ensure (pending.isNone) (.orderChangePending p.destination.channel)
  let c ← h.openConnection e
  ensureInTime h p
  h.provesPacket c p m.evidence
  let next ← Fault.lift (h.store.nextRecvOf p.destination)
  let again := noOp "no-op: packet already received" (.alreadyReceived p.sequence)
  let done (change : PacketChange) : Output PacketChange :=
    ⟨change, ["success: packet receive"], [.packet .received p]⟩
  -- An end that is ordered, or was before an upgrade, received every packet below its counter.
  if p.sequence < next then pure again
  else if e.ordering = .ordered then
    Fault.ensure (p.sequence = next) (.sequenceMismatch p.sequence next)
    let after ← Fault.checked (Word.add? next 1)
    pure (done (.receivedInOrder p.destination after))
  else if h.store.hasReceipt p.destinationSlot then pure again
  else pure (done (.received p.destinationSlot))

/-- Writes the acknowledgement of a packet on behalf of the handle that owns the destination end. -/
def writeAcknowledgement (h : Host) (cap : Capability) (p : Packet) (ack : Acknowledgement) :
    Attempt (Output PacketChange) := do
  let e ← Fault.lift (h.store.endAt p.destination)
  Fault.lift (h.store.authenticate p.destination cap)
  Fault.ensure (e.state.allowsPackets) (.wrongState p.destination.channel e.state)
  -- Whether the packet was received is for the application to know.
  if h.store.acknowledgements.contains p.destinationSlot then
    pure (noOp "no-op: acknowledgement already written" (.alreadyWritten p.sequence))
  else
    Fault.ensure (!ack.isEmpty) .emptyAcknowledgement
    pure ⟨.answered p.destinationSlot (Commitment.ofAcknowledgement ack),
      ["success: packet write acknowledgement"], [.acknowledgement p ack]⟩

/-! ### Resolving -/

def resolved (p : Packet) : Output PacketChange :=
  noOp "no-op: packet commitment absent" (.commitmentAbsent p.sequence)

def ensureCommitted (p : Packet) (stored : Bytes) : Attempt Unit := do
  let commitment ← Fault.checked (Commitment.ofPacket? p)
  Fault.ensure (stored = commitment) (.wrongCommitment p.sequence)

/-- Resolves a packet whose acknowledgement the destination chain committed to. -/
def acknowledge (h : Host) (cap : Capability) (m : AcknowledgePacket) :
    Attempt (Output PacketChange) := do
  let p := m.packet
  let e ← Fault.lift (h.store.endAt p.source)
  Fault.lift (h.store.authenticate p.source cap)
  Fault.ensure (e.state ≠ .closed) (.channelClosed p.source.channel)
  Fault.ensure (e.state.allowsPackets) (.wrongState p.source.channel e.state)
  ensurePeer e p.destination
  let c ← h.openConnection e
  match h.store.commitments[p.sourceSlot]? with
  | none => pure (resolved p)
  | some stored =>
    ensureCommitted p stored
    h.provesAcknowledgement c p m.ack m.evidence
    let done (next : Option Sequence) : Output PacketChange :=
      ⟨.acknowledged p.sourceSlot next, ["success: packet ack"], [.packet .acknowledged p]⟩
    if e.ordering = .ordered then
      let next ← Fault.lift (h.store.nextAckOf p.source)
      Fault.ensure (p.sequence = next) (.sequenceMismatch p.sequence next)
      let after ← Fault.checked (Word.add? next 1)
      pure (done (some after))
    else pure (done none)

/-- Resolves a packet that the destination end did not receive in time. -/
def timeout (h : Host) (cap : Capability) (m : TimeoutPacket) : Attempt (Output PacketChange) := do
  let p := m.packet
  let e ← Fault.lift (h.store.endAt p.source)
  Fault.lift (h.store.authenticate p.source cap)
  match h.store.commitments[p.sourceSlot]? with
  | none => pure (resolved p)
  | some stored =>
    -- Neither the end nor its connection has to be open: a closed end still times out what is in
    -- flight.
    ensurePeer e p.destination
    let hop ← Fault.lift e.hop
    let c ← h.connectionAt hop
    ensureCommitted p stored
    let consensus ← h.consensusAt c m.evidence.height
    Fault.ensure (p.timedOut m.evidence.height consensus.timestamp)
      (.timeoutNotReached p.timeoutHeight m.evidence.height p.timeoutTime consensus.timestamp)
    let lines := ["success: packet timeout"]
    if e.ordering = .ordered then
      -- The destination still expects the packet or an earlier one.
      Fault.ensure (¬ p.sequence < m.nextRecv) (.sequenceMismatch p.sequence m.nextRecv)
      h.provesNextRecv c p m.nextRecv m.evidence
      if e.state = .closed then
        pure ⟨.timedOut p.sourceSlot none, lines, [.packet .timedOut p]⟩
      else
        pure ⟨.timedOut p.sourceSlot (some { e with state := .closed }), lines,
          [.packet .timedOut p,
            .closed ⟨p.source.port, some p.source.channel, hop, .ofEnd p.destination⟩ e.ordering]⟩
    else
      h.provesNoReceipt c p m.evidence
      pure ⟨.timedOut p.sourceSlot none, lines, [.packet .timedOut p]⟩

def step (h : Host) (cap : Capability) : PacketMessage → Attempt (Output PacketChange)
  | .receive m => receive h cap m
  | .acknowledge m => acknowledge h cap m
  | .timeout m => timeout h cap m

end Transfer

def ChannelStore.applyPacket (s : ChannelStore) : PacketChange → ChannelStore
  | .sent slot next commitment => (s.setNextSend slot.owner next).setCommitment slot commitment
  | .receivedInOrder owner next => s.setNextRecv owner next
  | .received slot => s.setReceipt slot
  | .answered slot commitment => s.setAcknowledgement slot commitment
  | .acknowledged slot none => s.eraseCommitment slot
  | .acknowledged slot (some next) => (s.setNextAck slot.owner next).eraseCommitment slot
  | .timedOut slot none => s.eraseCommitment slot
  | .timedOut slot (some closed) => (s.setEnd slot.owner closed).eraseCommitment slot
  | .nothing _ => s

end Crosschain
