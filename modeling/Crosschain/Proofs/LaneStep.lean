import Crosschain.Proofs.Lane

/-!
# The ways a lane can change

Each action of a chain leaves a lane as it is or changes it in one of the ways listed here. Every
way names what it checked: the state of the end, what the host knows, and what the other chain was
shown to hold.
-/

namespace Crosschain

/-! ### What is shown of the other chain -/

/-- A value that the other chain is said to hold under a path, or nothing, with the proof of it. -/
structure Claimed where
  proof : StateProof
  path : Path
  value : Option Bytes

/-- The client behind the connection of an end knows the other chain's block of a height, of the
given time, and the proofs open its root to what is claimed. -/
def Host.Sees [Digest] (h : Host) (x : ChannelEnd) (height : Height) (time : Timestamp)
    (claims : List Claimed) : Prop :=
  ∃ hop c cs, x.hops = [hop] ∧ h.connections[hop]? = some c ∧ h.Knows c height cs ∧
    cs.timestamp = time ∧ ∀ k ∈ claims, cs.Opens c.peer.label k.proof k.path k.value

/-- The other chain knows a connection by this name. -/
def Host.Links (h : Host) (hop peerHop : ConnectionId) : Prop :=
  ∃ c, h.connections[hop]? = some c ∧ c.peer.connection = some peerHop

/-! ### What happens to an end -/

/-- What an action did to an end. -/
inductive Deed
  | idle
  | created
  | settled
  | shut
  | sent (p : Packet)
  | received (p : Packet)
  | answered
  | acknowledged (p : Packet)
  | timedOut (p : Packet)
  | proposed
  | replied
  | agreed
  | completed
  | restored

namespace Deed

def sent? : Deed → Option Packet
  | .sent p => some p
  | _ => none

def received? : Deed → Option Packet
  | .received p => some p
  | _ => none

def resolved? : Deed → Option Packet
  | .acknowledged p | .timedOut p => some p
  | _ => none

/-- What became of a packet on the end it was sent from, if anything did. -/
def fate? : Deed → Option (PacketStage × Packet)
  | .sent p => some (.sent, p)
  | .acknowledged p => some (.acknowledged, p)
  | .timedOut p => some (.timedOut, p)
  | _ => none

/-- No packet was announced, handed over, acknowledged or timed out. -/
def Quiet (d : Deed) : Prop := d.fate? = none ∧ d.received? = none

end Deed

namespace Event

def sent? : Event → Option Packet
  | .packet .sent p => some p
  | _ => none

def resolved? : Event → Option Packet
  | .packet .acknowledged p | .packet .timedOut p => some p
  | _ => none

def fate? : Event → Option (PacketStage × Packet)
  | .packet .received _ => none
  | .packet stage p => some (stage, p)
  | _ => none

end Event

/-! ### Guards -/

/-- No change of ordering is on its way. -/
def Lane.KeepsOrder (l : Lane) (x : ChannelEnd) : Prop :=
  ∃ u, l.upgrade = some u ∧ u.fields.ordering = x.ordering

/-- What a packet has to pass before it is received. -/
structure Lane.Receives [Digest] (l : Lane) (h : Host) (m : ReceivePacket) (x : ChannelEnd) :
    Prop where
  channel : l.channel = some x
  state : x.state.allowsPackets
  peer : x.peer = .ofEnd m.packet.source
  order : x.state = .ackUpgrade → l.KeepsOrder x
  height : m.packet.timeoutHeight.reachedAt h.height = false
  time : ∃ now, h.now? = some now ∧ m.packet.timeoutTime.reachedAt now = false
  committed : ∃ time c, Commitment.ofPacket? m.packet = some c ∧
    h.Sees x m.evidence.height time [⟨m.evidence.object, .commitment m.packet.sourceSlot, some c⟩]

/-- The acknowledgements once the application had a packet: the same, or one more. -/
def Lane.Answers [Digest] (l : Lane) (n : Sequence) (acks : Sequence → Option Bytes) : Prop :=
  acks = l.acknowledgements ∨ l.acknowledgements n = none ∧
    ∃ ack : Acknowledgement, ack ≠ [] ∧
      acks = Function.update l.acknowledgements n (some (Commitment.ofAcknowledgement ack))

/-- What an answer to a proposal rests on: the fields are a change over an open connection, whose
other end was proposed, and the other chain holds the proposing end and its upgrade. -/
structure Lane.Replies [Digest] (l : Lane) (h : Host) (m : UpgradeTry) (x : ChannelEnd)
    (fields : UpgradeFields) : Prop where
  channel : l.channel = some x
  fields_eq : fields = { m.peerUpgrade.fields with hops := m.hops }
  changed : fields ≠ x.fields
  linked : ∃ hop peerHop, m.hops = [hop] ∧ m.peerUpgrade.fields.hops = [peerHop] ∧
    h.Links hop peerHop
  shown : ∃ hop peerHop peer second time, x.hops = [hop] ∧ h.Links hop peerHop ∧
    x.peer = .ofEnd peer ∧ m.evidence.other = some second ∧
    h.Sees x m.evidence.height time
      [⟨m.evidence.object, .channelEnd peer, some (ChannelEnd.mk .initUpgrade x.ordering
          (.ofEnd m.owner) [peerHop] x.version m.peerSequence).encode⟩,
        ⟨second, .upgrade peer, some m.peerUpgrade.encode⟩]

/-- The other chain is shown to hold the peer of an end, as the end is now but in another state. -/
def Lane.PeerShown [Digest] (h : Host) (e : EndId) (x : ChannelEnd) (v : Evidence)
    (state : ChannelState) : Prop :=
  ∃ hop peerHop peer time, x.hops = [hop] ∧ h.Links hop peerHop ∧ x.peer = .ofEnd peer ∧
    h.Sees x v.height time [⟨v.object, .channelEnd peer, some (ChannelEnd.mk state x.ordering
      (.ofEnd e) [peerHop] x.version x.upgradeSequence).encode⟩]

/-- The other chain is shown to hold the peer of an end, open with the fields of an upgrade. -/
def Lane.PeerCompleted [Digest] (h : Host) (e : EndId) (x : ChannelEnd) (v : Evidence)
    (fields : UpgradeFields) : Prop :=
  ∃ hop peerHop peer time, fields.hops = [hop] ∧ h.Links hop peerHop ∧ x.peer = .ofEnd peer ∧
    h.Sees x v.height time [⟨v.object, .channelEnd peer, some (ChannelEnd.mk .opened
      fields.ordering (.ofEnd e) [peerHop] fields.version x.upgradeSequence).encode⟩]

/-- The upgrade the other end answered with describes the same channel. -/
def Host.Matches (h : Host) (own peer : UpgradeFields) : Prop :=
  own.ordering = peer.ordering ∧ own.version = peer.version ∧
    ∃ hop peerHop, own.hops = [hop] ∧ peer.hops = [peerHop] ∧ h.Links hop peerHop

/-- The counters of an end once its upgrade is complete: new ones where the end turns ordered. -/
def Lane.Resets (l : Lane) (x : ChannelEnd) (fields : UpgradeFields)
    (nextRecv nextAck : Option Sequence) : Prop :=
  (¬ (fields.ordering = .ordered ∧ x.ordering ≠ .ordered) ∧ nextRecv = l.nextRecv ∧
    nextAck = l.nextAck) ∨
  (fields.ordering = .ordered ∧ x.ordering ≠ .ordered ∧ ∃ peer next recv,
    l.peerUpgrade = some peer ∧ Word.add? peer.latestSend 1 = some recv ∧
      l.nextSend = some next ∧ nextRecv = some recv ∧ nextAck = some next)

/-! ### Steps -/

open Function (update)

/-- The ways an action changes the lane of an end. -/
inductive LaneStep [Digest] (h : Host) (a : Action) (e : EndId) : Lane → Deed → Lane → Prop
  | idle (l : Lane) : LaneStep h a e l .idle l
  | openInit (m : OpenInit) (hop : ConnectionId) (c : ConnectionEnd)
      (action : a = .deliver (.handshake (.openInit m)))
      (owner : e = Handshake.freshEnd h m.port)
      (hops : m.proposal.hops = [hop]) (connection : h.connections[hop]? = some c) :
      LaneStep h a e .empty .created { Lane.empty with
        channel := some (.ofParts .init m.proposal.ordering m.proposal.peer m.proposal.hops
          m.proposal.version)
        nextSend := some 1, nextRecv := some 1, nextAck := some 1 }
  | openTry (m : OpenTry) (version : ChannelVersion) (hop peerHop : ConnectionId) (peer : EndId)
      (time : Timestamp)
      (action : a = .deliver (.handshake (.openTry m)))
      (owner : e = Handshake.freshEnd h m.port)
      (hops : m.proposal.hops = [hop]) (links : h.Links hop peerHop)
      (named : m.proposal.peer = .ofEnd peer)
      (shown : h.Sees m.proposal m.evidence.height time [⟨m.evidence.object, .channelEnd peer,
        some (ChannelEnd.ofParts .init m.proposal.ordering ⟨m.port, none⟩ [peerHop]
          m.peerVersion).encode⟩]) :
      LaneStep h a e .empty .created { Lane.empty with
        channel := some (.ofParts .tryOpen m.proposal.ordering m.proposal.peer m.proposal.hops
          version)
        nextSend := some 1, nextRecv := some 1, nextAck := some 1 }
  | openAck (l : Lane) (m : OpenAck) (x : ChannelEnd) (hop peerHop : ConnectionId)
      (time : Timestamp)
      (action : a = .deliver (.handshake (.openAck m))) (owner : e = m.owner)
      (channel : l.channel = some x) (state : x.state = .init ∨ x.state = .tryOpen)
      (hops : x.hops = [hop]) (links : h.Links hop peerHop)
      (shown : h.Sees x m.evidence.height time [⟨m.evidence.object,
        .channelEnd ⟨x.peer.port, m.peerChannel⟩, some (ChannelEnd.ofParts .tryOpen x.ordering
          (.ofEnd e) [peerHop] m.peerVersion).encode⟩]) :
      LaneStep h a e l .settled { l with
        channel := some { x.withPeerChannel m.peerChannel with
          state := .opened, version := m.peerVersion } }
  | openConfirm (l : Lane) (m : OpenConfirm) (x : ChannelEnd) (hop peerHop : ConnectionId)
      (peer : EndId) (time : Timestamp)
      (action : a = .deliver (.handshake (.openConfirm m))) (owner : e = m.owner)
      (channel : l.channel = some x) (state : x.state = .tryOpen)
      (hops : x.hops = [hop]) (links : h.Links hop peerHop) (named : x.peer = .ofEnd peer)
      (shown : h.Sees x m.evidence.height time [⟨m.evidence.object, .channelEnd peer,
        some (ChannelEnd.ofParts .opened x.ordering (.ofEnd e) [peerHop] x.version).encode⟩]) :
      LaneStep h a e l .settled { l with channel := some { x with state := .opened } }
  | close (l : Lane) (cap : Capability) (m : CloseInit) (x : ChannelEnd)
      (action : a = .close cap m) (owner : e = m.owner)
      (channel : l.channel = some x) (state : x.state ≠ .closed) :
      LaneStep h a e l .shut { l with channel := some { x with state := .closed } }
  | send (l : Lane) (cap : Capability) (m : OutgoingPacket) (x : ChannelEnd) (peer : EndId)
      (n next : Sequence) (c : Bytes) (p : Packet)
      (action : a = .send cap m) (owner : e = m.source)
      (channel : l.channel = some x) (state : x.state.allowsPackets)
      (order : x.state.isUpgrading → l.KeepsOrder x) (named : x.peer = .ofEnd peer)
      (counter : l.nextSend = some n) (counted : Word.add? n 1 = some next)
      (packet : p = ⟨n, e, peer, m.data, m.timeoutHeight, m.timeoutTime⟩)
      (ahead : m.timeoutHeight.reachedAt ⟨0, 0⟩ = false)
      (commitment : Commitment.ofPacket? p = some c) :
      LaneStep h a e l (.sent p)
        { l with nextSend := some next, commitments := update l.commitments n (some c) }
  | receiveOrdered (l : Lane) (m : ReceivePacket) (x : ChannelEnd) (next : Sequence)
      (acks : Sequence → Option Bytes)
      (action : a = .deliver (.packet (.receive m))) (owner : e = m.packet.destination)
      (guard : l.Receives h m x) (ordering : x.ordering = .ordered)
      (counter : l.nextRecv = some m.packet.sequence)
      (counted : Word.add? m.packet.sequence 1 = some next)
      (answers : l.Answers m.packet.sequence acks) :
      LaneStep h a e l (.received m.packet)
        { l with nextRecv := some next, acknowledgements := acks }
  | receiveUnordered (l : Lane) (m : ReceivePacket) (x : ChannelEnd) (next : Sequence)
      (acks : Sequence → Option Bytes)
      (action : a = .deliver (.packet (.receive m))) (owner : e = m.packet.destination)
      (guard : l.Receives h m x) (ordering : x.ordering ≠ .ordered)
      (counter : l.nextRecv = some next) (above : ¬ m.packet.sequence < next)
      (fresh : l.receipts m.packet.sequence = false)
      (answers : l.Answers m.packet.sequence acks) :
      LaneStep h a e l (.received m.packet)
        { l with receipts := update l.receipts m.packet.sequence true, acknowledgements := acks }
  | answer (l : Lane) (cap : Capability) (p : Packet) (ack : Acknowledgement) (x : ChannelEnd)
      (action : a = .writeAcknowledgement cap p ack) (owner : e = p.destination)
      (channel : l.channel = some x) (state : x.state.allowsPackets)
      (fresh : l.acknowledgements p.sequence = none) :
      LaneStep h a e l .answered { l with
        acknowledgements :=
          update l.acknowledgements p.sequence (some (Commitment.ofAcknowledgement ack)) }
  | acknowledge (l : Lane) (m : AcknowledgePacket) (x : ChannelEnd) (c : Bytes) (time : Timestamp)
      (nextAck : Option Sequence)
      (action : a = .deliver (.packet (.acknowledge m))) (owner : e = m.packet.source)
      (channel : l.channel = some x) (state : x.state.allowsPackets)
      (named : x.peer = .ofEnd m.packet.destination)
      (stored : l.commitments m.packet.sequence = some c)
      (commitment : Commitment.ofPacket? m.packet = some c)
      (shown : h.Sees x m.evidence.height time [⟨m.evidence.object,
        .acknowledgement m.packet.destinationSlot,
        some (Commitment.ofAcknowledgement m.ack)⟩])
      (counter : x.ordering ≠ .ordered ∧ nextAck = l.nextAck ∨
        x.ordering = .ordered ∧ l.nextAck = some m.packet.sequence ∧
          ∃ next, Word.add? m.packet.sequence 1 = some next ∧ nextAck = some next) :
      LaneStep h a e l (.acknowledged m.packet) { l with
        nextAck, commitments := update l.commitments m.packet.sequence none }
  | timeoutOrdered (l : Lane) (m : TimeoutPacket) (x : ChannelEnd) (c : Bytes) (time : Timestamp)
      (action : a = .deliver (.packet (.timeout m))) (owner : e = m.packet.source)
      (channel : l.channel = some x) (named : x.peer = .ofEnd m.packet.destination)
      (stored : l.commitments m.packet.sequence = some c)
      (commitment : Commitment.ofPacket? m.packet = some c)
      (late : m.packet.timedOut m.evidence.height time)
      (ordering : x.ordering = .ordered) (expected : ¬ m.packet.sequence < m.nextRecv)
      (shown : h.Sees x m.evidence.height time [⟨m.evidence.object,
        .nextRecv m.packet.destination, some (Word.bytes m.nextRecv)⟩]) :
      LaneStep h a e l (.timedOut m.packet) { l with
        channel := some { x with state := .closed }
        commitments := update l.commitments m.packet.sequence none }
  | timeoutUnordered (l : Lane) (m : TimeoutPacket) (x : ChannelEnd) (c : Bytes) (time : Timestamp)
      (action : a = .deliver (.packet (.timeout m))) (owner : e = m.packet.source)
      (channel : l.channel = some x) (named : x.peer = .ofEnd m.packet.destination)
      (stored : l.commitments m.packet.sequence = some c)
      (commitment : Commitment.ofPacket? m.packet = some c)
      (late : m.packet.timedOut m.evidence.height time)
      (ordering : x.ordering ≠ .ordered)
      (shown : h.Sees x m.evidence.height time [⟨m.evidence.object,
        .receipt m.packet.destinationSlot, none⟩]) :
      LaneStep h a e l (.timedOut m.packet)
        { l with commitments := update l.commitments m.packet.sequence none }
  | propose (l : Lane) (cap : Capability) (m : UpgradeInit) (x : ChannelEnd)
      (n sequence : Sequence) (timeout : UpgradeTimeout) (hop : ConnectionId) (c : ConnectionEnd)
      (action : a = .proposeUpgrade cap m) (owner : e = m.owner)
      (channel : l.channel = some x) (state : x.state = .opened) (changed : m.fields ≠ x.fields)
      (hops : m.fields.hops = [hop]) (connection : h.connections[hop]? = some c)
      (counter : l.nextSend = some n) (counted : Word.add? x.upgradeSequence 1 = some sequence) :
      LaneStep h a e l .proposed { l with
        channel := some { x with upgradeSequence := sequence, state := .initUpgrade }
        upgrade := some ⟨m.fields, timeout, Word.pred n⟩ }
  | reply (l : Lane) (m : UpgradeTry) (x : ChannelEnd) (fields : UpgradeFields) (n : Sequence)
      (action : a = .deliver (.upgrade (.answer m))) (owner : e = m.owner)
      (guard : l.Replies h m x fields) (state : x.state = .opened)
      (newer : x.upgradeSequence < m.peerSequence) (counter : l.nextSend = some n) :
      LaneStep h a e l .replied { l with
        channel := some { x with upgradeSequence := m.peerSequence, state := .tryUpgrade }
        upgrade := some ⟨fields, m.timeout, Word.pred n⟩
        peerUpgrade := some m.peerUpgrade }
  | cross (l : Lane) (m : UpgradeTry) (x : ChannelEnd) (fields : UpgradeFields) (own : Upgrade)
      (action : a = .deliver (.upgrade (.answer m))) (owner : e = m.owner)
      (guard : l.Replies h m x fields) (state : x.state = .initUpgrade)
      (upgrade : l.upgrade = some own) (agrees : own.fields = fields) :
      LaneStep h a e l .replied { l with
        channel := some { x with
          upgradeSequence := max x.upgradeSequence m.peerSequence, state := .tryUpgrade }
        upgrade := some own
        peerUpgrade := some m.peerUpgrade }
  | agree (l : Lane) (m : UpgradeAck) (x : ChannelEnd) (own : Upgrade) (hop peerHop : ConnectionId)
      (peer : EndId) (second : StateProof) (time : Timestamp)
      (action : a = .deliver (.upgrade (.ack m))) (owner : e = m.owner)
      (channel : l.channel = some x) (state : x.state = .initUpgrade ∨ x.state = .tryUpgrade)
      (upgrade : l.upgrade = some own) (hops : x.hops = [hop]) (links : h.Links hop peerHop)
      (named : x.peer = .ofEnd peer) (other : m.evidence.other = some second)
      (shown : h.Sees x m.evidence.height time
        [⟨m.evidence.object, .channelEnd peer, some (ChannelEnd.mk .tryUpgrade x.ordering
            (.ofEnd e) [peerHop] x.version x.upgradeSequence).encode⟩,
          ⟨second, .upgrade peer, some m.peerUpgrade.encode⟩])
      (agrees : h.Matches own.fields m.peerUpgrade.fields) :
      LaneStep h a e l .agreed { l with
        channel := some { x with state := .ackUpgrade }
        peerUpgrade := some m.peerUpgrade }
  | confirm (l : Lane) (m : UpgradeConfirm) (x : ChannelEnd) (own : Upgrade)
      (nextRecv nextAck : Option Sequence)
      (action : a = .deliver (.upgrade (.confirm m))) (owner : e = m.owner)
      (channel : l.channel = some x) (state : x.state = .tryUpgrade)
      (upgrade : l.upgrade = some own) (shown : Lane.PeerShown h e x m.evidence .ackUpgrade)
      (resets : l.Resets x own.fields nextRecv nextAck) :
      LaneStep h a e l .completed { l with
        channel := some { x.withFields own.fields with state := .opened }
        nextRecv, nextAck, upgrade := none, peerUpgrade := none }
  | finish (l : Lane) (m : UpgradeOpen) (x : ChannelEnd) (own : Upgrade)
      (nextRecv nextAck : Option Sequence)
      (action : a = .deliver (.upgrade (.finish m))) (owner : e = m.owner)
      (channel : l.channel = some x) (state : x.state = .ackUpgrade)
      (upgrade : l.upgrade = some own)
      (shown : Lane.PeerShown h e x m.evidence .ackUpgrade ∨
        Lane.PeerCompleted h e x m.evidence own.fields)
      (resets : l.Resets x own.fields nextRecv nextAck) :
      LaneStep h a e l .completed { l with
        channel := some { x.withFields own.fields with state := .opened }
        nextRecv, nextAck, upgrade := none, peerUpgrade := none }
  | cancel (l : Lane) (m : UpgradeCancel) (x : ChannelEnd) (peer : EndId) (time : Timestamp)
      (action : a = .deliver (.upgrade (.cancel m))) (owner : e = m.owner)
      (channel : l.channel = some x) (state : x.state.isUpgrading)
      (newer : ¬ m.receipt.sequence < x.upgradeSequence) (named : x.peer = .ofEnd peer)
      (shown : h.Sees x m.evidence.height time
        [⟨m.evidence.object, .upgradeError peer, some m.receipt.encode⟩]) :
      LaneStep h a e l .restored { l with
        channel := some { x with state := .opened, upgradeSequence := m.receipt.sequence }
        upgrade := none, peerUpgrade := none }
  | abort (l : Lane) (x : ChannelEnd) (receipt : ErrorReceipt)
      (channel : l.channel = some x)
      (state : (x.state = .opened ∧ receipt.sequence = x.upgradeSequence ∧
          ∃ m, a = .deliver (.upgrade (.answer m)) ∧ m.peerSequence ≤ x.upgradeSequence) ∨
        x.state = .initUpgrade ∨ x.state = .tryUpgrade)
      (newer : ¬ receipt.sequence < x.upgradeSequence)
      (source : receipt.sequence = x.upgradeSequence ∨
        ∃ m, a = .deliver (.upgrade (.answer m)) ∧ receipt.sequence = m.peerSequence) :
      LaneStep h a e l .restored { l with
        channel := some { x with state := .opened, upgradeSequence := receipt.sequence }
        upgrade := none, peerUpgrade := none, errorReceipt := some receipt }
  | expire (l : Lane) (m : UpgradeExpire) (x : ChannelEnd) (own : Upgrade) (peer : EndId)
      (time : Timestamp) (receipt : ErrorReceipt)
      (action : a = .deliver (.upgrade (.expire m))) (owner : e = m.owner)
      (channel : l.channel = some x) (state : x.state = .initUpgrade ∨ x.state = .tryUpgrade)
      (upgrade : l.upgrade = some own) (named : x.peer = .ofEnd peer)
      (late : own.timeout.elapsedAt m.evidence.height time)
      (shown : h.Sees x m.evidence.height time
        [⟨m.evidence.object, .channelEnd peer, some m.peerEnd.encode⟩])
      (pending : m.peerEnd.state = .opened → x.upgradeSequence ≤ m.peerEnd.upgradeSequence →
        ¬ h.Matches own.fields m.peerEnd.fields)
      (sequence : receipt.sequence = x.upgradeSequence) :
      LaneStep h a e l .restored { l with
        channel := some { x with state := .opened }
        upgrade := none, peerUpgrade := none, errorReceipt := some receipt }

theorem LaneStep.of_empty [Digest] {h : Host} {a : Action} {e : EndId} {l l' : Lane} {d : Deed}
    (step : LaneStep h a e l d l') (free : l = .empty) :
    d = .idle ∧ l' = l ∨ d = .created ∧ ∃ m, a = .deliver (.handshake m) := by
  have absent (x : ChannelEnd) : l.channel ≠ some x := by
    rw [free]
    simp [Lane.empty]
  cases step with
  | idle => exact .inl ⟨rfl, rfl⟩
  | openInit m hop c action => exact .inr ⟨rfl, _, action⟩
  | openTry m version hop peerHop peer time action => exact .inr ⟨rfl, _, action⟩
  | receiveOrdered _ m x next acks action owner guard => exact absurd guard.channel (absent x)
  | receiveUnordered _ m x next acks action owner guard => exact absurd guard.channel (absent x)
  | reply _ m x fields n action owner guard => exact absurd guard.channel (absent x)
  | cross _ m x fields own action owner guard => exact absurd guard.channel (absent x)
  | _ => exact absurd ‹l.channel = some _› (absent _)

/-! ### Storing -/

/-- What an action that concerns one end leaves in the store: a step of the lane of that end, the
other lanes as they were, and a count of channels that grew if the end is new. -/
structure Stores [Digest] (h : Host) (a : Action) (owner : EndId) (d : Deed) (t : ChannelStore) :
    Prop where
  step : LaneStep h a owner (h.store.lane owner) d (t.lane owner)
  others : ∀ f, f ≠ owner → t.lane f = h.store.lane f
  count : h.store.created ≤ t.created
  fresh : h.store.lane owner = .empty → h.store.created < t.created

theorem Stores.old [Digest] {h : Host} {a : Action} {owner : EndId} {d : Deed} {t : ChannelStore}
    {x : ChannelEnd} (channel : h.store.ends[owner]? = some x)
    (step : LaneStep h a owner (h.store.lane owner) d (t.lane owner))
    (others : ∀ f, f ≠ owner → t.lane f = h.store.lane f)
    (count : t.created = h.store.created) : Stores h a owner d t := by
  refine ⟨step, others, by rw [count]; exact UInt64.le_refl _, ?_⟩
  intro free
  exact absurd free (ChannelStore.lane_ne_empty channel)

/-! ### What is seen -/

theorem Host.Sees.of_opens [Digest] {h : Host} {x : ChannelEnd} {hop : ConnectionId}
    {c : ConnectionEnd} {height : Height} {cs : ConsensusState} {claim : Claimed}
    (hops : x.hops = [hop]) (connection : h.connections[hop]? = some c)
    (knows : h.Knows c height cs)
    (opens : cs.Opens c.peer.label claim.proof claim.path claim.value) :
    h.Sees x height cs.timestamp [claim] := by
  refine ⟨hop, c, cs, hops, connection, knows, rfl, ?_⟩
  intro k hk
  rw [List.mem_singleton.1 hk]
  exact opens

theorem Host.sees_of_provesPeerValue [Digest] {h : Host} {x : ChannelEnd} {hop : ConnectionId}
    {c : ConnectionEnd} {height : Height} {proof : StateProof} {path : EndId → Path} {value : Bytes}
    {f : ClientError → ChannelError} {u : Unit} (hops : x.hops = [hop])
    (connection : h.connections[hop]? = some c)
    (shown : h.provesPeerValue c x height proof path value f = .ok u) :
    ∃ peer time, x.peer = .ofEnd peer ∧
      h.Sees x height time [⟨proof, path peer, some value⟩] := by
  obtain ⟨cs, peer, knows, named, opens⟩ := provesPeerValue_eq_ok shown
  exact ⟨peer, cs.timestamp, named, .of_opens hops connection knows opens⟩

theorem ChannelPeer.ofEnd_injective {e f : EndId} (h : ofEnd e = ofEnd f) : e = f := by
  obtain ⟨p, c⟩ := e
  obtain ⟨q, d⟩ := f
  simp only [ofEnd, ChannelPeer.mk.injEq, Option.some.injEq] at h
  rw [h.1, h.2]

theorem Host.Sees.append [Digest] {h : Host} {x : ChannelEnd} {height : Height}
    {s t : Timestamp} {k l : List Claimed} (hs : h.Sees x height s k) (ht : h.Sees x height t l) :
    s = t ∧ h.Sees x height s (k ++ l) := by
  obtain ⟨hop, c, cs, hops, connection, knows, rfl, opens⟩ := hs
  obtain ⟨hop', c', cs', hops', connection', knows', rfl, opens'⟩ := ht
  obtain rfl : hop = hop' := by simpa [hops] using hops'
  obtain rfl : c = c' := by simpa [connection] using connection'
  obtain rfl := knows.unique knows'
  refine ⟨rfl, hop, c, cs, hops, connection, knows, rfl, ?_⟩
  intro m hm
  rcases List.mem_append.1 hm with hm | hm
  · exact opens m hm
  · exact opens' m hm

end Crosschain
