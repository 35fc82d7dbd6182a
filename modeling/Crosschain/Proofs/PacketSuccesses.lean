import Crosschain.Proofs.Attempts

/-!
# How a message about a packet succeeds

The ways in which a packet is sent, received, acknowledged or timed out, or nothing is left to do for
it, with the checks that were passed and what each way yields.
-/

namespace Crosschain

namespace Transfer

/-- An end lets packets pass, and a handle owns it. -/
structure Serves (h : Host) (cap : Capability) (e : EndId) (x : ChannelEnd) : Prop where
  channel : h.store.ends[e]? = some x
  owned : h.store.authenticate e cap = .ok ()
  state : x.state.allowsPackets

theorem Serves.ne_closed {h : Host} {cap : Capability} {e : EndId} {x : ChannelEnd}
    (serves : Serves h cap e x) : x.state ≠ .closed := by
  intro closed
  have state := serves.state
  rw [closed] at state
  cases state

variable [Digest] {h : Host} {cap : Capability} {out : Output PacketChange}

inductive Sends (h : Host) (cap : Capability) (m : OutgoingPacket) : Output PacketChange → Prop
  | sent {x : ChannelEnd} {peer : EndId} {n next : Sequence} {c : Bytes}
      (serves : Serves h cap m.source x)
      (order : Upgrading.pendingOrderChange h m.source x = .ok none) (filled : m.data ≠ [])
      (bounded : m.timeoutHeight.isSet || m.timeoutTime.isSet) (named : x.peer = .ofEnd peer)
      (ahead : ensureNotTimedOut h x m = .ok ()) (counter : h.store.nextSend[m.source]? = some n)
      (counted : Word.add? n 1 = some next)
      (commitment : Commitment.ofPacket?
        ⟨n, m.source, peer, m.data, m.timeoutHeight, m.timeoutTime⟩ = some c) :
      Sends h cap m ⟨.sent ⟨m.source, n⟩ next c, ["success: packet send"],
        [.packet .sent ⟨n, m.source, peer, m.data, m.timeoutHeight, m.timeoutTime⟩]⟩

theorem send_eq_ok {m : OutgoingPacket} : send h cap m = .ok out ↔ Sends h cap m out := by
  simp only [send, Except.bind_eq_ok, Fault.lift_eq_ok, Fault.ensure_eq_ok, Fault.checked_eq_ok,
    ChannelStore.endAt_eq_ok, ChannelStore.nextSendOf_eq_ok, ChannelPeer.endId_eq_ok,
    Except.pure_eq_ok]
  constructor
  · rintro ⟨x, channel, _, owned, _, -, _, state, pending, order, _, none, _, filled, _, bounded,
      peer, named, _, ahead, n, counter, next, counted, c, commitment, rfl⟩
    rw [Option.isNone_iff_eq_none.1 none] at order
    exact .sent ⟨channel, owned, state⟩ order (by simpa using filled) bounded named ahead counter
      counted commitment
  · rintro ⟨serves, order, filled, bounded, named, ahead, counter, counted, commitment⟩
    exact ⟨_, serves.channel, (), serves.owned, (), serves.ne_closed, (), serves.state, none, order,
      (), rfl, (), by simpa using filled, (), bounded, _, named, (), ahead, _, counter, _, counted,
      _, commitment, rfl⟩

inductive Writes (h : Host) (cap : Capability) (p : Packet) (ack : Acknowledgement) :
    Output PacketChange → Prop
  | before {x : ChannelEnd} {c : Bytes} (serves : Serves h cap p.destination x)
      (there : h.store.acknowledgements[p.destinationSlot]? = some c) :
      Writes h cap p ack (noOp "no-op: acknowledgement already written" (.alreadyWritten p.sequence))
  | written {x : ChannelEnd} (serves : Serves h cap p.destination x)
      (free : h.store.acknowledgements[p.destinationSlot]? = none) (filled : ack ≠ []) :
      Writes h cap p ack ⟨.answered p.destinationSlot (Commitment.ofAcknowledgement ack),
        ["success: packet write acknowledgement"], [.acknowledgement p ack]⟩

theorem writeAcknowledgement_eq_ok {p : Packet} {ack : Acknowledgement} :
    writeAcknowledgement h cap p ack = .ok out ↔ Writes h cap p ack out := by
  simp only [writeAcknowledgement, Except.bind_eq_ok, Fault.lift_eq_ok, Fault.ensure_eq_ok,
    ChannelStore.endAt_eq_ok]
  constructor
  · rintro ⟨x, channel, _, owned, _, state, ok⟩
    split at ok
    next before =>
      rw [Except.pure_eq_ok] at ok
      subst ok
      obtain ⟨c, there⟩ := Option.isSome_iff_exists.1
        (Std.ExtTreeMap.contains_eq_isSome_getElem?.symm.trans before)
      exact .before ⟨channel, owned, state⟩ there
    next free =>
      simp only [Except.bind_eq_ok, Fault.ensure_eq_ok, Except.pure_eq_ok] at ok
      obtain ⟨_, filled, rfl⟩ := ok
      exact .written ⟨channel, owned, state⟩ (by simpa using free) (by simpa using filled)
  · rintro (⟨serves, there⟩ | ⟨serves, free, filled⟩)
    · refine ⟨_, serves.channel, (), serves.owned, (), serves.state, if_pos ?_⟩
      rw [Std.ExtTreeMap.contains_eq_isSome_getElem?, there]
      rfl
    · have unwritten : ¬ h.store.acknowledgements.contains p.destinationSlot = true := by
        rw [Std.ExtTreeMap.contains_eq_isSome_getElem?, free]
        decide
      refine ⟨_, serves.channel, (), serves.owned, (), serves.state, (if_neg unwritten).trans ?_⟩
      simp only [Except.bind_eq_ok, Fault.ensure_eq_ok]
      exact ⟨(), by simpa using filled, rfl⟩

theorem Writes.exists_serves {p : Packet} {ack : Acknowledgement} (writes : Writes h cap p ack out) :
    ∃ x, Serves h cap p.destination x := by
  obtain ⟨serves⟩ | ⟨serves⟩ := writes
  · exact ⟨_, serves⟩
  · exact ⟨_, serves⟩

/-- A packet that can be received at an end as far as the checks before its timeouts go. -/
structure Receivable (h : Host) (cap : Capability) (p : Packet) (x : ChannelEnd) : Prop where
  channel : h.store.ends[p.destination]? = some x
  owned : h.store.authenticate p.destination cap = .ok ()
  state : x.state.allowsPackets
  peer : x.peer = .ofEnd p.source
  order : x.state = .ackUpgrade → Upgrading.pendingOrderChange h p.destination x = .ok none
  connection : ∃ c, h.openConnection x = .ok c

omit [Digest] in
theorem Receivable.serves {p : Packet} {x : ChannelEnd} (receivable : Receivable h cap p x) :
    Serves h cap p.destination x :=
  ⟨receivable.channel, receivable.owned, receivable.state⟩

/-- A packet is let in at its destination, which counted up to a sequence. -/
structure LetsIn (h : Host) (cap : Capability) (m : ReceivePacket) (x : ChannelEnd)
    (next : Sequence) : Prop where
  receivable : Receivable h cap m.packet x
  inTime : ensureInTime h m.packet = .ok ()
  shown : ∃ c, h.openConnection x = .ok c ∧ h.provesPacket c m.packet m.evidence = .ok ()
  counter : h.store.nextRecv[m.packet.destination]? = some next

omit [Digest] in
theorem ensureInTime_of_before {p : Packet} {now : Timestamp} (time : h.now? = some now)
    (before : p.timedOut h.height now = false) : ensureInTime h p = .ok () := by
  rw [Packet.timedOut, Bool.or_eq_false_iff] at before
  obtain ⟨height, stamp⟩ := before
  unfold ensureInTime
  cases limit : p.timeoutHeight with
  | never =>
    simp only [Except.bind_eq_ok, Host.now_eq_ok]
    exact ⟨now, time, Fault.ensure_eq_ok.2 (by simp [stamp])⟩
  | atHeight bound =>
    rw [limit, TimeoutHeight.reachedAt, decide_eq_false_iff_not] at height
    simp only [Except.bind_eq_ok, Host.now_eq_ok]
    exact ⟨(), Fault.ensure_eq_ok.2 height, now, time, Fault.ensure_eq_ok.2 (by simp [stamp])⟩

/-- A packet waits at its source, behind an end and a connection, to be acknowledged or taken back. -/
structure Outstanding [Digest] (h : Host) (cap : Capability) (p : Packet) (x : ChannelEnd)
    (c : ConnectionEnd) : Prop where
  channel : h.store.ends[p.source]? = some x
  owned : h.store.authenticate p.source cap = .ok ()
  committed : ∃ bytes, Commitment.ofPacket? p = some bytes ∧
    h.store.commitments[p.sourceSlot]? = some bytes
  peer : x.peer = .ofEnd p.destination
  route : ∃ hop, x.hops = [hop] ∧ h.connections[hop]? = some c

omit [Digest] in
theorem Outstanding.commitment_of_kept [Digest] {p : Packet} {x : ChannelEnd} {c : ConnectionEnd}
    {bytes : Bytes} (outstanding : Outstanding h cap p x c)
    (kept : h.store.commitments[p.sourceSlot]? = some bytes) :
    Commitment.ofPacket? p = some bytes := by
  obtain ⟨stored, commitment, found⟩ := outstanding.committed
  rw [commitment, ← found, kept]

/-- The checks on a packet that its marks have no part in, with the end and its receive counter. -/
def accept (h : Host) (cap : Capability) (m : ReceivePacket) : Attempt (ChannelEnd × Sequence) := do
  let p := m.packet
  let e ← Fault.lift (h.store.endAt p.destination)
  Fault.lift (h.store.authenticate p.destination cap)
  Fault.ensure (e.state.allowsPackets) (.wrongState p.destination.channel e.state)
  ensurePeer e p.source
  if e.state = .ackUpgrade then
    let pending ← Upgrading.pendingOrderChange h p.destination e
    Fault.ensure (pending.isNone) (.orderChangePending p.destination.channel)
  let c ← h.openConnection e
  ensureInTime h p
  h.provesPacket c p m.evidence
  let next ← Fault.lift (h.store.nextRecvOf p.destination)
  pure (e, next)

theorem accept_eq_ok {m : ReceivePacket} {x : ChannelEnd} {next : Sequence} :
    accept h cap m = .ok (x, next) ↔ LetsIn h cap m x next := by
  simp only [accept, ensurePeer, Except.bind_eq_ok, Fault.lift_eq_ok, Fault.ensure_eq_ok,
    ChannelStore.endAt_eq_ok]
  constructor
  · rintro ⟨x, channel, _, owned, _, state, _, peer, ok⟩
    -- Only an end that acknowledged an upgrade is asked whether its ordering changes.
    split at ok
    next acknowledging =>
      simp only [Except.bind_eq_ok, Fault.lift_eq_ok, Fault.ensure_eq_ok,
        ChannelStore.nextRecvOf_eq_ok, Except.pure_eq_ok, Prod.mk.injEq] at ok
      obtain ⟨pending, order, _, none, c, connection, _, inTime, _, shown, next, counter, rfl, rfl⟩ :=
        ok
      rw [Option.isNone_iff_eq_none.1 none] at order
      exact ⟨⟨channel, owned, state, peer, fun _ => order, c, connection⟩, inTime,
        ⟨c, connection, shown⟩, counter⟩
    next other =>
      simp only [Except.bind_eq_ok, Fault.lift_eq_ok, ChannelStore.nextRecvOf_eq_ok,
        Except.pure_eq_ok, Prod.mk.injEq] at ok
      obtain ⟨c, connection, _, inTime, _, shown, next, counter, rfl, rfl⟩ := ok
      exact ⟨⟨channel, owned, state, peer, fun same => absurd same other, c, connection⟩, inTime,
        ⟨c, connection, shown⟩, counter⟩
  · rintro ⟨receivable, inTime, ⟨c, connection, shown⟩, counter⟩
    refine ⟨x, receivable.channel, (), receivable.owned, (), receivable.state, (), receivable.peer,
      ?_⟩
    split
    next acknowledging =>
      simp only [Except.bind_eq_ok, Fault.lift_eq_ok, Fault.ensure_eq_ok,
        ChannelStore.nextRecvOf_eq_ok]
      exact ⟨none, receivable.order acknowledging, (), rfl, c, connection, (), inTime, (), shown, next,
        counter, rfl⟩
    next other =>
      simp only [Except.bind_eq_ok, Fault.lift_eq_ok, ChannelStore.nextRecvOf_eq_ok]
      exact ⟨c, connection, (), inTime, (), shown, next, counter, rfl⟩

def received (p : Packet) : Output PacketChange :=
  ⟨.received p.destinationSlot, ["success: packet receive"], [.packet .received p]⟩

def receivedAgain (p : Packet) : Output PacketChange :=
  noOp "no-op: packet already received" (.alreadyReceived p.sequence)

/-- What becomes of a packet that is let in, at an end with a receive counter. -/
def judge (h : Host) (m : ReceivePacket) (x : ChannelEnd) (next : Sequence) :
    Attempt (Output PacketChange) :=
  if m.packet.sequence < next then pure (receivedAgain m.packet)
  else if x.ordering = .ordered then do
    Fault.ensure (m.packet.sequence = next) (.sequenceMismatch m.packet.sequence next)
    let after ← Fault.checked (Word.add? next 1)
    pure { received m.packet with result := .receivedInOrder m.packet.destination after }
  else if h.store.hasReceipt m.packet.destinationSlot then pure (receivedAgain m.packet)
  else pure (received m.packet)

theorem receive_eq {m : ReceivePacket} :
    receive h cap m = accept h cap m >>= fun found => judge h m found.1 found.2 := by
  simp only [receive, accept, bind_assoc]
  refine bind_congr fun x => bind_congr fun _ => bind_congr fun _ => bind_congr fun _ => ?_
  split
  · simp only [bind_assoc, pure_bind]
    rfl
  · simp only [bind_assoc, pure_bind]
    rfl

theorem receive_eq_ok {m : ReceivePacket} : receive h cap m = .ok out ↔
    ∃ x next, LetsIn h cap m x next ∧ judge h m x next = .ok out := by
  simp only [receive_eq, Except.bind_eq_ok, Prod.exists, accept_eq_ok]

theorem ensureCommitted_eq_ok {p : Packet} {stored : Bytes} {u : Unit} :
    ensureCommitted p stored = .ok u ↔ Commitment.ofPacket? p = some stored := by
  simp only [ensureCommitted, Except.bind_eq_ok, Fault.checked_eq_ok, Fault.ensure_eq_ok]
  constructor
  · rintro ⟨c, commitment, rfl⟩
    exact commitment
  · intro commitment
    exact ⟨stored, commitment, rfl⟩

/-- How an end counts on with an acknowledgement: only an ordered end does, which waited for it. -/
def CountsOn (h : Host) (p : Packet) (x : ChannelEnd) : Option Sequence → Prop
  | none => x.ordering ≠ .ordered
  | some after => x.ordering = .ordered ∧ h.store.nextAck[p.source]? = some p.sequence ∧
    Word.add? p.sequence 1 = some after

/-- What is left of taking an acknowledgement that is shown. -/
def countOn (h : Host) (p : Packet) (x : ChannelEnd) : Attempt (Output PacketChange) := do
  let done (next : Option Sequence) : Output PacketChange :=
    ⟨.acknowledged p.sourceSlot next, ["success: packet ack"], [.packet .acknowledged p]⟩
  if x.ordering = .ordered then
    let next ← Fault.lift (h.store.nextAckOf p.source)
    Fault.ensure (p.sequence = next) (.sequenceMismatch p.sequence next)
    let after ← Fault.checked (Word.add? next 1)
    pure (done (some after))
  else pure (done none)

omit [Digest] in
theorem countOn_eq_ok {p : Packet} {x : ChannelEnd} : countOn h p x = .ok out ↔
    ∃ next, CountsOn h p x next ∧ out =
      ⟨.acknowledged p.sourceSlot next, ["success: packet ack"], [.packet .acknowledged p]⟩ := by
  unfold countOn
  split
  next ordered =>
    simp only [Except.bind_eq_ok, Fault.lift_eq_ok, Fault.ensure_eq_ok, Fault.checked_eq_ok,
      ChannelStore.nextAckOf_eq_ok, Except.pure_eq_ok]
    constructor
    · rintro ⟨next, counter, _, same, after, counted, rfl⟩
      subst same
      exact ⟨some after, ⟨ordered, counter, counted⟩, rfl⟩
    · rintro ⟨_ | after, counts, rfl⟩
      · exact absurd ordered counts
      · obtain ⟨-, counter, counted⟩ := counts
        exact ⟨_, counter, (), rfl, after, counted, rfl⟩
  next unordered =>
    rw [Except.pure_eq_ok]
    constructor
    · rintro rfl
      exact ⟨none, unordered, rfl⟩
    · rintro ⟨_ | after, counts, rfl⟩
      · rfl
      · exact absurd counts.1 unordered

theorem acknowledge_eq_ok {m : AcknowledgePacket} : acknowledge h cap m = .ok out ↔
    ∃ x c, Serves h cap m.packet.source x ∧ x.peer = .ofEnd m.packet.destination ∧
      h.openConnection x = .ok c ∧
      (h.store.commitments[m.packet.sourceSlot]? = none ∧ out = resolved m.packet ∨
        Outstanding h cap m.packet x c ∧
          h.provesAcknowledgement c m.packet m.ack m.evidence = .ok () ∧
          countOn h m.packet x = .ok out) := by
  simp only [acknowledge, ensurePeer, Except.bind_eq_ok, Fault.lift_eq_ok, Fault.ensure_eq_ok,
    ChannelStore.endAt_eq_ok]
  constructor
  · rintro ⟨x, channel, _, owned, _, -, _, state, _, peer, c, connection, ok⟩
    refine ⟨x, c, ⟨channel, owned, state⟩, peer, connection, ?_⟩
    split at ok
    next absent =>
      cases ok
      exact .inl ⟨absent, rfl⟩
    next stored found =>
      simp only [Except.bind_eq_ok, ensureCommitted_eq_ok] at ok
      obtain ⟨_, commitment, _, shown, ok⟩ := ok
      obtain ⟨hop, hops, there, -⟩ := Host.openConnection_eq_ok.1 connection
      exact .inr ⟨⟨channel, owned, ⟨stored, commitment, found⟩, peer, ⟨hop, hops, there⟩⟩, shown, ok⟩
  · rintro ⟨x, c, serves, peer, connection, ways⟩
    refine ⟨x, serves.channel, (), serves.owned, (), serves.ne_closed, (), serves.state, (), peer,
      c, connection, ?_⟩
    obtain ⟨absent, rfl⟩ | ⟨outstanding, shown, ok⟩ := ways
    · rw [absent]
      rfl
    · obtain ⟨bytes, commitment, found⟩ := outstanding.committed
      rw [found]
      simp only [Except.bind_eq_ok, ensureCommitted_eq_ok]
      exact ⟨(), commitment, (), shown, ok⟩

/-- What is left of taking a packet back once it counts as timed out. -/
def takeBack (h : Host) (m : TimeoutPacket) (x : ChannelEnd) (hop : ConnectionId)
    (c : ConnectionEnd) : Attempt (Output PacketChange) := do
  let p := m.packet
  let lines := ["success: packet timeout"]
  if x.ordering = .ordered then
    Fault.ensure (¬ p.sequence < m.nextRecv) (.sequenceMismatch p.sequence m.nextRecv)
    h.provesNextRecv c p m.nextRecv m.evidence
    if x.state = .closed then
      pure ⟨.timedOut p.sourceSlot none, lines, [.packet .timedOut p]⟩
    else
      pure ⟨.timedOut p.sourceSlot (some { x with state := .closed }), lines,
        [.packet .timedOut p,
          .closed ⟨p.source.port, some p.source.channel, hop, .ofEnd p.destination⟩ x.ordering]⟩
  else
    h.provesNoReceipt c p m.evidence
    pure ⟨.timedOut p.sourceSlot none, lines, [.packet .timedOut p]⟩

theorem timeout_eq_ok {m : TimeoutPacket} : timeout h cap m = .ok out ↔
    (∃ x, h.store.ends[m.packet.source]? = some x ∧
      h.store.authenticate m.packet.source cap = .ok () ∧
      h.store.commitments[m.packet.sourceSlot]? = none ∧ out = resolved m.packet) ∨
    ∃ x hop c cs, Outstanding h cap m.packet x c ∧ x.hops = [hop] ∧
      h.Knows c m.evidence.height cs ∧ m.packet.timedOut m.evidence.height cs.timestamp ∧
      takeBack h m x hop c = .ok out := by
  simp only [timeout, Except.bind_eq_ok, Fault.lift_eq_ok, ChannelStore.endAt_eq_ok]
  constructor
  · rintro ⟨x, channel, _, owned, ok⟩
    split at ok
    next absent =>
      cases ok
      exact .inl ⟨x, channel, owned, absent, rfl⟩
    next stored found =>
    simp only [ensurePeer, Except.bind_eq_ok, Fault.lift_eq_ok, Fault.ensure_eq_ok,
      ChannelEnd.hop_eq_ok, Host.connectionAt_eq_ok, Host.consensusAt_eq_ok,
      ensureCommitted_eq_ok] at ok
    obtain ⟨_, peer, hop, hops, c, connection, _, commitment, cs, knows, _, late, ok⟩ := ok
    exact .inr ⟨x, hop, c, cs, ⟨channel, owned, ⟨stored, commitment, found⟩, peer,
      ⟨hop, hops, connection⟩⟩, hops, knows, late, ok⟩
  · rintro (⟨x, channel, owned, absent, rfl⟩ | ⟨x, hop, c, cs, outstanding, hops, knows, late, ok⟩)
    · refine ⟨x, channel, (), owned, ?_⟩
      rw [absent]
      rfl
    · obtain ⟨bytes, commitment, found⟩ := outstanding.committed
      obtain ⟨hop', hops', connection⟩ := outstanding.route
      obtain rfl : hop = hop' := List.singleton_inj.1 (hops.symm.trans hops')
      refine ⟨x, outstanding.channel, (), outstanding.owned, ?_⟩
      rw [found]
      simp only [ensurePeer, Except.bind_eq_ok, Fault.lift_eq_ok, Fault.ensure_eq_ok,
        ChannelEnd.hop_eq_ok, Host.connectionAt_eq_ok, Host.consensusAt_eq_ok,
        ensureCommitted_eq_ok]
      exact ⟨(), outstanding.peer, hop, hops, c, connection, (), commitment, cs, knows, (), late, ok⟩

/-- The ways in which a message about a packet succeeds. What came before, or is settled already,
comes to nothing. -/
inductive Succeeds (h : Host) (cap : Capability) : PacketMessage → Output PacketChange → Prop
  | receivedBefore {m : ReceivePacket} {x : ChannelEnd} {next : Sequence}
      (letsIn : LetsIn h cap m x next)
      (again : m.packet.sequence < next ∨
        x.ordering ≠ .ordered ∧ h.store.hasReceipt m.packet.destinationSlot = true) :
      Succeeds h cap (.receive m) (receivedAgain m.packet)
  | receivedInOrder {m : ReceivePacket} {x : ChannelEnd} {after : Sequence}
      (letsIn : LetsIn h cap m x m.packet.sequence) (ordered : x.ordering = .ordered)
      (counted : Word.add? m.packet.sequence 1 = some after) :
      Succeeds h cap (.receive m)
        { received m.packet with result := .receivedInOrder m.packet.destination after }
  | received {m : ReceivePacket} {x : ChannelEnd} {next : Sequence}
      (letsIn : LetsIn h cap m x next) (unordered : x.ordering ≠ .ordered)
      (above : ¬ m.packet.sequence < next)
      (fresh : h.store.hasReceipt m.packet.destinationSlot = false) :
      Succeeds h cap (.receive m) (received m.packet)
  | acknowledgedBefore {m : AcknowledgePacket} {x : ChannelEnd} {c : ConnectionEnd}
      (serves : Serves h cap m.packet.source x) (peer : x.peer = .ofEnd m.packet.destination)
      (connection : h.openConnection x = .ok c)
      (absent : h.store.commitments[m.packet.sourceSlot]? = none) :
      Succeeds h cap (.acknowledge m) (resolved m.packet)
  | acknowledged {m : AcknowledgePacket} {x : ChannelEnd} {c : ConnectionEnd}
      {next : Option Sequence} (outstanding : Outstanding h cap m.packet x c)
      (state : x.state.allowsPackets) (connection : h.openConnection x = .ok c)
      (shown : h.provesAcknowledgement c m.packet m.ack m.evidence = .ok ())
      (counts : CountsOn h m.packet x next) :
      Succeeds h cap (.acknowledge m) ⟨.acknowledged m.packet.sourceSlot next,
        ["success: packet ack"], [.packet .acknowledged m.packet]⟩
  | timedOutBefore {m : TimeoutPacket} {x : ChannelEnd}
      (channel : h.store.ends[m.packet.source]? = some x)
      (owned : h.store.authenticate m.packet.source cap = .ok ())
      (absent : h.store.commitments[m.packet.sourceSlot]? = none) :
      Succeeds h cap (.timeout m) (resolved m.packet)
  | timedOutInOrder {m : TimeoutPacket} {x : ChannelEnd} {c : ConnectionEnd} {hop : ConnectionId}
      {cs : ConsensusState} (outstanding : Outstanding h cap m.packet x c) (hops : x.hops = [hop])
      (knows : h.Knows c m.evidence.height cs)
      (late : m.packet.timedOut m.evidence.height cs.timestamp) (ordered : x.ordering = .ordered)
      (expected : ¬ m.packet.sequence < m.nextRecv)
      (shown : h.provesNextRecv c m.packet m.nextRecv m.evidence = .ok ())
      (live : x.state ≠ .closed) :
      Succeeds h cap (.timeout m)
        ⟨.timedOut m.packet.sourceSlot (some { x with state := .closed }),
          ["success: packet timeout"],
          [.packet .timedOut m.packet, .closed ⟨m.packet.source.port, some m.packet.source.channel,
            hop, .ofEnd m.packet.destination⟩ x.ordering]⟩
  | timedOutShut {m : TimeoutPacket} {x : ChannelEnd} {c : ConnectionEnd} {cs : ConsensusState}
      (outstanding : Outstanding h cap m.packet x c) (knows : h.Knows c m.evidence.height cs)
      (late : m.packet.timedOut m.evidence.height cs.timestamp) (ordered : x.ordering = .ordered)
      (expected : ¬ m.packet.sequence < m.nextRecv)
      (shown : h.provesNextRecv c m.packet m.nextRecv m.evidence = .ok ())
      (closed : x.state = .closed) :
      Succeeds h cap (.timeout m) ⟨.timedOut m.packet.sourceSlot none,
        ["success: packet timeout"], [.packet .timedOut m.packet]⟩
  | timedOut {m : TimeoutPacket} {x : ChannelEnd} {c : ConnectionEnd} {cs : ConsensusState}
      (outstanding : Outstanding h cap m.packet x c) (knows : h.Knows c m.evidence.height cs)
      (late : m.packet.timedOut m.evidence.height cs.timestamp) (unordered : x.ordering ≠ .ordered)
      (shown : h.provesNoReceipt c m.packet m.evidence = .ok ()) :
      Succeeds h cap (.timeout m) ⟨.timedOut m.packet.sourceSlot none,
        ["success: packet timeout"], [.packet .timedOut m.packet]⟩

theorem succeeds_of_receive {m : ReceivePacket} (ok : receive h cap m = .ok out) :
    Succeeds h cap (.receive m) out := by
  obtain ⟨x, next, letsIn, ok⟩ := receive_eq_ok.1 ok
  unfold judge at ok
  split at ok
  next below =>
    cases ok
    exact .receivedBefore letsIn (.inl below)
  next above =>
  split at ok
  next ordered =>
    simp only [Except.bind_eq_ok, Fault.ensure_eq_ok, Fault.checked_eq_ok, Except.pure_eq_ok] at ok
    obtain ⟨_, same, after, counted, rfl⟩ := ok
    subst same
    exact .receivedInOrder letsIn ordered counted
  next unordered =>
  split at ok
  next marked =>
    cases ok
    exact .receivedBefore letsIn (.inr ⟨unordered, marked⟩)
  next fresh =>
    cases ok
    exact .received letsIn unordered above (by simpa using fresh)

theorem succeeds_of_acknowledge {m : AcknowledgePacket} (ok : acknowledge h cap m = .ok out) :
    Succeeds h cap (.acknowledge m) out := by
  obtain ⟨x, c, serves, peer, connection, ⟨absent, rfl⟩ | ⟨outstanding, shown, ok⟩⟩ :=
    acknowledge_eq_ok.1 ok
  · exact .acknowledgedBefore serves peer connection absent
  · obtain ⟨next, counts, rfl⟩ := countOn_eq_ok.1 ok
    exact .acknowledged outstanding serves.state connection shown counts

theorem succeeds_of_timeout {m : TimeoutPacket} (ok : timeout h cap m = .ok out) :
    Succeeds h cap (.timeout m) out := by
  obtain ⟨x, channel, owned, absent, rfl⟩ | ⟨x, hop, c, cs, outstanding, hops, knows, late, ok⟩ :=
    timeout_eq_ok.1 ok
  · exact .timedOutBefore channel owned absent
  unfold takeBack at ok
  split at ok
  next ordered =>
    simp only [Except.bind_eq_ok, Fault.ensure_eq_ok] at ok
    obtain ⟨_, expected, _, shown, ok⟩ := ok
    split at ok
    next closed =>
      cases ok
      exact .timedOutShut outstanding knows late ordered expected shown closed
    next live =>
      cases ok
      exact .timedOutInOrder outstanding hops knows late ordered expected shown live
  next unordered =>
    simp only [Except.bind_eq_ok, Except.pure_eq_ok] at ok
    obtain ⟨_, shown, rfl⟩ := ok
    exact .timedOut outstanding knows late unordered shown

theorem step_of_succeeds {m : PacketMessage} (succeeds : Succeeds h cap m out) :
    step h cap m = .ok out := by
  cases succeeds with
  | receivedBefore letsIn again =>
    refine receive_eq_ok.2 ⟨_, _, letsIn, ?_⟩
    obtain below | ⟨unordered, marked⟩ := again
    · exact if_pos below
    · rw [judge, if_neg unordered, if_pos marked]
      split <;> rfl
  | receivedInOrder letsIn ordered counted =>
    refine receive_eq_ok.2 ⟨_, _, letsIn, ?_⟩
    simp only [judge, if_neg (UInt64.lt_irrefl _), if_pos ordered, Except.bind_eq_ok,
      Fault.ensure_eq_ok, Fault.checked_eq_ok, Except.pure_eq_ok]
    exact ⟨(), trivial, _, counted, rfl⟩
  | received letsIn unordered above fresh =>
    refine receive_eq_ok.2 ⟨_, _, letsIn, ?_⟩
    rw [judge, if_neg above, if_neg unordered, fresh]
    rfl
  | acknowledgedBefore serves peer connection absent =>
    exact acknowledge_eq_ok.2 ⟨_, _, serves, peer, connection, .inl ⟨absent, rfl⟩⟩
  | acknowledged outstanding state connection shown counts =>
    exact acknowledge_eq_ok.2 ⟨_, _, ⟨outstanding.channel, outstanding.owned, state⟩,
      outstanding.peer, connection, .inr ⟨outstanding, shown, countOn_eq_ok.2 ⟨_, counts, rfl⟩⟩⟩
  | timedOutBefore channel owned absent =>
    exact timeout_eq_ok.2 (.inl ⟨_, channel, owned, absent, rfl⟩)
  | timedOutInOrder outstanding hops knows late ordered expected shown live =>
    refine timeout_eq_ok.2 (.inr ⟨_, _, _, _, outstanding, hops, knows, late, ?_⟩)
    simp only [takeBack, if_pos ordered, if_neg live, Fault.bind_of_ensure expected, shown]
    rfl
  | timedOutShut outstanding knows late ordered expected shown closed =>
    obtain ⟨hop, hops, -⟩ := outstanding.route
    refine timeout_eq_ok.2 (.inr ⟨_, hop, _, _, outstanding, hops, knows, late, ?_⟩)
    simp only [takeBack, if_pos ordered, if_pos closed, Fault.bind_of_ensure expected, shown]
    rfl
  | timedOut outstanding knows late unordered shown =>
    obtain ⟨hop, hops, -⟩ := outstanding.route
    refine timeout_eq_ok.2 (.inr ⟨_, hop, _, _, outstanding, hops, knows, late, ?_⟩)
    simp only [takeBack, if_neg unordered, shown]
    rfl

theorem step_eq_ok {m : PacketMessage} : step h cap m = .ok out ↔ Succeeds h cap m out := by
  refine ⟨fun ok => ?_, step_of_succeeds⟩
  cases m with
  | receive m => exact succeeds_of_receive ok
  | acknowledge m => exact succeeds_of_acknowledge ok
  | timeout m => exact succeeds_of_timeout ok

end Transfer

end Crosschain
