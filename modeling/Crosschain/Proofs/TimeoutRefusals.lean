import Crosschain.Proofs.Overflow
import Crosschain.Proofs.Spared
import Crosschain.Proofs.World

/-!
# Refused for a timeout

A packet is looked at twice before it is on its way: the sender asks whether the other chain, as far
as its client knows, has reached one of the timeouts, and the receiver asks the same of itself. Each
compares a height and a time in its own words. Both refuse for a timeout just where the packet is
timed out at the height and the time they look at, once the checks before have passed.
-/

namespace Crosschain

/-- The cause of a refusal is a timeout that is reached. -/
def ChannelError.tellsTimeout : ChannelError → Bool
  | .timeoutHeightPassed _ _ | .timeoutTimePassed _ _ | .heightTooLow _ _ | .timeTooLow => true
  | _ => false

/-- A computation is refused for a timeout. -/
def TimesOut {α : Type} (r : Attempt α) : Prop :=
  ∃ cause : ChannelError, cause.tellsTimeout ∧ r = .error (.refused cause)

/-! ### Checks in a row -/

theorem Spares.not_timesOut {α : Type} {r : Attempt α}
    (spares : Spares ChannelError.tellsTimeout r) : ¬ TimesOut r := by
  rintro ⟨cause, tells, refused⟩
  rw [spares cause refused] at tells
  cases tells

namespace TimesOut

variable {α β : Type} {r : Attempt α} {f : α → Attempt β} {p : Prop} [Decidable p]
  {cause : ChannelError}

/-- Behind a check that never refuses for a timeout, it is up to the rest. -/
theorem bind_iff (spares : Spares ChannelError.tellsTimeout r) :
    TimesOut (r >>= f) ↔ ∃ a, r = .ok a ∧ TimesOut (f a) := by
  cases r with
  | error fault =>
    refine ⟨fun refused => absurd ?_ spares.not_timesOut, ?_⟩
    · obtain ⟨cause, tells, broken⟩ := refused
      exact ⟨cause, tells, congrArg Except.error (Except.error.inj broken)⟩
    · rintro ⟨a, ⟨⟩, -⟩
  | ok a =>
    constructor
    · intro refused
      exact ⟨a, rfl, refused⟩
    · rintro ⟨b, ⟨⟩, refused⟩
      exact refused

/-- Where the rest never refuses for a timeout, it is up to the check. -/
theorem bind_iff_left (spares : ∀ a, r = .ok a → Spares ChannelError.tellsTimeout (f a)) :
    TimesOut (r >>= f) ↔ TimesOut r := by
  cases r with
  | error fault =>
    constructor
    · rintro ⟨cause, tells, broken⟩
      exact ⟨cause, tells, congrArg Except.error (Except.error.inj broken)⟩
    · rintro ⟨cause, tells, ⟨⟩⟩
      exact ⟨cause, tells, rfl⟩
  | ok a =>
    constructor
    · intro refused
      exact absurd refused (spares a rfl).not_timesOut
    · rintro ⟨cause, -, ⟨⟩⟩

theorem ensure_iff (tells : cause.tellsTimeout) : TimesOut (Fault.ensure p cause) ↔ ¬ p := by
  unfold Fault.ensure
  split
  next holds =>
    refine ⟨?_, fun fails => absurd holds fails⟩
    rintro ⟨cause, -, ⟨⟩⟩
  next fails => exact ⟨fun _ => fails, fun _ => ⟨cause, tells, rfl⟩⟩

end TimesOut

theorem TimesOut.compare_iff {p : Packet} {g : Height} {t : Timestamp}
    {cause : Height → ChannelError} {rest : Attempt Unit} (tells : ∀ b, (cause b).tellsTimeout)
    (time : TimesOut rest ↔ p.timeoutTime.reachedAt t) :
    TimesOut (do
      match p.timeoutHeight with
      | .never => pure ()
      | .atHeight limit => Fault.ensure (¬ limit ≤ g) (cause limit)
      rest) ↔ p.timedOut g t := by
  cases limit : p.timeoutHeight with
  | never =>
    simp only [Packet.timedOut, limit, TimeoutHeight.reachedAt, Bool.false_or]
    exact time
  | atHeight bound =>
    simp only [Packet.timedOut, limit, TimeoutHeight.reachedAt, Bool.or_eq_true,
      decide_eq_true_eq]
    by_cases reached : bound ≤ g
    · rw [TimesOut.bind_iff_left fun u passed => absurd reached (Fault.ensure_eq_ok.1 passed)]
      exact (TimesOut.ensure_iff (tells bound)).trans (by simp [reached])
    · rw [Fault.bind_of_ensure reached]
      simp only [reached, false_or]
      exact time

/-! ### Sending -/

theorem Host.clientState_eq_ok {h : Host} {id : ClientId} {s : ClientState} :
    h.clientState id = .ok s ↔ ∃ client, h.clients[id]? = some client ∧ s = client.state := by
  unfold clientState
  split <;> simp [*, eq_comm]

/-- The time of the latest height a client has followed the other chain to; no time if it knows
nothing of that height. -/
def Client.latestTime (c : Client) : Timestamp :=
  match c.consensus[c.state.latestHeight]? with
  | some cs => cs.timestamp
  | none => .unset

theorem Timestamp.reachedAt_unset (t : Timestamp) : t.reachedAt .unset = false := by
  simp [reachedAt, isSet, unset]

namespace Transfer

variable {h : Host} {cap : Capability} {p : Packet} {x : ChannelEnd} {client : Client}

/-- The comparison of the timeouts with what a client knows. -/
def compareWith (h : Host) (id : ClientId) (s : ClientState) (m : OutgoingPacket) : Attempt Unit := do
  match m.timeoutHeight with
  | .never => pure ()
  | .atHeight limit =>
    Fault.ensure (¬ limit ≤ s.latestHeight) (.timeoutHeightPassed limit s.latestHeight)
  let consensus ← Fault.wrap .client (h.consensusState id s.latestHeight)
  Fault.ensure (!m.timeoutTime.reachedAt consensus.timestamp)
    (.timeoutTimePassed m.timeoutTime consensus.timestamp)

theorem timesOut_compareWith {id : ClientId} (there : h.clients[id]? = some client) :
    TimesOut (compareWith h id client.state p.outgoing) ↔
      p.timedOut client.state.latestHeight client.latestTime := by
  -- The time is compared only if the height is not reached, and if there is one.
  have time : TimesOut (Fault.wrap .client (h.consensusState id client.state.latestHeight) >>=
      fun cs => Fault.ensure (!p.timeoutTime.reachedAt cs.timestamp)
        (.timeoutTimePassed p.timeoutTime cs.timestamp)) ↔
      p.timeoutTime.reachedAt client.latestTime := by
    rw [TimesOut.bind_iff (.wrap fun _ _ => rfl)]
    simp only [Fault.wrap_eq_ok, Host.consensusState, there, Option.bind_some, Client.latestTime]
    cases client.consensus[client.state.latestHeight]? with
    | none => simp [Timestamp.reachedAt_unset]
    | some cs =>
      simp only [Except.ok.injEq, exists_eq_left']
      exact (TimesOut.ensure_iff rfl).trans (by simp)
  exact TimesOut.compare_iff (fun _ => rfl) time

theorem exists_consensus_of_compareWith {id : ClientId} {m : OutgoingPacket} {u : Unit}
    (there : h.clients[id]? = some client) (ok : compareWith h id client.state m = .ok u) :
    ∃ cs, client.consensus[client.state.latestHeight]? = some cs := by
  obtain ⟨cs, known⟩ : ∃ cs, h.consensusState id client.state.latestHeight = .ok cs := by
    cases limit : m.timeoutHeight with
    | never =>
      simp only [compareWith, limit, Except.bind_eq_ok, Fault.wrap_eq_ok] at ok
      obtain ⟨cs, known, -⟩ := ok
      exact ⟨cs, known⟩
    | atHeight bound =>
      simp only [compareWith, limit, Except.bind_eq_ok, Fault.wrap_eq_ok] at ok
      obtain ⟨-, -, cs, known, -⟩ := ok
      exact ⟨cs, known⟩
  simp only [Host.consensusState, there, Option.bind_some] at known
  split at known
  next cs there => exact ⟨cs, there⟩
  · cases known

theorem ensureNotTimedOut_eq {m : OutgoingPacket} : ensureNotTimedOut h x m = (do
    let hop ← Fault.lift x.hop
    let c ← h.connectionAt hop
    let client ← Fault.wrap .client (h.clientState c.client)
    Fault.ensure (!client.isFrozen) (.frozenClient c.client)
    compareWith h c.client client m) := rfl

theorem timesOut_ensureNotTimedOut :
    TimesOut (ensureNotTimedOut h x p.outgoing) ↔ ∃ hop c client, x.hops = [hop] ∧
      h.connections[hop]? = some c ∧ h.clients[c.client]? = some client ∧
      client.state.frozenHeight = none ∧
      p.timedOut client.state.latestHeight client.latestTime := by
  have hop : Spares ChannelError.tellsTimeout (Fault.lift x.hop) := .oneHop fun _ => rfl
  have connection (id : ConnectionId) : Spares ChannelError.tellsTimeout (h.connectionAt id) :=
    .connectionAt fun _ => rfl
  have state (id : ClientId) :
      Spares ChannelError.tellsTimeout (Fault.wrap .client (h.clientState id)) :=
    .wrap fun _ _ => rfl
  have frozen (id : ClientId) (b : Bool) :
      Spares ChannelError.tellsTimeout (Fault.ensure (b = true) (.frozenClient id)) := .ensure rfl
  simp only [ensureNotTimedOut_eq, TimesOut.bind_iff hop, TimesOut.bind_iff (connection _),
    TimesOut.bind_iff (state _), TimesOut.bind_iff (frozen _ _), Fault.lift_eq_ok, ChannelEnd.hop_eq_ok,
    Host.connectionAt_eq_ok, Fault.wrap_eq_ok, Fault.ensure_eq_ok, Host.clientState_eq_ok]
  constructor
  · rintro ⟨hop, hops, c, connection, s, ⟨client, there, rfl⟩, u, going, refused⟩
    refine ⟨hop, c, client, hops, connection, there, ?_, (timesOut_compareWith there).1 refused⟩
    simpa [ClientState.isFrozen] using going
  · rintro ⟨hop, c, client, hops, connection, there, going, timedOut⟩
    refine ⟨hop, hops, c, connection, client.state, ⟨client, there, rfl⟩, (), ?_,
      (timesOut_compareWith there).2 timedOut⟩
    simpa [ClientState.isFrozen] using going

/-- What is looked at before the timeouts of a packet to be sent: the end, and where it leads. -/
def approach (h : Host) (cap : Capability) (m : OutgoingPacket) : Attempt (ChannelEnd × EndId) := do
  let x ← Fault.lift (h.store.endAt m.source)
  Fault.lift (h.store.authenticate m.source cap)
  Fault.ensure (x.state ≠ .closed) (.channelClosed m.source.channel)
  Fault.ensure (x.state.allowsPackets) (.wrongState m.source.channel x.state)
  let pending ← Upgrading.pendingOrderChange h m.source x
  Fault.ensure (pending.isNone) (.orderChangePending m.source.channel)
  Fault.ensure (!m.data.isEmpty) .emptyData
  Fault.ensure (m.timeoutHeight.isSet || m.timeoutTime.isSet) .noTimeout
  let destination ← Fault.lift x.peer.endId
  pure (x, destination)

theorem approach_spares {m : OutgoingPacket} :
    Spares ChannelError.tellsTimeout (approach h cap m) := by
  refine .andThen (.endAt rfl) fun x _ => .andThen (.authenticate fun _ => rfl) fun _ _ => ?_
  refine .andThen (.ensure rfl) fun _ _ => .andThen (.ensure rfl) fun _ _ => ?_
  refine .andThen (.pendingOrderChange rfl) fun _ _ => .andThen (.ensure rfl) fun _ _ => ?_
  refine .andThen (.ensure rfl) fun _ _ => .andThen (.ensure rfl) fun _ _ => ?_
  exact .andThen (.endId rfl) fun _ _ => .done

/-- A packet that can be sent as far as the checks before its timeouts go, over an end and with the
client behind it. -/
structure Sendable (h : Host) (cap : Capability) (m : OutgoingPacket) (x : ChannelEnd)
    (client : Client) : Prop where
  channel : h.store.ends[m.source]? = some x
  owned : h.store.authenticate m.source cap = .ok ()
  state : x.state.allowsPackets
  order : Upgrading.pendingOrderChange h m.source x = .ok none
  data : m.data ≠ []
  timeout : m.timeoutHeight.isSet || m.timeoutTime.isSet
  peer : ∃ e, x.peer = .ofEnd e
  route : ∃ hop c, x.hops = [hop] ∧ h.connections[hop]? = some c ∧
    h.clients[c.client]? = some client
  going : client.state.frozenHeight = none

theorem approach_eq_ok {m : OutgoingPacket} {destination : EndId} :
    approach h cap m = .ok (x, destination) ↔ h.store.ends[m.source]? = some x ∧
      h.store.authenticate m.source cap = .ok () ∧ x.state.allowsPackets ∧
      Upgrading.pendingOrderChange h m.source x = .ok none ∧ m.data ≠ [] ∧
      (m.timeoutHeight.isSet || m.timeoutTime.isSet) ∧ x.peer = .ofEnd destination := by
  simp only [approach, Except.bind_eq_ok, Except.pure_eq_ok, Fault.lift_eq_ok, Fault.ensure_eq_ok,
    ChannelStore.endAt_eq_ok, ChannelPeer.endId_eq_ok, Prod.mk.injEq]
  constructor
  · rintro ⟨y, channel, _, owned, _, -, _, state, pending, order, _, none, _, data, _, timeout, d,
      peer, rfl, rfl⟩
    refine ⟨channel, owned, state, ?_, by simpa using data, timeout, peer⟩
    rw [order, Option.isNone_iff_eq_none.1 none]
  · rintro ⟨channel, owned, state, order, data, timeout, peer⟩
    have open_ : x.state ≠ .closed := by
      intro closed
      rw [closed] at state
      cases state
    exact ⟨x, channel, (), owned, (), open_, (), state, none, order, (), rfl, (), by simpa using data,
      (), timeout, destination, peer, rfl, rfl⟩

variable [Digest]

/-- What is left of sending a packet behind the comparison of its timeouts. -/
def commit (h : Host) (m : OutgoingPacket) (destination : EndId) : Attempt (Output PacketChange) := do
  let sequence ← Fault.lift (h.store.nextSendOf m.source)
  let packet : Packet :=
    ⟨sequence, m.source, destination, m.data, m.timeoutHeight, m.timeoutTime⟩
  let next ← Fault.checked (Word.add? sequence 1)
  let commitment ← Fault.checked (Commitment.ofPacket? packet)
  pure ⟨.sent packet.sourceSlot next commitment, ["success: packet send"], [.packet .sent packet]⟩

theorem send_eq {m : OutgoingPacket} : send h cap m = approach h cap m >>= fun found =>
    ensureNotTimedOut h found.1 m >>= fun _ => commit h m found.2 := by
  simp only [approach, bind_assoc, pure_bind]
  rfl

theorem commit_spares {m : OutgoingPacket} {destination : EndId} :
    Spares ChannelError.tellsTimeout (commit h m destination) := by
  refine .andThen (.nextSendOf rfl) fun _ _ => .andThen .checked fun _ _ => ?_
  exact .andThen .checked fun _ _ => .done

/-- Sending a packet is refused for a timeout just where the packet is timed out as far as the client
of the other chain knows, which is unfrozen, and the checks before have passed. -/
theorem timesOut_send : TimesOut (send h cap p.outgoing) ↔ ∃ x client,
    Sendable h cap p.outgoing x client ∧
      p.timedOut client.state.latestHeight client.latestTime := by
  rw [send_eq, TimesOut.bind_iff approach_spares]
  simp only [TimesOut.bind_iff_left fun _ _ => commit_spares, timesOut_ensureNotTimedOut]
  constructor
  · rintro ⟨⟨x, e⟩, passed, hop, c, client, hops, connection, there, going, timedOut⟩
    obtain ⟨channel, owned, state, order, data, timeout, peer⟩ := approach_eq_ok.1 passed
    exact ⟨x, client, ⟨channel, owned, state, order, data, timeout, ⟨e, peer⟩,
      ⟨hop, c, hops, connection, there⟩, going⟩, timedOut⟩
  · rintro ⟨x, client, sendable, timedOut⟩
    obtain ⟨e, peer⟩ := sendable.peer
    obtain ⟨hop, c, hops, connection, there⟩ := sendable.route
    exact ⟨(x, e), approach_eq_ok.2 ⟨sendable.channel, sendable.owned, sendable.state,
      sendable.order, sendable.data, sendable.timeout, peer⟩, hop, c, client, hops, connection, there,
      sendable.going, timedOut⟩

theorem timedOut_of_send {m : OutgoingPacket} {out : Output PacketChange}
    (ok : send h cap m = .ok out) : ∃ q x client cs, out.events = [.packet .sent q] ∧
      q.outgoing = m ∧ Sendable h cap m x client ∧
      client.consensus[client.state.latestHeight]? = some cs ∧
      q.timedOut client.state.latestHeight cs.timestamp = false := by
  rw [send_eq] at ok
  simp only [Except.bind_eq_ok] at ok
  obtain ⟨⟨x, e⟩, passed, u, checked, written⟩ := ok
  obtain ⟨channel, owned, state, order, data, timeout, peer⟩ := approach_eq_ok.1 passed
  simp only [commit, Except.bind_eq_ok, Except.pure_eq_ok] at written
  obtain ⟨n, -, next, -, commitment, -, rfl⟩ := written
  let q : Packet := ⟨n, m.source, e, m.data, m.timeoutHeight, m.timeoutTime⟩
  simp only [ensureNotTimedOut_eq, Except.bind_eq_ok, Fault.lift_eq_ok, ChannelEnd.hop_eq_ok,
    Host.connectionAt_eq_ok, Fault.wrap_eq_ok, Fault.ensure_eq_ok, Host.clientState_eq_ok] at checked
  obtain ⟨hop, hops, c, connection, s, ⟨client, there, rfl⟩, _, going, compared⟩ := checked
  have early : q.timedOut client.state.latestHeight client.latestTime = false := by
    rw [Bool.eq_false_iff]
    intro late
    obtain ⟨cause, -, refused⟩ := (timesOut_compareWith (p := q) there).2 late
    rw [show q.outgoing = m from rfl, compared] at refused
    cases refused
  obtain ⟨cs, known⟩ := exists_consensus_of_compareWith there compared
  refine ⟨q, x, client, cs, rfl, rfl, ⟨channel, owned, state, order, data, timeout, ⟨e, peer⟩,
    ⟨hop, c, hops, connection, there⟩, by simpa [ClientState.isFrozen] using going⟩, known, ?_⟩
  rw [Client.latestTime, known] at early
  exact early

/-! ### Receiving -/

/-- What is looked at before the timeouts of a packet that is received: the end and the connection. -/
def reception (h : Host) (cap : Capability) (p : Packet) : Attempt (ChannelEnd × ConnectionEnd) := do
  let x ← Fault.lift (h.store.endAt p.destination)
  Fault.lift (h.store.authenticate p.destination cap)
  Fault.ensure (x.state.allowsPackets) (.wrongState p.destination.channel x.state)
  ensurePeer x p.source
  if x.state = .ackUpgrade then
    let pending ← Upgrading.pendingOrderChange h p.destination x
    Fault.ensure (pending.isNone) (.orderChangePending p.destination.channel)
  let c ← h.openConnection x
  pure (x, c)

/-- What is left of receiving a packet behind the comparison of its timeouts. -/
def take (h : Host) (m : ReceivePacket) (x : ChannelEnd) (c : ConnectionEnd) :
    Attempt (Output PacketChange) := do
  h.provesPacket c m.packet m.evidence
  let next ← Fault.lift (h.store.nextRecvOf m.packet.destination)
  let again := noOp "no-op: packet already received" (.alreadyReceived m.packet.sequence)
  let done (change : PacketChange) : Output PacketChange :=
    ⟨change, ["success: packet receive"], [.packet .received m.packet]⟩
  if m.packet.sequence < next then pure again
  else if x.ordering = .ordered then
    Fault.ensure (m.packet.sequence = next) (.sequenceMismatch m.packet.sequence next)
    let after ← Fault.checked (Word.add? next 1)
    pure (done (.receivedInOrder m.packet.destination after))
  else if h.store.hasReceipt m.packet.destinationSlot then pure again
  else pure (done (.received m.packet.destinationSlot))

variable {m : ReceivePacket}

theorem receive_split : receive h cap m = reception h cap m.packet >>= fun found =>
    ensureInTime h m.packet >>= fun _ => take h m found.1 found.2 := by
  simp only [receive, reception, bind_assoc]
  refine bind_congr fun x => bind_congr fun _ => bind_congr fun _ => bind_congr fun _ => ?_
  -- Only an end that acknowledges an upgrade is asked whether its ordering changes.
  split
  · simp only [bind_assoc, pure_bind]
    rfl
  · simp only [bind_assoc, pure_bind]
    rfl

omit [Digest] in
theorem reception_spares : Spares ChannelError.tellsTimeout (reception h cap p) := by
  have connection (x : ChannelEnd) : Spares ChannelError.tellsTimeout (h.openConnection x) :=
    .openHop (.oneHop fun _ => rfl) (fun _ => rfl) fun _ => rfl
  refine .andThen (.endAt rfl) fun x _ => .andThen (.authenticate fun _ => rfl) fun _ _ => ?_
  refine .andThen (.ensure rfl) fun _ _ => .andThen (.ensure rfl) fun _ _ => ?_
  split
  · refine .andThen (.pendingOrderChange rfl) fun _ _ => .andThen (.ensure rfl) fun _ _ => ?_
    exact .andThen (connection x) fun _ _ => .done
  · exact .andThen (connection x) fun _ _ => .done

omit [Digest] in
theorem fits_reception : Fits (reception h cap p) := by
  refine .andThen .lift fun x _ => .andThen .lift fun _ _ => .andThen .ensure fun _ _ => ?_
  refine .andThen .ensure fun _ _ => ?_
  split
  · refine .andThen Host.Roomy.pendingOrderChange fun _ _ => .andThen .ensure fun _ _ => ?_
    exact .andThen .openConnection fun _ _ => .done
  · exact .andThen .openConnection fun _ _ => .done

theorem take_spares {c : ConnectionEnd} : Spares ChannelError.tellsTimeout (take h m x c) := by
  have proven : Spares ChannelError.tellsTimeout (h.provesPacket c m.packet m.evidence) := by
    refine .andThen (.consensusAt (fun _ => rfl) fun _ => rfl) fun _ _ => ?_
    exact .andThen .checked fun _ _ => .wrap fun _ _ => rfl
  refine .andThen proven fun _ _ => .andThen (.nextRecvOf rfl) fun _ _ => ?_
  split
  · exact .done
  split
  · exact .andThen (.ensure rfl) fun _ _ => .andThen .checked fun _ _ => .done
  split <;> exact .done

omit [Digest] in
theorem reception_eq_ok : (∃ found, reception h cap p = .ok found) ↔ ∃ x, Receivable h cap p x := by
  constructor
  · rintro ⟨⟨y, c⟩, passed⟩
    simp only [reception, ensurePeer, Except.bind_eq_ok, Fault.lift_eq_ok, Fault.ensure_eq_ok,
      ChannelStore.endAt_eq_ok] at passed
    obtain ⟨x, channel, _, owned, _, state, _, peer, passed⟩ := passed
    suffices rest : (x.state = .ackUpgrade →
        Upgrading.pendingOrderChange h p.destination x = .ok none) ∧
          ∃ c, h.openConnection x = .ok c from
      ⟨x, channel, owned, state, peer, rest.1, rest.2⟩
    split at passed
    next acknowledging =>
      simp only [Except.bind_eq_ok, Except.pure_eq_ok, Fault.ensure_eq_ok] at passed
      obtain ⟨pending, order, _, none, c, connection, -⟩ := passed
      refine ⟨fun _ => ?_, c, connection⟩
      rw [order, Option.isNone_iff_eq_none.1 none]
    next other =>
      simp only [Except.bind_eq_ok, Except.pure_eq_ok] at passed
      obtain ⟨c, connection, -⟩ := passed
      exact ⟨fun acknowledging => absurd acknowledging other, c, connection⟩
  · rintro ⟨x, receivable⟩
    obtain ⟨c, connection⟩ := receivable.connection
    refine ⟨(x, c), ?_⟩
    simp only [reception, ensurePeer, Except.bind_eq_ok, Fault.lift_eq_ok, Fault.ensure_eq_ok,
      ChannelStore.endAt_eq_ok]
    refine ⟨x, receivable.channel, (), receivable.owned, (), receivable.state, (), receivable.peer,
      ?_⟩
    split
    next acknowledging =>
      simp only [Except.bind_eq_ok, Except.pure_eq_ok, Fault.ensure_eq_ok]
      exact ⟨none, receivable.order acknowledging, (), rfl, c, connection, rfl⟩
    · simp only [Except.bind_eq_ok, Except.pure_eq_ok]
      exact ⟨c, connection, rfl⟩

omit [Digest] in
theorem timesOut_ensureInTime :
    TimesOut (ensureInTime h p) ↔ p.timedOut h.height (h.now?.getD .unset) := by
  -- A host whose height has no time may still refuse for the height.
  have time : TimesOut (h.now >>= fun now => Fault.ensure (!p.timeoutTime.reachedAt now)
      .timeTooLow) ↔ p.timeoutTime.reachedAt (h.now?.getD .unset) := by
    have spares : Spares ChannelError.tellsTimeout h.now := .checked
    simp only [TimesOut.bind_iff spares, Host.now_eq_ok]
    cases h.now? with
    | none => simp [Timestamp.reachedAt_unset]
    | some t =>
      simp only [Option.some.injEq, exists_eq_left', Option.getD_some]
      exact (TimesOut.ensure_iff rfl).trans (by simp)
  exact TimesOut.compare_iff (fun _ => rfl) time

/-- Receiving a packet is refused for a timeout just where the packet is timed out at the height and
the time of the host, and the checks before have passed. -/
theorem timesOut_receive : TimesOut (receive h cap m) ↔ (∃ x, Receivable h cap m.packet x) ∧
    m.packet.timedOut h.height (h.now?.getD .unset) := by
  rw [receive_split, TimesOut.bind_iff reception_spares]
  simp only [TimesOut.bind_iff_left fun _ _ => take_spares, timesOut_ensureInTime]
  rw [← reception_eq_ok]
  constructor
  · rintro ⟨found, passed, timedOut⟩
    exact ⟨⟨found, passed⟩, timedOut⟩
  · rintro ⟨⟨found, passed⟩, timedOut⟩
    exact ⟨found, passed, timedOut⟩

end Transfer

end Crosschain
