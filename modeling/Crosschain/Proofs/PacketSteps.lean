import Crosschain.Proofs.LaneStep
import Crosschain.Proofs.Moments
import Crosschain.Proofs.PacketSuccesses

/-!
# Packets, lane by lane

A step about a packet that succeeds and is not a repetition changes the lane of its own end in the
way listed for the step, and leaves all others as they are.
-/

namespace Crosschain

theorem Host.sees_of_provesPacketValue [Digest] {h : Host} {x : ChannelEnd} {hop : ConnectionId}
    {c : ConnectionEnd} {v : Evidence} {path : Path} {value : Attempt Bytes} {n : Sequence}
    {u : Unit} (hops : x.hops = [hop]) (connection : h.connections[hop]? = some c)
    (shown : h.provesPacketValue c v path value n = .ok u) :
    ∃ time bytes, value = .ok bytes ∧ h.Sees x v.height time [⟨v.object, path, some bytes⟩] := by
  obtain ⟨cs, bytes, knows, given, opens⟩ := provesPacketValue_eq_ok shown
  exact ⟨cs.timestamp, bytes, given, .of_opens hops connection knows opens⟩

/-- What a message about a packet does to the end it is for when it is applied. -/
def PacketMessage.deed : PacketMessage → Deed
  | .receive m => .received m.packet
  | .acknowledge m => .acknowledged m.packet
  | .timeout m => .timedOut m.packet

/-! ### Storing a step -/

namespace PacketChange

def owner? : PacketChange → Option EndId
  | .sent slot _ _ | .received slot | .answered slot _ | .acknowledged slot _
  | .timedOut slot _ => some slot.owner
  | .receivedInOrder owner _ => some owner
  | .nothing _ => none

end PacketChange

namespace ChannelStore

theorem lane_applyPacket_of_ne (s : ChannelStore) (c : PacketChange) {f : EndId}
    (h : ∀ e, c.owner? = some e → f ≠ e) : (s.applyPacket c).lane f = s.lane f := by
  cases c with
  | sent slot next commitment =>
    have own := (h slot.owner rfl).symm
    simp only [applyPacket, lane_setCommitment_of_ne _ own, lane_setNextSend_of_ne _ own]
  | receivedInOrder owner next => exact lane_setNextRecv_of_ne _ (h owner rfl).symm next
  | received slot => exact lane_setReceipt_of_ne _ (h slot.owner rfl).symm slot.sequence
  | answered slot c => exact lane_setAcknowledgement_of_ne _ (h slot.owner rfl).symm slot.sequence c
  | acknowledged slot next =>
    have own := (h slot.owner rfl).symm
    cases next <;>
      simp only [applyPacket, lane_eraseCommitment_of_ne _ own, lane_setNextAck_of_ne _ own]
  | timedOut slot closed =>
    have own := (h slot.owner rfl).symm
    cases closed <;>
      simp only [applyPacket, lane_eraseCommitment_of_ne _ own, lane_setEnd_of_ne _ own]
  | nothing reason => rfl

theorem applyPacket_eq (s : ChannelStore) (c : PacketChange) :
    s.applyPacket c = { s with
      ends := (s.applyPacket c).ends
      nextSend := (s.applyPacket c).nextSend
      nextRecv := (s.applyPacket c).nextRecv
      nextAck := (s.applyPacket c).nextAck
      commitments := (s.applyPacket c).commitments
      receipts := (s.applyPacket c).receipts
      acknowledgements := (s.applyPacket c).acknowledgements } := by
  cases c with
  | acknowledged slot next => cases next <;> rfl
  | timedOut slot closed => cases closed <;> rfl
  | _ => rfl

theorem created_applyPacket (s : ChannelStore) (c : PacketChange) :
    (s.applyPacket c).created = s.created := by
  rw [applyPacket_eq]

end ChannelStore

namespace Transfer

variable [Digest] {h : Host} {cap : Capability} {out : Output PacketChange}

theorem stores_applyPacket {a : Action} {owner : EndId} {x : ChannelEnd} {d : Deed}
    {c : PacketChange} (channel : h.store.ends[owner]? = some x) (named : c.owner? = some owner)
    (step : LaneStep h a owner (h.store.lane owner) d ((h.store.applyPacket c).lane owner)) :
    Stores h a owner d (h.store.applyPacket c) := by
  refine .old channel step ?_ (ChannelStore.created_applyPacket _ _)
  intro f other
  refine ChannelStore.lane_applyPacket_of_ne _ _ ?_
  intro e he
  rw [named] at he
  cases he
  exact other

omit [Digest] in
theorem keepsOrder_of_pending {s : Host} {owner : EndId} {x : ChannelEnd}
    (ok : Upgrading.pendingOrderChange s owner x = .ok none) (upgrading : x.state.isUpgrading) :
    (s.store.lane owner).KeepsOrder x := by
  simp only [Upgrading.pendingOrderChange, upgrading, if_true, Except.bind_eq_ok, Fault.lift_eq_ok,
    ChannelStore.upgradeOf_eq_ok, Except.pure_eq_ok] at ok
  obtain ⟨u, stored, settled⟩ := ok
  split at settled
  next same => exact ⟨u, stored, same⟩
  · cases settled

/-! ### Sending -/

omit [Digest] in
theorem ahead_of_ensureNotTimedOut {x : ChannelEnd} {m : OutgoingPacket} {u : Unit}
    (ok : ensureNotTimedOut h x m = .ok u) : m.timeoutHeight.reachedAt ⟨0, 0⟩ = false := by
  cases named : m.timeoutHeight with
  | never => rfl
  | atHeight bound =>
    simp only [ensureNotTimedOut, named, Except.bind_eq_ok, Fault.ensure_eq_ok] at ok
    obtain ⟨_, -, _, -, client, -, _, -, _, limit, -⟩ := ok
    have strict : ¬ bound ≤ (⟨0, 0⟩ : Height) := fun le =>
      limit (Height.le_trans le (Height.zero_le client.latestHeight))
    simpa [TimeoutHeight.reachedAt] using strict

theorem send_stores {m : OutgoingPacket} (ok : send h cap m = .ok out) :
    ∃ p, p.source = m.source ∧ out.events = [.packet .sent p] ∧
      Stores h (.send cap m) m.source (.sent p) (h.store.applyPacket out.result) := by
  obtain ⟨serves, order, filled, bounded, named, ahead, counter, counted, commitment⟩ :=
    send_eq_ok.1 ok
  refine ⟨_, rfl, rfl, stores_applyPacket serves.channel rfl ?_⟩
  simp only [ChannelStore.applyPacket, ChannelStore.lane_setCommitment,
    ChannelStore.lane_setNextSend]
  exact .send _ cap m _ _ _ _ _ _ rfl rfl serves.channel serves.state
    (keepsOrder_of_pending order) named counter counted rfl (ahead_of_ensureNotTimedOut ahead)
    commitment

theorem exists_nextSendOf_of_send {m : OutgoingPacket} (ok : send h cap m = .ok out) :
    ∃ next, (h.store.applyPacket out.result).nextSendOf m.source = .ok next := by
  obtain ⟨p, -, -, stores⟩ := send_stores ok
  have step := stores.step
  have counter : (h.store.applyPacket out.result).nextSend[m.source]? =
      ((h.store.applyPacket out.result).lane m.source).nextSend := rfl
  rw [← exists_congr fun _ => ChannelStore.nextSendOf_eq_ok.symm, counter]
  generalize (h.store.applyPacket out.result).lane m.source = l at step
  generalize h.store.lane m.source = l₀ at step
  cases step
  exact ⟨_, rfl⟩

/-! ### Receiving -/

omit [Digest] in
theorem ensureInTime_eq_ok {p : Packet} {u : Unit} (ok : ensureInTime h p = .ok u) :
    p.timeoutHeight.reachedAt h.height = false ∧
      ∃ now, h.now? = some now ∧ p.timeoutTime.reachedAt now = false := by
  unfold ensureInTime at ok
  cases limit : p.timeoutHeight with
  | never =>
    simp only [limit, Except.bind_eq_ok, Host.now_eq_ok, Fault.ensure_eq_ok] at ok
    obtain ⟨now, now_eq, time⟩ := ok
    exact ⟨rfl, now, now_eq, by simpa using time⟩
  | atHeight bound =>
    simp only [limit, Except.bind_eq_ok, Host.now_eq_ok, Fault.ensure_eq_ok] at ok
    obtain ⟨_, height, now, now_eq, time⟩ := ok
    exact ⟨by simpa [TimeoutHeight.reachedAt] using height, now, now_eq, by simpa using time⟩

/-- A packet that is let in passed the guards of its destination. -/
theorem LetsIn.receives {m : ReceivePacket} {x : ChannelEnd} {next : Sequence}
    (letsIn : LetsIn h cap m x next) : (h.store.lane m.packet.destination).Receives h m x := by
  obtain ⟨c, connection, shown⟩ := letsIn.shown
  obtain ⟨hop, hops, there, -⟩ := Host.openConnection_eq_ok.1 connection
  obtain ⟨height, time⟩ := ensureInTime_eq_ok letsIn.inTime
  obtain ⟨at_, bytes, given, sees⟩ := Host.sees_of_provesPacketValue hops there shown
  obtain ⟨channel, -, state, peer, order, -⟩ := letsIn.receivable
  refine ⟨channel, state, peer, ?_, height, time, ⟨at_, bytes, Fault.checked_eq_ok.1 given, sees⟩⟩
  intro acknowledging
  exact keepsOrder_of_pending (order acknowledging) (by rw [acknowledging]; rfl)

/-! ### Acknowledging -/

theorem writeAcknowledgement_stores {p : Packet} {ack : Acknowledgement}
    (ok : writeAcknowledgement h cap p ack = .ok out) :
    ∃ d, d.Quiet ∧ out.events.filterMap Event.fate? = [] ∧
      Stores h (.writeAcknowledgement cap p ack) p.destination d
        (h.store.applyPacket out.result) := by
  cases writeAcknowledgement_eq_ok.1 ok with
  | before serves =>
    exact ⟨.idle, ⟨rfl, rfl⟩, rfl, .old serves.channel (.idle _) (fun _ _ => rfl) rfl⟩
  | written serves free =>
    refine ⟨.answered, ⟨rfl, rfl⟩, rfl, stores_applyPacket serves.channel rfl ?_⟩
    simp only [ChannelStore.applyPacket, Packet.destinationSlot,
      ChannelStore.lane_setAcknowledgement]
    exact .answer _ cap p ack _ rfl rfl serves.channel serves.state free

theorem receive_step {m : ReceivePacket} {acks : Sequence → Option Bytes}
    (ok : receive h cap m = .ok out) (new : out.result.noOp? = none)
    (answers : (h.store.lane m.packet.destination).Answers m.packet.sequence acks) :
    LaneStep h (.deliver (.packet (.receive m))) m.packet.destination
      (h.store.lane m.packet.destination) (.received m.packet)
      { (h.store.applyPacket out.result).lane m.packet.destination with
        acknowledgements := acks } := by
  cases succeeds_of_receive ok with
  | receivedBefore => cases new
  | receivedInOrder letsIn ordered counted =>
    simp only [ChannelStore.applyPacket, ChannelStore.lane_setNextRecv]
    exact .receiveOrdered _ m _ _ acks rfl rfl letsIn.receives ordered letsIn.counter counted answers
  | received letsIn unordered above fresh =>
    simp only [received, ChannelStore.applyPacket, Packet.destinationSlot,
      ChannelStore.lane_setReceipt]
    exact .receiveUnordered _ m _ _ acks rfl rfl letsIn.receives unordered letsIn.counter above fresh
      answers

theorem owner_receive {m : ReceivePacket} (ok : receive h cap m = .ok out)
    (new : out.result.noOp? = none) :
    out.result.owner? = some m.packet.destination ∧
      ((h.store.applyPacket out.result).lane m.packet.destination).acknowledgements =
        (h.store.lane m.packet.destination).acknowledgements := by
  cases succeeds_of_receive ok with
  | receivedBefore => cases new
  | receivedInOrder =>
    exact ⟨rfl, by simp only [ChannelStore.applyPacket, ChannelStore.lane_setNextRecv]⟩
  | received =>
    exact ⟨rfl, by simp only [received, ChannelStore.applyPacket, Packet.destinationSlot,
      ChannelStore.lane_setReceipt]⟩

theorem receive_stores {m : ReceivePacket} (ok : receive h cap m = .ok out)
    (new : out.result.noOp? = none) :
    Stores h (.deliver (.packet (.receive m))) m.packet.destination (.received m.packet)
      (h.store.applyPacket out.result) := by
  obtain ⟨x, next, letsIn, -⟩ := receive_eq_ok.1 ok
  obtain ⟨named, acks⟩ := owner_receive ok new
  have step := receive_step ok new (.inl rfl)
  rw [← acks] at step
  exact stores_applyPacket letsIn.receivable.channel named step

theorem receive_answered_stores {m : ReceivePacket} {ack : Acknowledgement}
    {written : Output PacketChange} (ok : receive h cap m = .ok out)
    (new : out.result.noOp? = none)
    (answered : writeAcknowledgement h cap m.packet ack = .ok written) :
    Stores h (.deliver (.packet (.receive m))) m.packet.destination (.received m.packet)
      ((h.store.applyPacket out.result).applyPacket written.result) := by
  cases writeAcknowledgement_eq_ok.1 answered with
  | before => exact receive_stores ok new
  | written serves free nonempty =>
    obtain ⟨named, acks⟩ := owner_receive ok new
    have stored (s : ChannelStore) :
        s.applyPacket (.answered m.packet.destinationSlot (Commitment.ofAcknowledgement ack)) =
          s.setAcknowledgement ⟨m.packet.destination, m.packet.sequence⟩
            (Commitment.ofAcknowledgement ack) := rfl
    rw [stored]
    refine .old serves.channel ?_ ?_ ?_
    · rw [ChannelStore.lane_setAcknowledgement]
      refine receive_step ok new (.inr ⟨free, ack, nonempty, ?_⟩)
      rw [acks]
    · intro f other
      rw [ChannelStore.lane_setAcknowledgement_of_ne _ other.symm]
      refine ChannelStore.lane_applyPacket_of_ne _ _ ?_
      intro e he
      rw [named] at he
      cases he
      exact other
    · exact ChannelStore.created_applyPacket _ _

/-! ### Resolving -/

theorem laneStep_of_timedOutInOrder {m : TimeoutPacket} {x : ChannelEnd} {c : ConnectionEnd}
    {cs : ConsensusState} (outstanding : Outstanding h cap m.packet x c)
    (knows : h.Knows c m.evidence.height cs)
    (late : m.packet.timedOut m.evidence.height cs.timestamp) (ordered : x.ordering = .ordered)
    (expected : ¬ m.packet.sequence < m.nextRecv)
    (shown : h.provesNextRecv c m.packet m.nextRecv m.evidence = .ok ()) :
    LaneStep h (.deliver (.packet (.timeout m))) m.packet.source (h.store.lane m.packet.source)
      (.timedOut m.packet) { h.store.lane m.packet.source with
        channel := some { x with state := .closed }
        commitments := Function.update (h.store.lane m.packet.source).commitments
          m.packet.sequence none } := by
  obtain ⟨bytes, commitment, found⟩ := outstanding.committed
  obtain ⟨hop, hops, connection⟩ := outstanding.route
  obtain ⟨cs', next, knows', given, opens⟩ := Host.provesPacketValue_eq_ok shown
  obtain rfl := knows.unique knows'
  rw [Except.pure_eq_ok] at given
  subst given
  exact .timeoutOrdered _ m x bytes cs.timestamp rfl rfl outstanding.channel outstanding.peer found
    commitment late ordered expected (.of_opens hops connection knows opens)

/-! ### Any step -/

/-- A message about a packet that is no repetition does its deed to the end it is for. -/
theorem step_stores {m : PacketMessage} (ok : step h cap m = .ok out)
    (new : out.result.noOp? = none) :
    Stores h (.deliver (.packet m)) m.owner m.deed (h.store.applyPacket out.result) := by
  cases step_eq_ok.1 ok with
  | receivedBefore | acknowledgedBefore | timedOutBefore => cases new
  | receivedInOrder | received => exact receive_stores ok new
  | @acknowledged m x c next outstanding state connection shown counts =>
    obtain ⟨bytes, commitment, found⟩ := outstanding.committed
    obtain ⟨hop, hops, there⟩ := outstanding.route
    obtain ⟨time, sum, given, sees⟩ := Host.sees_of_provesPacketValue hops there shown
    rw [Except.pure_eq_ok] at given
    subst given
    refine stores_applyPacket outstanding.channel rfl ?_
    cases next with
    | none =>
      simp only [PacketMessage.owner, ChannelStore.applyPacket, Packet.sourceSlot,
        ChannelStore.lane_eraseCommitment]
      exact .acknowledge _ m x bytes time _ rfl rfl outstanding.channel state outstanding.peer found
        commitment sees (.inl ⟨counts, rfl⟩)
    | some after =>
      obtain ⟨ordered, counter, counted⟩ := counts
      simp only [PacketMessage.owner, ChannelStore.applyPacket, Packet.sourceSlot,
        ChannelStore.lane_eraseCommitment, ChannelStore.lane_setNextAck]
      exact .acknowledge _ m x bytes time _ rfl rfl outstanding.channel state outstanding.peer found
        commitment sees (.inr ⟨ordered, counter, after, counted, rfl⟩)
  | timedOutInOrder outstanding hops knows late ordered expected shown live =>
    refine stores_applyPacket outstanding.channel rfl ?_
    simp only [PacketMessage.owner, ChannelStore.applyPacket, Packet.sourceSlot,
      ChannelStore.lane_eraseCommitment, ChannelStore.lane_setEnd]
    exact laneStep_of_timedOutInOrder outstanding knows late ordered expected shown
  | @timedOutShut m x c cs outstanding knows late ordered expected shown closed =>
    refine stores_applyPacket outstanding.channel rfl ?_
    simp only [PacketMessage.owner, ChannelStore.applyPacket, Packet.sourceSlot,
      ChannelStore.lane_eraseCommitment]
    -- An end that is closed already is not stored again, which makes no difference.
    have same : some { x with state := .closed } = (h.store.lane m.packet.source).channel := by
      rw [← closed]
      exact outstanding.channel.symm
    have step := laneStep_of_timedOutInOrder outstanding knows late ordered expected shown
    rw [same] at step
    exact step
  | timedOut outstanding knows late unordered shown =>
    obtain ⟨bytes, commitment, found⟩ := outstanding.committed
    obtain ⟨hop, hops, connection⟩ := outstanding.route
    obtain ⟨cs', knows', opens⟩ := Host.provesNoReceipt_eq_ok shown
    obtain rfl := knows.unique knows'
    refine stores_applyPacket outstanding.channel rfl ?_
    simp only [PacketMessage.owner, ChannelStore.applyPacket, Packet.sourceSlot,
      ChannelStore.lane_eraseCommitment]
    exact .timeoutUnordered _ _ _ bytes _ rfl rfl outstanding.channel outstanding.peer found
      commitment late unordered (.of_opens hops connection knows opens)

theorem events_of_noOp {m : PacketMessage} {reason : NoOpReason} (ok : step h cap m = .ok out)
    (repeated : out.result.noOp? = some reason) :
    out.result = .nothing reason ∧ out.events = [] := by
  cases step_eq_ok.1 ok with
  | receivedBefore | acknowledgedBefore | timedOutBefore =>
    cases repeated
    exact ⟨rfl, rfl⟩
  | _ => cases repeated

/-- The events of a message that is no repetition tell what it does to the packet on the end the
packet was sent from. -/
theorem fates {m : PacketMessage} (ok : step h cap m = .ok out) (new : out.result.noOp? = none) :
    out.events.filterMap Event.fate? = m.deed.fate?.toList := by
  cases step_eq_ok.1 ok with
  | receivedBefore | acknowledgedBefore | timedOutBefore => cases new
  | _ => rfl

/-- What can be acknowledged at once when a packet was received can always be. -/
theorem writeAcknowledgement_of_receive {m : ReceivePacket} {ack : Acknowledgement}
    (ok : receive h cap m = .ok out) (nonempty : ack ≠ []) :
    ∃ written, writeAcknowledgement h cap m.packet ack = .ok written := by
  obtain ⟨x, next, letsIn, -⟩ := receive_eq_ok.1 ok
  cases there : h.store.acknowledgements[m.packet.destinationSlot]? with
  | none => exact ⟨_, writeAcknowledgement_eq_ok.2 (.written letsIn.receivable.serves there nonempty)⟩
  | some c => exact ⟨_, writeAcknowledgement_eq_ok.2 (.before letsIn.receivable.serves there)⟩

end Transfer

end Crosschain
