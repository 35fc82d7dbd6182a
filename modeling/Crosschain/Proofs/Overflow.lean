import Crosschain.Proofs.Limits
import Crosschain.Proofs.Opening

/-!
# Results that fit

The only ways for a computation to break are sums and times that do not fit 64 bits. Where the
numbers that are kept can all be counted on from, and the next block has a time, whatever a chain is
asked for ends with a result or a refusal. Numbers of the other chain are taken over as they are, so
how long this lasts is up to them as well.
-/

namespace Crosschain

/-! ### Attempts -/

/-- A computation that ends with a result or a refusal. -/
def Fits {ε α : Type} (r : Except (Fault ε) α) : Prop := r ≠ .error .overflow

namespace Fits

variable {ε δ α β : Type}

theorem done {a : α} : Fits (pure a : Except (Fault ε) α) := by
  intro broken
  cases broken

theorem refused {e : ε} : Fits (.error (.refused e) : Except (Fault ε) α) := by
  intro broken
  cases broken

theorem andThen {r : Except (Fault ε) α} {f : α → Except (Fault ε) β} (first : Fits r)
    (rest : ∀ a, r = .ok a → Fits (f a)) : Fits (r >>= f) := by
  cases r with
  | error failure =>
    intro broken
    obtain rfl : failure = .overflow := Except.error.inj broken
    exact first rfl
  | ok a => exact rest a rfl

theorem ensure {p : Prop} [Decidable p] {e : ε} : Fits (Fault.ensure p e) := by
  unfold Fault.ensure
  split
  · exact done
  · exact refused

theorem wrap {f : ε → δ} {r : Except ε α} : Fits (Fault.wrap f r) := by
  cases r with
  | error cause => exact refused
  | ok a => exact done

theorem lift {r : Except ε α} : Fits (Fault.lift r) := wrap

theorem checked {o : Option α} {a : α} (there : o = some a) :
    Fits (Fault.checked o : Except (Fault ε) α) := by
  rw [there]
  exact done

/-- Whether a fault is an overflow does not depend on the result or on the causes of refusals. -/
theorem error {fault : Fault ε} (fits : Fits (.error fault : Except (Fault ε) α)) :
    Fits (.error fault : Except (Fault ε) β) := by
  rintro ⟨⟩
  exact fits rfl

theorem map {f : ε → δ} {fault : Fault ε} (fits : Fits (.error fault : Except (Fault ε) α)) :
    Fits (.error (fault.map f) : Except (Fault δ) β) := by
  cases fault with
  | refused e => exact refused
  | overflow => exact absurd rfl fits

/-! ### Reading a host -/

section Reading

variable {h : Host} {x : ChannelEnd} {c : ConnectionEnd} {height : Height}

theorem openHop {r : Except ChannelError ConnectionId} : Fits (h.openHop r) :=
  andThen lift fun _ _ => andThen wrap fun _ _ => andThen ensure fun _ _ => done

theorem openConnection : Fits (h.openConnection x) := openHop

theorem consensusAt : Fits (h.consensusAt c height) :=
  andThen wrap fun _ _ => andThen ensure fun _ _ => wrap

variable [Digest]

theorem provesPeerValue {proof : StateProof} {path : EndId → Path} {value : Bytes}
    {f : ClientError → ChannelError} : Fits (h.provesPeerValue c x height proof path value f) :=
  andThen consensusAt fun _ _ => andThen lift fun _ _ => wrap

theorem provesPacketValue {v : Evidence} {path : Path} {value : Attempt Bytes} {n : Sequence}
    (given : Fits value) : Fits (h.provesPacketValue c v path value n) :=
  andThen consensusAt fun _ _ => andThen given fun _ _ => wrap

theorem provesNoReceipt {p : Packet} {v : Evidence} : Fits (h.provesNoReceipt c p v) :=
  andThen consensusAt fun _ _ => wrap

end Reading

end Fits

/-! ### Room to count -/

/-- One more than a number fits. -/
def Word.HasNext (n : UInt64) : Prop := ∃ m, add? n 1 = some m

theorem Word.HasNext.of_lt {n : UInt64} (below : n.toNat + 1 < UInt64.size) : HasNext n :=
  ⟨n + 1, if_pos below⟩

/-- Each number kept for an end that some step counts on from has a next one. -/
structure Lane.Roomy (l : Lane) : Prop where
  nextSend : ∀ n, l.nextSend = some n → Word.HasNext n
  nextRecv : ∀ n, l.nextRecv = some n → Word.HasNext n
  sent : ∀ n c, l.commitments n = some c → Word.HasNext n
  sequence : ∀ x, l.channel = some x → Word.HasNext x.upgradeSequence
  latestSend : ∀ u, l.peerUpgrade = some u → Word.HasNext u.latestSend

/-- All that is counted on a host can be counted on, and its next block has a time. -/
structure Host.Roomy (h : Host) : Prop where
  lane : ∀ e, (h.store.lane e).Roomy
  spacious : h.store.Spacious
  room : h.height.Room 1

theorem Commitment.exists_ofPacket? [Digest] {p : Packet}
    (wire : ∃ n, p.timeoutTime = .ofNanoseconds n) : ∃ c, ofPacket? p = some c := by
  obtain ⟨n, time⟩ := wire
  have nanoseconds : p.timeoutTime.nanoseconds? = some n := by
    rw [time]
    exact Timestamp.nanoseconds?_ofNanoseconds n
  rw [ofPacket?, ofParts?, nanoseconds]
  exact ⟨_, rfl⟩

namespace Host.Roomy

variable {h : Host} {e : EndId} {x : ChannelEnd}

theorem now (roomy : h.Roomy) : Fits h.now := by
  obtain ⟨t, time⟩ := (roomy.room.mono (Nat.zero_le 1)).time
  rw [Height.later_zero] at time
  exact .checked time

/-! ### Packets -/

theorem pendingOrderChange : Fits (Upgrading.pendingOrderChange h e x) := by
  unfold Upgrading.pendingOrderChange
  split
  · exact .andThen .lift fun _ _ => .done
  · exact .done

theorem ensureNotTimedOut {m : OutgoingPacket} : Fits (Transfer.ensureNotTimedOut h x m) := by
  unfold Transfer.ensureNotTimedOut
  refine .andThen .lift fun hop _ => .andThen .wrap fun c _ => ?_
  refine .andThen .wrap fun client _ => .andThen .ensure fun _ _ => ?_
  split
  on_goal 2 => refine .andThen .ensure fun _ _ => ?_
  all_goals exact .andThen .wrap fun _ _ => .ensure

theorem ensureInTime (roomy : h.Roomy) {p : Packet} : Fits (Transfer.ensureInTime h p) := by
  unfold Transfer.ensureInTime
  split
  on_goal 2 => refine .andThen .ensure fun _ _ => ?_
  all_goals exact .andThen roomy.now fun _ _ => .ensure

section

variable [Digest]

theorem send (roomy : h.Roomy) (cap : Capability) {m : OutgoingPacket}
    (wire : ∃ n, m.timeoutTime = .ofNanoseconds n) : Fits (Transfer.send h cap m) := by
  unfold Transfer.send
  refine .andThen .lift fun x _ => .andThen .lift fun _ _ => ?_
  refine .andThen .ensure fun _ _ => .andThen .ensure fun _ _ => ?_
  refine .andThen pendingOrderChange fun _ _ => .andThen .ensure fun _ _ => ?_
  refine .andThen .ensure fun _ _ => .andThen .ensure fun _ _ => ?_
  refine .andThen .lift fun peer _ => .andThen ensureNotTimedOut fun _ _ => ?_
  refine .andThen .lift fun n counter => ?_
  have counter : h.store.nextSend[m.source]? = some n := by simpa using counter
  obtain ⟨next, counted⟩ := (roomy.lane m.source).nextSend n counter
  obtain ⟨c, committed⟩ := Commitment.exists_ofPacket?
    (p := ⟨n, m.source, peer, m.data, m.timeoutHeight, m.timeoutTime⟩) wire
  exact .andThen (.checked counted) fun _ _ => .andThen (.checked committed) fun _ _ => .done

theorem receive (roomy : h.Roomy) (cap : Capability) {m : ReceivePacket}
    (wire : ∃ n, m.packet.timeoutTime = .ofNanoseconds n) : Fits (Transfer.receive h cap m) := by
  obtain ⟨c, committed⟩ := Commitment.exists_ofPacket? wire
  unfold Transfer.receive
  refine .andThen .lift fun x _ => .andThen .lift fun _ _ => ?_
  refine .andThen .ensure fun _ _ => .andThen .ensure fun _ _ => ?_
  dsimp only
  split
  on_goal 1 => refine .andThen pendingOrderChange fun _ _ => .andThen .ensure fun _ _ => ?_
  all_goals
    refine .andThen .openConnection fun c _ => .andThen roomy.ensureInTime fun _ _ => ?_
    refine .andThen (.provesPacketValue (.checked committed)) fun _ _ => ?_
    refine .andThen .lift fun n counter => ?_
    have counter : h.store.nextRecv[m.packet.destination]? = some n := by simpa using counter
    obtain ⟨next, counted⟩ := (roomy.lane _).nextRecv n counter
    split
    · exact .done
    split
    · exact .andThen .ensure fun _ _ => .andThen (.checked counted) fun _ _ => .done
    · split <;> exact .done

theorem writeAcknowledgement (cap : Capability) (p : Packet) (ack : Acknowledgement) :
    Fits (Transfer.writeAcknowledgement h cap p ack) := by
  unfold Transfer.writeAcknowledgement
  refine .andThen .lift fun x _ => .andThen .lift fun _ _ => .andThen .ensure fun _ _ => ?_
  split
  · exact .done
  · exact .andThen .ensure fun _ _ => .done

theorem ensureCommitted {p : Packet} {stored : Bytes}
    (wire : ∃ n, p.timeoutTime = .ofNanoseconds n) : Fits (Transfer.ensureCommitted p stored) := by
  obtain ⟨c, committed⟩ := Commitment.exists_ofPacket? wire
  exact .andThen (.checked committed) fun _ _ => .ensure

theorem acknowledge (roomy : h.Roomy) (cap : Capability) {m : AcknowledgePacket}
    (wire : ∃ n, m.packet.timeoutTime = .ofNanoseconds n) :
    Fits (Transfer.acknowledge h cap m) := by
  unfold Transfer.acknowledge
  refine .andThen .lift fun x _ => .andThen .lift fun _ _ => ?_
  refine .andThen .ensure fun _ _ => .andThen .ensure fun _ _ => ?_
  refine .andThen .ensure fun _ _ => .andThen .openConnection fun c _ => ?_
  split
  · exact .done
  next stored there =>
  refine .andThen (ensureCommitted wire) fun _ _ => .andThen (.provesPacketValue .done) fun _ _ => ?_
  dsimp only
  split
  · refine .andThen .lift fun n _ => .andThen .ensure fun _ expected => ?_
    -- The packet is one that was sent, and so is what the counter is at.
    obtain ⟨next, counted⟩ := (roomy.lane m.packet.source).sent m.packet.sequence stored there
    have same : m.packet.sequence = n := Fault.ensure_eq_ok.1 expected
    rw [same] at counted
    exact .andThen (.checked counted) fun _ _ => .done
  · exact .done

theorem timeout (cap : Capability) {m : TimeoutPacket}
    (wire : ∃ n, m.packet.timeoutTime = .ofNanoseconds n) : Fits (Transfer.timeout h cap m) := by
  unfold Transfer.timeout
  refine .andThen .lift fun x _ => .andThen .lift fun _ _ => ?_
  split
  · exact .done
  refine .andThen .ensure fun _ _ => .andThen .lift fun hop _ => .andThen .wrap fun c _ => ?_
  refine .andThen (ensureCommitted wire) fun _ _ => .andThen .consensusAt fun _ _ => ?_
  refine .andThen .ensure fun _ _ => ?_
  dsimp only
  split
  · refine .andThen .ensure fun _ _ => .andThen (.provesPacketValue .done) fun _ _ => ?_
    split <;> exact .done
  · exact .andThen .provesNoReceipt fun _ _ => .done

theorem packet (roomy : h.Roomy) (cap : Capability) {m : PacketMessage}
    (wire : ∃ n, m.packet.timeoutTime = .ofNanoseconds n) : Fits (Transfer.step h cap m) := by
  cases m with
  | receive m => exact roomy.receive cap wire
  | acknowledge m => exact roomy.acknowledge cap wire
  | timeout m => exact timeout cap wire

end

/-! ### Upgrades -/

theorem validateFields {f : UpgradeFields} : Fits (Upgrading.validateFields h f x) := by
  unfold Upgrading.validateFields
  exact .andThen .ensure fun _ _ => .andThen .openHop fun _ _ => .ensure

theorem matchesPeer {own peer : UpgradeFields} : Fits (Upgrading.matchesPeer h own peer) := by
  unfold Upgrading.matchesPeer
  split
  · refine .andThen .lift fun _ _ => .andThen .wrap fun _ _ => ?_
    exact .andThen .wrap fun _ _ => .andThen .lift fun _ _ => .done
  · exact .done

theorem ensureFlushed {f : UpgradeFields} : Fits (Upgrading.ensureFlushed h e x f) := by
  unfold Upgrading.ensureFlushed
  split
  · exact .done
  · exact .andThen .lift fun _ _ => .ensure

/-- The counters of an end that turns ordered can be set unless the other end sent all the packets it
can. -/
theorem sequenceReset_fits_iff {f : UpgradeFields} : Fits (Upgrading.sequenceReset h e x f) ↔
    (f.ordering = .ordered → x.ordering ≠ .ordered → ∀ u, h.store.peerUpgrades[e]? = some u →
      Word.HasNext u.latestSend) := by
  unfold Upgrading.sequenceReset
  split
  next turns =>
    constructor
    · intro fits _ _ u there
      cases counted : Word.add? u.latestSend 1 with
      | some next => exact ⟨next, counted⟩
      | none =>
        refine absurd ?_ fits
        rw [ChannelStore.peerUpgradeOf_eq_ok.2 there]
        show (Fault.checked (Word.add? u.latestSend 1) >>= _) = _
        rw [counted]
        rfl
    · intro room
      refine .andThen .lift fun peer there => ?_
      obtain ⟨next, counted⟩ := room turns.1 turns.2 peer (by simpa using there)
      exact .andThen (.checked counted) fun _ _ => .andThen .lift fun _ _ => .done
  next stays => exact ⟨fun _ turns was => absurd ⟨turns, was⟩ stays, fun _ => .done⟩

theorem sequenceReset (roomy : h.Roomy) {f : UpgradeFields} :
    Fits (Upgrading.sequenceReset h e x f) :=
  sequenceReset_fits_iff.2 fun _ _ => (roomy.lane e).latestSend

theorem propose (roomy : h.Roomy) (cap : Capability) (m : UpgradeInit) :
    Fits (Upgrading.propose h cap m) := by
  unfold Upgrading.propose
  refine .andThen .lift fun x there => .andThen .lift fun _ _ => ?_
  have channel : h.store.ends[m.owner]? = some x := by simpa using there
  refine .andThen .ensure fun _ _ => .andThen validateFields fun _ _ => ?_
  have deadline : Fits (Upgrading.deadline h m.timeout) := by
    unfold Upgrading.deadline
    split
    · exact .done
    · exact .andThen roomy.now fun _ _ => .andThen .wrap fun _ _ => .done
  refine .andThen deadline fun _ _ => .andThen .ensure fun _ _ => .andThen .lift fun _ _ => ?_
  obtain ⟨next, counted⟩ := (roomy.lane m.owner).sequence x channel
  exact .andThen (.checked counted) fun _ _ => .done

theorem answerWith {m : UpgradeTry} {own : Upgrade} : Fits (Upgrading.answerWith h m x own) :=
  .andThen ensureFlushed fun _ _ => .done

variable [Digest]

theorem checkAnswer (roomy : h.Roomy) {m : UpgradeTry} : Fits (Upgrading.checkAnswer h m) := by
  unfold Upgrading.checkAnswer
  refine .andThen .lift fun x _ => .andThen .ensure fun _ _ => ?_
  refine .andThen .openConnection fun c _ => .andThen roomy.now fun _ _ => ?_
  refine .andThen .ensure fun _ _ => .andThen validateFields fun _ _ => ?_
  refine .andThen .lift fun _ _ => .andThen .wrap fun _ _ => .andThen .lift fun _ _ => ?_
  refine .andThen .wrap fun _ _ => .andThen .ensure fun _ _ => .andThen .wrap fun _ _ => ?_
  refine .andThen .provesPeerValue fun _ _ => .andThen .wrap fun _ _ => ?_
  exact .andThen .provesPeerValue fun _ _ => .done

theorem answer (roomy : h.Roomy) (m : UpgradeTry) : Fits (Upgrading.answer h m) := by
  unfold Upgrading.answer
  refine .andThen roomy.checkAnswer fun r checked => ?_
  obtain ⟨x, fields⟩ := r
  have answerable := Upgrading.checkAnswer_eq_ok.1 checked
  obtain ⟨next, counted⟩ := (roomy.lane m.owner).sequence x answerable.channel
  dsimp only
  split
  · split
    · exact .andThen (.checked counted) fun _ _ => .done
    · exact .andThen .lift fun _ _ => answerWith
  · refine .andThen .lift fun own _ => ?_
    split
    · exact answerWith
    · exact .done

theorem agree (m : UpgradeAck) : Fits (Upgrading.acknowledge h m) := by
  unfold Upgrading.acknowledge
  refine .andThen .lift fun x _ => .andThen .ensure fun _ _ => ?_
  refine .andThen .openConnection fun c _ => .andThen .lift fun own _ => ?_
  refine .andThen .wrap fun _ _ => .andThen .provesPeerValue fun _ _ => ?_
  refine .andThen .wrap fun _ _ => .andThen .provesPeerValue fun _ _ => ?_
  refine .andThen matchesPeer fun same _ => ?_
  split
  · exact .done
  refine .andThen .consensusAt fun _ _ => ?_
  split
  · exact .done
  · exact .andThen ensureFlushed fun _ _ => .done

theorem confirm (roomy : h.Roomy) (m : UpgradeConfirm) : Fits (Upgrading.confirm h m) := by
  unfold Upgrading.confirm
  refine .andThen .lift fun x _ => .andThen .ensure fun _ _ => ?_
  refine .andThen .openConnection fun c _ => .andThen .lift fun own _ => ?_
  refine .andThen .wrap fun _ _ => .andThen .provesPeerValue fun _ _ => ?_
  refine .andThen .consensusAt fun _ _ => ?_
  split
  · exact .done
  · exact .andThen roomy.sequenceReset fun _ _ => .done

theorem finish (roomy : h.Roomy) (m : UpgradeOpen) : Fits (Upgrading.finish h m) := by
  unfold Upgrading.finish
  refine .andThen .lift fun x _ => .andThen .ensure fun _ _ => ?_
  refine .andThen .openConnection fun c _ => .andThen .lift fun own _ => ?_
  have expected : Fits (Upgrading.expectedFinished h m c x own) := by
    unfold Upgrading.expectedFinished
    split
    · refine .andThen .lift fun _ _ => .andThen .wrap fun _ _ => ?_
      exact .andThen .wrap fun _ _ => .done
    · exact .andThen .wrap fun _ _ => .done
    · exact .refused
  refine .andThen expected fun _ _ => .andThen .provesPeerValue fun _ _ => ?_
  exact .andThen roomy.sequenceReset fun _ _ => .done

theorem cancel (m : UpgradeCancel) : Fits (Upgrading.cancel h m) := by
  unfold Upgrading.cancel
  refine .andThen .lift fun x _ => .andThen .ensure fun _ _ => .andThen .ensure fun _ _ => ?_
  exact .andThen .openConnection fun c _ => .andThen .provesPeerValue fun _ _ => .done

theorem expire (m : UpgradeExpire) : Fits (Upgrading.expire h m) := by
  unfold Upgrading.expire
  refine .andThen .lift fun x _ => .andThen .ensure fun _ _ => ?_
  refine .andThen .openConnection fun c _ => .andThen .lift fun own _ => ?_
  refine .andThen .consensusAt fun _ _ => .andThen .ensure fun _ _ => ?_
  refine .andThen .provesPeerValue fun _ _ => ?_
  dsimp only
  split
  · exact .andThen matchesPeer fun _ _ => .andThen .ensure fun _ _ => .done
  · exact .done

theorem upgrade (roomy : h.Roomy) (m : UpgradeMessage) : Fits (Upgrading.step h m) := by
  cases m with
  | answer m => exact roomy.answer m
  | ack m => exact agree m
  | confirm m => exact roomy.confirm m
  | finish m => exact roomy.finish m
  | cancel m => exact cancel m
  | expire m => exact expire m

/-! ### Opening and closing -/

theorem handshake (m : HandshakeMessage) : Fits (Handshake.step h m) := by
  cases m with
  | openInit m =>
    show Fits (Handshake.openInit h m)
    unfold Handshake.openInit
    refine .andThen .openConnection fun c _ => .andThen .lift fun _ _ => ?_
    exact .andThen .ensure fun _ _ => .done
  | openTry m =>
    show Fits (Handshake.openTry h m)
    unfold Handshake.openTry
    refine .andThen .lift fun _ _ => .andThen .openConnection fun c _ => ?_
    refine .andThen .lift fun _ _ => .andThen .ensure fun _ _ => .andThen .wrap fun _ _ => ?_
    exact .andThen .provesPeerValue fun _ _ => .done
  | openAck m =>
    show Fits (Handshake.openAck h m)
    unfold Handshake.openAck
    refine .andThen .lift fun x _ => .andThen .ensure fun _ _ => ?_
    refine .andThen .openConnection fun c _ => .andThen .wrap fun _ _ => ?_
    exact .andThen .provesPeerValue fun _ _ => .andThen .lift fun _ _ => .done
  | openConfirm m =>
    show Fits (Handshake.openConfirm h m)
    unfold Handshake.openConfirm
    refine .andThen .lift fun x _ => .andThen .ensure fun _ _ => ?_
    refine .andThen .openConnection fun c _ => .andThen .wrap fun _ _ => ?_
    exact .andThen .provesPeerValue fun _ _ => .andThen .lift fun _ _ => .done

omit [Digest] in
theorem closeInit (cap : Capability) (m : CloseInit) : Fits (Handshake.closeInit h cap m) := by
  unfold Handshake.closeInit
  refine .andThen .lift fun x _ => .andThen .lift fun _ _ => .andThen .ensure fun _ _ => ?_
  exact .andThen .openConnection fun c _ => .andThen .lift fun _ _ => .done

end Host.Roomy

theorem ChannelStore.Spacious.applyEnd {s : ChannelStore} (spacious : s.Spacious)
    (change : EndChange) : Fits (s.applyEnd change).1 := by
  obtain ⟨⟨n, counted⟩, i, index⟩ := spacious
  unfold ChannelStore.applyEnd
  split
  · exact .refused
  next hop _ =>
  have counted : Word.add? (s.setEnd change.owner change.value).created 1 = some n := counted
  dsimp only
  split
  · rw [counted]
    have create : Fits (s.registry.create (.ofEnd change.owner)) := by
      unfold Registry.create
      split
      · exact .refused
      · rw [index]
        exact .done
    have same : ((({ s.setEnd change.owner change.value with created := n } :
        ChannelStore).addOverConnection hop change.owner).startCounters
          change.owner).registry = s.registry := rfl
    dsimp only
    rw [same]
    cases made : s.registry.create (.ofEnd change.owner) with
    | error f =>
      rw [made] at create
      exact create.map
    | ok r => exact .done
  · exact .done

/-! ### A chain -/

namespace Chain

variable [Digest] {c d : Chain}

section Roomy

variable (roomy : c.host.Roomy)

include roomy

theorem Fails.fits {m : Datagram} {f : Fault ChannelError} (fails : c.Fails m f)
    (timed : (Action.deliver m).Timed) : Fits (.error f : Attempt Unit) := by
  cases fails with
  | @handshake m f failed =>
    have step := Host.Roomy.handshake (h := c.host) m
    rw [failed] at step
    exact step.error
  | @upgrade m f failed =>
    have step := roomy.upgrade m
    rw [failed] at step
    exact step.error
  | @packet m cap f owns failed =>
    have step := roomy.packet cap (timed m.packet.outgoing rfl)
    rw [failed] at step
    exact step.error

theorem Delivers.fits {m : Datagram} {r : Routed DeliveryReceipt} (delivers : c.Delivers m r)
    (timed : (Action.deliver m).Timed) : Fits r.1 := by
  cases delivers with
  | unrouted | unowned | declined => exact .refused
  | failed bound fails => exact (fails.fits roomy timed).map
  | @unstored m id app out f t bound ok agrees failed =>
    have stored := roomy.spacious.applyEnd
      (settleVersion m out.result (app.reply (handshakeCall m out.result.owner)).version)
    rw [failed] at stored
    exact stored.map
  | stored | upgraded | upgradedTold | repeated | applied | answered => exact .done

theorem deliver_fits {m : Datagram} (timed : (Action.deliver m).Timed) : Fits (c.deliver m).1 :=
  (c.delivers m).fits roomy timed

end Roomy

omit [Digest] in
theorem exists_settle_of_fits {ε α : Type} {r : Except (Fault ε) α × Chain} {report : α → Report}
    (fits : Fits r.1) : ∃ rep c', settle r report = some (rep, c') := by
  rcases r with ⟨f | x, c'⟩
  · cases f with
    | refused e => exact ⟨_, _, rfl⟩
    | overflow => exact absurd rfl fits
  · exact ⟨_, _, rfl⟩

omit [Digest] in
theorem exists_attempted_of_fits {α : Type} {r : Attempt α} {done : α → Report × Chain}
    (fits : Fits r) : ∃ rep c', c.attempted r done = some (rep, c') := by
  rcases r with ⟨_ | _⟩ | x
  · exact ⟨_, _, rfl⟩
  · exact absurd rfl fits
  · exact ⟨_, _, rfl⟩

omit [Digest] in
theorem sealed_fits {ε α : Type} {r : Except (Fault ε) α × Chain} (fits : Fits r.1)
    (room : r.2.host.height.Room 1) : Fits (sealed r).1 := by
  rcases r with ⟨f | x, c'⟩
  · exact fits
  · obtain ⟨d, more, -⟩ := exists_next_of_advance room
    simp only [sealed, more]
    exact .done

/-- On a chain that has room to count, every action is carried out or refused. -/
theorem exists_perform_of_roomy {a : Action} (roomy : c.host.Roomy) (timed : a.Timed) :
    ∃ rep c', c.perform a = some (rep, c') := by
  cases a with
  | deliver m =>
    refine exists_settle_of_fits (sealed_fits (deliver_fits roomy timed) ?_)
    rw [(c.delivers m).abreast.height]
    exact roomy.room
  | send cap m =>
    rw [perform_send]
    exact exists_attempted_of_fits (roomy.send cap (timed m rfl))
  | writeAcknowledgement cap p ack =>
    rw [perform_writeAcknowledgement]
    exact exists_attempted_of_fits (Host.Roomy.writeAcknowledgement cap p ack)
  | proposeUpgrade cap m =>
    rw [perform_proposeUpgrade]
    exact exists_attempted_of_fits (roomy.propose cap m)
  | close cap m =>
    rw [perform_close]
    exact exists_attempted_of_fits (Host.Roomy.closeInit cap m)
  | advance =>
    obtain ⟨d, more, -⟩ := exists_next_of_advance roomy.room
    exact ⟨_, d, by rw [perform, more, Option.map_some]⟩
  | updateClient id header => exact ⟨_, _, rfl⟩

end Chain

/-! ### All along a history -/

theorem Lane.Below.roomy {l : Lane} {b k : Nat} (below : l.Below b k)
    (few : b + k + 2 < UInt64.size) : l.Roomy := by
  constructor
  · intro n there
    have least := below.nextSend n there
    exact .of_lt (by omega)
  · intro n there
    have least := below.nextRecv n there
    exact .of_lt (by omega)
  · intro n c there
    have least := below.sent n c there
    exact .of_lt (by omega)
  · intro x there
    have least := below.sequence x there
    exact .of_lt (by omega)
  · intro u there
    have least := below.latestSend u there
    exact .of_lt (by omega)

theorem ChannelStore.Below.roomy {h : Host} {b k : Nat} (below : h.store.Below b k)
    (few : b + k + 2 < UInt64.size) (room : h.height.Room 1) : h.Roomy := by
  have created := below.created
  have index := below.nextIndex
  exact ⟨fun e => (below.lane e).roomy few,
    ⟨Word.HasNext.of_lt (by omega), Word.HasNext.of_lt (by omega)⟩, room⟩

/-- On a chain that started without channels, whatever the other chains do: as long as the numbers
that were taken over from them, with the number of actions, are below the greatest word, nothing
overflows. Each action, whose timeouts come as nanoseconds, is carried out or refused, a relayed
message also without a block after it. -/
theorem Chain.Reaches.never_overflows [Digest] {c d : Chain} {l : History} {b : Nat} {a : Action}
    (start : c.host.store = .empty) (reaches : c.Reaches l d) (adopts : l.AdoptsUpTo b)
    (few : b + l.length + 2 < UInt64.size) (room : d.host.height.Room 1) (timed : a.Timed) :
    (∃ rep d', d.perform a = some (rep, d')) ∧
      ∀ m, a = .deliver m →
        ∃ rep d', settle (d.deliver m) DeliveryReceipt.report = some (rep, d') := by
  have roomy : d.host.Roomy := (reaches.counters_below start adopts).roomy few room
  refine ⟨exists_perform_of_roomy roomy timed, ?_⟩
  rintro m rfl
  exact exists_settle_of_fits (deliver_fits roomy timed)

/-- The chain that answered a proposal took over the sequence of the upgrade and that of the last
packet of the other end, and takes or refuses whatever comes next. -/
theorem Chain.Reaches.never_overflows_upgraded :
    letI : Digest := .plain
    let r := Passage.upgraded "ics20-1" [1] (by decide)
    (r.history .right 14).AdoptsUpTo 1 ∧ (r.world 14 .right).host.height.Room 1 ∧
      ∀ a, a.Timed → ∃ rep c', (r.world 14 .right).perform a = some (rep, c') := by
  -- Evaluated before the run gets a name, so that the terms are closed.
  have adopted : letI : Digest := .plain
      (((Passage.upgraded "ics20-1" [1] (by decide)).history .right 14).flatMap
        fun p => p.1.adopted) = [1, 0] := rfl
  have length : letI : Digest := .plain
      ((Passage.upgraded "ics20-1" [1] (by decide)).history .right 14).length = 7 := rfl
  have height : letI : Digest := .plain
      ((Passage.upgraded "ics20-1" [1] (by decide)).world 14 .right).host.height = ⟨0, 4⟩ := rfl
  let _ : Digest := .plain
  let r := Passage.upgraded "ics20-1" [1] (by decide)
  have adopts : (r.history .right 14).AdoptsUpTo 1 := by
    intro p mem _ n taken
    have among : n ∈ [1, 0] := adopted ▸ List.mem_flatMap.2 ⟨p, mem, taken⟩
    obtain rfl | rfl : n = 1 ∨ n = 0 := by simpa using among
    · exact Nat.le_refl 1
    · exact Nat.zero_le 1
  have room : (r.world 14 .right).host.height.Room 1 := by
    rw [height]
    unfold Height.Room
    decide
  have few : 1 + (r.history .right 14).length + 2 < UInt64.size := by
    rw [length]
    decide
  refine ⟨adopts, room, fun a timed => ?_⟩
  exact (Reaches.never_overflows (r.started.chain .right).store (r.leads .right 14).reaches adopts
    few room timed).1

end Crosschain
