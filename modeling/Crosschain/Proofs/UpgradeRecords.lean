import Crosschain.Proofs.Reachability
import Crosschain.Proofs.Spared

/-!
# The upgrades that are kept

The upgrades kept for an end are those that its state calls for: its own from the proposal on, that
of the other end from the answer on, and neither before, after or between upgrades. So no step of an
upgrade, and nothing about a packet, ever misses a record it needs.
-/

namespace Crosschain

/-! ### One lane -/

/-- Whether these are the upgrades to be kept for an end in a state; a closed end may keep any. -/
def ChannelState.CallsFor (s : ChannelState) (own peer : Option Upgrade) : Prop :=
  match s with
  | .initUpgrade => own.isSome ∧ peer = none
  | .tryUpgrade | .ackUpgrade => own.isSome ∧ peer.isSome
  | .uninitialized | .init | .tryOpen | .opened => own = none ∧ peer = none
  | .closed => True

def Lane.Recorded (l : Lane) : Prop :=
  ∀ x, l.channel = some x → x.state.CallsFor l.upgrade l.peerUpgrade

namespace Lane.Recorded

variable {l l' : Lane} {x : ChannelEnd}

theorem empty : Lane.empty.Recorded := by
  intro x there
  cases there

theorem of_state {y : ChannelEnd} (channel : l.channel = some y)
    (calls : y.state.CallsFor l.upgrade l.peerUpgrade) : l.Recorded := by
  intro x there
  rw [channel] at there
  obtain rfl := Option.some.inj there
  exact calls

theorem of_eq (recorded : l.Recorded) (channel : l'.channel = l.channel)
    (upgrade : l'.upgrade = l.upgrade) (peer : l'.peerUpgrade = l.peerUpgrade) : l'.Recorded := by
  intro x there
  rw [upgrade, peer]
  exact recorded x (channel ▸ there)

theorem of_proposed (recorded : l.Recorded) (channel : l.channel = some x)
    (state : x.state = .initUpgrade) : l.upgrade.isSome ∧ l.peerUpgrade = none := by
  have calls := recorded x channel
  rw [state] at calls
  exact calls

theorem of_answered (recorded : l.Recorded) (channel : l.channel = some x)
    (state : x.state = .tryUpgrade ∨ x.state = .ackUpgrade) :
    l.upgrade.isSome ∧ l.peerUpgrade.isSome := by
  have calls := recorded x channel
  rcases state with state | state
  all_goals
    rw [state] at calls
    exact calls

theorem of_settled (recorded : l.Recorded) (channel : l.channel = some x)
    (state : x.state = .init ∨ x.state = .tryOpen ∨ x.state = .opened) :
    l.upgrade = none ∧ l.peerUpgrade = none := by
  have calls := recorded x channel
  rcases state with state | state | state
  all_goals
    rw [state] at calls
    exact calls

theorem of_upgrading (recorded : l.Recorded) (channel : l.channel = some x)
    (state : x.state.isUpgrading) : l.upgrade.isSome := by
  rcases (ChannelState.isUpgrading_iff _).1 state with state | state
  · exact (recorded.of_proposed channel state).1
  · exact (recorded.of_answered channel state).1

/-- Each step writes and drops the records that go with the state it leads to. -/
theorem step [Digest] {h : Host} {a : Action} {e : EndId} {d : Deed} (recorded : l.Recorded)
    (step : LaneStep h a e l d l') : l'.Recorded := by
  cases step with
  | idle => exact recorded
  -- An end that is created has no upgrades, and one that opens had none.
  | openInit => exact .of_state rfl ⟨rfl, rfl⟩
  | openTry => exact .of_state rfl ⟨rfl, rfl⟩
  | openAck _ m x hop peerHop time action owner channel state =>
    refine .of_state rfl (recorded.of_settled channel ?_)
    exact state.imp_right .inl
  | openConfirm _ m x hop peerHop peer time action owner channel state =>
    exact .of_state rfl (recorded.of_settled channel (.inr (.inl state)))
  -- A closed end may keep what it has.
  | close => exact .of_state rfl trivial
  | timeoutOrdered => exact .of_state rfl trivial
  -- Packets leave the end and its upgrades alone.
  | send => exact recorded.of_eq rfl rfl rfl
  | receiveOrdered => exact recorded.of_eq rfl rfl rfl
  | receiveUnordered => exact recorded.of_eq rfl rfl rfl
  | answer => exact recorded.of_eq rfl rfl rfl
  | acknowledge => exact recorded.of_eq rfl rfl rfl
  | timeoutUnordered => exact recorded.of_eq rfl rfl rfl
  -- A proposal is made where there was no upgrade, so none of the other end is left over.
  | propose _ cap m x n sequence timeout hop c action owner channel state =>
    have none := recorded.of_settled channel (.inr (.inr state))
    exact .of_state rfl ⟨rfl, none.2⟩
  | reply => exact .of_state rfl ⟨rfl, rfl⟩
  | cross => exact .of_state rfl ⟨rfl, rfl⟩
  | agree _ m x own hop peerHop peer second time action owner channel state upgrade =>
    have kept : l.upgrade.isSome := by rw [upgrade]; rfl
    exact .of_state rfl ⟨kept, rfl⟩
  -- However an upgrade ends, both records go.
  | confirm => exact .of_state rfl ⟨rfl, rfl⟩
  | finish => exact .of_state rfl ⟨rfl, rfl⟩
  | cancel => exact .of_state rfl ⟨rfl, rfl⟩
  | abort => exact .of_state rfl ⟨rfl, rfl⟩
  | expire => exact .of_state rfl ⟨rfl, rfl⟩

end Lane.Recorded

/-- On a chain that started without channels, the records of each end go with its state. -/
theorem Chain.Reaches.recorded [Digest] {c d : Chain} {l : History} (start : c.host.store = .empty)
    (reaches : c.Reaches l d) (e : EndId) : (d.host.store.lane e).Recorded :=
  reaches.lane_induction start Lane.Recorded.empty fun step recorded => recorded.step step

/-! ### Causes of refusals -/

/-- A refusal because an upgrade of the end, or of the other end, is not there. -/
def ChannelError.missesUpgrade : ChannelError → Bool
  | .noUpgrade _ | .noPeerUpgrade _ => true
  | _ => false

/-- An attempt that is not refused for want of an upgrade. -/
def Supplied {α : Type} (r : Attempt α) : Prop :=
  ∀ e, r = .error (.refused e) → e.missesUpgrade = false

namespace Supplied

variable {ε α β : Type}

theorem done {a : α} : Supplied (pure a) := Spares.done

theorem refused {e : ChannelError} (fine : e.missesUpgrade = false) :
    Supplied (.error (.refused e) : Attempt α) := Spares.refused fine

theorem andThen {r : Attempt α} {f : α → Attempt β} (first : Supplied r)
    (rest : ∀ a, r = .ok a → Supplied (f a)) : Supplied (r >>= f) := Spares.andThen first rest

theorem ensure {p : Prop} [Decidable p] {e : ChannelError} (fine : e.missesUpgrade = false) :
    Supplied (Fault.ensure p e) := Spares.ensure fine

theorem wrap {f : ε → ChannelError} {r : Except ε α} (fine : ∀ e, (f e).missesUpgrade = false) :
    Supplied (Fault.wrap f r) := Spares.wrap fun e _ => fine e

theorem checked {o : Option α} : Supplied (Fault.checked o) := Spares.checked

/-! ### Reading a store and a host -/

section Reading

variable {s : ChannelStore} {h : Host} {e : EndId} {x : ChannelEnd} {c : ConnectionEnd}

theorem endAt : Supplied (Fault.lift (s.endAt e)) := Spares.endAt rfl

theorem nextSendOf : Supplied (Fault.lift (s.nextSendOf e)) := Spares.nextSendOf rfl

theorem nextRecvOf : Supplied (Fault.lift (s.nextRecvOf e)) := Spares.nextRecvOf rfl

theorem nextAckOf : Supplied (Fault.lift (s.nextAckOf e)) := Spares.nextAckOf rfl

theorem upgradeOf (kept : s.upgrades[e]?.isSome) : Supplied (Fault.lift (s.upgradeOf e)) := by
  obtain ⟨u, stored⟩ := Option.isSome_iff_exists.1 kept
  rw [ChannelStore.upgradeOf_eq_ok.2 stored]
  exact done

theorem peerUpgradeOf (kept : s.peerUpgrades[e]?.isSome) :
    Supplied (Fault.lift (s.peerUpgradeOf e)) := by
  obtain ⟨u, stored⟩ := Option.isSome_iff_exists.1 kept
  rw [ChannelStore.peerUpgradeOf_eq_ok.2 stored]
  exact done

theorem inFlight : Supplied (Fault.lift (s.inFlight e)) := by
  have next := nextSendOf (s := s) (e := e)
  unfold ChannelStore.inFlight
  cases counter : s.nextSendOf e with
  | error cause =>
    rw [counter] at next
    exact refused (next cause rfl)
  | ok n => exact done

theorem authenticate {cap : Capability} : Supplied (Fault.lift (s.authenticate e cap)) :=
  Spares.authenticate fun _ => rfl

theorem endId {p : ChannelPeer} : Supplied (Fault.lift p.endId) := Spares.endId rfl

theorem oneHop {hops : List ConnectionId} : Supplied (Fault.lift (UpgradeFields.oneHop hops)) :=
  Spares.oneHop fun _ => rfl

theorem connectionAt {id : ConnectionId} : Supplied (h.connectionAt id) :=
  Spares.connectionAt fun _ => rfl

theorem peerHop : Supplied (Host.peerHop c) := wrap fun _ => rfl

theorem openHop {r : Except ChannelError ConnectionId} (known : Supplied (Fault.lift r)) :
    Supplied (h.openHop r) := Spares.openHop known (fun _ => rfl) fun _ => rfl

theorem openConnection : Supplied (h.openConnection x) := openHop oneHop

theorem consensusAt {height : Height} : Supplied (h.consensusAt c height) :=
  Spares.consensusAt (fun _ => rfl) fun _ => rfl

variable [Digest]

theorem provesPeerValue {height : Height} {proof : StateProof} {path : EndId → Path}
    {value : Bytes} {f : ClientError → ChannelError} (told : ∀ e, (f e).missesUpgrade = false) :
    Supplied (h.provesPeerValue c x height proof path value f) :=
  andThen consensusAt fun _ _ => andThen endId fun _ _ => wrap told

theorem provesEnd {height : Height} {proof : StateProof} {y : ChannelEnd} :
    Supplied (h.provesEnd c x height proof y) := provesPeerValue fun _ => rfl

theorem provesUpgrade {height : Height} {proof : StateProof} {u : Upgrade} :
    Supplied (h.provesUpgrade c x height proof u) := provesPeerValue fun _ => rfl

theorem provesReceipt {height : Height} {proof : StateProof} {r : ErrorReceipt} :
    Supplied (h.provesReceipt c x height proof r) := provesPeerValue fun _ => rfl

theorem provesPacketValue {v : Evidence} {path : Path} {value : Attempt Bytes} {n : Sequence}
    (given : Supplied value) : Supplied (h.provesPacketValue c v path value n) :=
  andThen consensusAt fun _ _ => andThen given fun _ _ => wrap fun _ => rfl

theorem provesNoReceipt {p : Packet} {v : Evidence} : Supplied (h.provesNoReceipt c p v) :=
  andThen consensusAt fun _ _ => wrap fun _ => rfl

end Reading

end Supplied

/-! ### Packets -/

/-- The records of each end of a host go with its state. -/
def Host.Recorded (h : Host) : Prop := ∀ e, (h.store.lane e).Recorded

namespace Host.Recorded

variable {h : Host} {e : EndId} {x : ChannelEnd}

theorem pendingOrderChange (recorded : h.Recorded) (there : Fault.lift (h.store.endAt e) = .ok x) :
    Supplied (Upgrading.pendingOrderChange h e x) := by
  have channel : h.store.ends[e]? = some x := by simpa using there
  unfold Upgrading.pendingOrderChange
  split
  next state =>
    exact .andThen (.upgradeOf ((recorded e).of_upgrading channel state)) fun _ _ => .done
  next => exact .done

theorem ensureNotTimedOut {m : OutgoingPacket} : Supplied (Transfer.ensureNotTimedOut h x m) := by
  unfold Transfer.ensureNotTimedOut
  refine .andThen .oneHop fun hop _ => .andThen .connectionAt fun c _ => ?_
  refine .andThen (.wrap fun _ => rfl) fun client _ => .andThen (.ensure rfl) fun _ _ => ?_
  split
  on_goal 2 => refine .andThen (.ensure rfl) fun _ _ => ?_
  all_goals exact .andThen (.wrap fun _ => rfl) fun _ _ => .ensure rfl

theorem ensureInTime {p : Packet} : Supplied (Transfer.ensureInTime h p) := by
  unfold Transfer.ensureInTime
  split
  on_goal 2 => refine .andThen (.ensure rfl) fun _ _ => ?_
  all_goals exact .andThen .checked fun _ _ => .ensure rfl

section

variable [Digest]

theorem send (recorded : h.Recorded) (cap : Capability) (m : OutgoingPacket) :
    Supplied (Transfer.send h cap m) := by
  unfold Transfer.send
  refine .andThen .endAt fun x there => .andThen .authenticate fun _ _ => ?_
  refine .andThen (.ensure rfl) fun _ _ => .andThen (.ensure rfl) fun _ _ => ?_
  refine .andThen (recorded.pendingOrderChange there) fun _ _ => .andThen (.ensure rfl) fun _ _ => ?_
  refine .andThen (.ensure rfl) fun _ _ => .andThen (.ensure rfl) fun _ _ => ?_
  refine .andThen .endId fun _ _ => .andThen ensureNotTimedOut fun _ _ => ?_
  refine .andThen .nextSendOf fun _ _ => .andThen .checked fun _ _ => ?_
  exact .andThen .checked fun _ _ => .done

theorem receive (recorded : h.Recorded) (cap : Capability) (m : ReceivePacket) :
    Supplied (Transfer.receive h cap m) := by
  unfold Transfer.receive
  refine .andThen .endAt fun x there => .andThen .authenticate fun _ _ => ?_
  refine .andThen (.ensure rfl) fun _ _ => .andThen (.ensure rfl) fun _ _ => ?_
  dsimp only
  split
  on_goal 1 =>
    refine .andThen (recorded.pendingOrderChange there) fun _ _ => .andThen (.ensure rfl) fun _ _ => ?_
  all_goals
    refine .andThen .openConnection fun c _ => .andThen ensureInTime fun _ _ => ?_
    refine .andThen (.provesPacketValue .checked) fun _ _ => .andThen .nextRecvOf fun next _ => ?_
    split
    · exact .done
    split
    · exact .andThen (.ensure rfl) fun _ _ => .andThen .checked fun _ _ => .done
    · split <;> exact .done

theorem writeAcknowledgement (cap : Capability) (p : Packet) (ack : Acknowledgement) :
    Supplied (Transfer.writeAcknowledgement h cap p ack) := by
  unfold Transfer.writeAcknowledgement
  refine .andThen .endAt fun x there => .andThen .authenticate fun _ _ => ?_
  refine .andThen (.ensure rfl) fun _ _ => ?_
  split
  · exact .done
  · exact .andThen (.ensure rfl) fun _ _ => .done

theorem ensureCommitted {p : Packet} {stored : Bytes} :
    Supplied (Transfer.ensureCommitted p stored) := .andThen .checked fun _ _ => .ensure rfl

theorem acknowledge (cap : Capability) (m : AcknowledgePacket) :
    Supplied (Transfer.acknowledge h cap m) := by
  unfold Transfer.acknowledge
  refine .andThen .endAt fun x there => .andThen .authenticate fun _ _ => ?_
  refine .andThen (.ensure rfl) fun _ _ => .andThen (.ensure rfl) fun _ _ => ?_
  refine .andThen (.ensure rfl) fun _ _ => .andThen .openConnection fun c _ => ?_
  split
  · exact .done
  refine .andThen ensureCommitted fun _ _ => .andThen (.provesPacketValue .done) fun _ _ => ?_
  dsimp only
  split
  · refine .andThen .nextAckOf fun _ _ => .andThen (.ensure rfl) fun _ _ => ?_
    exact .andThen .checked fun _ _ => .done
  · exact .done

theorem timeout (cap : Capability) (m : TimeoutPacket) : Supplied (Transfer.timeout h cap m) := by
  unfold Transfer.timeout
  refine .andThen .endAt fun x there => .andThen .authenticate fun _ _ => ?_
  split
  · exact .done
  refine .andThen (.ensure rfl) fun _ _ => .andThen .oneHop fun hop _ => ?_
  refine .andThen .connectionAt fun c _ => .andThen ensureCommitted fun _ _ => ?_
  refine .andThen .consensusAt fun _ _ => .andThen (.ensure rfl) fun _ _ => ?_
  dsimp only
  split
  · refine .andThen (.ensure rfl) fun _ _ => .andThen (.provesPacketValue .done) fun _ _ => ?_
    split <;> exact .done
  · exact .andThen .provesNoReceipt fun _ _ => .done

theorem packet (recorded : h.Recorded) (cap : Capability) (m : PacketMessage) :
    Supplied (Transfer.step h cap m) := by
  cases m with
  | receive m => exact recorded.receive cap m
  | acknowledge m => exact acknowledge cap m
  | timeout m => exact timeout cap m

end

/-! ### Upgrades -/

theorem validateFields {f : UpgradeFields} : Supplied (Upgrading.validateFields h f x) := by
  unfold Upgrading.validateFields
  refine .andThen (.ensure rfl) fun _ _ => .andThen (.openHop .oneHop) fun _ _ => ?_
  exact .ensure rfl

theorem matchesPeer {own peer : UpgradeFields} : Supplied (Upgrading.matchesPeer h own peer) := by
  unfold Upgrading.matchesPeer
  split
  · refine .andThen .oneHop fun _ _ => .andThen .connectionAt fun _ _ => ?_
    exact .andThen .peerHop fun _ _ => .andThen .oneHop fun _ _ => .done
  · exact .done

theorem ensureFlushed {f : UpgradeFields} : Supplied (Upgrading.ensureFlushed h e x f) := by
  unfold Upgrading.ensureFlushed
  split
  · exact .done
  · exact .andThen .inFlight fun _ _ => .ensure rfl

theorem sequenceReset {f : UpgradeFields} (kept : h.store.peerUpgrades[e]?.isSome) :
    Supplied (Upgrading.sequenceReset h e x f) := by
  unfold Upgrading.sequenceReset
  split
  · refine .andThen (.peerUpgradeOf kept) fun _ _ => .andThen .checked fun _ _ => ?_
    exact .andThen .nextSendOf fun _ _ => .done
  · exact .done

theorem propose (cap : Capability) (m : UpgradeInit) : Supplied (Upgrading.propose h cap m) := by
  unfold Upgrading.propose
  refine .andThen .endAt fun x there => .andThen .authenticate fun _ _ => ?_
  refine .andThen (.ensure rfl) fun _ _ => .andThen validateFields fun _ _ => ?_
  have deadline : Supplied (Upgrading.deadline h m.timeout) := by
    unfold Upgrading.deadline
    split
    · exact .done
    · exact .andThen .checked fun _ _ => .andThen (.wrap fun _ => rfl) fun _ _ => .done
  refine .andThen deadline fun _ _ => .andThen (.ensure rfl) fun _ _ => ?_
  exact .andThen .nextSendOf fun _ _ => .andThen .checked fun _ _ => .done

theorem answerWith {m : UpgradeTry} {own : Upgrade} : Supplied (Upgrading.answerWith h m x own) :=
  .andThen ensureFlushed fun _ _ => .done

variable [Digest]

theorem checkAnswer {m : UpgradeTry} : Supplied (Upgrading.checkAnswer h m) := by
  unfold Upgrading.checkAnswer
  refine .andThen .endAt fun x there => .andThen (.ensure rfl) fun _ _ => ?_
  refine .andThen .openConnection fun c _ => .andThen .checked fun _ _ => ?_
  refine .andThen (.ensure rfl) fun _ _ => .andThen validateFields fun _ _ => ?_
  refine .andThen .oneHop fun _ _ => .andThen .connectionAt fun _ _ => .andThen .oneHop fun _ _ => ?_
  refine .andThen .peerHop fun _ _ => .andThen (.ensure rfl) fun _ _ => .andThen .peerHop fun _ _ => ?_
  refine .andThen .provesEnd fun _ _ => .andThen (.wrap fun _ => rfl) fun _ _ => ?_
  exact .andThen .provesUpgrade fun _ _ => .done

theorem answer (recorded : h.Recorded) (m : UpgradeTry) : Supplied (Upgrading.answer h m) := by
  unfold Upgrading.answer
  refine .andThen checkAnswer fun r checked => ?_
  obtain ⟨x, fields⟩ := r
  have answerable := Upgrading.checkAnswer_eq_ok.1 checked
  dsimp only
  split
  · split
    · exact .andThen .checked fun _ _ => .done
    · exact .andThen .nextSendOf fun _ _ => answerWith
  next other =>
    have proposed := answerable.state.resolve_left other
    have kept := ((recorded m.owner).of_proposed answerable.channel proposed).1
    refine .andThen (.upgradeOf kept) fun own _ => ?_
    split
    · exact answerWith
    · exact .done

theorem agree (recorded : h.Recorded) (m : UpgradeAck) : Supplied (Upgrading.acknowledge h m) := by
  unfold Upgrading.acknowledge
  refine .andThen .endAt fun x there => .andThen (.ensure rfl) fun _ passed => ?_
  have channel : h.store.ends[m.owner]? = some x := by simpa using there
  have state : x.state = .initUpgrade ∨ x.state = .tryUpgrade := by simpa using passed
  have kept := (recorded m.owner).of_upgrading channel
    ((ChannelState.isUpgrading_iff _).2 (state.imp_right .inl))
  refine .andThen .openConnection fun c _ => .andThen (.upgradeOf kept) fun own _ => ?_
  refine .andThen .peerHop fun _ _ => .andThen .provesEnd fun _ _ => ?_
  refine .andThen (.wrap fun _ => rfl) fun _ _ => .andThen .provesUpgrade fun _ _ => ?_
  refine .andThen matchesPeer fun same _ => ?_
  split
  · exact .done
  refine .andThen .consensusAt fun _ _ => ?_
  split
  · exact .done
  · exact .andThen ensureFlushed fun _ _ => .done

theorem confirm (recorded : h.Recorded) (m : UpgradeConfirm) :
    Supplied (Upgrading.confirm h m) := by
  unfold Upgrading.confirm
  refine .andThen .endAt fun x there => .andThen (.ensure rfl) fun _ passed => ?_
  have channel : h.store.ends[m.owner]? = some x := by simpa using there
  have state : x.state = .tryUpgrade := by simpa using passed
  obtain ⟨kept, kept'⟩ := (recorded m.owner).of_answered channel (.inl state)
  refine .andThen .openConnection fun c _ => .andThen (.upgradeOf kept) fun own _ => ?_
  refine .andThen .peerHop fun _ _ => .andThen .provesEnd fun _ _ => ?_
  refine .andThen .consensusAt fun _ _ => ?_
  split
  · exact .done
  · exact .andThen (sequenceReset kept') fun _ _ => .done

theorem finish (recorded : h.Recorded) (m : UpgradeOpen) : Supplied (Upgrading.finish h m) := by
  unfold Upgrading.finish
  refine .andThen .endAt fun x there => .andThen (.ensure rfl) fun _ passed => ?_
  have channel : h.store.ends[m.owner]? = some x := by simpa using there
  have state : x.state = .ackUpgrade := by simpa using passed
  obtain ⟨kept, kept'⟩ := (recorded m.owner).of_answered channel (.inr state)
  refine .andThen .openConnection fun c _ => .andThen (.upgradeOf kept) fun own _ => ?_
  have expected : Supplied (Upgrading.expectedFinished h m c x own) := by
    unfold Upgrading.expectedFinished
    split
    · refine .andThen .oneHop fun _ _ => .andThen .connectionAt fun _ _ => ?_
      exact .andThen .peerHop fun _ _ => .done
    · exact .andThen .peerHop fun _ _ => .done
    · exact .refused rfl
  refine .andThen expected fun _ _ => .andThen .provesEnd fun _ _ => ?_
  exact .andThen (sequenceReset kept') fun _ _ => .done

theorem cancel (m : UpgradeCancel) : Supplied (Upgrading.cancel h m) := by
  unfold Upgrading.cancel
  refine .andThen .endAt fun x there => .andThen (.ensure rfl) fun _ _ => ?_
  refine .andThen (.ensure rfl) fun _ _ => .andThen .openConnection fun c _ => ?_
  exact .andThen .provesReceipt fun _ _ => .done

theorem expire (recorded : h.Recorded) (m : UpgradeExpire) : Supplied (Upgrading.expire h m) := by
  unfold Upgrading.expire
  refine .andThen .endAt fun x there => .andThen (.ensure rfl) fun _ passed => ?_
  have channel : h.store.ends[m.owner]? = some x := by simpa using there
  have state : x.state = .initUpgrade ∨ x.state = .tryUpgrade := by simpa using passed
  have kept := (recorded m.owner).of_upgrading channel
    ((ChannelState.isUpgrading_iff _).2 (state.imp_right .inl))
  refine .andThen .openConnection fun c _ => .andThen (.upgradeOf kept) fun own _ => ?_
  refine .andThen .consensusAt fun _ _ => .andThen (.ensure rfl) fun _ _ => ?_
  refine .andThen .provesEnd fun _ _ => ?_
  dsimp only
  split
  · exact .andThen matchesPeer fun _ _ => .andThen (.ensure rfl) fun _ _ => .done
  · exact .done

theorem upgrade (recorded : h.Recorded) (m : UpgradeMessage) :
    Supplied (Upgrading.step h m) := by
  cases m with
  | answer m => exact recorded.answer m
  | ack m => exact recorded.agree m
  | confirm m => exact recorded.confirm m
  | finish m => exact recorded.finish m
  | cancel m => exact cancel m
  | expire m => exact recorded.expire m

end Host.Recorded

/-! ### All along a history -/

/-- The records of upgrades go with the states of ends, and no handler asks for one that is not
there. -/
structure Host.RecordsMatch [Digest] (h : Host) : Prop where
  proposed : ∀ (e : EndId) (x : ChannelEnd), h.store.ends[e]? = some x → x.state = .initUpgrade →
    h.store.upgrades[e]?.isSome ∧ h.store.peerUpgrades[e]? = none
  answered : ∀ (e : EndId) (x : ChannelEnd), h.store.ends[e]? = some x →
    x.state = .tryUpgrade ∨ x.state = .ackUpgrade →
      h.store.upgrades[e]?.isSome ∧ h.store.peerUpgrades[e]?.isSome
  settled : ∀ (e : EndId) (x : ChannelEnd), h.store.ends[e]? = some x →
    x.state = .init ∨ x.state = .tryOpen ∨ x.state = .opened →
      h.store.upgrades[e]? = none ∧ h.store.peerUpgrades[e]? = none
  sends : ∀ cap m e, Transfer.send h cap m ≠ .error (.refused (.noUpgrade e))
  packets : ∀ cap m e, Transfer.step h cap m ≠ .error (.refused (.noUpgrade e))
  acknowledgements : ∀ cap p ack e,
    Transfer.writeAcknowledgement h cap p ack ≠ .error (.refused (.noUpgrade e))
  proposals : ∀ cap m e, Upgrading.propose h cap m ≠ .error (.refused (.noUpgrade e))
  upgrades : ∀ m e, Upgrading.step h m ≠ .error (.refused (.noUpgrade e))
  confirms : ∀ m e, Upgrading.confirm h m ≠ .error (.refused (.noPeerUpgrade e))
  finishes : ∀ m e, Upgrading.finish h m ≠ .error (.refused (.noPeerUpgrade e))

/-- On a chain that started without channels, whatever it is asked for and told of, an end that
proposed an upgrade keeps its own upgrade alone, one that answered or acknowledged keeps that of the
other end too, and one that is being opened or is open keeps neither. So no message about a packet
or an upgrade is refused because an upgrade is not found. -/
theorem Chain.Leads.records_match [Digest] {c d : Chain} {l : History}
    (start : c.host.store = .empty) (leads : c.Leads l d) : d.host.RecordsMatch := by
  have recorded : d.host.Recorded := leads.reaches.recorded start
  have never {α : Type} {r : Attempt α} {e : ChannelError} (supplied : Supplied r)
      (misses : e.missesUpgrade = true) : r ≠ .error (.refused e) := by
    intro failed
    rw [supplied e failed] at misses
    cases misses
  exact
    { proposed := fun e x channel => (recorded e).of_proposed channel
      answered := fun e x channel => (recorded e).of_answered channel
      settled := fun e x channel => (recorded e).of_settled channel
      sends := fun cap m e => never (recorded.send cap m) rfl
      packets := fun cap m e => never (recorded.packet cap m) rfl
      acknowledgements := fun cap p ack e =>
        never (Host.Recorded.writeAcknowledgement cap p ack) rfl
      proposals := fun cap m e => never (Host.Recorded.propose cap m) rfl
      upgrades := fun m e => never (recorded.upgrade m) rfl
      confirms := fun m e => never (recorded.confirm m) rfl
      finishes := fun m e => never (recorded.finish m) rfl }

/-- The chain that answered a proposal keeps both upgrades until it hears of an acknowledgement. -/
theorem Chain.Leads.records_match_upgraded :
    letI : Digest := .plain
    let r := Passage.upgraded "ics20-1" [1] (by decide)
    (r.world 11 .right).host.RecordsMatch ∧
      (r.world 11 .right).host.store = (Passage.pledgedBoth .tryUpgrade "ics20-1").store := by
  let _ : Digest := .plain
  have filled : [1] ≠ ([] : Bytes) := by decide
  let r := Passage.upgraded "ics20-1" [1] filled
  exact ⟨Leads.records_match (r.started.chain .right).store (r.leads .right 11), rfl⟩

end Crosschain
