import Crosschain.Channel.Handshake
import Crosschain.Channel.Transfer

/-!
# What a success says

A handler that succeeds passed each of its checks. The lemmas turn the success of a check into what
it checked, so that the success of a handler unfolds into the list of its guards.
-/

namespace Crosschain

/-! ### Checks -/

@[simp] theorem Except.bind_eq_ok {ε α β : Type} {r : Except ε α} {f : α → Except ε β} {b : β} :
    (r >>= f) = .ok b ↔ ∃ a, r = .ok a ∧ f a = .ok b := by
  cases r <;> simp [bind, Except.bind]

@[simp] theorem Except.pure_eq_ok {ε α : Type} {a b : α} :
    (pure a : Except ε α) = .ok b ↔ a = b := by
  simp [pure, Except.pure]

theorem Except.mapError_eq_ok {ε δ α : Type} {f : ε → δ} {r : Except ε α} {a : α} :
    r.mapError f = .ok a ↔ r = .ok a := by
  cases r with
  | error => exact ⟨nofun, nofun⟩
  | ok b =>
    change Except.ok b = .ok a ↔ Except.ok b = .ok a
    rw [Except.ok.injEq, Except.ok.injEq]

namespace Fault

variable {ε δ α : Type}

@[simp] theorem ensure_eq_ok {p : Prop} [Decidable p] {e : ε} {u : Unit} :
    ensure p e = .ok u ↔ p := by
  unfold ensure
  split <;> simp [*]

theorem bind_of_ensure {p : Prop} [Decidable p] {e : ε} {f : Unit → Except (Fault ε) α}
    (holds : p) : (ensure p e >>= f) = f () := by
  rw [ensure, if_pos holds]
  rfl

@[simp] theorem wrap_eq_ok {f : ε → δ} {r : Except ε α} {a : α} :
    wrap f r = .ok a ↔ r = .ok a := by
  cases r <;> simp [wrap]

@[simp] theorem lift_eq_ok {r : Except ε α} {a : α} : lift r = .ok a ↔ r = .ok a := wrap_eq_ok

@[simp] theorem checked_eq_ok {o : Option α} {a : α} :
    (checked o : Except (Fault ε) α) = .ok a ↔ o = some a := by
  cases o <;> simp [checked]

end Fault

/-! ### Reading a store -/

namespace ChannelStore

variable {s : ChannelStore} {e : EndId}

@[simp] theorem endAt_eq_ok {x : ChannelEnd} : s.endAt e = .ok x ↔ s.ends[e]? = some x := by
  unfold endAt
  split <;> simp [*]

@[simp] theorem nextSendOf_eq_ok {n : Sequence} :
    s.nextSendOf e = .ok n ↔ s.nextSend[e]? = some n := by
  unfold nextSendOf
  split <;> simp [*]

@[simp] theorem nextRecvOf_eq_ok {n : Sequence} :
    s.nextRecvOf e = .ok n ↔ s.nextRecv[e]? = some n := by
  unfold nextRecvOf
  split <;> simp [*]

@[simp] theorem nextAckOf_eq_ok {n : Sequence} :
    s.nextAckOf e = .ok n ↔ s.nextAck[e]? = some n := by
  unfold nextAckOf
  split <;> simp [*]

@[simp] theorem upgradeOf_eq_ok {u : Upgrade} :
    s.upgradeOf e = .ok u ↔ s.upgrades[e]? = some u := by
  unfold upgradeOf
  split <;> simp [*]

@[simp] theorem peerUpgradeOf_eq_ok {u : Upgrade} :
    s.peerUpgradeOf e = .ok u ↔ s.peerUpgrades[e]? = some u := by
  unfold peerUpgradeOf
  split <;> simp [*]

end ChannelStore

@[simp] theorem ChannelPeer.endId_eq_ok {p : ChannelPeer} {e : EndId} :
    p.endId = .ok e ↔ p = .ofEnd e := by
  obtain ⟨port, channel⟩ := p
  obtain ⟨q, c⟩ := e
  cases channel <;> simp [endId, ofEnd]

@[simp] theorem UpgradeFields.oneHop_eq_ok {hops : List ConnectionId} {hop : ConnectionId} :
    oneHop hops = .ok hop ↔ hops = [hop] := by
  unfold oneHop
  split <;> simp_all

@[simp] theorem UpgradeFields.hop_eq_ok {f : UpgradeFields} {hop : ConnectionId} :
    f.hop = .ok hop ↔ f.hops = [hop] := oneHop_eq_ok

@[simp] theorem ChannelEnd.hop_eq_ok {e : ChannelEnd} {hop : ConnectionId} :
    e.hop = .ok hop ↔ e.hops = [hop] := UpgradeFields.oneHop_eq_ok

@[simp] theorem ConnectionEnd.peerConnection_eq_ok {c : ConnectionEnd} {id : ConnectionId} :
    c.peerConnection = .ok id ↔ c.peer.connection = some id := by
  unfold peerConnection
  split <;> simp [*]

@[simp] theorem Evidence.second_eq_ok {v : Evidence} {p : StateProof} :
    v.second = .ok p ↔ v.other = some p := by
  unfold second
  split <;> simp [*]

/-! ### Reading a host -/

namespace Host

variable {h : Host}

@[simp] theorem connectionAt_eq_ok {id : ConnectionId} {c : ConnectionEnd} :
    h.connectionAt id = .ok c ↔ h.connections[id]? = some c := by
  rw [connectionAt, Fault.wrap_eq_ok]
  unfold connection
  split <;> simp [*]

@[simp] theorem peerHop_eq_ok {c : ConnectionEnd} {id : ConnectionId} :
    peerHop c = .ok id ↔ c.peer.connection = some id := by
  rw [peerHop, Fault.wrap_eq_ok, ConnectionEnd.peerConnection_eq_ok]

theorem openHop_eq_ok {r : Except ChannelError ConnectionId} {c : ConnectionEnd} :
    h.openHop r = .ok c ↔ ∃ id, r = .ok id ∧ h.connections[id]? = some c ∧ c.isOpen := by
  simp only [openHop, Except.bind_eq_ok, Fault.lift_eq_ok, connectionAt_eq_ok, Fault.ensure_eq_ok,
    Except.pure_eq_ok]
  constructor
  · rintro ⟨id, hr, d, hd, ⟨⟩, ho, rfl⟩
    exact ⟨id, hr, hd, ho⟩
  · rintro ⟨id, hr, hd, ho⟩
    exact ⟨id, hr, c, hd, (), ho, rfl⟩

@[simp] theorem openConnection_eq_ok {e : ChannelEnd} {c : ConnectionEnd} :
    h.openConnection e = .ok c ↔
      ∃ id, e.hops = [id] ∧ h.connections[id]? = some c ∧ c.isOpen := by
  rw [openConnection, openHop_eq_ok]
  simp only [ChannelEnd.hop_eq_ok]

@[simp] theorem now_eq_ok {t : Timestamp} : h.now = .ok t ↔ h.now? = some t :=
  Fault.checked_eq_ok

end Host

/-! ### Proofs -/

/-- What the client behind a connection knows of a height, when it is not frozen. -/
def Host.Knows (h : Host) (c : ConnectionEnd) (height : Height) (cs : ConsensusState) : Prop :=
  ∃ client, h.clients[c.client]? = some client ∧ client.state.frozenHeight = none ∧
    client.consensus[height]? = some cs

/-- A proof opens the root of a consensus state to a snapshot that has this value, or nothing, under
the key of a path. -/
def ConsensusState.Opens [Digest] (cs : ConsensusState) (label : StorePrefix) (proof : StateProof)
    (path : Path) (value : Option Bytes) : Prop :=
  ∃ s, proof.opened cs.root = .ok s ∧ s.get? (label.key path) = value

namespace Host

variable {h : Host}

@[simp] theorem consensusAt_eq_ok {c : ConnectionEnd} {height : Height} {cs : ConsensusState} :
    h.consensusAt c height = .ok cs ↔ h.Knows c height cs := by
  simp only [consensusAt, Except.bind_eq_ok, Fault.wrap_eq_ok, Fault.ensure_eq_ok, clientState,
    consensusState, Knows]
  cases h.clients[c.client]? with
  | none => simp
  | some client => cases hc : client.consensus[height]? <;> simp [hc, ClientState.isFrozen]

variable [Digest]

theorem showsValue_eq_ok {id : ClientId} {label : StorePrefix} {proof : StateProof}
    {cs : ConsensusState} {path : Path} {value : Bytes} {u : Unit}
    (shown : h.showsValue id label proof cs.root path value = .ok u) :
    cs.Opens label proof path (some value) := by
  simp only [showsValue, StateProof.showsValue, Except.bind_eq_ok] at shown
  obtain ⟨-, -, s, opened, found⟩ := shown
  split at found
  next value => exact ⟨s, opened, value⟩
  · cases found

theorem showsAbsence_eq_ok {id : ClientId} {label : StorePrefix} {proof : StateProof}
    {cs : ConsensusState} {path : Path} {u : Unit}
    (shown : h.showsAbsence id label proof cs.root path = .ok u) :
    cs.Opens label proof path none := by
  simp only [showsAbsence, StateProof.showsAbsence, Except.bind_eq_ok] at shown
  obtain ⟨-, -, s, opened, found⟩ := shown
  split at found
  next value => exact ⟨s, opened, value⟩
  · cases found

theorem provesPeerValue_eq_ok {c : ConnectionEnd} {e : ChannelEnd} {height : Height}
    {proof : StateProof} {path : EndId → Path} {value : Bytes} {f : ClientError → ChannelError}
    {u : Unit} (shown : h.provesPeerValue c e height proof path value f = .ok u) :
    ∃ cs peer, h.Knows c height cs ∧ e.peer = .ofEnd peer ∧
      cs.Opens c.peer.label proof (path peer) (some value) := by
  simp only [provesPeerValue, Except.bind_eq_ok, consensusAt_eq_ok, Fault.lift_eq_ok,
    ChannelPeer.endId_eq_ok, Fault.wrap_eq_ok] at shown
  obtain ⟨cs, knows, peer, named, shows⟩ := shown
  exact ⟨cs, peer, knows, named, showsValue_eq_ok shows⟩

theorem provesPacketValue_eq_ok {c : ConnectionEnd} {v : Evidence} {path : Path}
    {value : Attempt Bytes} {n : Sequence} {u : Unit}
    (shown : h.provesPacketValue c v path value n = .ok u) :
    ∃ cs bytes, h.Knows c v.height cs ∧ value = .ok bytes ∧
      cs.Opens c.peer.label v.object path (some bytes) := by
  simp only [provesPacketValue, Except.bind_eq_ok, consensusAt_eq_ok, Fault.wrap_eq_ok] at shown
  obtain ⟨cs, knows, bytes, given, shows⟩ := shown
  exact ⟨cs, bytes, knows, given, showsValue_eq_ok shows⟩

theorem provesNoReceipt_eq_ok {c : ConnectionEnd} {p : Packet} {v : Evidence} {u : Unit}
    (shown : h.provesNoReceipt c p v = .ok u) :
    ∃ cs, h.Knows c v.height cs ∧
      cs.Opens c.peer.label v.object (.receipt p.destinationSlot) none := by
  simp only [provesNoReceipt, Except.bind_eq_ok, consensusAt_eq_ok, Fault.wrap_eq_ok] at shown
  obtain ⟨cs, knows, shows⟩ := shown
  exact ⟨cs, knows, showsAbsence_eq_ok shows⟩

end Host

theorem Host.Knows.unique {h : Host} {c : ConnectionEnd} {height : Height}
    {cs ds : ConsensusState} (hc : h.Knows c height cs) (hd : h.Knows c height ds) : cs = ds := by
  obtain ⟨client, there, -, known⟩ := hc
  obtain ⟨client', there', -, known'⟩ := hd
  rw [there] at there'
  cases there'
  rw [known] at known'
  exact Option.some.inj known'

end Crosschain
