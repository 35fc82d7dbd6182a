import Crosschain.Proofs.EndSteps
import Crosschain.Proofs.Refusals

/-!
# Who owns an end

The registry gives a capability to each end that is created, and takes none back. So on a chain that
started without channels each end has a capability, and what is given to a new end was not given to
another one before.
-/

namespace Crosschain

namespace Registry

variable {r r' : Registry} {name other : CapabilityName} {cap : Capability} {i : UInt64}

theorem create_eq_ok : r.create name = .ok (cap, r') ↔
    r.owners[name]? = none ∧ cap = ⟨r.nextIndex⟩ ∧ Word.add? r.nextIndex 1 = some r'.nextIndex ∧
      r'.owners = r.owners.insert name r.nextIndex := by
  unfold create
  constructor
  · intro ok
    split at ok
    · cases ok
    next free =>
    split at ok
    · cases ok
    next next sum =>
    cases ok
    exact ⟨free, rfl, sum, rfl⟩
  · rintro ⟨free, rfl, sum, owners⟩
    obtain ⟨next, map⟩ := r'
    simp only at sum owners
    subst owners
    rw [free, sum]

theorem get_of_create (new : r.create name = .ok (cap, r')) : r'.get name = .ok cap := by
  obtain ⟨-, rfl, -, owners⟩ := create_eq_ok.1 new
  simp [get, owners]

theorem getElem?_of_create (new : r.create name = .ok (cap, r')) (taken : r.owners[other]? = some i) :
    r'.owners[other]? = some i := by
  obtain ⟨free, -, -, owners⟩ := create_eq_ok.1 new
  have apart : name ≠ other := by
    rintro rfl
    rw [free] at taken
    cases taken
  rw [owners, Std.ExtTreeMap.getElem?_insert, if_neg (by simpa using apart), taken]

/-- The indices that names have were all given out. -/
def Issued (r : Registry) : Prop :=
  ∀ (name : CapabilityName) (i : UInt64), r.owners[name]? = some i → i < r.nextIndex

theorem Issued.create (issued : r.Issued) (new : r.create name = .ok (cap, r')) : r'.Issued := by
  obtain ⟨-, -, sum, owners⟩ := create_eq_ok.1 new
  have grows : r.nextIndex < r'.nextIndex := Word.lt_of_add?_one sum
  intro other i taken
  rw [owners, Std.ExtTreeMap.getElem?_insert] at taken
  split at taken
  · cases taken
    exact grows
  · exact UInt64.lt_trans (issued other i taken) grows

/-- No name has a capability. -/
def Unused (r : Registry) (cap : Capability) : Prop :=
  ∀ name : CapabilityName, r.owners[name]? ≠ some cap.index

theorem Issued.unused (issued : r.Issued) (new : r.create name = .ok (cap, r')) : r.Unused cap := by
  intro other taken
  obtain ⟨-, rfl, -, -⟩ := create_eq_ok.1 new
  exact UInt64.lt_irrefl _ (issued other _ taken)

end Registry

/-! ### Steps of the registry -/

/-- A store with one more end, which is counted, listed over its connection and given a capability.
Nothing else changes. -/
structure ChannelStore.Creates (s : ChannelStore) (e : EndId) (x : ChannelEnd) (hop : ConnectionId)
    (cap : Capability) (t : ChannelStore) : Prop where
  lane : t.lane e = { s.lane e with
    channel := some x, nextSend := some 1, nextRecv := some 1, nextAck := some 1 }
  others : ∀ f, f ≠ e → t.lane f = s.lane f
  counted : Word.add? s.created 1 = some t.created
  listed : t.overConnection = s.overConnection.insert hop (s.endsOver hop ++ [e])
  enlisted : s.registry.create (.ofEnd e) = .ok (cap, t.registry)

/-- The registry of a store and its lists of ends go on in one of two ways: nothing happens, or the
next channel is created over a connection and gets a capability, and no other end changes. -/
inductive ChannelStore.Enlists (s t : ChannelStore) : Prop
  | kept (created : t.created = s.created) (registry : t.registry = s.registry)
      (listed : t.overConnection = s.overConnection)
  | new (port : PortId) (x : ChannelEnd) (hop : ConnectionId) (cap : Capability)
      (creates : s.Creates ⟨port, .channel s.created⟩ x hop cap t) (hops : x.hops = [hop])

namespace ChannelStore

variable {s t : ChannelStore} {change : EndChange} {cap : Option Capability} {hop : ConnectionId}

theorem creates_of_applyEnd (new : change.isNew = true) (hops : change.value.hops = [hop])
    (stored : s.applyEnd change = (.ok cap, t)) :
    ∃ handle, cap = some handle ∧ s.Creates change.owner change.value hop handle t := by
  obtain ⟨lane, others, -⟩ := applyEnd_new new hops stored (by simp)
  have hop_ok : change.value.hop = .ok hop := ChannelEnd.hop_eq_ok.2 hops
  simp only [applyEnd, hop_ok, new, if_true] at stored
  split at stored
  · cases stored
  next created count =>
  have same : (({ s.setEnd change.owner change.value with created }.addOverConnection hop
      change.owner).startCounters change.owner).registry = s.registry := rfl
  rw [same] at stored
  split at stored
  · cases stored
  next handle registry enlisted =>
  cases stored
  exact ⟨handle, rfl, lane, others, count, rfl, enlisted⟩

theorem applyEnd_enlists (hops : change.value.hops = [hop])
    (named : change.isNew = true → ∃ port, change.owner = ⟨port, .channel s.created⟩)
    (stored : s.applyEnd change = (.ok cap, t)) : s.Enlists t := by
  cases new : change.isNew with
  | false =>
    rw [applyEnd_old new hops] at stored
    cases stored
    exact .kept rfl rfl rfl
  | true =>
    obtain ⟨handle, -, creates⟩ := creates_of_applyEnd new hops stored
    obtain ⟨port, owner⟩ := named new
    rw [owner] at creates
    exact .new port change.value hop handle creates hops

theorem overConnection_applyPacket (s : ChannelStore) (c : PacketChange) :
    (s.applyPacket c).overConnection = s.overConnection := by
  rw [applyPacket_eq]

theorem overConnection_applyUpgrade (s : ChannelStore) (c : UpgradeChange) :
    (s.applyUpgrade c).overConnection = s.overConnection := by
  rw [applyUpgrade_eq]

theorem Enlists.of_packet (c : PacketChange) : s.Enlists (s.applyPacket c) :=
  .kept (created_applyPacket s c) (registry_applyPacket s c) (overConnection_applyPacket s c)

theorem Enlists.of_upgrade (c : UpgradeChange) : s.Enlists (s.applyUpgrade c) :=
  .kept (created_applyUpgrade s c) (registry_applyUpgrade s c) (overConnection_applyUpgrade s c)

theorem Enlists.issued (enlists : s.Enlists t) (issued : s.registry.Issued) :
    t.registry.Issued := by
  cases enlists with
  | kept created registry =>
    rw [registry]
    exact issued
  | new port x hop cap creates => exact issued.create creates.enlisted

end ChannelStore

namespace Chain

variable [Digest] {c c' : Chain}

/-- Unless a computation ends in an overflow, the registry went on in one of the two ways. -/
def Enlists {ε α : Type} (c : Chain) : Except (Fault ε) α × Chain → Prop
  | (.error .overflow, _) => True
  | (_, c') => c.host.store.Enlists c'.host.store

omit [Digest] in
theorem Enlists.of_store {ε α : Type} {r : Except (Fault ε) α × Chain}
    (enlists : c.host.store.Enlists r.2.host.store) : c.Enlists r := by
  rcases r with ⟨(_ | _) | _, _⟩
  · exact enlists
  · exact trivial
  · exact enlists

omit [Digest] in
theorem Enlists.of_same {ε α : Type} {r : Except (Fault ε) α × Chain}
    (same : r.2.host.store = c.host.store) : c.Enlists r := by
  refine .of_store ?_
  rw [same]
  exact .kept rfl rfl rfl

theorem Delivers.enlists {m : Datagram} {r : Routed DeliveryReceipt}
    (registered : c.host.store.Registered) (delivers : c.Delivers m r) : c.Enlists r := by
  cases delivers with
  | unrouted | unowned | failed | declined | repeated =>
    exact .of_same rfl
  | unstored bound ok agrees failed =>
    obtain overflow | ⟨⟨cap, stored⟩, -⟩ := registered.handshake ok failed
    · cases overflow
      exact trivial
    · cases stored
  | stored bound ok agrees stored =>
    obtain ⟨hop, hops, named⟩ := Handshake.exists_hop ok _
    exact ChannelStore.applyEnd_enlists hops named stored
  | upgraded | upgradedTold => exact .of_store (.of_upgrade _)
  | applied => exact .of_store (.of_packet _)
  | answered =>
    -- The receipt and the acknowledgement are written one after the other.
    refine .of_store (.kept ?_ ?_ ?_)
    · exact (ChannelStore.created_applyPacket _ _).trans (ChannelStore.created_applyPacket _ _)
    · exact (ChannelStore.registry_applyPacket _ _).trans (ChannelStore.registry_applyPacket _ _)
    · exact (ChannelStore.overConnection_applyPacket _ _).trans
        (ChannelStore.overConnection_applyPacket _ _)

variable {a : Action} {rep : Report}

theorem Performs.enlists (registered : c.host.store.Registered) (performs : c.Performs a rep c') :
    c.host.store.Enlists c'.host.store := by
  cases performs with
  | relayed delivers reports =>
    have enlists := delivers.enlists registered
    obtain ⟨x, rfl, rfl⟩ | ⟨e, rfl, rfl⟩ := reports
    · exact enlists
    · exact enlists
  | sent | written => exact .of_packet _
  | proposed => exact .of_upgrade _
  | refused | closed | advanced | heard => exact .kept rfl rfl rfl

theorem perform_enlists (registered : c.host.store.Registered)
    (done : c.perform a = some (rep, c')) : c.host.store.Enlists c'.host.store := by
  obtain ⟨d, performs, store⟩ := exists_performs_store done
  rw [store]
  exact performs.enlists registered

end Chain

/-! ### Owners along a run -/

theorem LaneStep.empty_of_created [Digest] {h : Host} {a : Action} {e : EndId} {l l' : Lane}
    {d : Deed} {y : ChannelEnd} (step : LaneStep h a e l d l') (before : l.channel = none)
    (after : l'.channel = some y) : l = .empty := by
  cases step with
  | openInit => rfl
  | openTry => rfl
  | idle => simp [before] at after
  | receiveOrdered _ m x next acks action owner guard => simp [before] at after
  | receiveUnordered _ m x next acks action owner guard => simp [before] at after
  | reply _ m x fields n action owner guard => simp [guard.channel] at before
  | cross _ m x fields own action owner guard => simp [guard.channel] at before
  | _ => simp_all

namespace Run

variable [Digest] (r : Run) (i : Nat) (s : Side)

theorem registered : (r.host i s).store.Registered :=
  (r.leads s i).registered (r.started.chain s).store

theorem enlists : (r.host i s).store.Enlists (r.host (i + 1) s).store := by
  cases action : r.action? i s with
  | none =>
    rw [host, host, rests action]
    exact .kept rfl rfl rfl
  | some a =>
    obtain ⟨rep, -, done⟩ := acts action
    exact Chain.perform_enlists (r.registered i s) done

/-- What an opening asks of the registry of a chain holds at each moment of a run. -/
theorem issued : (r.host i s).store.registry.Issued := by
  induction i with
  | zero =>
    have start : (r.host 0 s).store = .empty := (r.started.chain s).store
    intro name i taken
    rw [start] at taken
    simp [ChannelStore.empty, Registry.empty] at taken
  | succ i ih => exact (r.enlists i s).issued ih

variable {r i s} {e : EndId} {x : ChannelEnd}

theorem exists_capability (there : (r.lane i s e).channel = some x) :
    ∃ cap, (r.world i s).capabilityOf e = .ok cap := by
  suffices owned : ∃ index, (r.host i s).store.registry.owners[CapabilityName.ofEnd e]? =
      some index by
    obtain ⟨index, taken⟩ := owned
    refine ⟨⟨index⟩, ?_⟩
    rw [host] at taken
    simp [Chain.capabilityOf, Registry.get, taken]
  induction i generalizing x with
  | zero =>
    rw [lane_zero] at there
    cases there
  | succ i ih =>
    cases before : (r.lane i s e).channel with
    | some y =>
      obtain ⟨index, taken⟩ := ih before
      refine ⟨index, ?_⟩
      cases r.enlists i s with
      | kept created registry =>
        rw [registry]
        exact taken
      | new port z hop cap creates => exact Registry.getElem?_of_create creates.enlisted taken
    | none =>
      obtain ⟨a, deed, happens⟩ := r.happens i s e
      have empty := happens.step.empty_of_created before there
      have acts := happens.acts (happens.step.created before there).1
      obtain ⟨rep, -, done⟩ := Run.acts acts
      have grown := ((Chain.perform_stepped (r.orderly i s) done).fresh e empty fun none => by
        rw [lane, host, none] at there
        cases there).1
      cases r.enlists i s with
      | kept created registry =>
        rw [host, host] at created
        rw [created] at grown
        exact absurd grown (UInt64.lt_irrefl _)
      | new port z hop cap creates =>
        have same : e = ⟨port, .channel (r.host i s).store.created⟩ := by
          by_contra apart
          have kept : (r.lane (i + 1) s e).channel = (r.lane i s e).channel :=
            congrArg Lane.channel (creates.others e apart)
          rw [before, there] at kept
          cases kept
        rw [same]
        obtain ⟨-, -, -, owners⟩ := Registry.create_eq_ok.1 creates.enlisted
        refine ⟨(r.host i s).store.registry.nextIndex, ?_⟩
        rw [owners]
        exact Std.ExtTreeMap.getElem?_insert_self

end Run

end Crosschain
