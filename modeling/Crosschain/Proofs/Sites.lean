import Crosschain.Proofs.Plays

/-!
# Chains with one channel

A chain whose only connection is open and whose only client follows the other chain, as it was just
started or with one channel end on it. What the channel layer decides is what such a chain does: the
application agrees to everything and answers nothing, and a block is added while there is room.
-/

namespace Crosschain

/-! ### Maps with at most one entry -/

namespace Map

variable {κ α : Type} [Ord κ] [Std.TransOrd κ] [Std.LawfulEqOrd κ] {j k : κ} {o : Option α}

/-- The map with one entry, or none. -/
def single (k : κ) : Option α → Map κ α
  | some a => (∅ : Map κ α).insert k a
  | none => ∅

@[simp] theorem getElem?_single : (single k o)[k]? = o := by
  cases o <;> simp [single]

theorem getElem?_single_of_ne (ne : k ≠ j) : (single k o)[j]? = none := by
  cases o <;> simp [single, ne]

@[simp] theorem insert_single {a : α} : (single k o).insert k a = single k (some a) := by
  apply Std.ExtTreeMap.ext_getElem?
  intro j
  cases o with
  | none => rfl
  | some b =>
    simp only [single, Std.ExtTreeMap.getElem?_insert]
    split <;> rfl

@[simp] theorem erase_single : (single k o).erase k = single k none := by
  apply Std.ExtTreeMap.ext_getElem?
  intro j
  cases o with
  | none => simp [single]
  | some a =>
    simp only [single, Std.ExtTreeMap.getElem?_erase, Std.ExtTreeMap.getElem?_insert]
    split <;> simp

end Map

theorem Chain.advance?_of_time {c : Chain} {h : Height} {now : Timestamp}
    (next : c.host.height.next? = some h) (time : blockTime? h = some now) :
    c.advance? = some { c with
      host := { c.host with height := h }
      blocks := Chain.pushBlock c.window c.blocks ⟨h, now, c.host.snapshot⟩ } := by
  simp only [Chain.advance?, Option.bind_eq_bind, Option.bind_eq_some_iff, Option.pure_def,
    Option.some.injEq]
  refine ⟨h, next, ⟨h, now, c.host.snapshot⟩, ?_, rfl⟩
  rw [Block.ofHeight?, time]
  rfl

/-! ### Times of the first blocks -/

theorem blockTime?_eq {n elapsed now : UInt64}
    (product : Word.mul? n blockNanoseconds = some elapsed)
    (sum : Word.add? genesisNanoseconds elapsed = some now) :
    blockTime? ⟨0, n⟩ = some (.ofNanoseconds now) := by
  simp only [blockTime?, product, sum, Option.bind_eq_bind, Option.bind_some, Option.pure_def]

theorem blockTime?_of_low {n : UInt64} (low : n.toNat < 1000) : blockTime? ⟨0, n⟩ =
    some (.ofNanoseconds (genesisNanoseconds + blockNanoseconds * n)) := by
  have genesis : genesisNanoseconds.toNat = 1650000000000000000 := rfl
  have pace : blockNanoseconds.toNat = 5000000000 := rfl
  have size : UInt64.size = 18446744073709551616 := rfl
  have product : Word.mul? n blockNanoseconds = some (n * blockNanoseconds) := by
    rw [Word.mul?, if_pos]
    rw [pace, size]
    omega
  have elapsed := Word.mul?_eq_some product
  rw [UInt64.mul_comm]
  apply blockTime?_eq product
  rw [Word.add?, if_pos]
  rw [elapsed, genesis, pace, size]
  omega

namespace Passage

/-! ### Names -/

/-- The port, the connection, the client and the application that both chains have. -/
def port : PortId := Identifier.transferPort

def hop : ConnectionId := .connection 0

def client : ClientId := Inhabited.default

def app : ModuleId := ⟨"app"⟩

def owner : EndId := ⟨port, .channel 0⟩

def handle : Capability := ⟨0⟩

def connection : ConnectionEnd := .opened client hop

/-! ### What is kept for the one end -/

/-- What a chain keeps for its end: the end, its counters, the commitment of the first packet, and
the two upgrades. -/
structure Shelf where
  value : ChannelEnd
  nextSend : Sequence
  nextRecv : Sequence
  nextAck : Sequence
  commitment : Option Bytes
  upgrade : Option Upgrade
  peerUpgrade : Option Upgrade

def Shelf.fresh (x : ChannelEnd) : Shelf := ⟨x, 1, 1, 1, none, none, none⟩

def Shelf.store (l : Shelf) : ChannelStore where
  ends := .single owner (some l.value)
  overConnection := .single hop (some [owner])
  nextSend := .single owner (some l.nextSend)
  nextRecv := .single owner (some l.nextRecv)
  nextAck := .single owner (some l.nextAck)
  commitments := .single ⟨owner, 1⟩ l.commitment
  receipts := ∅
  acknowledgements := ∅
  upgrades := .single owner l.upgrade
  peerUpgrades := .single owner l.peerUpgrade
  errorReceipts := ∅
  created := 1
  registry := ⟨1, .single (.ofEnd owner) (some 0)⟩

namespace Shelf

variable {l : Shelf} {x : ChannelEnd}

theorem lane_store_of_ne {e : EndId} (other : e ≠ owner) : l.store.lane e = .empty := by
  have apart : owner ≠ e := Ne.symm other
  have slots (m : Sequence) : Slot.mk owner 1 ≠ ⟨e, m⟩ := by
    intro same
    exact apart (Slot.mk.inj same).1
  simp [ChannelStore.lane, store, Lane.empty, ChannelStore.hasReceipt,
    Map.getElem?_single_of_ne apart, Map.getElem?_single_of_ne (slots _)]

theorem of_channel {e : EndId} (there : (l.store.lane e).channel = some x) :
    e = owner ∧ l.value = x := by
  by_cases same : e = owner
  · rw [same] at there
    exact ⟨same, Option.some.inj (Map.getElem?_single.symm.trans there)⟩
  · rw [lane_store_of_ne same] at there
    cases there

theorem of_upgrade {e : EndId} {u : Upgrade} (there : (l.store.lane e).upgrade = some u) :
    l.upgrade = some u := by
  by_cases same : e = owner
  · rw [same] at there
    exact Map.getElem?_single.symm.trans there
  · rw [lane_store_of_ne same] at there
    cases there

theorem of_peerUpgrade {e : EndId} {u : Upgrade} (there : (l.store.lane e).peerUpgrade = some u) :
    l.peerUpgrade = some u := by
  by_cases same : e = owner
  · rw [same] at there
    exact Map.getElem?_single.symm.trans there
  · rw [lane_store_of_ne same] at there
    cases there

theorem ends_store : l.store.ends[owner]? = some l.value := Map.getElem?_single

theorem nextSend_store : l.store.nextSend[owner]? = some l.nextSend := Map.getElem?_single

theorem nextRecv_store : l.store.nextRecv[owner]? = some l.nextRecv := Map.getElem?_single

theorem upgrades_store : l.store.upgrades[owner]? = l.upgrade := Map.getElem?_single

theorem peerUpgrades_store : l.store.peerUpgrades[owner]? = l.peerUpgrade := Map.getElem?_single

theorem authenticate_store : l.store.authenticate owner handle = .ok () := by
  simp [ChannelStore.authenticate, store, Registry.authenticate, Registry.owns, handle,
    Except.mapError]

theorem applyEnd_empty (hops : x.hops = [hop]) :
    ChannelStore.empty.applyEnd ⟨owner, true, x⟩ = (.ok (some handle), (fresh x).store) := by
  have single_hop : x.hop = .ok hop := ChannelEnd.hop_eq_ok.2 hops
  simp only [ChannelStore.applyEnd, single_hop]
  rfl

theorem applyEnd_store (hops : x.hops = [hop]) :
    l.store.applyEnd ⟨owner, false, x⟩ = (.ok none, { l with value := x }.store) := by
  rw [ChannelStore.applyEnd_old rfl hops]
  simp [ChannelStore.setEnd, store]

theorem applyPacket_sent {n : Sequence} {c : Bytes} : l.store.applyPacket (.sent ⟨owner, 1⟩ n c) =
    { l with nextSend := n, commitment := some c }.store := by
  simp [ChannelStore.applyPacket, ChannelStore.setNextSend, ChannelStore.setCommitment, store]

theorem applyPacket_received {n : Sequence} : l.store.applyPacket (.receivedInOrder owner n) =
    { l with nextRecv := n }.store := by
  simp [ChannelStore.applyPacket, ChannelStore.setNextRecv, store]

theorem applyUpgrade_proposed {own : Upgrade} : l.store.applyUpgrade ⟨owner, x, .proposed own⟩ =
    { l with value := x, upgrade := some own }.store := by
  simp [ChannelStore.applyUpgrade, ChannelStore.setEnd, ChannelStore.setUpgrade, store]

theorem applyUpgrade_answered {own peer : Upgrade} :
    l.store.applyUpgrade ⟨owner, x, .answered own peer⟩ =
      { l with value := x, upgrade := some own, peerUpgrade := some peer }.store := by
  simp [ChannelStore.applyUpgrade, ChannelStore.setEnd, ChannelStore.setUpgrade,
    ChannelStore.setPeerUpgrade, store]

theorem applyUpgrade_acknowledged {peer : Upgrade} :
    l.store.applyUpgrade ⟨owner, x, .acknowledged peer⟩ =
      { l with value := x, peerUpgrade := some peer }.store := by
  simp [ChannelStore.applyUpgrade, ChannelStore.setEnd, ChannelStore.setPeerUpgrade, store]

theorem applyUpgrade_completed {reset : SequenceReset} :
    l.store.applyUpgrade ⟨owner, x, .completed (some reset)⟩ =
      { l with
        value := x, nextRecv := reset.nextRecv, nextAck := reset.nextAck, upgrade := none,
        peerUpgrade := none }.store := by
  simp [ChannelStore.applyUpgrade, ChannelStore.setEnd, ChannelStore.setNextRecv,
    ChannelStore.setNextAck, ChannelStore.eraseUpgrades, ChannelStore.eraseUpgrade,
    ChannelStore.erasePeerUpgrade, store]

/-- A store that is empty, or keeps for its one end what a property holds of. -/
def Kept (P : Shelf → Prop) (s : ChannelStore) : Prop := s = .empty ∨ ∃ l, P l ∧ s = l.store

namespace Kept

variable {P : Shelf → Prop} {s : ChannelStore} {e : EndId} {u : Upgrade}

theorem of_shelf (holds : P l) : Kept P l.store := .inr ⟨l, holds, rfl⟩

theorem of_channel (kept : Kept P s) (there : (s.lane e).channel = some x) :
    ∃ l, P l ∧ l.value = x := by
  obtain rfl | ⟨l, holds, rfl⟩ := kept
  · rw [ChannelStore.lane_empty] at there
    cases there
  · exact ⟨l, holds, (Shelf.of_channel there).2⟩

theorem of_upgrade (kept : Kept P s) (there : (s.lane e).upgrade = some u) :
    ∃ l, P l ∧ l.upgrade = some u := by
  obtain rfl | ⟨l, holds, rfl⟩ := kept
  · rw [ChannelStore.lane_empty] at there
    cases there
  · exact ⟨l, holds, Shelf.of_upgrade there⟩

theorem of_peerUpgrade (kept : Kept P s) (there : (s.lane e).peerUpgrade = some u) :
    ∃ l, P l ∧ l.peerUpgrade = some u := by
  obtain rfl | ⟨l, holds, rfl⟩ := kept
  · rw [ChannelStore.lane_empty] at there
    cases there
  · exact ⟨l, holds, Shelf.of_peerUpgrade there⟩

end Kept

theorem inFlight_store (quiet : l.commitment = none) : l.store.inFlight owner = .ok false := by
  have counter : l.store.nextSendOf owner = .ok l.nextSend := by simp [store]
  simp only [ChannelStore.inFlight, counter]
  simp [store, quiet, Map.single, bind, Except.bind, pure, Except.pure]

end Shelf

/-! ### Chains -/

/-- What tells chains with one channel apart. -/
structure Site where
  height : UInt64
  known : Option Client
  store : ChannelStore
  blocks : List Block
  calls : List Call

def hostOf (n : UInt64) (known : Option Client) (s : ChannelStore) : Host where
  height := ⟨0, n⟩
  params := .default
  clients := .single client known
  connections := .single hop (some connection)
  store := s

/-- The block of a height that commits to a store. -/
def block (n : UInt64) (s : ChannelStore) : Block :=
  ⟨⟨0, n⟩, .ofNanoseconds (genesisNanoseconds + blockNanoseconds * n), (hostOf n none s).snapshot⟩

def learnt [Digest] (known : Option Client) (b : Block) : Client :=
  match known with
  | some c => c.learn b.header
  | none => .ofHeader b.header

namespace Site

def host (t : Site) : Host := hostOf t.height t.known t.store

def chain (t : Site) : Chain where
  host := t.host
  window := 10
  blocks := ⟨⟨0, 1⟩, .ofNanoseconds (genesisNanoseconds + blockNanoseconds), .empty⟩ :: t.blocks
  bindings := .single port (some app)
  apps := .single app (some ⟨t.calls, .silent⟩)

def start : Site := ⟨1, none, .empty, [], []⟩

def top (t : Site) : Block := block t.height t.store

def put (t : Site) (s : ChannelStore) : Site := { t with store := s }

/-- The chain with something stored, a block for it, and calls of the application. -/
def grow (t : Site) (s : ChannelStore) (calls : List Call) : Site where
  height := t.height + 1
  known := t.known
  store := s
  blocks := t.blocks ++ [block (t.height + 1) s]
  calls := t.calls ++ calls

def hear [Digest] (t : Site) (b : Block) : Site := { t with known := some (learnt t.known b) }

/-- After a height and some blocks there is room and time for one more. -/
structure Room (n : UInt64) (blocks : List Block) : Prop where
  height : Height.next? ⟨0, n⟩ = some ⟨0, n + 1⟩
  time : blockTime? ⟨0, n + 1⟩ =
    some (.ofNanoseconds (genesisNanoseconds + blockNanoseconds * (n + 1)))
  window : blocks.length < 9

theorem Room.of_few {n : UInt64} {blocks : List Block} (low : n.toNat < 999)
    (few : blocks.length < 9) : Room n blocks := by
  have size : UInt64.size = 18446744073709551616 := rfl
  have one : (1 : UInt64).toNat = 1 := rfl
  have sum : Word.add? n 1 = some (n + 1) := if_pos (by omega)
  refine ⟨?_, blockTime?_of_low ?_, few⟩
  · rw [Height.next?, Height.add?, sum]
    rfl
  · rw [Word.add?_eq_some_iff.1 sum]
    omega

def Going (t : Site) : Prop := ∀ c, t.known = some c → c.state.frozenHeight = none

theorem Going.hear [Digest] {t : Site} {b : Block} (going : t.Going) : (t.hear b).Going := by
  rintro c ⟨⟩
  cases known : t.known with
  | none => rfl
  | some c =>
    simp only [learnt, Client.learn]
    split
    · exact going c known
    · exact going c known

/-- A chain that is at a height, has a block for each height up to there, and whose client is in
use. -/
structure At (t : Site) (n : Nat) : Prop where
  height : t.height = .ofNat n
  blocks : t.blocks.length + 1 = n
  going : t.Going

theorem at_start : start.At 1 := ⟨rfl, rfl, nofun⟩

namespace At

variable {t : Site} {n : Nat} {s : ChannelStore} {calls : List Call}

theorem put (here : t.At n) : (t.put s).At n := ⟨here.height, here.blocks, here.going⟩

theorem grow (here : t.At n) : (t.grow s calls).At (n + 1) where
  height := by
    rw [UInt64.ofNat_add, ← here.height]
    rfl
  blocks := by
    rw [← here.blocks, Site.grow, List.length_append]
    rfl
  going := here.going

theorem hear [Digest] {b : Block} (here : t.At n) : (t.hear b).At n :=
  ⟨here.height, here.blocks, here.going.hear⟩

theorem toNat_height (here : t.At n) (low : n < 9) : t.height.toNat = n := by
  have size : 9 < UInt64.size := by decide
  rw [here.height, UInt64.toNat_ofNat_of_lt' (by omega)]

theorem room (here : t.At n) (low : n < 9) : Room t.height t.blocks := by
  have height := here.toNat_height low
  have blocks := here.blocks
  exact .of_few (by omega) (by omega)

end At

theorem started : (World.of start.chain start.chain).Started := by
  have both (s : Side) : World.of start.chain start.chain s = start.chain := by cases s <;> rfl
  constructor
  · intro s
    rw [both]
    constructor
    · exact ⟨_, rfl, rfl⟩
    · rfl
    · rfl
    · intro p id bound
      simp [start, chain, Map.single, Std.ExtTreeMap.getElem?_insert] at bound
      obtain ⟨rfl, rfl⟩ := bound
      rfl
    · intro id a there
      simp [start, chain, Map.single, Std.ExtTreeMap.getElem?_insert] at there
      obtain ⟨rfl, rfl⟩ := there
      rfl
  · intro s x c there
    rw [both] at there ⊢
    simp [start, chain, host, hostOf, Map.single, Std.ExtTreeMap.getElem?_insert] at there
    obtain ⟨rfl, rfl⟩ := there
    exact ⟨rfl, rfl, hop, connection, rfl, by simp [start, chain, host, hostOf], rfl⟩

variable {t : Site}

@[simp] theorem store_host : t.host.store = t.store := rfl

@[simp] theorem store_chain : t.chain.host.store = t.store := rfl

@[simp] theorem store_grow {s : ChannelStore} {calls : List Call} :
    (t.grow s calls).store = s := rfl

@[simp] theorem store_put {s : ChannelStore} : (t.put s).store = s := rfl

@[simp] theorem store_hear [Digest] {b : Block} : (t.hear b).store = t.store := rfl

theorem host_of_store {s : ChannelStore} (kept : t.store = s) :
    t.host = hostOf t.height t.known s := by
  rw [← kept]
  rfl

theorem host_hear [Digest] {s : ChannelStore} {b : Block} (kept : t.store = s) :
    (t.hear b).host = hostOf t.height (some (learnt t.known b)) s := by
  rw [← kept]
  rfl

theorem capabilityOf_chain {l : Shelf} (kept : t.store = l.store) :
    t.chain.capabilityOf owner = .ok handle := by
  rw [Chain.capabilityOf, store_chain, kept]
  simp [Shelf.store, Registry.get, handle]

/-! ### What a chain does -/

theorem appOf_chain : t.chain.appOf port = .ok (app, ⟨t.calls, .silent⟩) := by
  simp [Chain.appOf_eq_ok, chain]

theorem delivered_chain : t.chain.delivered owner =
    (t.calls.filterMap Call.received?).filter fun p => p.destination = owner := by
  have bound : t.chain.appOf owner.port = .ok (app, ⟨t.calls, .silent⟩) := appOf_chain
  rw [Chain.delivered, bound]
  rfl

theorem tell_chain {s : ChannelStore} {call : Call} :
    (t.chain.tell app ⟨t.calls, .silent⟩ call).withStore s =
      { t with store := s, calls := t.calls ++ [call] }.chain := by
  simp [Chain.tell, Chain.withStore, chain, host, hostOf, Application.after]

theorem advance?_chain (room : Room t.height t.blocks) :
    t.chain.advance? = some (t.grow t.store []).chain := by
  obtain ⟨next, time, window⟩ := room
  have push (b c : Block) : Chain.pushBlock 10 (b :: t.blocks) c = b :: (t.blocks ++ [c]) := by
    have ten : UInt64.toNat 10 = 10 := rfl
    rw [Chain.pushBlock, if_neg (by rw [ten, List.length_cons]; omega)]
    rfl
  have holds : t.host.snapshot = (hostOf (t.height + 1) none t.store).snapshot := by
    simp only [Host.snapshot, Host.provable, host, hostOf]
  have next' : t.chain.host.height.next? = some ⟨0, t.height + 1⟩ := next
  rw [Chain.advance?_of_time next' time]
  simp only [chain, push, holds, grow, List.append_nil]
  rfl

variable [Digest] {b : Block}

theorem perform_updateClient : t.chain.perform (.updateClient client b.header) =
    some (⟨some .applied, []⟩, (t.hear b).chain) := by
  cases known : t.known with
  | none =>
    simp [Chain.perform, Chain.mapHost, chain, host, hostOf, Host.updateClient, hear, learnt, known]
  | some c =>
    simp [Chain.perform, Chain.mapHost, chain, host, hostOf, Host.updateClient, hear, learnt, known]

theorem perform_advance (room : Room t.height t.blocks) :
    t.chain.perform .advance = some (⟨some .applied, []⟩, (t.grow t.store []).chain) := by
  rw [Chain.perform, advance?_chain room]
  rfl

omit [Digest] in
theorem advance?_tell {s : ChannelStore} {call : Call} (room : Room t.height t.blocks) :
    ((t.chain.tell app ⟨t.calls, .silent⟩ call).withStore s).advance? =
      some (t.grow s [call]).chain := by
  have grown := advance?_chain (t := { t with store := s, calls := t.calls ++ [call] }) room
  rw [tell_chain, grown]
  simp only [grow, List.append_nil]

theorem perform_handshake_of_step {m : HandshakeMessage} {out : Output EndChange}
    {cap : Option Capability} {s : ChannelStore} (for_port : m.port = port)
    (step : Handshake.step t.host m = .ok out)
    (stored : t.store.applyEnd (Chain.settleVersion m out.result
      (Chain.handshakeCall m out.result.owner).peerVersion) = (.ok cap, s))
    (room : Room t.height t.blocks) :
    t.chain.perform (.deliver (.handshake m)) = some (⟨some .applied, out.events⟩,
      (t.grow s [Chain.handshakeCall m out.result.owner]).chain) := by
  have bound : t.chain.appOf m.port = .ok (app, ⟨t.calls, .silent⟩) := by
    rw [for_port]
    exact appOf_chain
  have agrees : (Application.reply ⟨t.calls, .silent⟩
      (Chain.handshakeCall m out.result.owner)).refusal = none := by
    simp [Application.reply, Policy.silent]
  have version : (Application.reply ⟨t.calls, .silent⟩
      (Chain.handshakeCall m out.result.owner)).version =
        (Chain.handshakeCall m out.result.owner).peerVersion := by
    unfold Application.reply
    split <;> rfl
  rw [← version] at stored
  exact (Chain.Delivers.stored bound step agrees stored).perform (advance?_tell room)

theorem perform_upgrade_of_step {m : UpgradeMessage} {out : Output UpgradeChange} {call : Call}
    (for_port : m.owner.port = port) (step : Upgrading.step t.host m = .ok out)
    (told : Chain.upgradeCall? m out.result = some call)
    (kept : Chain.upgradeOutcome out.result.step = .applied) (room : Room t.height t.blocks) :
    t.chain.perform (.deliver (.upgrade m)) = some (⟨some .applied, out.events⟩,
      (t.grow (t.store.applyUpgrade out.result) [call]).chain) := by
  have bound : t.chain.appOf m.owner.port = .ok (app, ⟨t.calls, .silent⟩) := by
    rw [for_port]
    exact appOf_chain
  have agrees : (Application.reply ⟨t.calls, .silent⟩ call).refusal = none := by
    simp [Application.reply, Policy.silent]
  rw [← kept]
  exact (Chain.Delivers.upgradedTold bound step told agrees).perform (advance?_tell room)

theorem perform_propose_of_step {m : UpgradeInit} {out : Output UpgradeChange}
    (step : Upgrading.propose t.host handle m = .ok out) :
    t.chain.perform (.proposeUpgrade handle m) = some (⟨some .applied, out.events⟩,
      (t.put (t.store.applyUpgrade out.result)).chain) := by
  have layer : Upgrading.propose t.chain.host handle m = .ok out := step
  rw [Chain.perform_proposeUpgrade, layer]
  rfl

theorem perform_send_of_step {m : OutgoingPacket} {out : Output PacketChange}
    (step : Transfer.send t.host handle m = .ok out) :
    t.chain.perform (.send handle m) = some (⟨some .applied, out.events⟩,
      (t.put (t.store.applyPacket out.result)).chain) := by
  have layer : Transfer.send t.chain.host handle m = .ok out := step
  rw [Chain.perform_send, layer]
  rfl

theorem perform_packet_of_step {m : PacketMessage} {out : Output PacketChange}
    (for_owner : m.owner = owner) (owns : t.chain.capabilityOf owner = .ok handle)
    (step : Transfer.step t.host handle m = .ok out) (new : out.result.noOp? = none)
    (room : Room t.height t.blocks) :
    t.chain.perform (.deliver (.packet m)) = some (⟨some .applied, out.events⟩,
      (t.grow (t.store.applyPacket out.result) [Chain.packetCall m]).chain) := by
  have bound : t.chain.appOf m.owner.port = .ok (app, ⟨t.calls, .silent⟩) := by
    rw [for_owner]
    exact appOf_chain
  have agrees : (Application.reply ⟨t.calls, .silent⟩ (Chain.packetCall m)).refusal = none := by
    simp [Application.reply, Policy.silent]
  have silent : Chain.promptAck m (Application.reply ⟨t.calls, .silent⟩ (Chain.packetCall m)) =
      none := by
    cases m <;> rfl
  rw [← for_owner] at owns
  exact (Chain.Delivers.applied bound owns step new agrees silent).perform (advance?_tell room)

/-! ### What chains know of each other -/

omit [Digest] in
theorem clean_host {l : Shelf} {n : UInt64} {known : Option Client} :
    (hostOf n known l.store).Clean := by
  have named : owner.Clean := ⟨by decide, Identifier.slash_notMem_channel 0⟩
  intro p v holds
  obtain clean | ⟨e, taken, clean⟩ := Host.lane_ne_empty holds
  · exact clean
  · have same : e = owner := by
      by_contra other
      exact taken (Shelf.lane_store_of_ne other)
    rw [same] at clean
    exact clean named

omit [Digest] in
theorem get?_block {l : Shelf} {n : UInt64} (p : Path) :
    (block n l.store).snapshot.get? (connection.peer.label.key p) =
      (hostOf n none l.store).provableAt? p := by
  have clean : (hostOf n none l.store).Clean := clean_host
  rw [show connection.peer.label = .default from rfl, block, Host.get?_snapshot clean]

omit [Digest] in
theorem holds_end {l : Shelf} {n : UInt64} :
    (block n l.store).snapshot.get? (connection.peer.label.key (.channelEnd owner)) =
      some l.value.encode := by
  rw [get?_block]
  simp [Host.provableAt?, hostOf, Shelf.store]

omit [Digest] in
theorem holds_upgrade {l : Shelf} {n : UInt64} {u : Upgrade} (kept : l.upgrade = some u) :
    (block n l.store).snapshot.get? (connection.peer.label.key (.upgrade owner)) =
      some u.encode := by
  rw [get?_block]
  simp [Host.provableAt?, hostOf, Shelf.store, kept]

omit [Digest] in
theorem holds_commitment {l : Shelf} {n : UInt64} {c : Bytes} (kept : l.commitment = some c) :
    (block n l.store).snapshot.get? (connection.peer.label.key (.commitment ⟨owner, 1⟩)) =
      some c := by
  rw [get?_block]
  simp [Host.provableAt?, hostOf, Shelf.store, kept]

theorem knows_hear (going : t.Going) :
    (t.hear b).host.Knows connection b.height b.header.consensus := by
  refine ⟨learnt t.known b, ?_, going.hear _ rfl, ?_⟩
  · simp [host, hostOf, hear, connection, ConnectionEnd.opened]
  · cases t.known with
    | none => simp [learnt, Client.ofHeader, Block.header]
    | some c => simp [learnt, Client.learn, Block.header]

end Site

end Passage

end Crosschain
