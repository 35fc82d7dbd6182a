import Crosschain.Proofs.Sightings

/-!
# Runs from worlds

Finitely many worlds that follow each other make up a run, which rests in the last of them. What a
chain has to be asked for on the way has to be backed by the other chain: a client that knows a
block takes that block's own proof of all it holds.
-/

namespace Crosschain

/-! ### Worlds that follow each other -/

namespace World

def of (l r : Chain) : World
  | .left => l
  | .right => r

@[simp] theorem of_left {l r : Chain} : of l r .left = l := rfl

@[simp] theorem of_right {l r : Chain} : of l r .right = r := rfl

/-- The world at a moment, when worlds follow each other and the last one stays. -/
def scene (w : World) : List (Move × World) → Nat → World
  | _, 0 => w
  | [], _ => w
  | (_, w') :: rest, i + 1 => scene w' rest i

def final (w : World) : List (Move × World) → World
  | [] => w
  | (_, w') :: rest => final w' rest

@[simp] theorem scene_zero (w : World) (l : List (Move × World)) : w.scene l 0 = w := by
  cases l <;> rfl

theorem forall_scene {P : World → Prop} {w : World} {l : List (Move × World)} (first : P w)
    (rest : ∀ p ∈ l, P p.2) (i : Nat) : P (w.scene l i) := by
  induction l generalizing w i with
  | nil => cases i <;> exact first
  | cons p l ih =>
    cases i with
    | zero => exact first
    | succ i =>
      exact ih (rest p List.mem_cons_self) (fun q mem => rest q (List.mem_cons_of_mem _ mem)) i

variable [Digest]

/-- Worlds follow each other by moves that a run allows. -/
inductive Plays : World → List (Move × World) → Prop
  | nil (w : World) : Plays w []
  | cons {w w' : World} {m : Move} {rest : List (Move × World)} (step : w.Step (some m) w')
      (genuine : ∀ id header, m.action = .updateClient id header →
        ∃ b ∈ (w m.side.other).blocks, header = b.header)
      (plays : Plays w' rest) : Plays w ((m, w') :: rest)

theorem step_left {l l' r : Chain} {a : Action} {rep : Report}
    (done : l.perform a = some (rep, l')) : (of l r).Step (some ⟨.left, a, rep⟩) (of l' r) := by
  refine ⟨l', done, ?_⟩
  funext s
  cases s <;> rfl

theorem step_right {l r r' : Chain} {a : Action} {rep : Report}
    (done : r.perform a = some (rep, r')) : (of l r).Step (some ⟨.right, a, rep⟩) (of l r') := by
  refine ⟨r', done, ?_⟩
  funext s
  cases s <;> rfl

namespace Plays

variable {w : World} {l l' : List (Move × World)}

theorem append (plays : w.Plays l) (more : (w.final l).Plays l') : w.Plays (l ++ l') := by
  induction plays with
  | nil w => exact more
  | cons step genuine plays ih => exact .cons step genuine (ih more)

theorem step (plays : w.Plays l) (i : Nat) :
    (w.scene l i).Step (l[i]?.map Prod.fst) (w.scene l (i + 1)) := by
  induction plays generalizing i with
  | nil w => cases i <;> rfl
  | cons step genuine plays ih =>
    cases i with
    | zero =>
      simp only [scene, scene_zero]
      exact step
    | succ i => exact ih i

theorem genuine {m : Move} {i : Nat} {id : ClientId} {header : Header} (plays : w.Plays l)
    (move : l[i]?.map Prod.fst = some m) (action : m.action = .updateClient id header) :
    ∃ b ∈ (w.scene l i m.side.other).blocks, header = b.header := by
  induction plays generalizing i with
  | nil w => simp at move
  | cons step genuine plays ih =>
    cases i with
    | zero =>
      cases move
      rw [scene_zero]
      exact genuine id header action
    | succ i => exact ih move

end Plays

end World

def Run.ofPlay [Digest] {w : World} {l : List (Move × World)} (started : w.Started)
    (plays : w.Plays l) : Run where
  world := w.scene l
  move i := l[i]?.map Prod.fst
  started := by
    rw [World.scene_zero]
    exact started
  step := plays.step
  genuine := by
    intro i s id header report move
    exact ⟨i, Nat.le_refl i, plays.genuine move rfl⟩

theorem Side.forall_iff {P : Side → Prop} : (∀ s, P s) ↔ P .left ∧ P .right :=
  ⟨fun all => ⟨all .left, all .right⟩, fun ⟨hl, hr⟩ s => match s with
    | .left => hl
    | .right => hr⟩

theorem Run.forall_store [Digest] {P : Side → ChannelStore → Prop} {w : World}
    {l : List (Move × World)} {started : w.Started} {plays : w.Plays l}
    (first : ∀ s, P s (w s).host.store) (rest : ∀ p ∈ l, ∀ s, P s (p.2 s).host.store) (i : Nat)
    (s : Side) : P s ((Run.ofPlay started plays).host i s).store :=
  World.forall_scene (P := fun w => ∀ s, P s (w s).host.store) first rest i s

theorem Run.forall_move [Digest] {P : Move → Prop} {w : World} {l : List (Move × World)}
    {started : w.Started} {plays : w.Plays l} (all : ∀ p ∈ l, P p.1) {i : Nat} {m : Move}
    (move : (Run.ofPlay started plays).move i = some m) : P m := by
  obtain ⟨p, there, rfl⟩ := Option.map_eq_some_iff.1 move
  exact all p (List.mem_of_getElem? there)

/-! ### A hash -/

/-- The hash that keeps every byte. -/
@[reducible] def Digest.plain : Digest := ⟨id⟩

theorem Digest.injectiveOn_plain (p : Bytes → Prop) : @Digest.InjectiveOn .plain p :=
  fun _ _ _ _ same => same

/-! ### Proofs that blocks give -/

theorem Block.opens [Digest] (b : Block) (label : StorePrefix) (path : Path) (value : Option Bytes)
    (holds : b.snapshot.get? (label.key path) = value) :
    b.header.consensus.Opens label b.proof path value := by
  refine ⟨b.snapshot, ?_, holds⟩
  simp [StateProof.opened, Block.proof, Snapshot.proof, Block.header, Header.consensus,
    Snapshot.root, Snapshot.decode?_encode]

namespace Host

variable [Digest] {h : Host} {c : ConnectionEnd} {b : Block} {x : ChannelEnd} {peer : EndId}

theorem showsValue_of_opens {id : ClientId} {client : Client} {label : StorePrefix}
    {proof : StateProof} {cs : ConsensusState} {path : Path} {value : Bytes}
    (there : h.clients[id]? = some client) (opens : cs.Opens label proof path (some value)) :
    h.showsValue id label proof cs.root path value = .ok () := by
  obtain ⟨s, opened, found⟩ := opens
  simp only [showsValue, StateProof.showsValue, Except.bind_eq_ok]
  refine ⟨client.state, ?_, s, opened, if_pos found⟩
  rw [clientState, there]

theorem provesPeerValue_of_block {path : EndId → Path} {value : Bytes}
    {f : ClientError → ChannelError} (knows : h.Knows c b.height b.header.consensus)
    (named : x.peer = .ofEnd peer)
    (holds : b.snapshot.get? (c.peer.label.key (path peer)) = some value) :
    h.provesPeerValue c x b.height b.proof path value f = .ok () := by
  obtain ⟨client, there, -⟩ := id knows
  simp only [provesPeerValue, Except.bind_eq_ok, consensusAt_eq_ok, Fault.lift_eq_ok,
    ChannelPeer.endId_eq_ok, Fault.wrap_eq_ok]
  exact ⟨_, knows, peer, named, showsValue_of_opens there (b.opens _ _ _ holds)⟩

theorem provesEnd_of_block {expected : ChannelEnd} (knows : h.Knows c b.height b.header.consensus)
    (named : x.peer = .ofEnd peer)
    (holds : b.snapshot.get? (c.peer.label.key (.channelEnd peer)) = some expected.encode) :
    h.provesEnd c x b.height b.proof expected = .ok () :=
  provesPeerValue_of_block knows named holds

theorem provesUpgrade_of_block {u : Upgrade} (knows : h.Knows c b.height b.header.consensus)
    (named : x.peer = .ofEnd peer)
    (holds : b.snapshot.get? (c.peer.label.key (.upgrade peer)) = some u.encode) :
    h.provesUpgrade c x b.height b.proof u = .ok () :=
  provesPeerValue_of_block knows named holds

theorem provesPacket_of_block {p : Packet} {commitment : Bytes}
    (knows : h.Knows c b.height b.header.consensus)
    (committed : Commitment.ofPacket? p = some commitment)
    (holds : b.snapshot.get? (c.peer.label.key (.commitment p.sourceSlot)) = some commitment) :
    h.provesPacket c p ⟨b.proof, none, b.height⟩ = .ok () := by
  obtain ⟨client, there, -⟩ := id knows
  simp only [provesPacket, provesPacketValue, Except.bind_eq_ok, consensusAt_eq_ok,
    Fault.wrap_eq_ok, Fault.checked_eq_ok]
  exact ⟨_, knows, commitment, committed, showsValue_of_opens there (b.opens _ _ _ holds)⟩

theorem provesAcknowledgement_of_block {p : Packet} {ack : Acknowledgement}
    (knows : h.Knows c b.height b.header.consensus)
    (holds : b.snapshot.get? (c.peer.label.key (.acknowledgement p.destinationSlot)) =
      some (Commitment.ofAcknowledgement ack)) :
    h.provesAcknowledgement c p ack ⟨b.proof, none, b.height⟩ = .ok () := by
  obtain ⟨client, there, -⟩ := id knows
  simp only [provesAcknowledgement, provesPacketValue, Except.bind_eq_ok, consensusAt_eq_ok,
    Fault.wrap_eq_ok, Except.pure_eq_ok]
  exact ⟨_, knows, _, rfl, showsValue_of_opens there (b.opens _ _ _ holds)⟩

theorem showsAbsence_of_opens {id : ClientId} {client : Client} {label : StorePrefix}
    {proof : StateProof} {cs : ConsensusState} {path : Path}
    (there : h.clients[id]? = some client) (opens : cs.Opens label proof path none) :
    h.showsAbsence id label proof cs.root path = .ok () := by
  obtain ⟨s, opened, found⟩ := opens
  simp only [showsAbsence, StateProof.showsAbsence, Except.bind_eq_ok]
  refine ⟨client.state, ?_, s, opened, if_pos found⟩
  rw [clientState, there]

theorem provesNextRecv_of_block {p : Packet} {next : Sequence}
    (knows : h.Knows c b.height b.header.consensus)
    (holds : b.snapshot.get? (c.peer.label.key (.nextRecv p.destination)) =
      some (Word.bytes next)) : h.provesNextRecv c p next ⟨b.proof, none, b.height⟩ = .ok () := by
  obtain ⟨client, there, -⟩ := id knows
  simp only [provesNextRecv, provesPacketValue, Except.bind_eq_ok, consensusAt_eq_ok,
    Fault.wrap_eq_ok, Except.pure_eq_ok]
  exact ⟨_, knows, _, rfl, showsValue_of_opens there (b.opens _ _ _ holds)⟩

theorem provesNoReceipt_of_block {p : Packet} (knows : h.Knows c b.height b.header.consensus)
    (holds : b.snapshot.get? (c.peer.label.key (.receipt p.destinationSlot)) = none) :
    h.provesNoReceipt c p ⟨b.proof, none, b.height⟩ = .ok () := by
  obtain ⟨client, there, -⟩ := id knows
  simp only [provesNoReceipt, Except.bind_eq_ok, consensusAt_eq_ok, Fault.wrap_eq_ok]
  exact ⟨_, knows, showsAbsence_of_opens there (b.opens _ _ _ holds)⟩

end Host

end Crosschain
