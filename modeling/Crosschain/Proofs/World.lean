import Crosschain.Chain.Routing

/-!
# Two chains and their runs

Two chains are joined by connections that are open on both sides. At each moment one of them takes
a message, serves a call of an application, adds a block or hears of a header, or nothing happens.
Messages are arbitrary; headers are those of blocks that the other chain really has or had.

Counters are checked: an action that would carry one past its width ends the program and has no
report. What holds of every course of actions thus holds as long as no counter overflows; arithmetic
that wraps around would go on past that point.
-/

namespace Crosschain

/-! ### What a chain can be asked for -/

/-- What is asked of a chain. -/
inductive Action
  | deliver (m : Datagram)
  | send (cap : Capability) (m : OutgoingPacket)
  | writeAcknowledgement (cap : Capability) (p : Packet) (ack : Acknowledgement)
  | proposeUpgrade (cap : Capability) (m : UpgradeInit)
  | close (cap : Capability) (m : CloseInit)
  | advance
  | updateClient (id : ClientId) (header : Header)

def Evidence.proofs (v : Evidence) : List StateProof := v.object :: v.other.toList

/-- The evidence of a relayed message; a proposal of a channel needs none. -/
def Datagram.evidence? : Datagram → Option Evidence
  | .handshake (.openInit _) => none
  | .handshake (.openTry m) => some m.evidence
  | .handshake (.openAck m) => some m.evidence
  | .handshake (.openConfirm m) => some m.evidence
  | .upgrade (.answer m) => some m.evidence
  | .upgrade (.ack m) => some m.evidence
  | .upgrade (.confirm m) => some m.evidence
  | .upgrade (.finish m) => some m.evidence
  | .upgrade (.cancel m) => some m.evidence
  | .upgrade (.expire m) => some m.evidence
  | .packet (.receive m) => some m.evidence
  | .packet (.acknowledge m) => some m.evidence
  | .packet (.timeout m) => some m.evidence

def Packet.outgoing (p : Packet) : OutgoingPacket :=
  ⟨p.source, p.data, p.timeoutHeight, p.timeoutTime⟩

namespace Action

def proofs : Action → List StateProof
  | .deliver m => m.evidence?.toList.flatMap Evidence.proofs
  | _ => []

/-- The packet an action asks to send, or tells of, as its sender asked for it. -/
def outgoing? : Action → Option OutgoingPacket
  | .deliver (.packet m) => some m.packet.outgoing
  | .send _ m => some m
  | _ => none

/-- Timeouts of packets travel as nanoseconds in 64 bits. -/
def Timed (a : Action) : Prop :=
  ∀ m, a.outgoing? = some m → ∃ n, m.timeoutTime = .ofNanoseconds n

/-- The timeout heights of packets are above zero. -/
def ProperHeights (a : Action) : Prop :=
  ∀ m h, a.outgoing? = some m → m.timeoutHeight = .atHeight h → h.height ≠ 0

end Action

/-- What is seen of an action from outside. -/
structure Report where
  /-- How the action counted, none when it was refused. -/
  outcome : Option Outcome
  events : List Event

namespace Chain

/-- The report of an action that ended with a result or was refused. An overflow has none: it ends
the program, so there is no next state. -/
def settle {ε α : Type} (r : Except (Fault ε) α × Chain) (report : α → Report) :
    Option (Report × Chain) :=
  match r with
  | (.ok a, c) => some (report a, c)
  | (.error (.refused _), c) => some (⟨none, []⟩, c)
  | (.error .overflow, _) => none

variable [Digest]

/-- Carries an action out. A relayed message that is taken adds a block. -/
def perform (c : Chain) : Action → Option (Report × Chain)
  | .deliver m => settle (sealed (c.deliver m)) fun r => ⟨some r.outcome, r.events⟩
  | .send cap m => settle (c.send cap m) fun o => ⟨some .applied, o.events⟩
  | .writeAcknowledgement cap p ack =>
    settle (c.writeAcknowledgement cap p ack) fun o => ⟨some o.result, o.events⟩
  | .proposeUpgrade cap m => settle (c.proposeUpgrade cap m) fun o => ⟨some .applied, o.events⟩
  | .close cap m => settle (c.close cap m) fun o => ⟨some .applied, o.events⟩
  | .advance => c.advance?.map fun c => (⟨some .applied, []⟩, c)
  | .updateClient id h => some (⟨some .applied, []⟩, c.mapHost fun host => host.updateClient id h)

end Chain

/-! ### Worlds -/

inductive Side
  | left
  | right
  deriving DecidableEq, Repr

namespace Side

def other : Side → Side
  | left => right
  | right => left

@[simp] theorem other_other (s : Side) : s.other.other = s := by
  cases s <;> rfl

theorem other_ne (s : Side) : s.other ≠ s := by
  cases s <;> decide

end Side

/-- The two chains at a moment. -/
abbrev World := Side → Chain

/-- A chain that was just started: it has its first blocks, no clients and no channels, its ports
are bound under proper names, and no application was told of anything. -/
structure Chain.Started (c : Chain) : Prop where
  blocks : ∃ d, Chain.start? c.window c.host.height = some d ∧ c.blocks = d.blocks
  clients : c.host.clients = ∅
  store : c.host.store = .empty
  ports : ∀ (port : PortId) (id : ModuleId), c.bindings[port]? = some id →
    Identifier.ofText .port port.text = .ok port
  quiet : ∀ (id : ModuleId) (a : Application), c.apps[id]? = some a → a.history = []

/-- Two chains that were just started, each of whose connections is open, leads to the store of the
other chain, and is the other end of its other end. -/
structure World.Started (w : World) : Prop where
  chain : ∀ s, (w s).Started
  connection : ∀ s (x : ConnectionId) (c : ConnectionEnd), (w s).host.connections[x]? = some c →
    c.isOpen ∧ c.peer.label = .default ∧
      ∃ y d, c.peer.connection = some y ∧ (w s.other).host.connections[y]? = some d ∧
        d.peer.connection = some x

/-- What one chain does at a moment. -/
structure Move where
  side : Side
  action : Action
  report : Report

/-- How the two chains go on: one of them moves, or both rest. -/
def World.Step [Digest] (w : World) : Option Move → World → Prop
  | none, w' => w' = w
  | some m, w' => ∃ c, (w m.side).perform m.action = some (m.report, c) ∧
    w' = fun s => if s = m.side then c else w s

/-! ### Runs -/

/-- A run of two chains, moment by moment. A run that comes to an end, as by an overflow, rests from
then on. -/
structure Run [Digest] where
  world : Nat → World
  move : Nat → Option Move
  started : (world 0).Started
  step : ∀ i, (world i).Step (move i) (world (i + 1))
  /-- A chain hears only of headers of blocks that the other chain has, or had before. -/
  genuine : ∀ i s id header report, move i = some ⟨s, .updateClient id header, report⟩ →
    ∃ j ≤ i, ∃ b ∈ (world j s.other).blocks, header = b.header

namespace Run

variable [Digest] (r : Run)

def host (i : Nat) (s : Side) : Host := (r.world i s).host

def action? (i : Nat) (s : Side) : Option Action :=
  (r.move i).bind fun m => if m.side = s then some m.action else none

def events (i : Nat) (s : Side) : List Event :=
  match r.move i with
  | some m => if m.side = s then m.report.events else []
  | none => []

/-- The byte strings the two chains hash on the way: the snapshots of blocks, the proofs they are
brought, and the packets they commit to. -/
inductive Hashed : Bytes → Prop
  | block {i : Nat} {s : Side} {b : Block} : b ∈ (r.world i s).blocks → Hashed b.snapshot.encode
  | proof {i : Nat} {s : Side} {a : Action} {p : StateProof} :
    r.action? i s = some a → p ∈ a.proofs → Hashed p.bytes
  | data {i : Nat} {s : Side} {a : Action} {m : OutgoingPacket} :
    r.action? i s = some a → a.outgoing? = some m → Hashed m.data
  | packet {i : Nat} {s : Side} {a : Action} {m : OutgoingPacket} {n : UInt64} :
    r.action? i s = some a → a.outgoing? = some m → m.timeoutTime.nanoseconds? = some n →
      Hashed (Commitment.packetInput m.data m.timeoutHeight n)

end Run

end Crosschain
