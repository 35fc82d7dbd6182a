import Crosschain.Proofs.Courses

/-!
# An answer before its packet

Nothing makes an application wait for a packet before it writes the packet's acknowledgement. Over an
ordered channel that two chains just opened, one of them sends a packet, and the other answers it
before it gets there. The sender takes the answer, as it would take a later one.
-/

namespace Crosschain

namespace Passage

variable {x : ChannelEnd} {o : Order} {v : ChannelVersion} {data c : Bytes} {p q : Packet}
  {k : Acknowledgement}

def reply (p : Packet) (k : Acknowledgement) (b : Block) : AcknowledgePacket :=
  ⟨p, k, ⟨b.proof, none, b.height⟩⟩

variable [Digest]

/-- What is stored with an end that answered the first packet of the other end unseen. -/
def answeredStore (x : ChannelEnd) (k : Acknowledgement) : ChannelStore :=
  (Shelf.fresh x).store.setAcknowledgement ⟨owner, 1⟩ (Commitment.ofAcknowledgement k)

def settled (x : ChannelEnd) : Shelf := { Shelf.fresh x with nextSend := 2, nextAck := 2 }

omit [Digest] in
theorem clean_owner : owner.Clean := ⟨by decide, Identifier.slash_notMem_channel 0⟩

omit [Digest] in
theorem Shelf.applyPacket_acknowledged {l : Shelf} {n : Sequence} :
    l.store.applyPacket (.acknowledged ⟨owner, 1⟩ (some n)) =
      { l with nextAck := n, commitment := none }.store := by
  simp [ChannelStore.applyPacket, ChannelStore.setNextAck, ChannelStore.eraseCommitment, store]

namespace Site

variable {t : Site} {n : UInt64}

/-! ### Writing -/

theorem perform_answer {l : Shelf} (first : First p) (kept : t.store = l.store)
    (ordered : Ordered l.value) (filled : k ≠ []) :
    t.chain.perform (.writeAcknowledgement handle p k) =
      some (⟨some .applied, [.acknowledgement p k]⟩, (t.put
        (l.store.setAcknowledgement ⟨owner, 1⟩ (Commitment.ofAcknowledgement k))).chain) := by
  obtain ⟨n, source, destination, data, height, time⟩ := p
  obtain ⟨rfl, rfl, rfl⟩ := first
  have unwritten : l.store.acknowledgements[Slot.mk owner 1]? = none := by simp [Shelf.store]
  have host : t.chain.host = _ := host_of_store kept
  have step : Transfer.writeAcknowledgement t.chain.host handle
      ⟨1, owner, owner, data, height, time⟩ k =
        .ok ⟨.answered ⟨owner, 1⟩ (Commitment.ofAcknowledgement k),
          ["success: packet write acknowledgement"],
          [.acknowledgement ⟨1, owner, owner, data, height, time⟩ k]⟩ := by
    rw [host]
    exact Transfer.writeAcknowledgement_eq_ok.2 (.written
      ⟨Shelf.ends_store, Shelf.authenticate_store, ordered.allowsPackets⟩ unwritten filled)
  rw [Chain.perform_writeAcknowledgement, step, ← kept]
  rfl

omit [Digest] in
theorem holds_answer [Digest] :
    (block n (answeredStore x k)).snapshot.get?
        (connection.peer.label.key (.acknowledgement ⟨owner, 1⟩)) =
      some (Commitment.ofAcknowledgement k) := by
  have clean : (Path.acknowledgement ⟨owner, 1⟩).Clean := clean_owner
  rw [show connection.peer.label = .default from rfl, block, Host.get?_snapshot_of_clean clean]
  simp [Host.provableAt?, hostOf, answeredStore, ChannelStore.setAcknowledgement]

/-! ### Taking -/

theorem perform_acknowledge (twins : Twins p q c) (kept : t.store = (sent x c).store)
    (ordered : Ordered x) (going : t.Going) (room : Room t.height t.blocks) :
    (t.hear (block n (answeredStore x k))).chain.perform
        (.deliver (.packet (.acknowledge (reply q k (block n (answeredStore x k)))))) =
      some (⟨some .applied, [.packet .acknowledged q]⟩,
        ((t.hear (block n (answeredStore x k))).grow (settled x).store
          [.acknowledge q k]).chain) := by
  have outstanding (n : UInt64) (known : Option Client) : Transfer.Outstanding
      (hostOf n known (sent x c).store) handle q x connection := outstanding_sent twins ordered
  obtain ⟨m, source, destination, data, height, time⟩ := q
  obtain ⟨-, -, -, -, ⟨rfl, rfl, rfl⟩, -⟩ := twins
  let q : Packet := ⟨1, owner, owner, data, height, time⟩
  let b := block n (answeredStore x k)
  have host := host_hear (b := b) kept
  have first := Host.provesAcknowledgement_of_block (p := q) (knows_hear (b := b) going) holds_answer
  rw [host] at first
  have counts : Transfer.CountsOn (hostOf t.height (some (learnt t.known b)) (sent x c).store)
      q x (some 2) := ⟨ordered.ordering, Map.getElem?_single, rfl⟩
  have step : Transfer.step (t.hear b).host handle (.acknowledge (reply q k b)) =
      .ok ⟨.acknowledged ⟨owner, 1⟩ (some 2), ["success: packet ack"],
        [.packet .acknowledged q]⟩ := by
    rw [host]
    exact Transfer.step_eq_ok.2 (.acknowledged (outstanding _ _) ordered.allowsPackets
      (openConnection_host ordered.hops) first counts)
  have owns := capabilityOf_chain (t := t.hear b) kept
  have performed := perform_packet_of_step (m := .acknowledge _) rfl owns step rfl room
  rw [store_hear, kept, Shelf.applyPacket_acknowledged] at performed
  exact performed

end Site

/-! ### The course -/

def foreseeing (r : Site) (x : ChannelEnd) (k : Acknowledgement) : Site :=
  (r.put (answeredStore x k)).grow (answeredStore x k) []

def relieved (l r : Site) (x : ChannelEnd) (c : Bytes) (p : Packet) (k : Acknowledgement) : Site :=
  ((l.put (sent x c).store).hear (foreseeing r x k).top).grow (settled x).store
    [.acknowledge p k]

/-- One packet is sent and answered unseen, and one with the same commitment is acknowledged. -/
def foregoing (l r : Site) (x : ChannelEnd) (c : Bytes) (p q : Packet) (k : Acknowledgement) :
    List (Move × World) :=
  [(⟨.left, .send handle p.outgoing, some .applied, [.packet .sent p]⟩,
      .of (l.put (sent x c).store).chain r.chain),
    (⟨.right, .writeAcknowledgement handle p k, some .applied, [.acknowledgement p k]⟩,
      .of (l.put (sent x c).store).chain (r.put (answeredStore x k)).chain),
    (⟨.right, .advance, some .applied, []⟩,
      .of (l.put (sent x c).store).chain (foreseeing r x k).chain),
    (hears .left (foreseeing r x k).top,
      .of ((l.put (sent x c).store).hear (foreseeing r x k).top).chain (foreseeing r x k).chain),
    (⟨.left, .deliver (.packet (.acknowledge (reply q k (foreseeing r x k).top))), some .applied,
      [.packet .acknowledged q]⟩,
      .of (relieved l r x c q k).chain (foreseeing r x k).chain),
    (hears .right (relieved l r x c q k).top,
      .of (relieved l r x c q k).chain
        ((foreseeing r x k).hear (relieved l r x c q k).top).chain)]

/-- The answer to a packet is taken for any packet with its commitment. -/
theorem plays_foregoing {l r : Site} {m n : Nat} (here : l.At m) (there : r.At n) (low : m < 9)
    (low' : n < 9) (kept : l.store = (Shelf.fresh x).store)
    (kept' : r.store = (Shelf.fresh x).store) (ordered : Ordered x) (twins : Twins p q c)
    (current : l.Current p) (filled : k ≠ []) :
    (World.of l.chain r.chain).Plays (foregoing l r x c p q k) := by
  refine plays_left (Site.perform_send twins kept ordered current) nofun ?_
  refine plays_right (Site.perform_answer twins.first kept' ordered filled) nofun ?_
  refine plays_right (Site.perform_advance (there.put.room low')) nofun ?_
  refine plays_hears_left top_mem_grow ?_
  refine plays_left (Site.perform_acknowledge twins rfl ordered here.put.going
    (here.put.room low)) nofun ?_
  exact plays_hears_right top_mem_grow (.nil _)

/-- A channel is opened ordered, a packet is answered before it arrives, and the answer is taken for
another packet with its commitment. -/
def foregone (v : ChannelVersion) (twins : Twins p q c) (before : InTime p 2) (filled : k ≠ []) :
    Run :=
  .ofPlay Site.started ((plays_opening (o := .ordered) (v := v) (by decide)).append
    (plays_foregoing at_leading at_following (by decide) (by decide) rfl rfl ⟨rfl, rfl, rfl, rfl⟩
      twins (current_leading before) filled))

/-- A channel is opened ordered, and a packet is answered before it arrives. -/
def foreseen (v : ChannelVersion) (data : Bytes) (k : Acknowledgement) (filled : data ≠ [])
    (filled' : k ≠ []) : Run :=
  foregone v (twins_packet filled) inTime_sent filled'

section Foregone

variable {twins : Twins p q c} {before : InTime p 2} {filled : k ≠ []} {i : Nat}

theorem asks_foregone {m : Move} {a : OutgoingPacket}
    (move : (foregone v twins before filled).move i = some m)
    (asked : m.action.outgoing? = some a) : a = p.outgoing ∨ a = q.outgoing := by
  refine Run.forall_move (P := fun m => ∀ a, m.action.outgoing? = some a →
    a = p.outgoing ∨ a = q.outgoing) (List.forall_mem_append.2 ⟨?_, ?_⟩) move a asked
  all_goals simp [opening, foregoing, hears, Action.outgoing?, reply, PacketMessage.packet]

theorem announced_foregone : (foregone v twins before filled).announced 11 .left owner = [p] := by
  simp [Run.announced, Run.events, foregone, Run.ofPlay, opening, foregoing, hears,
    Handshake.event, Event.sent?, twins.first.source]
  rfl

end Foregone

section Foreseen

variable {filled : data ≠ []} {filled' : k ≠ []} {i : Nat} {m : Move}

theorem asks_foreseen {a : OutgoingPacket}
    (move : (foreseen v data k filled filled').move i = some m)
    (asked : m.action.outgoing? = some a) : a = outgoing data :=
  or_self_iff.1 (asks_foregone move asked)

theorem properHeights_foreseen (move : (foreseen v data k filled filled').move i = some m) :
    m.action.ProperHeights := properHeights_of_asks fun _ => asks_foreseen move

theorem timed_foreseen (move : (foreseen v data k filled filled').move i = some m) :
    m.action.Timed := timed_of_asks fun _ => asks_foreseen move

end Foreseen

end Passage

end Crosschain
