import Crosschain.Proofs.Courses

/-!
# A packet that is taken back once it arrived

A sender takes its packet back for any packet with the same commitment. Over an ordered channel that
two chains just opened, one of them sends a packet and the other receives it. The first then takes it
back with the last block before the receipt, for a packet that had timed out by that block.
-/

namespace Crosschain

namespace Passage

variable {x : ChannelEnd} {o : Order} {v : ChannelVersion} {c : Bytes} {p q : Packet}

def overdue (p : Packet) (b : Block) : TimeoutPacket := ⟨p, 1, ⟨b.proof, none, b.height⟩⟩

/-- A packet is timed out by the first block of a height. -/
def Late (p : Packet) (n : UInt64) : Prop :=
  p.timedOut ⟨0, n⟩ (.ofNanoseconds (genesisNanoseconds + blockNanoseconds * n)) = true

def shut (x : ChannelEnd) : Shelf :=
  { Shelf.fresh { x with state := .closed } with nextSend := 2 }

theorem Shelf.applyPacket_timedOut {l : Shelf} :
    l.store.applyPacket (.timedOut ⟨owner, 1⟩ (some x)) =
      { l with value := x, commitment := none }.store := by
  simp [ChannelStore.applyPacket, ChannelStore.setEnd, ChannelStore.eraseCommitment, store]

theorem Shelf.holds_nextRecv {l : Shelf} {n : UInt64} :
    (block n l.store).snapshot.get? (connection.peer.label.key (.nextRecv owner)) =
      some (Word.bytes l.nextRecv) := by
  rw [Site.get?_block]
  simp [Host.provableAt?, hostOf, Shelf.store]

variable [Digest]

namespace Site

variable {t : Site} {n : UInt64} {l : Shelf}

theorem perform_timeout (twins : Twins p q c) (kept : t.store = (sent x c).store)
    (ordered : Ordered x) (going : t.Going) (room : Room t.height t.blocks) (late : Late q n)
    (counter : l.nextRecv = 1) :
    (t.hear (block n l.store)).chain.perform
        (.deliver (.packet (.timeout (overdue q (block n l.store))))) =
      some (⟨some .applied, [.packet .timedOut q, .closed ⟨port, some (.channel 0), hop,
          .ofEnd owner⟩ .ordered]⟩,
        ((t.hear (block n l.store)).grow (shut x).store [.timeout q]).chain) := by
  have outstanding (n : UInt64) (known : Option Client) : Transfer.Outstanding
      (hostOf n known (sent x c).store) handle q x connection := outstanding_sent twins ordered
  obtain ⟨m, source, destination, data, height, time⟩ := q
  obtain ⟨-, -, -, -, ⟨rfl, rfl, rfl⟩, -⟩ := twins
  let q : Packet := ⟨1, owner, owner, data, height, time⟩
  let b := block n l.store
  have host := host_hear (b := b) kept
  have knows := knows_hear (b := b) going
  have holds := Shelf.holds_nextRecv (l := l) (n := n)
  rw [counter] at holds
  have shown := Host.provesNextRecv_of_block (p := q) knows holds
  rw [host] at knows shown
  have step : Transfer.step (t.hear b).host handle (.timeout (overdue q b)) =
      .ok ⟨.timedOut ⟨owner, 1⟩ (some { x with state := .closed }), ["success: packet timeout"],
        [.packet .timedOut q, .closed ⟨port, some (.channel 0), hop, .ofEnd owner⟩
          x.ordering]⟩ := by
    rw [host]
    exact Transfer.step_eq_ok.2 (.timedOutInOrder (outstanding _ _) ordered.hops knows late
      ordered.ordering (UInt64.lt_irrefl _) shown (by simp [ordered.state]))
  have owns := capabilityOf_chain (t := t.hear b) kept
  have performed := perform_packet_of_step (m := .timeout _) rfl owns step rfl room
  rw [store_hear, kept, Shelf.applyPacket_timedOut] at performed
  rw [← ordered.ordering]
  exact performed

end Site

/-! ### The course -/

def bereft (l r : Site) (x : ChannelEnd) (c : Bytes) (p : Packet) : Site :=
  ((departed l x c).hear r.top).grow (shut x).store [.timeout p]

/-- The sender hears of the last block before the receipt, and takes its packet back. -/
def reclaiming (l r : Site) (x : ChannelEnd) (c : Bytes) (p q : Packet) : List (Move × World) :=
  [(hears .left r.top, .of ((departed l x c).hear r.top).chain (arrived l r x c p).chain),
    (⟨.left, .deliver (.packet (.timeout (overdue q r.top))), some .applied,
      [.packet .timedOut q, .closed ⟨port, some (.channel 0), hop, .ofEnd owner⟩ .ordered]⟩,
      .of (bereft l r x c q).chain (arrived l r x c p).chain)]

theorem plays_reclaiming {l r : Site} {m : Nat} (here : l.At m) (low : m < 8)
    (kept : r.store = (Shelf.fresh x).store) (newest : r.top ∈ r.blocks) (ordered : Ordered x)
    (twins : Twins p q c) (late : Late q r.height) :
    (World.of (departed l x c).chain (arrived l r x c p).chain).Plays
      (reclaiming l r x c p q) := by
  have departs : (departed l x c).At (m + 1) := here.put.grow
  have top : r.top = block r.height (Shelf.fresh x).store := by rw [← kept, Site.top]
  refine plays_hears_left (List.mem_append_left _ newest) ?_
  refine plays_left ?_ nofun (.nil _)
  rw [bereft, top]
  exact Site.perform_timeout twins rfl ordered departs.going (departs.room (by omega)) late rfl

/-- A channel is opened ordered, a packet gets through, and another one with its commitment is taken
back. -/
def reclaimed (v : ChannelVersion) (twins : Twins p q c) (before : InTime p 2) (before' : InTime p 3)
    (late : Late q 3) : Run :=
  .ofPlay Site.started ((plays_opening (o := .ordered) (v := v) (by decide)).append
    ((plays_passing at_leading at_following (by decide) (by decide) rfl rfl ⟨rfl, rfl, rfl, rfl⟩
      twins.self (current_leading before) before').append
    (plays_reclaiming at_leading (by decide) rfl top_mem_grow ⟨rfl, rfl, rfl, rfl⟩ twins late)))

section Reclaimed

variable {twins : Twins p q c} {before : InTime p 2} {before' : InTime p 3} {late : Late q 3}
  {i : Nat} {s : Side} {e : EndId}

theorem kept_reclaimed : Shelf.Kept (fun l => l.value.ordering = .ordered)
    ((reclaimed v twins before before' late).host i s).store := by
  refine Run.forall_store (P := fun _ => Shelf.Kept fun l => l.value.ordering = .ordered) ?_
    (List.forall_mem_append.2 ⟨?_, List.forall_mem_append.2 ⟨?_, ?_⟩⟩) i s
  · exact Side.forall_iff.2 ⟨.inl rfl, .inl rfl⟩
  · exact forall_opening rfl rfl fun _ => rfl
  · exact forall_passing (.of_shelf rfl) rfl rfl
  · have send : Shelf.Kept (fun l => l.value.ordering = .ordered)
      (sent (opened .ordered v) c).store := .of_shelf rfl
    have receive : Shelf.Kept (fun l => l.value.ordering = .ordered)
      (received (opened .ordered v)).store := .of_shelf rfl
    have shuts : Shelf.Kept (fun l => l.value.ordering = .ordered)
      (shut (opened .ordered v)).store := .of_shelf rfl
    simp [reclaiming, Side.forall_iff, departed, arrived, bereft, send, receive, shuts]

theorem ordered_reclaimed
    (there : ((reclaimed v twins before before' late).lane i s e).channel = some x) :
    x.ordering = .ordered := by
  obtain ⟨l, ordered, rfl⟩ := kept_reclaimed.of_channel there
  exact ordered

theorem asks_reclaimed {m : Move} {a : OutgoingPacket}
    (move : (reclaimed v twins before before' late).move i = some m)
    (asked : m.action.outgoing? = some a) : a = p.outgoing ∨ a = q.outgoing := by
  refine Run.forall_move (P := fun m => ∀ a, m.action.outgoing? = some a →
    a = p.outgoing ∨ a = q.outgoing)
    (List.forall_mem_append.2 ⟨?_, List.forall_mem_append.2 ⟨?_, ?_⟩⟩) move a asked
  all_goals simp [opening, passing, reclaiming, hears, Action.outgoing?, receive, overdue,
    PacketMessage.packet]

theorem announced_reclaimed :
    (reclaimed v twins before before' late).announced 13 .left owner = [p] := by
  simp [Run.announced, Run.events, reclaimed, Run.ofPlay, opening, passing, reclaiming, hears,
    Handshake.event, Event.sent?, twins.first.source]
  rfl

end Reclaimed

/-! ### The first moment of all -/

/-- No time and the first moment of all count no nanoseconds; the one is never reached, and the other
always is. -/
def epoch : Timestamp := ⟨some ⟨0, 0⟩⟩

def lasting (t : Timestamp) : Packet := ⟨1, owner, owner, [1], .atHeight ⟨0, 1000⟩, t⟩

theorem twins_epoch : Twins (lasting .unset) (lasting epoch)
    (Digest.hash (Commitment.packetInput [1] (.atHeight ⟨0, 1000⟩) 0)) :=
  ⟨⟨rfl, rfl, rfl⟩, by decide, by decide, rfl, ⟨rfl, rfl, rfl⟩, rfl⟩

omit [Digest] in
theorem inTime_unset : InTime (lasting .unset) 2 ∧ InTime (lasting .unset) 3 := by
  unfold InTime
  decide

omit [Digest] in
theorem late_epoch : Late (lasting epoch) 3 := by
  unfold Late
  decide

end Passage

end Crosschain
