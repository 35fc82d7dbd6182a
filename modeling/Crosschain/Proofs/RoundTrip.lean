import Crosschain.Proofs.AcknowledgementTrail
import Crosschain.Proofs.Opening
import Crosschain.Proofs.OriginalEnds
import Crosschain.Proofs.PacketAcceptance

/-!
# Round trips

A packet over a channel that was never upgraded gets through, and so does its acknowledgement, each
with the proofs of a block that was made since it was sent or written. The one thing that can stand
in the way is an acknowledgement that the destination wrote before the packet came: once the source
took it, no new block shows the packet any more.
-/

namespace Crosschain

theorem ConsensusState.Opens.value [Digest] {cs : ConsensusState} {label : StorePrefix} {b : Block}
    {path : Path} {v : Option Bytes} (opens : cs.Opens label b.proof path v) :
    b.snapshot.get? (label.key path) = v := by
  obtain ⟨shown, opened, value⟩ := opens
  unfold StateProof.opened at opened
  split at opened
  · cases opened
  · rw [Block.proof, Snapshot.proof, Snapshot.decode?_encode] at opened
    cases opened
    exact value

/-! ### What an acknowledgement does to counters -/

theorem LaneStep.acknowledged_counter [Digest] {h : Host} {a : Action} {e : EndId} {l l' : Lane}
    {p : Packet} {x : ChannelEnd} (step : LaneStep h a e l (.acknowledged p) l')
    (there : l.channel = some x) {n : Sequence} (before : l.nextAck = some n) :
    ∃ m, l'.nextAck = some m ∧ m.toNat = n.toNat + if x.ordering = .ordered then 1 else 0 := by
  cases step with
  | acknowledge _ m y c time nextAck action owner channel state named stored commitment shown counter =>
    obtain rfl := Option.some.inj (there.symm.trans channel)
    rcases counter with ⟨unordered, rfl⟩ | ⟨ordered, counter, next, counted, rfl⟩
    · exact ⟨n, before, by rw [if_neg unordered]; rfl⟩
    · refine ⟨next, rfl, ?_⟩
      obtain rfl := Option.some.inj (before.symm.trans counter)
      rw [if_pos ordered]
      exact Word.add?_eq_some_iff.1 counted

/-- From one world to another, the acknowledgement of a packet that a side had sent was taken: the
commitment is gone, the other side keeps the hash, an ordered end counted it, and the application was
told of the packet and its acknowledgement. -/
structure World.Concludes [Digest] (w : World) (o : Order) (s : Side) (p : Packet)
    (ack : Acknowledgement) (w' : World) : Prop where
  cleared : (w' s).host.store.commitments[p.sourceSlot]? = none
  kept : (w' s.other).host.store.acknowledgements[p.destinationSlot]? = some (Digest.hash ack)
  counted : ∃ m m', (w s).host.store.nextAck[p.source]? = some m ∧
    (w' s).host.store.nextAck[p.source]? = some m' ∧
      m'.toNat = m.toNat + if o = .ordered then 1 else 0
  told : (w s).Told (w' s) p.source.port (.acknowledge p ack)

namespace Run

variable [Digest] {r : Run} {k i : Nat} {t : Terms} {owner : Side → EndId} {n : Sequence}
  {s : Side} {p q : Packet} {ack : Acknowledgement} {b : Block}

theorem Unresolved.of_commitment {c : Bytes}
    (stored : (r.lane i s p.source).commitments p.sequence = some c) : r.Unresolved i s p := by
  have tallies := (r.leads s i).tallies (r.started.chain s).store p.source
  obtain ⟨q, -, -, new, -⟩ := (tallies.commitments p.sequence c).1 stored
  exact new

theorem laneStep_of_applied {id : ClientId} {m : PacketMessage} {events : List Event} {c : Chain}
    (done : ((r.world i s).mapHost fun h => h.updateClient id b.header).perform
      (.deliver (.packet m)) = some (⟨some .applied, events⟩, c)) :
    LaneStep ((r.host i s).updateClient id b.header) (.deliver (.packet m)) m.owner
      (r.lane i s m.owner) m.deed (c.host.store.lane m.owner) := by
  have orderly := (r.orderly i s).perform (a := .updateClient id b.header) rfl
  obtain ⟨d, step, accounts⟩ := (Chain.perform_stepped orderly done).lane m.owner
  obtain rfl := accounts.applied m rfl rfl rfl
  exact step

/-! ### What is ready to be relayed -/

/-- At a moment, the end of a side is open with terms that its chain can carry, and completed no
upgrade so far. -/
structure OpenEnd (r : Run) (i : Nat) (t : Terms) (owner : Side → EndId) (n : Sequence) (s : Side) :
    Prop where
  rests : t.Rests s (r.host i s)
  channel : (r.lane i s (owner s)).channel = some (t.endAt owner .opened n s)
  original : r.Original i s (owner s)

/-- The newest block of a chain at a moment, which shows what the chain kept at a moment before. -/
structure Newest (r : Run) (k i : Nat) (s : Side) (b : Block) : Prop where
  le : k ≤ i
  current : (r.world k s).Current b
  newest : (r.world i s).latestBlock? = some b

/-- A packet can be brought to the other end for the first time: both ends are open, the newest block
of the source chain was made since the packet was sent, the timeout is not reached, and an ordered
destination was handed all earlier packets. -/
structure Arriving (r : Run) (k i : Nat) (t : Terms) (owner : Side → EndId) (n : Side → Sequence)
    (s : Side) (p : Packet) (b : Block) : Prop where
  ends : ∀ u, r.OpenEnd i t owner (n u) u
  announced : p ∈ r.announced k s (owner s)
  block : r.Newest k i s b
  first : ∀ q ∈ r.delivered i s.other (owner s.other), q.sequence ≠ p.sequence
  earlier : t.ordering = .ordered → ∀ m, 0 < m → m < p.sequence →
    ∃ q ∈ r.delivered i s.other (owner s.other), q.sequence = m
  inTime : ∀ now, (r.host i s.other).now? = some now →
    p.timedOut (r.host i s.other).height now = false
  willing : (r.world i s.other).Willing (owner s.other).port
  room : (r.host i s.other).height.Room 1

/-- The acknowledgement of a packet can be brought back: the source end is open and the packet
unresolved, the newest block of the destination chain was made since the acknowledgement was written,
and on an ordered source all earlier packets were acknowledged. -/
structure Returning (r : Run) (k i : Nat) (t : Terms) (owner : Side → EndId) (n : Sequence)
    (s : Side) (p : Packet) (ack : Acknowledgement) (b : Block) : Prop where
  source : r.OpenEnd i t owner n s
  announced : p ∈ r.announced i s (owner s)
  unresolved : r.Unresolved i s p
  written : ∃ q, (q, ack) ∈ r.written k s.other p.destinationSlot
  block : r.Newest k i s.other b
  earlier : t.ordering = .ordered → ∀ m, 0 < m → m < p.sequence →
    ∃ q ∈ (r.history s i).acknowledged (owner s), q.sequence = m
  willing : (r.world i s).Willing (owner s).port
  room : (r.host i s).height.Room 1

/-! ### The way there -/

namespace OpenEnd

theorem exists_handle (there : r.OpenEnd i t owner n s) : ∃ cap,
    (r.world i s).capabilityOf (owner s) = .ok cap ∧
      (r.host i s).store.authenticate (owner s) cap = .ok () := by
  obtain ⟨cap, owns⟩ := exists_capability there.channel
  exact ⟨cap, owns, ChannelStore.authenticate_of_get owns⟩

theorem expects (there : r.OpenEnd i t owner n s) (positive : 0 < p.sequence)
    (first : ∀ q ∈ r.delivered i s (owner s), q.sequence ≠ p.sequence)
    (earlier : t.ordering = .ordered → ∀ m, 0 < m → m < p.sequence →
      ∃ q ∈ r.delivered i s (owner s), q.sequence = m) :
    (r.lane i s (owner s)).Expects t.ordering p.sequence := by
  by_cases ordered : t.ordering = .ordered
  · exact .inl ⟨ordered, nextRecv_of_ordered there.original there.channel ordered positive
      (earlier ordered) first⟩
  · have counter := nextRecv_of_unordered there.original there.channel ordered
    refine .inr ⟨ordered, ?_, 1, counter, ?_⟩
    · cases marked : (r.lane i s (owner s)).receipts p.sequence with
      | false => rfl
      | true =>
        obtain ⟨q, mem, number⟩ := delivered_of_receipt marked
        exact absurd number (first q mem)
    · have one : (1 : UInt64).toNat = 1 := rfl
      have zero : (0 : UInt64).toNat = 0 := rfl
      rw [UInt64.lt_iff_toNat_lt] at positive ⊢
      omega

theorem awaits (there : r.OpenEnd i t owner n s) (source : p.source = owner s)
    (positive : 0 < p.sequence) (unresolved : r.Unresolved i s p)
    (earlier : t.ordering = .ordered → ∀ m, 0 < m → m < p.sequence →
      ∃ q ∈ (r.history s i).acknowledged (owner s), q.sequence = m) :
    (r.lane i s (owner s)).Awaits t.ordering p.sequence := by
  intro ordered
  refine nextAck_of_ordered there.original there.channel ordered positive (earlier ordered) ?_
  intro q mem
  rw [← source] at mem
  exact unresolved q (History.resolved_of_acknowledged mem)

end OpenEnd

theorem Newest.holds {path : Path} {v : Bytes} (block : r.Newest k i s b)
    (value : (r.host k s).provableAt? path = some v) : b.Holds path v :=
  block.current.shows.holds (r.clean _ _ value) value

theorem Newest.provableAt?_eq {cs : ConsensusState} {path : Path} {v : Option Bytes}
    (block : r.Newest k i s b) (opens : cs.Opens .default b.proof path v) :
    v = (r.host k s).provableAt? path := by
  rw [← opens.value, block.current.shows.snapshot]
  exact Host.get?_snapshot r.clean path

/-- A packet that was not resolved when the newest block was made gets through. -/
theorem Arriving.exists_conveys {n : Side → Sequence} (arriving : r.Arriving k i t owner n s p b)
    (unresolved : r.Unresolved k s p) :
    ∃ w', (r.world i).Conveys s.other (t.conn s.other).client
        (fun e => .packet (.receive ⟨p, e⟩)) w' ∧
      (r.world i s.other).Told (w' s.other) p.destination.port (.receive p) := by
  obtain ⟨ends, announced, block, first, earlier, in_time, willing, room⟩ := arriving
  have source := source_of_announced announced
  have since := (announced_mono block.le).subset announced
  have destination := destination_of_announced since (ends s).channel rfl
  obtain ⟨positive, next, counted⟩ := sequence_of_announced announced
  rw [← source] at announced
  obtain ⟨c, commitment, stored⟩ := unresolved.exists_commitment announced
  have shown : b.Holds (.commitment p.sourceSlot) c := block.holds stored
  -- The destination hears of the block.
  let d := (r.world i s.other).mapHost fun h => h.updateClient (t.conn s.other).client b.header
  obtain ⟨cap, owns, authentic⟩ := (ends s.other).exists_handle
  have expected := (ends s.other).expects positive first earlier
  have channel := (ends s.other).channel
  rw [← destination] at owns authentic expected channel willing
  have knows : d.host.Knows (t.conn s.other) b.height b.header.consensus := thawed.knows
  obtain ⟨now, time⟩ := (room.mono (Nat.zero_le 1)).time
  rw [Height.later_zero] at time
  obtain ⟨out, step, new⟩ := Transfer.exists_receive (h := d.host) (s := s.other)
    ((ends s.other).rests.congr rfl) channel authentic (by rw [Side.other_other]; exact source) knows
    commitment shown time (in_time now time) expected counted
  obtain ⟨c', events, done, told⟩ := Chain.exists_perform_packet (c := d)
    (m := .receive ⟨p, b.evidence⟩) willing owns step new room
  refine ⟨(r.world i).put s.other c', World.conveys_put b events ?_ done, ?_⟩
  · rw [Side.other_other]
    exact block.newest
  · rw [World.put_self]
    exact told

/-- A packet can get through with the newest block only if that shows its commitment. -/
theorem Newest.commitment_of_conveys {id : ClientId} {w' : World} (block : r.Newest k i s b)
    (conveys : (r.world i).Conveys s.other id (fun e => .packet (.receive ⟨p, e⟩)) w') :
    ∃ c, Commitment.ofPacket? p = some c ∧
      (r.lane k s p.source).commitments p.sequence = some c := by
  obtain ⟨b', v, events, newest, ⟨d, heard, rfl⟩, c', done, -⟩ := conveys
  rw [Side.other_other] at newest
  obtain rfl : b = b' := Option.some.inj (block.newest.symm.trans newest)
  dsimp only at done
  rw [if_pos rfl] at done
  cases heard
  obtain ⟨-, m, x, same, -, guard⟩ := (laneStep_of_applied done).received
  cases same
  -- The proof is the block's own, so whatever root it was held against it shows what was kept.
  obtain ⟨time, c, commitment, hop, conn, cs, -, connection, -, -, opens⟩ := guard.committed
  have opened := opens _ List.mem_cons_self
  rw [label_eq (i := i) (s := s.other) connection] at opened
  exact ⟨c, commitment, (block.provableAt?_eq opened).symm⟩

/-! ### The way back -/

/-- An acknowledgement that was written gets back. -/
theorem Returning.exists_conveys (returning : r.Returning k i t owner n s p ack b) :
    ∃ w', (r.world i).Conveys s (t.conn s).client (fun e => .packet (.acknowledge ⟨p, ack, e⟩)) w' ∧
      (r.world i).Concludes t.ordering s p ack w' := by
  obtain ⟨source_end, announced, unresolved, ⟨q, written⟩, block, earlier, willing, room⟩ := returning
  have source := source_of_announced announced
  have destination := destination_of_announced announced source_end.channel rfl
  obtain ⟨positive, next, counted⟩ := sequence_of_announced announced
  have awaited := source_end.awaits source positive unresolved earlier
  obtain ⟨cap, owns, authentic⟩ := source_end.exists_handle
  have channel := source_end.channel
  rw [← source] at announced awaited owns authentic channel willing
  obtain ⟨c, commitment, committed⟩ := unresolved.exists_commitment announced
  have shown : b.Holds (.acknowledgement p.destinationSlot) (Commitment.ofAcknowledgement ack) :=
    block.holds (kept_of_written written)
  -- The source hears of the block.
  let d := (r.world i s).mapHost fun h => h.updateClient (t.conn s).client b.header
  have knows : d.host.Knows (t.conn s) b.height b.header.consensus := thawed.knows
  obtain ⟨out, step, new⟩ := Transfer.exists_acknowledge (h := d.host) (s := s)
    (source_end.rests.congr rfl) channel authentic destination knows commitment committed shown
    awaited counted
  obtain ⟨c', events, done, told⟩ := Chain.exists_perform_packet (c := d)
    (m := .acknowledge ⟨p, ack, b.evidence⟩) willing owns step new room
  have moved := laneStep_of_applied done
  obtain ⟨-, -, -, -, cleared⟩ := moved.resolved rfl
  obtain ⟨-, m, -, counter⟩ := exists_counters channel
  obtain ⟨m', counter', grown⟩ := moved.acknowledged_counter channel counter
  refine ⟨(r.world i).put s c', World.conveys_put b events ?_ done, ?_, ?_, ?_, ?_⟩
  · exact block.newest
  · rw [World.put_self]
    have none := congrFun cleared p.sequence
    rw [Function.update_self] at none
    exact none
  · rw [World.put_other]
    exact kept_of_written ((written_mono block.le).subset written)
  · rw [World.put_self]
    exact ⟨m, m', counter, counter', grown⟩
  · rw [World.put_self]
    exact told

/-! ### There and back -/

/-- Over a channel that was never upgraded, a packet gets through for the first time just if it was
unresolved when the newest block of its chain was made. And as long as it is unresolved, its
acknowledgement gets back, the source then has no commitment left, counts it if it is ordered, and
tells its application of the packet and the acknowledgement. -/
theorem round_trip (r : Run) (k i : Nat) (t : Terms) (owner : Side → EndId) (s : Side) (p : Packet)
    (b : Block) :
    (∀ n, r.Arriving k i t owner n s p b →
      ((∃ w', (r.world i).Conveys s.other (t.conn s.other).client
          (fun e => .packet (.receive ⟨p, e⟩)) w' ∧
        (r.world i s.other).Told (w' s.other) p.destination.port (.receive p)) ↔
          r.Unresolved k s p)) ∧
    ∀ n ack, r.Returning k i t owner n s p ack b →
      ∃ w', (r.world i).Conveys s (t.conn s).client
          (fun e => .packet (.acknowledge ⟨p, ack, e⟩)) w' ∧
        (r.world i).Concludes t.ordering s p ack w' := by
  refine ⟨fun n arriving => ⟨?_, arriving.exists_conveys⟩, fun n ack returning =>
    returning.exists_conveys⟩
  rintro ⟨w', conveys, -⟩
  obtain ⟨c, -, stored⟩ := arriving.block.commitment_of_conveys conveys
  exact .of_commitment stored

/-! ### A packet on its way, and back -/

theorem Original.ofPlay {e : EndId} {w : World} {l : List (Move × World)} {started : w.Started}
    {plays : w.Plays l} (none : ∀ x ∈ l, ∀ m, x.1.action ≠ .deliver (.upgrade m)) :
    (Run.ofPlay started plays).Original i s e := by
  rintro n ⟨j, -, a, x, happens, -⟩
  obtain ⟨m, rfl, -⟩ := happens.step.action_of_completed
  obtain ⟨rep, move, -⟩ := acts (happens.acts nofun)
  exact Run.forall_move (P := fun y => ∀ m, y.action ≠ .deliver (.upgrade m)) none move m rfl

end Run

namespace Passage

variable [Digest] {v : ChannelVersion} {data : Bytes} {k : Acknowledgement} {i : Nat} {s : Side}
  {e : EndId}

omit [Digest] in
theorem Site.current_grow {t : Site} {n : Nat} {l : ChannelStore} {calls : List Call}
    (here : (t.grow l calls).At n) (low : n < 9) :
    (t.grow l calls).chain.Current (t.grow l calls).top where
  newest := by
    rw [Chain.latestBlock?, Site.chain, Site.grow, ← List.cons_append, List.getLast?_concat]
    rfl
  shows := by
    have height := here.toNat_height low
    refine ⟨rfl, blockTime?_of_low (by omega), ?_⟩
    simp only [Site.top, Site.grow, block, Host.snapshot, Host.provable, Site.chain, Site.host,
      hostOf]

theorem original_direct (filled : data ≠ []) : (direct v data filled).Original i s e := by
  rw [direct, conveyed]
  apply Run.Original.ofPlay
  simp [opening, passing, hears]

theorem original_foreseen (filled : data ≠ []) (filled' : k ≠ []) :
    (foreseen v data k filled filled').Original i s e := by
  rw [foreseen, foregone]
  apply Run.Original.ofPlay
  simp [opening, foregoing, hears]

omit [Digest] in
theorem not_lt_packet {m : Sequence} (positive : 0 < m) : ¬ m < (packet data).sequence := by
  have one : (packet data).sequence.toNat = 1 := rfl
  have zero : (0 : UInt64).toNat = 0 := rfl
  rw [UInt64.lt_iff_toNat_lt] at positive ⊢
  omega

theorem openEnd_of_site {r : Run} {t : Site} {o : Order} (here : r.world i s = t.chain)
    (there : t.store.ends[owner]? = some (opened o v)) (original : r.Original i s owner) :
    r.OpenEnd i (terms o v) (fun _ => owner) 0 s where
  rests := by
    rw [Run.host, here]
    exact rests
  channel := by
    rw [Run.lane, Run.host, here]
    exact there
  original := original

theorem willing_of_site {r : Run} {t : Site} (here : r.world i s = t.chain) :
    (r.world i s).Willing port := by
  rw [here]
  exact ⟨app, _, Site.appOf_chain, fun _ _ => rfl⟩

theorem arriving_of_sites {r : Run} {l t : Site} {m n : Nat} {kept : ChannelStore}
    {calls : List Call} (left : r.world i .left = (l.grow kept calls).chain)
    (right : r.world i .right = t.chain) (here : (l.grow kept calls).At m) (there : t.At n)
    (low : m < 9) (low' : n < 9) (ends : kept.ends[owner]? = some (opened .ordered v))
    (ends' : t.store.ends[owner]? = some (opened .ordered v))
    (original : ∀ s, r.Original i s owner) (announced : packet data ∈ r.announced i .left owner)
    (none : t.calls.filterMap Call.received? = []) :
    r.Arriving i i (terms .ordered v) (fun _ => owner) (fun _ => 0) .left (packet data)
      (l.grow kept calls).top where
  ends := Side.forall_iff.2 ⟨openEnd_of_site left ends (original _),
    openEnd_of_site right ends' (original _)⟩
  announced := announced
  block := by
    have current := Site.current_grow here low
    rw [← left] at current
    exact ⟨Nat.le_refl i, current, current.newest⟩
  first := by
    intro q mem
    rw [Side.other, Run.delivered, right, Site.delivered_chain, none] at mem
    cases mem
  earlier := fun _ m positive below => absurd below (not_lt_packet positive)
  inTime := by
    intro now time
    have early := there.early low'
    rw [Side.other, Run.host, right] at time ⊢
    cases time.symm.trans early.time
    simp [Packet.timedOut, packet, early.before, TimeoutHeight.reachedAt]
  willing := willing_of_site right
  room := by
    rw [Side.other, Run.host, right]
    exact there.room_ahead low' (by decide)

theorem arriving_direct (filled : data ≠ []) :
    (direct v data filled).Arriving 9 9 (terms .ordered v) (fun _ => owner) (fun _ => 0) .left
      (packet data) (departed (leading .ordered v) (opened .ordered v) (commitment data)).top := by
  refine arriving_of_sites (t := following .ordered v) (m := 4) (n := 3) rfl rfl
    at_leading.put.grow at_following (by decide) (by decide) Shelf.ends_store Shelf.ends_store
    (fun _ => original_direct filled) ?_ rfl
  simp [Run.announced, Run.events, direct, conveyed, Run.ofPlay, opening, passing, hears, packet,
    Handshake.event, Event.sent?]

theorem arriving_foreseen (filled : data ≠ []) (filled' : k ≠ []) :
    (foreseen v data k filled filled').Arriving 12 12 (terms .ordered v) (fun _ => owner)
      (fun _ => 0) .left (packet data)
        (relieved (leading .ordered v) (following .ordered v) (opened .ordered v) (commitment data)
          (packet data) k).top := by
  refine arriving_of_sites (t := foreseeing (following .ordered v) (opened .ordered v) k) (m := 4)
    (n := 4) rfl rfl at_leading.put.hear.grow at_following.put.grow (by decide) (by decide)
    Shelf.ends_store Shelf.ends_store (fun _ => original_foreseen filled filled') ?_ rfl
  simp [Run.announced, Run.events, foreseen, foregone, Run.ofPlay, opening, foregoing, hears, packet,
    Handshake.event, Event.sent?]

theorem returning_foreseen (filled : data ≠ []) (filled' : k ≠ []) :
    (foreseen v data k filled filled').Returning 10 10 (terms .ordered v) (fun _ => owner) 0 .left
      (packet data) k (foreseeing (following .ordered v) (opened .ordered v) k).top where
  source := openEnd_of_site
    (t := (leading .ordered v).put (sent (opened .ordered v) (commitment data)).store) rfl
    Shelf.ends_store (original_foreseen filled filled')
  announced := by
    simp [Run.announced, Run.events, foreseen, foregone, Run.ofPlay, opening, foregoing, hears, packet,
      Handshake.event, Event.sent?]
  unresolved := .of_commitment (c := commitment data) Map.getElem?_single
  written := by
    refine ⟨packet data, ?_⟩
    simp [Run.written, Run.events, foreseen, foregone, Run.ofPlay, opening, foregoing, hears, packet,
      Handshake.event, Event.written?]
    rfl
  block := by
    have here : (foreseeing (following .ordered v) (opened .ordered v) k).At 4 :=
      at_following.put.grow
    have current := Site.current_grow here (by decide)
    exact ⟨Nat.le_refl 10, current, current.newest⟩
  earlier := fun _ m positive below => absurd below (not_lt_packet positive)
  willing := willing_of_site
    (t := (leading .ordered v).put (sent (opened .ordered v) (commitment data)).store) rfl
  room := at_leading.put.room_ahead (by decide) (by decide)

end Passage

/-- A packet gets through, and an answer gets back. -/
theorem Run.round_trip_ordered :
    letI : Digest := .plain
    let there := Passage.direct "ics20-1" [1] (by decide)
    let back := Passage.foreseen "ics20-1" [1] [2] (by decide) (by decide)
    (∃ w', (there.world 9).Conveys .right Passage.client
        (fun e => .packet (.receive ⟨Passage.packet [1], e⟩)) w' ∧
      (there.world 9 .right).Told (w' .right) Passage.port (.receive (Passage.packet [1]))) ∧
    ∃ w', (back.world 10).Conveys .left Passage.client
        (fun e => .packet (.acknowledge ⟨Passage.packet [1], [2], e⟩)) w' ∧
      (back.world 10).Concludes .ordered .left (Passage.packet [1]) [2] w' := by
  let _ : Digest := .plain
  have unresolved : (Passage.direct "ics20-1" [1] (by decide)).Unresolved 9 .left
      (Passage.packet [1]) := .of_commitment (c := Passage.commitment [1]) Map.getElem?_single
  exact ⟨((Run.round_trip _ 9 9 _ _ _ _ _).1 _ (Passage.arriving_direct (by decide))).2 unresolved,
    (Run.round_trip _ 10 10 _ _ _ _ _).2 _ _ (Passage.returning_foreseen (by decide) (by decide))⟩

/-- Once its sender took an answer, a packet that never arrived cannot arrive any more. -/
theorem Run.not_conveys_of_answered :
    letI : Digest := .plain
    let r := Passage.foreseen "ics20-1" [1] [2] (by decide) (by decide)
    (∃ b, r.Arriving 12 12 (Passage.terms .ordered "ics20-1") (fun _ => Passage.owner) (fun _ => 0)
      .left (Passage.packet [1]) b) ∧
    ¬ ∃ w', (r.world 12).Conveys .right Passage.client
      (fun e => .packet (.receive ⟨Passage.packet [1], e⟩)) w' := by
  let _ : Digest := .plain
  have arriving := @Passage.arriving_foreseen _ "ics20-1" [1] [2] (by decide) (by decide)
  refine ⟨⟨_, arriving⟩, ?_⟩
  rintro ⟨w', conveys⟩
  obtain ⟨c, -, stored⟩ := arriving.block.commitment_of_conveys (s := .left) conveys
  cases Map.getElem?_single.symm.trans stored

end Crosschain
