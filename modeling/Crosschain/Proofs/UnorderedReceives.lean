import Crosschain.Proofs.CommitmentBinding
import Crosschain.Proofs.NonInterference
import Crosschain.Proofs.PacketAcceptance
import Mathlib.Data.List.Nodup

/-!
# Receiving on an unordered end

Receiving a packet on an unordered end leaves two marks: its receipt, and the commitment to its
acknowledgement. Whether a packet is let in does not depend on the marks of other packets, and marks
of two packets can be made in either order. So packets can be received in any order, and what is
received again changes nothing.
-/

namespace Crosschain

/-! ### Marks -/

/-- What receiving packets on an unordered end changes. -/
structure Marks where
  receipts : Map Slot Unit
  acknowledgements : Map Slot Bytes

namespace Marks

variable [Digest]

/-- The commitment to an acknowledgement that is written at once; an empty one is not. -/
def prompt? (ack : Acknowledgement) : Option Bytes :=
  if ack.isEmpty then none else some (Commitment.ofAcknowledgement ack)

/-- The marks with those of one more packet. An acknowledgement that was written before stays. -/
def stamp (k : Marks) (slot : Slot) (ack : Acknowledgement) : Marks where
  receipts := k.receipts.insert slot ()
  acknowledgements :=
    match k.acknowledgements[slot]?, prompt? ack with
    | none, some c => k.acknowledgements.insert slot c
    | _, _ => k.acknowledgements

variable {k : Marks} {slot slot' : Slot} {ack ack' : Acknowledgement}

theorem getElem?_receipts_stamp (other : Slot) :
    (k.stamp slot ack).receipts[other]? = if slot = other then some () else k.receipts[other]? := by
  simp [stamp, Std.ExtTreeMap.getElem?_insert]

theorem getElem?_acknowledgements_stamp (other : Slot) :
    (k.stamp slot ack).acknowledgements[other]? =
      if slot = other then k.acknowledgements[other]?.or (prompt? ack)
      else k.acknowledgements[other]? := by
  by_cases same : slot = other
  · subst same
    rw [if_pos rfl, stamp]
    cases there : k.acknowledgements[slot]? with
    | some c => simp [there]
    | none => cases prompt? ack <;> simp [there]
  · rw [if_neg same, stamp]
    cases k.acknowledgements[slot]? with
    | some c => rfl
    | none => cases prompt? ack <;> simp [Std.ExtTreeMap.getElem?_insert, same]

/-- The marks of two packets can be made in either order. -/
theorem stamp_comm (apart : slot ≠ slot') :
    (k.stamp slot ack).stamp slot' ack' = (k.stamp slot' ack').stamp slot ack := by
  rw [Marks.mk.injEq]
  constructor
  · refine Std.ExtTreeMap.ext_getElem? fun other => ?_
    simp only [getElem?_receipts_stamp]
    split <;> split <;> rfl
  · refine Std.ExtTreeMap.ext_getElem? fun other => ?_
    simp only [getElem?_acknowledgements_stamp]
    split
    next second =>
      have first : slot ≠ other := second ▸ apart
      rw [if_neg first, if_neg first]
    next => rfl

end Marks

namespace ChannelStore

def marks (s : ChannelStore) : Marks := ⟨s.receipts, s.acknowledgements⟩

def withMarks (s : ChannelStore) (k : Marks) : ChannelStore :=
  { s with receipts := k.receipts, acknowledgements := k.acknowledgements }

end ChannelStore

/-! ### Letting a packet in -/

namespace Transfer

variable [Digest] {h : Host} {cap : Capability} {m : ReceivePacket}

theorem accept_withMarks (k : Marks) :
    accept (h.withStore (h.store.withMarks k)) cap m = accept h cap m := rfl

/-- Only the receipt of the packet itself tells whether an unordered end receives it. -/
theorem receive_of_accept {x : ChannelEnd} {next : Sequence} (unordered : x.ordering ≠ .ordered)
    (above : ¬ m.packet.sequence < next) (ok : accept h cap m = .ok (x, next)) :
    receive h cap m = .ok (if h.store.hasReceipt m.packet.destinationSlot then
      receivedAgain m.packet else received m.packet) := by
  rw [receive_eq, ok]
  simp only [bind, Except.bind, judge, if_neg above, if_neg unordered]
  split <;> rfl

theorem exists_accept {out : Output PacketChange} {x : ChannelEnd}
    (channel : h.store.ends[m.packet.destination]? = some x) (unordered : x.ordering ≠ .ordered)
    (ok : receive h cap m = .ok out) (new : out.result.noOp? = none) :
    ∃ next, accept h cap m = .ok (x, next) ∧ ¬ m.packet.sequence < next ∧
      h.store.hasReceipt m.packet.destinationSlot = false := by
  cases succeeds_of_receive ok with
  | receivedBefore => cases new
  | receivedInOrder letsIn ordered counted =>
    obtain rfl := Option.some.inj (channel.symm.trans letsIn.receivable.channel)
    exact absurd ordered unordered
  | received letsIn _ above fresh =>
    obtain rfl := Option.some.inj (channel.symm.trans letsIn.receivable.channel)
    exact ⟨_, accept_eq_ok.2 letsIn, above, fresh⟩

theorem applyPacket_received (s : ChannelStore) (p : Packet) :
    s.applyPacket (received p).result = s.withMarks (s.marks.stamp p.destinationSlot []) := by
  have silent : Marks.prompt? [] = none := rfl
  simp only [ChannelStore.applyPacket, received, ChannelStore.setReceipt, ChannelStore.withMarks,
    ChannelStore.marks, Marks.stamp, silent]
  cases s.acknowledgements[p.destinationSlot]? <;> rfl

theorem exists_answer {x : ChannelEnd} {next : Sequence} {ack : Acknowledgement}
    (ok : accept h cap m = .ok (x, next)) (nonempty : ack ≠ []) :
    ∃ written, writeAcknowledgement h cap m.packet ack = .ok written ∧
      (h.store.applyPacket (received m.packet).result).applyPacket written.result =
        h.store.withMarks (h.store.marks.stamp m.packet.destinationSlot ack) := by
  have serves := (accept_eq_ok.1 ok).receivable.serves
  cases there : h.store.acknowledgements[m.packet.destinationSlot]? with
  | some c =>
    refine ⟨_, writeAcknowledgement_eq_ok.2 (.before serves there), ?_⟩
    simp only [ChannelStore.applyPacket, received, noOp, ChannelStore.setReceipt,
      ChannelStore.withMarks, ChannelStore.marks, Marks.stamp, there]
  | none =>
    have commits : Marks.prompt? ack = some (Commitment.ofAcknowledgement ack) := by
      simp [Marks.prompt?, nonempty]
    refine ⟨_, writeAcknowledgement_eq_ok.2 (.written serves there nonempty), ?_⟩
    simp only [ChannelStore.applyPacket, received, ChannelStore.setReceipt,
      ChannelStore.setAcknowledgement, ChannelStore.withMarks, ChannelStore.marks, Marks.stamp,
      there, commits]

end Transfer

/-! ### One message -/

/-- The end that a packet is for is not ordered, and lets the packet in, which is not below its
receive counter. -/
def Host.Accepts [Digest] (h : Host) (m : ReceivePacket) : Prop :=
  ∃ cap x next, h.store.registry.get (.ofEnd m.packet.destination) = .ok cap ∧
    Transfer.accept h cap m = .ok (x, next) ∧ x.ordering ≠ .ordered ∧ ¬ m.packet.sequence < next

theorem Host.Accepts.withMarks [Digest] {h : Host} {m : ReceivePacket} (accepts : h.Accepts m)
    (k : Marks) : (h.withStore (h.store.withMarks k)).Accepts m := by
  obtain ⟨cap, x, next, handle, accepted, above⟩ := accepts
  exact ⟨cap, x, next, handle, (Transfer.accept_withMarks k).trans accepted, above⟩

namespace Chain

variable [Digest] {c d : Chain} {m : ReceivePacket} {id : ModuleId} {app : Application}

/-- A packet that is let in and has no receipt is applied, and leaves its marks. -/
theorem deliver_of_accepts (bound : c.appOf m.packet.destination.port = .ok (id, app))
    (accepts : c.host.Accepts m)
    (fresh : c.host.store.hasReceipt m.packet.destinationSlot = false) :
    ∃ r, c.deliver (.packet (.receive m)) =
      (.ok r, (c.tell id app (.receive m.packet)).mapStore fun s =>
        s.withMarks (s.marks.stamp m.packet.destinationSlot
          (app.reply (.receive m.packet)).acknowledgement)) ∧ r.outcome = .applied := by
  obtain ⟨cap, x, next, handle, accepted, unordered, above⟩ := accepts
  have ok : Transfer.receive c.host cap m = .ok (Transfer.received m.packet) := by
    rw [Transfer.receive_of_accept unordered above accepted, fresh]
    rfl
  have new : (Transfer.received m.packet).result.noOp? = none := rfl
  have willing : (app.reply (.receive m.packet)).refusal = none := rfl
  have after : (c.tell id app (.receive m.packet)).host.store = c.host.store := rfl
  by_cases empty : (app.reply (.receive m.packet)).acknowledgement = []
  · refine ⟨_, (Delivers.applied (m := .receive m) bound handle ok new willing
      (promptAck_eq_none.2 empty)).eq.trans (Prod.ext rfl ?_), rfl⟩
    simp only [mapStore, packetCall, after, Transfer.applyPacket_received, empty]
  · obtain ⟨written, answer, stored⟩ := Transfer.exists_answer accepted empty
    refine ⟨_, (Delivers.answered bound handle ok new empty answer).eq.trans (Prod.ext rfl ?_), rfl⟩
    simp only [mapStore, after, stored]

theorem deliver_of_receipt (bound : c.appOf m.packet.destination.port = .ok (id, app))
    (accepts : c.host.Accepts m) (there : c.host.store.hasReceipt m.packet.destinationSlot = true) :
    ∃ r, c.deliver (.packet (.receive m)) = (.ok r, c) ∧ r.outcome = .alreadyApplied := by
  obtain ⟨cap, x, next, handle, accepted, unordered, above⟩ := accepts
  have ok : Transfer.receive c.host cap m = .ok (Transfer.receivedAgain m.packet) := by
    rw [Transfer.receive_of_accept unordered above accepted, there]
    rfl
  exact ⟨_, (Delivers.repeated (m := .receive m) bound handle ok rfl).eq, rfl⟩

/-- A packet is let in, and an application is there to be told of it. -/
def Accepts (c : Chain) (m : ReceivePacket) : Prop :=
  (∃ id app, c.appOf m.packet.destination.port = .ok (id, app)) ∧ c.host.Accepts m

/-- A packet that is applied at an unordered end is let in, and had no receipt. -/
theorem accepts_of_applied {x : ChannelEnd} {r : DeliveryReceipt}
    (channel : c.host.store.ends[m.packet.destination]? = some x)
    (unordered : x.ordering ≠ .ordered)
    (done : (c.deliver (.packet (.receive m))).1 = .ok r) (applied : r.outcome = .applied) :
    c.Accepts m ∧ c.host.store.hasReceipt m.packet.destinationSlot = false := by
  have delivers := c.delivers (.packet (.receive m))
  rcases taken : c.deliver (.packet (.receive m)) with ⟨result, d⟩
  rw [taken] at done delivers
  obtain rfl : result = .ok r := done
  cases delivers with
  | repeated => cases applied
  | applied bound owns ok new | answered bound owns ok new =>
    obtain ⟨next, accepted, above, fresh⟩ := Transfer.exists_accept channel unordered ok new
    exact ⟨⟨⟨_, _, bound⟩, _, x, next, owns, accepted, unordered, above⟩, fresh⟩

/-! ### Many messages -/

/-- Takes one message about a received packet after the other: the outcomes of those that are not
refused, and the chain after all of them. -/
def receiveAll (c : Chain) : List ReceivePacket → List (Option Outcome) × Chain
  | [] => ([], c)
  | m :: ms =>
    let (r, d) := c.deliver (.packet (.receive m))
    let (outcomes, last) := d.receiveAll ms
    (r.toOption.map DeliveryReceipt.outcome :: outcomes, last)

theorem receiveAll_append (c : Chain) (l l' : List ReceivePacket) :
    c.receiveAll (l ++ l') = ((c.receiveAll l).1 ++ ((c.receiveAll l).2.receiveAll l').1,
      ((c.receiveAll l).2.receiveAll l').2) := by
  induction l generalizing c with
  | nil => rfl
  | cons m l ih => simp only [List.cons_append, receiveAll, ih]

/-- The application of a port acknowledges each packet by the packet alone. -/
def Answers (c : Chain) (port : PortId) (f : Packet → Acknowledgement) : Prop :=
  ∀ id app, c.appOf port = .ok (id, app) →
    ∀ history p, (app.policy history (.receive p)).acknowledgement = f p

end Chain

/-- The marks with those of many packets. -/
def Marks.stampAll [Digest] (f : Packet → Acknowledgement) (k : Marks) (l : List ReceivePacket) :
    Marks := l.foldl (fun k m => k.stamp m.packet.destinationSlot (f m.packet)) k

namespace Chain

/-- A chain that is like another one but for its marks and for what the application of a port was
told. -/
structure Marked (c : Chain) (port : PortId) (k : Marks) (d : Chain) : Prop where
  host : d.host = c.host.withStore (c.host.store.withMarks k)
  app : ∀ id a, c.appOf port = .ok (id, a) →
    ∃ b, d.appOf port = .ok (id, b) ∧ b.policy = a.policy

namespace Marked

variable [Digest] {c d : Chain} {port : PortId} {k : Marks} {f : Packet → Acknowledgement}
  {m : ReceivePacket} {l : List ReceivePacket}

theorem accepts (marked : c.Marked port k d) (letIn : c.host.Accepts m) : d.host.Accepts m := by
  rw [marked.host]
  exact letIn.withMarks k

omit [Digest] in
theorem hasReceipt (marked : c.Marked port k d) (slot : Slot) :
    d.host.store.hasReceipt slot = k.receipts[slot]?.isSome := by
  rw [marked.host]
  rfl

theorem step (marked : c.Marked port k d) (answers : c.Answers port f) (accepts : c.Accepts m)
    (here : m.packet.destination.port = port)
    (fresh : k.receipts[m.packet.destinationSlot]? = none) :
    ∃ r d', d.deliver (.packet (.receive m)) = (.ok r, d') ∧ r.outcome = .applied ∧
      c.Marked port (k.stamp m.packet.destinationSlot (f m.packet)) d' := by
  subst here
  obtain ⟨⟨id, a, bound⟩, letIn⟩ := accepts
  obtain ⟨b, bound', policy⟩ := marked.app id a bound
  have fresh' : d.host.store.hasReceipt m.packet.destinationSlot = false := by
    rw [marked.hasReceipt, fresh]
    rfl
  obtain ⟨r, done, applied⟩ := deliver_of_accepts bound' (marked.accepts letIn) fresh'
  have reply : (b.reply (.receive m.packet)).acknowledgement = f m.packet := by
    rw [← answers id a bound b.history m.packet, ← policy]
    rfl
  rw [reply] at done
  refine ⟨r, _, done, applied, ⟨?_, fun id' a' found => ?_⟩⟩
  · rw [mapStore, withStore, show (d.tell id b (.receive m.packet)).host = d.host from rfl,
      marked.host]
    rfl
  · obtain ⟨rfl, rfl⟩ := Prod.mk.inj (Except.ok.inj (bound.symm.trans found))
    refine ⟨b.after (.receive m.packet), ?_, policy⟩
    change (d.tell id b (.receive m.packet)).appOf m.packet.destination.port = _
    rw [appOf_tell (appOf_eq_ok.1 bound').2, bound']
    exact congrArg Except.ok (if_pos rfl)

theorem again (marked : c.Marked port k d) (accepts : c.Accepts m)
    (here : m.packet.destination.port = port)
    (there : k.receipts[m.packet.destinationSlot]? = some ()) :
    ∃ r, d.deliver (.packet (.receive m)) = (.ok r, d) ∧ r.outcome = .alreadyApplied := by
  subst here
  obtain ⟨⟨id, a, bound⟩, letIn⟩ := accepts
  obtain ⟨b, bound', policy⟩ := marked.app id a bound
  refine deliver_of_receipt bound' (marked.accepts letIn) ?_
  rw [marked.hasReceipt, there]
  rfl

/-- Packets that are let in, no two of them for one slot, are applied one after the other. -/
theorem steps (marked : c.Marked port k d) (answers : c.Answers port f)
    (accepts : ∀ m ∈ l, c.Accepts m) (here : ∀ m ∈ l, m.packet.destination.port = port)
    (distinct : (l.map fun m => m.packet.destinationSlot).Nodup)
    (fresh : ∀ m ∈ l, k.receipts[m.packet.destinationSlot]? = none) :
    (d.receiveAll l).1 = List.replicate l.length (some .applied) ∧
      c.Marked port (k.stampAll f l) (d.receiveAll l).2 := by
  induction l generalizing k d with
  | nil => exact ⟨rfl, marked⟩
  | cons m l ih =>
    simp only [List.forall_mem_cons, List.map_cons, List.nodup_cons] at accepts here distinct fresh
    obtain ⟨r, d', done, applied, marked'⟩ := marked.step answers accepts.1 here.1 fresh.1
    have fresh' : ∀ n ∈ l, (k.stamp m.packet.destinationSlot
        (f m.packet)).receipts[n.packet.destinationSlot]? = none := by
      intro n mem
      have apart : m.packet.destinationSlot ≠ n.packet.destinationSlot := by
        intro same
        exact distinct.1 (same ▸ List.mem_map_of_mem mem)
      rw [Marks.getElem?_receipts_stamp, if_neg apart]
      exact fresh.2 n mem
    obtain ⟨outcomes, rest⟩ := ih marked' accepts.2 here.2 distinct.2 fresh'
    simp only [receiveAll, done]
    refine ⟨?_, rest⟩
    rw [outcomes, List.length_cons, List.replicate_succ]
    simp [Except.toOption, applied]

theorem repeats (marked : c.Marked port k d) (accepts : ∀ m ∈ l, c.Accepts m)
    (here : ∀ m ∈ l, m.packet.destination.port = port)
    (there : ∀ m ∈ l, k.receipts[m.packet.destinationSlot]? = some ()) :
    d.receiveAll l = (List.replicate l.length (some .alreadyApplied), d) := by
  induction l with
  | nil => rfl
  | cons m l ih =>
    simp only [List.forall_mem_cons] at accepts here there
    obtain ⟨r, done, outcome⟩ := marked.again accepts.1 here.1 there.1
    simp only [receiveAll, done, ih accepts.2 here.2 there.2]
    simp [Except.toOption, outcome, List.replicate_succ]

end Marked

end Chain

namespace Marks

variable [Digest] {f : Packet → Acknowledgement} {k : Marks} {l l' : List ReceivePacket}

/-- The marks of packets for different slots do not depend on the order of the packets. -/
theorem stampAll_perm (order : l.Perm l')
    (distinct : (l.map fun m => m.packet.destinationSlot).Nodup) :
    k.stampAll f l = k.stampAll f l' := by
  refine order.foldl_eq' (fun m hm n hn k => ?_) k
  by_cases same : m.packet.destinationSlot = n.packet.destinationSlot
  · rw [List.inj_on_of_nodup_map distinct hm hn same]
  · exact stamp_comm same

theorem getElem?_receipts_stampAll {slot : Slot}
    (there : k.receipts[slot]? = some () ∨ slot ∈ l.map fun m => m.packet.destinationSlot) :
    (k.stampAll f l).receipts[slot]? = some () := by
  induction l generalizing k with
  | nil => exact there.resolve_right List.not_mem_nil
  | cons m l ih =>
    refine ih ?_
    rw [getElem?_receipts_stamp]
    rw [List.map_cons, List.mem_cons] at there
    obtain before | rfl | later := there
    · exact .inl (by rw [before, ite_self])
    · exact .inl (if_pos rfl)
    · exact .inr later

end Marks

/-- Messages about packets for an unordered end, no two with the same sequence and each of which
would be applied alone, are all applied in whatever order they come, and the chain keeps the same
after them. Messages that come again afterwards, in any order and number, change nothing. -/
theorem Chain.receives_commute [Digest] {c : Chain} {e : EndId} {x : ChannelEnd}
    {f : Packet → Acknowledgement} {ms : List ReceivePacket}
    (channel : c.host.store.ends[e]? = some x) (unordered : x.ordering = .unordered)
    (addressed : ∀ m ∈ ms, m.packet.destination = e)
    (distinct : (ms.map fun m => m.packet.sequence).Nodup)
    (alone : ∀ m ∈ ms, ∃ r, (c.deliver (.packet (.receive m))).1 = .ok r ∧ r.outcome = .applied)
    (answers : c.Answers e.port f) :
    ∀ l : List ReceivePacket, l.Perm ms → ∀ again : List ReceivePacket, again ⊆ ms →
      (c.receiveAll (l ++ again)).1 = List.replicate ms.length (some .applied) ++
        List.replicate again.length (some .alreadyApplied) ∧
      (c.receiveAll l).2.host = (c.receiveAll ms).2.host ∧
      (c.receiveAll (l ++ again)).2 = (c.receiveAll l).2 := by
  have notOrdered : x.ordering ≠ .ordered := by
    rw [unordered]
    decide
  have taken (m : ReceivePacket) (mem : m ∈ ms) :
      c.Accepts m ∧ c.host.store.hasReceipt m.packet.destinationSlot = false := by
    obtain ⟨r, done, applied⟩ := alone m mem
    exact accepts_of_applied (by rw [addressed m mem]; exact channel) notOrdered done applied
  have here (m : ReceivePacket) (mem : m ∈ ms) : m.packet.destination.port = e.port := by
    rw [addressed m mem]
  have fresh (m : ReceivePacket) (mem : m ∈ ms) :
      c.host.store.marks.receipts[m.packet.destinationSlot]? = none :=
    Option.isNone_iff_eq_none.1 (Option.isSome_eq_false_iff.1 (taken m mem).2)
  have slots : (ms.map fun m => m.packet.destinationSlot).Nodup := by
    refine List.Nodup.of_map Slot.sequence ?_
    rw [List.map_map]
    exact distinct
  have start : c.Marked e.port c.host.store.marks c := ⟨rfl, fun id a bound => ⟨a, bound, rfl⟩⟩
  have delivered (l : List ReceivePacket) (order : l.Perm ms) :=
    start.steps answers (fun m mem => (taken m (order.mem_iff.1 mem)).1)
      (fun m mem => here m (order.mem_iff.1 mem)) ((order.map _).nodup_iff.2 slots)
      (fun m mem => fresh m (order.mem_iff.1 mem))
  intro l order again more
  obtain ⟨outcomes, marked⟩ := delivered l order
  obtain ⟨-, original⟩ := delivered ms (.refl ms)
  have repeated := marked.repeats (fun m mem => (taken m (more mem)).1)
    (fun m mem => here m (more mem)) fun m mem => Marks.getElem?_receipts_stampAll
      (.inr (List.mem_map_of_mem (order.mem_iff.2 (more mem))))
  rw [receiveAll_append, outcomes, repeated, order.length_eq]
  refine ⟨rfl, ?_, rfl⟩
  rw [marked.host, original.host, Marks.stampAll_perm order ((order.map _).nodup_iff.2 slots)]

section Listening

attribute [local instance] Digest.plain

namespace Passage

/-- A packet of the other end, which holds its sequence. -/
def numbered (n : Sequence) : Packet := ⟨n, owner, owner, Word.bytes n, .never, .ofNanoseconds 0⟩

def promised (n : Sequence) : Bytes :=
  Digest.hash (Commitment.packetInput (Word.bytes n) .never 0)

def sending : Block :=
  ⟨⟨0, 5⟩, .ofNanoseconds 7, (hostOf 5 none { ChannelStore.empty with
    commitments := (Map.single ⟨owner, 1⟩ (some (promised 1))).insert ⟨owner, 2⟩ (promised 2)
  }).snapshot⟩

def unorderedEnd : ChannelEnd := .ofParts .opened .unordered (.ofEnd owner) [hop] "v"

/-- A chain that knows the block, with an application that acknowledges at once. -/
def listening : Chain where
  host := hostOf 3 (some (.ofHeader sending.header)) (Shelf.fresh unorderedEnd).store
  window := 10
  blocks := []
  bindings := .single port (some app)
  apps := .single app (some ⟨[], .recording [9] false⟩)

def arriving (n : Sequence) : ReceivePacket := ⟨numbered n, ⟨sending.proof, none, sending.height⟩⟩

theorem accepts_listening {n : Sequence} (sent : n = 1 ∨ n = 2) :
    listening.host.Accepts (arriving n) := by
  have knows : listening.host.Knows connection sending.height sending.header.consensus :=
    ⟨.ofHeader sending.header, Map.getElem?_single, rfl, Std.ExtTreeMap.getElem?_insert_self⟩
  have clean : (Path.commitment ⟨owner, n⟩).Clean :=
    ⟨show '/' ∉ port.text.toList by decide, Identifier.slash_notMem_channel 0⟩
  have holds : sending.snapshot.get? (connection.peer.label.key (.commitment ⟨owner, n⟩)) =
      some (promised n) := by
    rw [show connection.peer.label = .default from rfl, sending,
      Host.get?_snapshot_of_clean clean]
    obtain rfl | rfl := sent
    · simp [Host.provableAt?, hostOf, Std.ExtTreeMap.getElem?_insert]
    · simp [Host.provableAt?, hostOf]
  have shown : listening.host.provesPacket connection (numbered n)
      ⟨sending.proof, none, sending.height⟩ = .ok () :=
    Host.provesPacket_of_block knows (Commitment.ofPacket?_of_time rfl) holds
  have inTime : Transfer.ensureInTime listening.host (numbered n) = .ok () :=
    Transfer.ensureInTime_of_before (Early.of_low (n := 3) (by decide)).time rfl
  have connects : listening.host.openConnection unorderedEnd = .ok connection :=
    Site.openConnection_host rfl
  have letsIn : Transfer.LetsIn listening.host handle (arriving n) unorderedEnd 1 := {
    receivable := ⟨Shelf.ends_store, Shelf.authenticate_store, rfl, rfl,
      fun same => (by cases same), _, connects⟩
    inTime := inTime
    shown := ⟨connection, connects, shown⟩
    counter := Shelf.nextRecv_store }
  refine ⟨handle, unorderedEnd, 1, ?_, Transfer.accept_eq_ok.2 letsIn, by decide, ?_⟩
  · simp [listening, hostOf, Shelf.store, arriving, numbered, Registry.get, handle]
  · obtain rfl | rfl := sent <;> decide

theorem appOf_listening : listening.appOf port = .ok (app, ⟨[], .recording [9] false⟩) :=
  Chain.appOf_eq_ok.2 ⟨Map.getElem?_single, Map.getElem?_single⟩

theorem applied_listening {n : Sequence} (sent : n = 1 ∨ n = 2) :
    ∃ r, (listening.deliver (.packet (.receive (arriving n)))).1 = .ok r ∧
      r.outcome = .applied := by
  obtain ⟨r, done, applied⟩ :=
    Chain.deliver_of_accepts appOf_listening (accepts_listening sent) rfl
  exact ⟨r, congrArg Prod.fst done, applied⟩

end Passage

/-- Two packets for an unordered end, the second one first, and then both of them again. -/
theorem Chain.receives_commute_two :
    let c := Passage.listening
    let first := Passage.arriving 1
    let second := Passage.arriving 2
    (c.receiveAll [second, first, first, second, first]).1 =
      [some .applied, some .applied, some .alreadyApplied, some .alreadyApplied,
        some .alreadyApplied] ∧
    (c.receiveAll [second, first]).2.host = (c.receiveAll [first, second]).2.host ∧
    (c.receiveAll [second, first, first, second, first]).2 =
      (c.receiveAll [second, first]).2 := by
  intro c first second
  have channel : c.host.store.ends[Passage.owner]? = some Passage.unorderedEnd :=
    Map.getElem?_single
  have addressed : ∀ m ∈ [first, second], m.packet.destination = Passage.owner := by
    simp [first, second, Passage.arriving, Passage.numbered]
  have distinct : ([first, second].map fun m => m.packet.sequence).Nodup := by
    simp [first, second, Passage.arriving, Passage.numbered]
  have alone : ∀ m ∈ [first, second],
      ∃ r, (c.deliver (.packet (.receive m))).1 = .ok r ∧ r.outcome = .applied := by
    simp only [List.forall_mem_cons]
    exact ⟨Passage.applied_listening (.inl rfl), Passage.applied_listening (.inr rfl), by simp⟩
  have answers : c.Answers Passage.owner.port fun _ => [9] := by
    intro id a bound history p
    obtain ⟨rfl, rfl⟩ := Prod.mk.inj (Except.ok.inj (Passage.appOf_listening.symm.trans bound))
    rfl
  exact Chain.receives_commute channel rfl addressed distinct alone answers [second, first]
    (List.Perm.swap first second []) [first, second, first] (by simp)

end Listening

end Crosschain
