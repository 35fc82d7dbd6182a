import Mathlib.Data.List.Forall2
import Crosschain.Proofs.Pairing

/-!
# Packets on their way

Announced packets are numbered one after the other, each stored commitment is that of an announced
packet, and a packet is handed over only against a commitment. A commitment binds the data, the
timeout height and how many nanoseconds the timeout time counts; the rest of a packet is bound by the
place of the commitment and by whom the two ends name. So what is handed over was announced, up to
times that count the same nanoseconds. Times that are built from nanoseconds are told apart by them.
Others are not: the first moment of all counts none, as no time does, and a leap second counts like
the second after it.
-/

namespace Crosschain

/-! ### Commitments -/

theorem TimeoutHeight.committed_injective {t u : TimeoutHeight} (ht : t.reachedAt ⟨0, 0⟩ = false)
    (hu : u.reachedAt ⟨0, 0⟩ = false) (h : t.committed = u.committed) : t = u := by
  have zero : ¬ TimeoutHeight.reachedAt (.atHeight ⟨0, 0⟩) ⟨0, 0⟩ = false := by decide
  cases t with
  | never =>
    cases u with
    | never => rfl
    | atHeight b =>
      simp only [committed] at h
      rw [← h] at hu
      exact absurd hu zero
  | atHeight a =>
    cases u with
    | never =>
      simp only [committed] at h
      rw [h] at ht
      exact absurd ht zero
    | atHeight b => exact congrArg _ h

/-- Two packets that are equal but for their times, which count the same nanoseconds. -/
structure Packet.Alike (p q : Packet) : Prop where
  sequence : p.sequence = q.sequence
  source : p.source = q.source
  destination : p.destination = q.destination
  data : p.data = q.data
  timeoutHeight : p.timeoutHeight = q.timeoutHeight
  timeoutTime : ∃ n, p.timeoutTime.nanoseconds? = some n ∧ q.timeoutTime.nanoseconds? = some n

namespace Packet.Alike

variable {p q q' : Packet}

theorem eq (alike : p.Alike q) (time : p.timeoutTime = q.timeoutTime) : p = q := by
  obtain ⟨n, source, destination, data, height, stamp⟩ := p
  obtain ⟨rfl, rfl, rfl, rfl, rfl, -⟩ := alike
  cases time
  rfl

/-- Packets that are both like a third one are like each other. -/
theorem of_both (alike : p.Alike q') (alike' : q.Alike q') : p.Alike q := by
  obtain ⟨n, count, same⟩ := alike.timeoutTime
  obtain ⟨k, count', same'⟩ := alike'.timeoutTime
  obtain rfl := Option.some.inj (same.symm.trans same')
  exact ⟨alike.sequence.trans alike'.sequence.symm, alike.source.trans alike'.source.symm,
    alike.destination.trans alike'.destination.symm, alike.data.trans alike'.data.symm,
    alike.timeoutHeight.trans alike'.timeoutHeight.symm, n, count, count'⟩

end Packet.Alike

theorem Word.bytes_append_injective {a b : UInt64} {l l' : Bytes}
    (h : Word.bytes a ++ l = Word.bytes b ++ l') : a = b ∧ l = l' := by
  obtain ⟨word, rest⟩ := List.append_inj h (by rw [length_bytes, length_bytes])
  exact ⟨bytes_injective word, rest⟩

theorem Commitment.packetInput_injective [Digest] {data data' : Bytes} {t t' : TimeoutHeight}
    {n n' : UInt64} (h : packetInput data t n = packetInput data' t' n') :
    n = n' ∧ t.committed = t'.committed ∧ Digest.hash data = Digest.hash data' := by
  simp only [packetInput, List.append_assoc] at h
  obtain ⟨time, rest⟩ := Word.bytes_append_injective h
  obtain ⟨revision, rest⟩ := Word.bytes_append_injective rest
  obtain ⟨height, hash⟩ := Word.bytes_append_injective rest
  rw [Height.mk.injEq]
  exact ⟨time, ⟨revision, height⟩, hash⟩

theorem TimeoutHeight.ahead_of_zero {t : TimeoutHeight} {h : Height}
    (before : t.reachedAt h = false) : t.reachedAt ⟨0, 0⟩ = false := by
  cases t with
  | never => rfl
  | atHeight limit =>
    simp only [reachedAt, decide_eq_false_iff_not] at before ⊢
    exact fun le => before (Height.le_trans le (Height.zero_le h))

theorem ahead_of_properHeights {a : Action} {p : Packet} (proper : a.ProperHeights)
    (asked : a.outgoing? = some p.outgoing) : p.timeoutHeight.reachedAt ⟨0, 0⟩ = false := by
  cases limit : p.timeoutHeight with
  | never => rfl
  | atHeight bound =>
    have positive := proper _ bound asked limit
    simp only [TimeoutHeight.reachedAt, decide_eq_false_iff_not]
    intro le
    rw [Height.eq_zero_of_le le] at positive
    exact positive rfl

/-! ### Numbered packets -/

/-- Packets are numbered from one on, up to a counter that starts at one. -/
structure Numbered (counter : Option Sequence) (packets : List Packet) : Prop where
  none : counter = none → packets = []
  some : ∀ n, counter = some n → n.toNat = packets.length + 1
  numbers : ∀ k (h : k < packets.length), packets[k].sequence.toNat = k + 1

namespace Numbered

variable {counter : Option Sequence} {packets : List Packet} {p q : Packet}

theorem nil : Numbered .none [] := by
  constructor
  · intro _
    rfl
  · intro n counter
    cases counter
  · intro k h
    cases h

theorem start (numbered : Numbered counter packets) (absent : counter = .none) :
    Numbered (.some 1) packets := by
  obtain rfl := numbered.none absent
  constructor
  · intro none
    cases none
  · intro n one
    cases one
    rfl
  · intro k h
    cases h

theorem push {next : Sequence} (numbered : Numbered counter packets)
    (here : counter = .some p.sequence) (counted : Word.add? p.sequence 1 = .some next) :
    Numbered (.some next) (packets ++ [p]) := by
  have last := numbered.some _ here
  have sum := Word.add?_eq_some_iff.1 counted
  have one : (1 : UInt64).toNat = 1 := rfl
  constructor
  · intro none
    cases none
  · intro n there
    cases there
    rw [List.length_append, List.length_singleton]
    omega
  · intro k h
    rw [List.length_append, List.length_singleton] at h
    rw [List.getElem_append]
    split
    next old => exact numbered.numbers k old
    next new =>
      rw [List.getElem_singleton]
      omega

theorem unique (numbered : Numbered counter packets) (hp : p ∈ packets) (hq : q ∈ packets)
    (number : p.sequence = q.sequence) : p = q := by
  obtain ⟨m, hm, rfl⟩ := List.mem_iff_getElem.1 hp
  obtain ⟨n, hn, rfl⟩ := List.mem_iff_getElem.1 hq
  have first := numbered.numbers m hm
  have second := numbered.numbers n hn
  rw [number, second] at first
  obtain rfl : m = n := by omega
  rfl

theorem nodup (numbered : Numbered counter packets) : packets.Nodup := by
  rw [List.nodup_iff_pairwise_ne, List.pairwise_iff_getElem]
  intro m n hm hn lt same
  have first := numbered.numbers m hm
  have second := numbered.numbers n hn
  rw [same, second] at first
  omega

theorem filter_sequence (numbered : Numbered counter packets) (hp : p ∈ packets) :
    (packets.filter fun q => q.sequence = p.sequence) = [p] := by
  have only : ∀ q ∈ packets.filter (fun q => q.sequence = p.sequence), q = p := by
    intro q hq
    obtain ⟨mem, number⟩ := List.mem_filter.1 hq
    exact numbered.unique mem hp (by simpa using number)
  have there : p ∈ packets.filter fun q => q.sequence = p.sequence :=
    List.mem_filter.2 ⟨hp, by simp⟩
  have single := numbered.nodup.filter fun q => q.sequence = p.sequence
  generalize (packets.filter fun q => q.sequence = p.sequence) = found at only there single
  rcases found with _ | ⟨q, _ | ⟨q', rest⟩⟩
  · cases there
  · rw [only q List.mem_cons_self]
  · have first := only q List.mem_cons_self
    have second := only q' (List.mem_cons_of_mem _ List.mem_cons_self)
    rw [first, second] at single
    simp at single

/-- Numbered packets that each go with one of the same number among others go with the first ones
there. -/
theorem exists_beginning {R : Packet → Packet → Prop} {counter' : Option Sequence}
    {packets' : List Packet} (numbered : Numbered counter packets)
    (numbered' : Numbered counter' packets')
    (sub : ∀ p ∈ packets, ∃ q ∈ packets', p.sequence = q.sequence ∧ R p q) :
    ∃ l, l <+: packets' ∧ List.Forall₂ R packets l := by
  have place (k : Nat) (h : k < packets.length) : ∃ h' : k < packets'.length,
      R packets[k] packets'[k] := by
    obtain ⟨q, mem, number, goes⟩ := sub _ (List.getElem_mem h)
    obtain ⟨m, hm, rfl⟩ := List.mem_iff_getElem.1 mem
    have first := numbered.numbers k h
    have second := numbered'.numbers m hm
    rw [number, second] at first
    obtain rfl : k = m := by omega
    exact ⟨hm, goes⟩
  have long : packets.length ≤ packets'.length := by
    by_contra longer
    obtain ⟨h', -⟩ := place packets'.length (by omega)
    omega
  refine ⟨packets'.take packets.length, List.take_prefix _ _, List.forall₂_iff_get.2 ⟨?_, ?_⟩⟩
  · rw [List.length_take, Nat.min_eq_left long]
  · intro k h h'
    simpa using (place k h).2

theorem isPrefix {counter' : Option Sequence} {packets' : List Packet}
    (numbered : Numbered counter packets) (numbered' : Numbered counter' packets')
    (sub : ∀ p ∈ packets, p ∈ packets') : packets <+: packets' := by
  obtain ⟨l, first, same⟩ := numbered.exists_beginning (R := Eq) numbered'
    fun p mem => ⟨p, sub p mem, rfl, rfl⟩
  rw [List.forall₂_eq_eq_eq] at same
  rwa [same]

end Numbered

/-! ### What steps of a lane do to packets -/

section Steps

variable [Digest] {h : Host} {a : Action} {e : EndId} {l l' : Lane} {d : Deed}

theorem LaneStep.sent {p : Packet} (step : LaneStep h a e l (.sent p) l') :
    a.outgoing? = some p.outgoing ∧ p.source = e ∧ p.timeoutHeight.reachedAt ⟨0, 0⟩ = false ∧
      (∃ x, l.channel = some x ∧ x.state.allowsPackets ∧ x.peer = .ofEnd p.destination) ∧
      l.nextSend = some p.sequence ∧
      ∃ next, Word.add? p.sequence 1 = some next ∧ l'.nextSend = some next := by
  cases step with
  | send _ cap m x peer n next c _ action owner channel state order named counter counted packet
      ahead =>
    subst packet
    rw [owner, action]
    exact ⟨rfl, rfl, ahead, ⟨x, channel, state, named⟩, counter, next, counted, rfl⟩

theorem LaneStep.received {p : Packet} (step : LaneStep h a e l (.received p) l') :
    e = p.destination ∧ ∃ m x, a = .deliver (.packet (.receive m)) ∧ m.packet = p ∧
      l.Receives h m x := by
  cases step with
  | receiveOrdered _ m x next acks action owner guard => exact ⟨owner, m, x, action, rfl, guard⟩
  | receiveUnordered _ m x next acks action owner guard =>
    exact ⟨owner, m, x, action, rfl, guard⟩

theorem LaneStep.counter (step : LaneStep h a e l d l')
    (before : l.channel ≠ none → l.nextSend ≠ none) :
    l'.channel ≠ none → l'.nextSend ≠ none := by
  cases step with
  | idle => exact before
  | openInit => simp
  | openTry => simp
  | send => simp
  | receiveOrdered _ m x next acks action owner guard =>
    intro _
    exact before (by simp [guard.channel])
  | receiveUnordered _ m x next acks action owner guard =>
    intro _
    exact before (by simp [guard.channel])
  | reply _ m x fields n action owner guard =>
    intro _
    exact before (by simp [guard.channel])
  | cross _ m x fields own action owner guard =>
    intro _
    exact before (by simp [guard.channel])
  | _ =>
    intro _
    exact before (by simp_all)

theorem LaneStep.nextSend (step : LaneStep h a e l d l') (quiet : d.sent? = none) :
    l'.nextSend = l.nextSend ∨ l.nextSend = none ∧ l'.nextSend = some 1 := by
  cases step with
  | send => cases quiet
  | openInit => exact .inr ⟨rfl, rfl⟩
  | openTry => exact .inr ⟨rfl, rfl⟩
  | _ => exact .inl rfl

theorem LaneStep.nextRecv (step : LaneStep h a e l d l')
    (ordered : ∀ x, l.channel = some x → x.ordering = .ordered) :
    d.received? = none ∧
        (l'.nextRecv = l.nextRecv ∨ l.nextRecv = none ∧ l'.nextRecv = some 1) ∨
      ∃ p next, d = .received p ∧ l.nextRecv = some p.sequence ∧
        Word.add? p.sequence 1 = some next ∧ l'.nextRecv = some next := by
  have resets {x : ChannelEnd} {f : UpgradeFields} {nextRecv nextAck : Option Sequence}
      (channel : l.channel = some x) (resets : l.Resets x f nextRecv nextAck) :
      nextRecv = l.nextRecv := by
    obtain ⟨-, same, -⟩ | ⟨-, unordered, -⟩ := resets
    · exact same
    · exact absurd (ordered x channel) unordered
  cases step with
  | openInit => exact .inl ⟨rfl, .inr ⟨rfl, rfl⟩⟩
  | openTry => exact .inl ⟨rfl, .inr ⟨rfl, rfl⟩⟩
  | receiveOrdered _ m x next acks action owner guard ordering counter counted =>
    exact .inr ⟨m.packet, next, rfl, counter, counted, rfl⟩
  | receiveUnordered _ m x next acks action owner guard unordered =>
    exact absurd (ordered x guard.channel) unordered
  | confirm _ m x own nextRecv nextAck action owner channel state upgrade shown reset =>
    exact .inl ⟨rfl, .inl (resets channel reset)⟩
  | finish _ m x own nextRecv nextAck action owner channel state upgrade shown reset =>
    exact .inl ⟨rfl, .inl (resets channel reset)⟩
  | _ => exact .inl ⟨rfl, .inl rfl⟩

omit [Digest] in
theorem stored_of_erased {f : Sequence → Option Bytes} {m n : Sequence} {c : Bytes}
    (stored : Function.update f m none n = some c) : f n = some c := by
  by_cases same : n = m
  · simp [same] at stored
  · rwa [Function.update_of_ne same] at stored

theorem LaneStep.commitments {n : Sequence} {c : Bytes} (step : LaneStep h a e l d l')
    (stored : l'.commitments n = some c) :
    l.commitments n = some c ∨
      ∃ p, d = .sent p ∧ p.sequence = n ∧ Commitment.ofPacket? p = some c := by
  cases step with
  | send _ cap m x peer k next b p action owner channel state order named counter counted packet
      ahead commitment =>
    dsimp only at stored
    by_cases same : n = k
    · subst same
      simp only [Function.update_self, Option.some.injEq] at stored
      subst stored
      exact .inr ⟨p, rfl, by rw [packet], commitment⟩
    · exact .inl (by rwa [Function.update_of_ne same] at stored)
  | acknowledge => exact .inl (stored_of_erased stored)
  | timeoutOrdered => exact .inl (stored_of_erased stored)
  | timeoutUnordered => exact .inl (stored_of_erased stored)
  | openInit => cases stored
  | openTry => cases stored
  | _ => exact .inl stored

end Steps

namespace Run

variable [Digest] {r : Run} {i j : Nat} {s : Side} {e d : EndId} {p q : Packet}

/-! ### Moments of packets -/

theorem exists_sent (mem : p ∈ r.announced i s e) : ∃ j < i, ∃ a, r.Happens j s e a (.sent p) := by
  induction i with
  | zero => cases mem
  | succ i ih =>
    obtain ⟨a, deed, happens⟩ := r.happens i s e
    rw [happens.announced] at mem
    rcases List.mem_append.1 mem with mem | mem
    · obtain ⟨j, lt, found⟩ := ih mem
      exact ⟨j, Nat.lt_succ_of_lt lt, found⟩
    · refine ⟨i, Nat.lt_succ_self i, a, ?_⟩
      cases deed with
      | sent p' =>
        obtain rfl := List.mem_singleton.1 mem
        exact happens
      | _ => cases mem

theorem exists_received (mem : p ∈ r.delivered i s e) :
    ∃ j < i, ∃ a, r.Happens j s e a (.received p) := by
  induction i with
  | zero =>
    rw [delivered_zero] at mem
    cases mem
  | succ i ih =>
    obtain ⟨a, deed, happens⟩ := r.happens i s e
    rw [happens.delivered] at mem
    rcases List.mem_append.1 mem with mem | mem
    · obtain ⟨j, lt, found⟩ := ih mem
      exact ⟨j, Nat.lt_succ_of_lt lt, found⟩
    · refine ⟨i, Nat.lt_succ_self i, a, ?_⟩
      cases deed with
      | received p' =>
        obtain rfl := List.mem_singleton.1 mem
        exact happens
      | _ => cases mem

/-! ### Numbers of announced packets -/

theorem numbered : Numbered (r.lane i s e).nextSend (r.announced i s e) := by
  induction i with
  | zero =>
    rw [lane_zero]
    exact .nil
  | succ i ih =>
    obtain ⟨a, deed, happens⟩ := r.happens i s e
    rw [happens.announced]
    by_cases quiet : deed.sent? = none
    · rw [quiet, Option.toList_none, List.append_nil]
      rcases happens.step.nextSend quiet with same | ⟨absent, start⟩
      · rw [same]
        exact ih
      · rw [start]
        exact ih.start absent
    · cases deed with
      | sent p =>
        obtain ⟨-, -, -, -, counter, next, counted, after⟩ := happens.step.sent
        rw [after]
        exact ih.push counter counted
      | _ => exact absurd rfl quiet

theorem announced_unique (hp : p ∈ r.announced i s e) (hq : q ∈ r.announced j s e)
    (number : p.sequence = q.sequence) : p = q := by
  have hp' := (announced_mono (Nat.le_max_left i j)).subset hp
  have hq' := (announced_mono (Nat.le_max_right i j)).subset hq
  exact r.numbered.unique hp' hq' number

/-! ### Commitments stand for announced packets -/

theorem exists_announced {n : Sequence} {c : Bytes}
    (stored : (r.lane i s e).commitments n = some c) :
    ∃ p ∈ r.announced i s e, p.sequence = n ∧ Commitment.ofPacket? p = some c := by
  induction i with
  | zero =>
    rw [lane_zero] at stored
    cases stored
  | succ i ih =>
    obtain ⟨a, deed, happens⟩ := r.happens i s e
    rw [happens.announced]
    rcases happens.step.commitments stored with before | ⟨p, rfl, number, commitment⟩
    · obtain ⟨p, mem, found⟩ := ih before
      exact ⟨p, List.mem_append_left _ mem, found⟩
    · exact ⟨p, List.mem_append_right _ List.mem_cons_self, number, commitment⟩

/-! ### Times of packets -/

/-- A packet with a time is asked for or told of in a run. -/
def NamesTime (r : Run) (t : Timestamp) : Prop :=
  ∃ i s a m, r.action? i s = some a ∧ a.outgoing? = some m ∧ m.timeoutTime = t

/-- The times of the packets in a run are told apart by the nanoseconds they count. -/
def TimesApart (r : Run) : Prop :=
  ∀ n t u, r.NamesTime t → r.NamesTime u → t.nanoseconds? = some n → u.nanoseconds? = some n → t = u

theorem TimesApart.of_timed (timed : ∀ i m, r.move i = some m → m.action.Timed) :
    r.TimesApart := by
  have built {n : UInt64} {t : Timestamp} (names : r.NamesTime t) (count : t.nanoseconds? = some n) :
      t = .ofNanoseconds n := by
    obtain ⟨i, s, a, m, action, asked, rfl⟩ := names
    obtain ⟨rep, move, -⟩ := acts action
    obtain ⟨k, time⟩ := timed i _ move m asked
    rw [time, Timestamp.nanoseconds?_ofNanoseconds] at count
    cases count
    exact time
  intro n t u names names' count count'
  rw [built names count, built names' count']

theorem TimesApart.eq (apart : r.TimesApart) (alike : p.Alike q) (names : r.NamesTime p.timeoutTime)
    (names' : r.NamesTime q.timeoutTime) : p = q := by
  obtain ⟨n, count, count'⟩ := alike.timeoutTime
  exact alike.eq (apart n _ _ names names' count count')

theorem namesTime_of_announced (mem : p ∈ r.announced i s e) : r.NamesTime p.timeoutTime := by
  obtain ⟨j, -, a, sending⟩ := exists_sent mem
  exact ⟨j, s, a, p.outgoing, sending.acts (by simp), sending.step.sent.1, rfl⟩

theorem namesTime_of_delivered (mem : p ∈ r.delivered i s e) : r.NamesTime p.timeoutTime := by
  obtain ⟨j, -, a, happens⟩ := exists_received mem
  obtain ⟨-, m, x, rfl, rfl, -⟩ := happens.step.received
  exact ⟨j, s, _, m.packet.outgoing, happens.acts (by simp), rfl, rfl⟩

/-! ### What a commitment stands for -/

variable (free : Digest.InjectiveOn r.Hashed)

include free

/-- One commitment stands for one choice of data and of a timeout height, and for times that count
the same nanoseconds. -/
theorem outgoing_alike {i j : Nat} {s t : Side} {a b : Action} {c : Bytes}
    (ha : r.action? i s = some a) (hb : r.action? j t = some b)
    (asked : a.outgoing? = some p.outgoing) (asked' : b.outgoing? = some q.outgoing)
    (hp : p.timeoutHeight.reachedAt ⟨0, 0⟩ = false) (hq : q.timeoutHeight.reachedAt ⟨0, 0⟩ = false)
    (commitment : Commitment.ofPacket? p = some c) (commitment' : Commitment.ofPacket? q = some c) :
    p.data = q.data ∧ p.timeoutHeight = q.timeoutHeight ∧
      ∃ n, p.timeoutTime.nanoseconds? = some n ∧ q.timeoutTime.nanoseconds? = some n := by
  obtain ⟨m, count, rfl⟩ := Option.map_eq_some_iff.1 commitment
  obtain ⟨n, count', hash⟩ := Option.map_eq_some_iff.1 commitment'
  have same := free _ _ (.packet hb asked' count') (.packet ha asked count) hash
  obtain ⟨rfl, heights, data⟩ := Commitment.packetInput_injective same
  exact ⟨free _ _ (.data ha asked) (.data hb asked') data.symm,
    TimeoutHeight.committed_injective hp hq heights.symm, n, count, count'⟩

/-- A packet that is handed over is like one that was announced by the end it names as its source. -/
theorem exists_alike_of_delivered (mem : p ∈ r.delivered i s d) :
    ∃ q ∈ r.announced i s.other p.source, p.Alike q := by
  obtain ⟨k, lt, a, happens⟩ := exists_received mem
  obtain ⟨rfl, m, x, rfl, rfl, guard⟩ := happens.step.received
  have acts := happens.acts (by simp)
  obtain ⟨time, c, commitment, shown⟩ := guard.committed
  obtain ⟨j, le, saw⟩ := exists_saw free shown acts (by
    simp [Action.proofs, Datagram.evidence?, Evidence.proofs])
  obtain ⟨q, announced, number, commitment'⟩ := exists_announced (saw.commitment List.mem_cons_self)
  obtain ⟨t, lt', b, sending⟩ := exists_sent announced
  obtain ⟨asked, source, ahead, ⟨y, there, open_then, names⟩, -⟩ := sending.step.sent
  have back := named_back free guard.channel guard.state guard.peer there (.inr open_then)
  have destination := ChannelPeer.ofEnd_injective (names.symm.trans back)
  obtain ⟨data, height, stamp⟩ := outgoing_alike free acts (sending.acts (by simp)) rfl asked
    (TimeoutHeight.ahead_of_zero guard.height) ahead commitment commitment'
  have le' : j ≤ i := Nat.le_of_lt (Nat.lt_of_le_of_lt le lt)
  exact ⟨q, (announced_mono le').subset announced, number.symm, source.symm, destination.symm, data,
    height, stamp⟩

/-- A packet whose commitment is kept in its place is like one that was announced there. -/
theorem exists_alike_of_stored {x : ChannelEnd} {a : Action} {c : Bytes}
    (acts : r.action? i s = some a) (asked : a.outgoing? = some p.outgoing)
    (proper : a.ProperHeights) (channel : (r.lane i s p.source).channel = some x)
    (names : x.peer = .ofEnd p.destination)
    (stored : (r.lane i s p.source).commitments p.sequence = some c)
    (commitment : Commitment.ofPacket? p = some c) : ∃ q ∈ r.announced i s p.source, p.Alike q := by
  obtain ⟨q, announced, number, commitment'⟩ := exists_announced stored
  obtain ⟨t, lt, b, sending⟩ := exists_sent announced
  obtain ⟨asked', source, ahead, ⟨y, there, packets, names'⟩, -⟩ := sending.step.sent
  have kept := peer_eq_of_joined free (Nat.le_of_lt lt) there (.inr packets) channel
  have destination := ChannelPeer.ofEnd_injective (names.symm.trans (kept.trans names'))
  obtain ⟨data, height, stamp⟩ := outgoing_alike free acts (sending.acts (by simp)) asked asked'
    (ahead_of_properHeights proper asked) ahead commitment commitment'
  exact ⟨q, announced, number.symm, source.symm, destination, data, height, stamp⟩

end Run

end Crosschain
