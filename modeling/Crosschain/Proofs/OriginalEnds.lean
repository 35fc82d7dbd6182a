import Crosschain.Proofs.Histories
import Crosschain.Proofs.OrderedDelivery
import Crosschain.Proofs.Partners
import Crosschain.Proofs.Relaying

/-!
# Ends that were never upgraded

An end that completed no upgrade has the ordering it was opened with. Its counters then tell what
became of packets: an ordered end expects the number behind the last packet it was handed, and the
acknowledgement of the number behind the last one that was acknowledged; an unordered end counts no
packets it receives, and has receipts of just those it was handed.
-/

namespace Crosschain

/-! ### Numbers that are missing -/

theorem Numbered.counter_eq {packets : List Packet} {n k : Sequence}
    (numbered : Numbered (.some n) packets) (positive : 0 < k)
    (earlier : ∀ m, 0 < m → m < k → ∃ q ∈ packets, q.sequence = m)
    (fresh : ∀ q ∈ packets, q.sequence ≠ k) : n = k := by
  have count := numbered.some n rfl
  have zero : (0 : UInt64).toNat = 0 := rfl
  rw [UInt64.lt_iff_toNat_lt, zero] at positive
  apply UInt64.toNat_inj.1
  rcases Nat.lt_trichotomy n.toNat k.toNat with below | same | above
  · -- The number the counter stands at is one of the earlier ones, but no packet has it.
    obtain ⟨q, mem, number⟩ := earlier n (UInt64.lt_iff_toNat_lt.2 (by omega))
      (UInt64.lt_iff_toNat_lt.2 below)
    obtain ⟨l, hl, rfl⟩ := List.mem_iff_getElem.1 mem
    have place := numbered.numbers l hl
    rw [number] at place
    omega
  · exact same
  · -- The packet with the number in question would be among those counted.
    have inside : k.toNat - 1 < packets.length := by omega
    have place := numbered.numbers _ inside
    refine absurd (UInt64.toNat_inj.1 ?_) (fresh _ (List.getElem_mem inside))
    omega

/-! ### Acknowledged packets -/

def Deed.acknowledged? : Deed → Option Packet
  | .acknowledged p => some p
  | _ => none

def Event.acknowledged? : Event → Option Packet
  | .packet .acknowledged p => some p
  | _ => none

theorem Accounts.acknowledged {c c' : Chain} {a : Action} {rep : Report} {e : EndId} {d : Deed}
    (accounts : Accounts c a rep c' e d) :
    ((rep.events.filterMap Event.acknowledged?).filter fun p => p.source = e) =
      d.acknowledged?.toList := by
  have picks (event : Event) : event.acknowledged? =
      event.fate?.bind fun f => if f.1 = .acknowledged then some f.2 else none := by
    cases event with
    | packet stage p => cases stage <;> rfl
    | _ => rfl
  rw [Event.filter_filterMap (· = .acknowledged) picks, accounts.told]
  cases d <;> rfl

namespace History

variable (l l' : History) (e : EndId)

/-- The packets of an end that were acknowledged. -/
def acknowledged : List Packet :=
  (events l |>.filterMap Event.acknowledged?).filter fun p => p.source = e

theorem acknowledged_append : acknowledged (l ++ l') e = acknowledged l e ++ acknowledged l' e := by
  simp [acknowledged, events]

variable {l e}

theorem acknowledged_singleton {c c' : Chain} {a : Action} {rep : Report} {d : Deed}
    (accounts : Accounts c a rep c' e d) :
    acknowledged [(a, rep)] e = d.acknowledged?.toList := by
  simpa [acknowledged, events] using accounts.acknowledged

theorem resolved_of_acknowledged {p : Packet} (mem : p ∈ acknowledged l e) : p ∈ resolved l e := by
  simp only [acknowledged, List.mem_filter, List.mem_filterMap] at mem
  simp only [resolved, List.mem_filter, List.mem_filterMap]
  obtain ⟨⟨event, told, tells⟩, own⟩ := mem
  refine ⟨⟨event, told, ?_⟩, own⟩
  cases event with
  | packet stage q =>
    cases stage with
    | acknowledged => exact tells
    | _ => cases tells
  | _ => cases tells

end History

/-! ### Counters, step by step -/

section Steps

variable [Digest] {h : Host} {a : Action} {e : EndId} {l l' : Lane} {d : Deed} {x : ChannelEnd}

/-- An end that exists counts what it receives and what is acknowledged. -/
def Lane.Counts (l : Lane) : Prop := l.channel ≠ none → l.nextRecv ≠ none ∧ l.nextAck ≠ none

omit [Digest] in
theorem Lane.Counts.of_resets {f : UpgradeFields} {nextRecv nextAck : Option Sequence}
    (counts : l.Counts) (there : l.channel = some x) (resets : l.Resets x f nextRecv nextAck) :
    nextRecv ≠ none ∧ nextAck ≠ none := by
  obtain ⟨-, rfl, rfl⟩ | ⟨-, -, peer, next, recv, -, -, -, rfl, rfl⟩ := resets
  · exact counts (by simp [there])
  · simp

theorem LaneStep.counts (step : LaneStep h a e l d l') (counts : l.Counts) : l'.Counts := by
  have before {x : ChannelEnd} (there : l.channel = some x) :
      l.nextRecv ≠ none ∧ l.nextAck ≠ none := counts (by simp [there])
  intro exists'
  cases step with
  | idle => exact counts exists'
  | openInit => simp
  | openTry => simp
  | receiveOrdered _ m x next acks action owner guard => exact ⟨by simp, (before guard.channel).2⟩
  | receiveUnordered _ m x next acks action owner guard => exact before guard.channel
  | acknowledge _ m x c time nextAck action owner channel state named stored commitment shown counter =>
    obtain ⟨-, rfl⟩ | ⟨-, -, next, -, rfl⟩ := counter
    · exact before channel
    · exact ⟨(before channel).1, by simp⟩
  | reply _ m x fields n action owner guard => exact before guard.channel
  | cross _ m x fields own action owner guard => exact before guard.channel
  | confirm _ m x own nextRecv nextAck action owner channel state upgrade shown resets =>
    exact counts.of_resets channel resets
  | finish _ m x own nextRecv nextAck action owner channel state upgrade shown resets =>
    exact counts.of_resets channel resets
  | _ => exact before ‹l.channel = some _›

theorem LaneStep.nextAck (step : LaneStep h a e l d l')
    (ordered : ∀ x, l.channel = some x → x.ordering = .ordered) :
    d.acknowledged? = none ∧
        (l'.nextAck = l.nextAck ∨ l.nextAck = none ∧ l'.nextAck = some 1) ∨
      ∃ p next, d = .acknowledged p ∧ l.nextAck = some p.sequence ∧
        Word.add? p.sequence 1 = some next ∧ l'.nextAck = some next := by
  have resets {x : ChannelEnd} {f : UpgradeFields} {nextRecv nextAck : Option Sequence}
      (channel : l.channel = some x) (resets : l.Resets x f nextRecv nextAck) :
      nextAck = l.nextAck := by
    obtain ⟨-, -, same⟩ | ⟨-, unordered, -⟩ := resets
    · exact same
    · exact absurd (ordered x channel) unordered
  cases step with
  | openInit => exact .inl ⟨rfl, .inr ⟨rfl, rfl⟩⟩
  | openTry => exact .inl ⟨rfl, .inr ⟨rfl, rfl⟩⟩
  | acknowledge _ m x c time nextAck action owner channel state named stored commitment shown counter =>
    obtain ⟨unordered, -⟩ | ⟨-, counter, next, counted, after⟩ := counter
    · exact absurd (ordered x channel) unordered
    · exact .inr ⟨m.packet, next, rfl, counter, counted, after⟩
  | confirm _ m x own nextRecv nextAck action owner channel state upgrade shown reset =>
    exact .inl ⟨rfl, .inl (resets channel reset)⟩
  | finish _ m x own nextRecv nextAck action owner channel state upgrade shown reset =>
    exact .inl ⟨rfl, .inl (resets channel reset)⟩
  | _ => exact .inl ⟨rfl, .inl rfl⟩

theorem LaneStep.nextRecv_of_unordered (step : LaneStep h a e l d l')
    (before : ∀ x, l.channel = some x → x.ordering ≠ .ordered)
    (after : ∀ x, l'.channel = some x → x.ordering ≠ .ordered) :
    l'.nextRecv = l.nextRecv ∨ l'.nextRecv = some 1 := by
  have resets {x : ChannelEnd} {f : UpgradeFields} {nextRecv nextAck : Option Sequence}
      (turns : f.ordering ≠ .ordered) (resets : l.Resets x f nextRecv nextAck) :
      nextRecv = l.nextRecv := by
    obtain ⟨-, same, -⟩ | ⟨ordered, -⟩ := resets
    · exact same
    · exact absurd ordered turns
  cases step with
  | openInit => exact .inr rfl
  | openTry => exact .inr rfl
  | receiveOrdered _ m x next acks action owner guard ordering =>
    exact absurd ordering (before x guard.channel)
  | confirm _ m x own nextRecv nextAck action owner channel state upgrade shown reset =>
    exact .inl (resets (after _ rfl) reset)
  | finish _ m x own nextRecv nextAck action owner channel state upgrade shown reset =>
    exact .inl (resets (after _ rfl) reset)
  | _ => exact .inl rfl

theorem LaneStep.of_receipt {n : Sequence} (step : LaneStep h a e l d l')
    (marked : l'.receipts n = true) :
    l.receipts n = true ∨ ∃ p, d = .received p ∧ p.sequence = n := by
  cases step with
  | openInit => cases marked
  | openTry => cases marked
  | receiveUnordered _ m x next acks =>
    dsimp only at marked
    by_cases same : n = m.packet.sequence
    · exact .inr ⟨m.packet, rfl, same.symm⟩
    · rw [Function.update_of_ne same] at marked
      exact .inl marked
  | _ => exact .inl marked

end Steps

namespace Run

variable [Digest] {r : Run} {i j : Nat} {s : Side} {e f : EndId} {x y : ChannelEnd} {p : Packet}

/-! ### Clients and ends along a run -/

theorem thawed : (r.host i s).Thawed := by
  induction i with
  | zero =>
    intro id client there
    rw [host, (r.started.chain s).clients] at there
    simp at there
  | succ i ih =>
    cases action : r.action? i s with
    | none =>
      rw [host, rests action]
      exact ih
    | some a =>
      obtain ⟨rep, -, done⟩ := acts action
      obtain abreast | ⟨b, sealing⟩ | ⟨id, header, -, told⟩ := Chain.perform_onward done
      · intro id client there
        rw [host, abreast.clients] at there
        exact ih id client there
      · intro id client there
        rw [host, sealing.clients] at there
        exact ih id client there
      · rw [host, told]
        exact ih.updateClient

/-- Packets go over an end only once it knows whom it names. -/
theorem peer_eq_of_packets (le : i ≤ j) (hx : (r.lane i s e).channel = some x)
    (packets : x.state.allowsPackets) (hy : (r.lane j s e).channel = some y) : y.peer = x.peer := by
  suffices kept : ∃ z, (r.lane j s e).channel = some z ∧ z.peer = x.peer ∧
      (z.state.allowsPackets ∨ z.state = .closed) by
    obtain ⟨z, there, peer, -⟩ := kept
    rw [hy] at there
    cases there
    exact peer
  induction j, le using Nat.le_induction generalizing y with
  | base => exact ⟨x, hx, rfl, .inl packets⟩
  | succ k le ih =>
    obtain ⟨w, there, -⟩ := exists_later le hx
    obtain ⟨z, before, peer, going⟩ := ih there
    obtain ⟨d, u, after, step⟩ := exists_endStep before
    have past : z.state ≠ .init ∧ z.state ≠ .tryOpen := by
      rcases going with packets | closed
      · constructor <;> intro state <;> rw [state] at packets <;> cases packets
      · rw [closed]
        exact ⟨nofun, nofun⟩
    refine ⟨u, after, (step.peer_eq past.1 past.2).trans peer, ?_⟩
    rcases going with packets | closed
    · exact step.allowsPackets packets
    · exact .inr (step.closed closed)

theorem Original.ordering_eq (original : r.Original i s e) (le : j ≤ i)
    (hx : (r.lane j s e).channel = some x) (hy : (r.lane i s e).channel = some y) :
    x.ordering = y.ordering := by
  suffices kept : ∀ k, j ≤ k → k ≤ i → ∃ z, (r.lane k s e).channel = some z ∧
      z.ordering = x.ordering by
    obtain ⟨z, there, same⟩ := kept i le (Nat.le_refl i)
    rw [hy] at there
    cases there
    exact same.symm
  intro k ge
  induction k, ge using Nat.le_induction with
  | base => exact fun _ => ⟨x, hx, rfl⟩
  | succ k ge ih =>
    intro upto
    obtain ⟨z, before, same⟩ := ih (Nat.le_of_succ_le upto)
    obtain ⟨a, d, happens⟩ := r.happens k s e
    obtain ⟨u, after, step⟩ := happens.step.endStep before
    refine ⟨u, after, (step.ordering_eq ?_).trans same⟩
    rintro rfl
    exact original z.upgradeSequence ⟨k, upto, a, z, happens, before, rfl⟩

/-! ### Packets that were sent -/

theorem history_of_rests (none : r.action? i s = none) : r.history s (i + 1) = r.history s i := by
  simp only [action?] at none
  simp only [history]
  cases move : r.move i with
  | none => rfl
  | some m =>
    simp only [move, Option.bind_some] at none
    split at none
    · cases none
    next other => exact if_neg other

theorem history_of_move {a : Action} {rep : Report} (move : r.move i = some ⟨s, a, rep⟩) :
    r.history s (i + 1) = r.history s i ++ [(a, rep)] := by
  simp [history, move]

theorem announced_history : (r.history s i).announced e = r.announced i s e := by
  induction i with
  | zero => rfl
  | succ i ih =>
    rw [announced, ← ih]
    cases action : r.action? i s with
    | none =>
      rw [history_of_rests action, events_of_rests action]
      exact (List.append_nil _).symm
    | some a =>
      obtain ⟨rep, move, -⟩ := acts action
      have told : r.events i s = rep.events := by simp [events, move]
      rw [history_of_move move, History.announced_append, told]
      simp [History.announced, History.events]

/-- Neither acknowledged nor timed out so far. -/
def Unresolved (r : Run) (i : Nat) (s : Side) (p : Packet) : Prop :=
  ∀ q ∈ (r.history s i).resolved p.source, q.sequence ≠ p.sequence

theorem Unresolved.exists_commitment (unresolved : r.Unresolved i s p)
    (mem : p ∈ r.announced i s p.source) : ∃ c, Commitment.ofPacket? p = some c ∧
      (r.lane i s p.source).commitments p.sequence = some c := by
  have tallies := (r.leads s i).tallies (r.started.chain s).store p.source
  rw [announced_history] at tallies
  obtain ⟨c, commitment⟩ := Option.ne_none_iff_exists'.1 (tallies.committed p mem)
  exact ⟨c, commitment, (tallies.commitments _ c).2 ⟨p, mem, rfl, unresolved, commitment⟩⟩

theorem destination_of_announced (mem : p ∈ r.announced i s e)
    (there : (r.lane i s e).channel = some x) (names : x.peer = .ofEnd f) : p.destination = f := by
  obtain ⟨j, lt, a, happens⟩ := exists_sent mem
  obtain ⟨-, -, -, ⟨y, channel, packets, peer⟩, -⟩ := happens.step.sent
  have kept := peer_eq_of_packets (Nat.le_of_lt lt) channel packets there
  exact ChannelPeer.ofEnd_injective (peer.symm.trans (kept.symm.trans names))

theorem source_of_announced (mem : p ∈ r.announced i s e) : p.source = e := by
  obtain ⟨j, lt, a, happens⟩ := exists_sent mem
  exact happens.step.sent.2.1

theorem sequence_of_announced (mem : p ∈ r.announced i s e) :
    0 < p.sequence ∧ ∃ next, Word.add? p.sequence 1 = some next := by
  obtain ⟨k, lt, rfl⟩ := List.mem_iff_getElem.1 mem
  have number := r.numbered.numbers k lt
  obtain ⟨j, -, a, happens⟩ := exists_sent mem
  obtain ⟨-, -, -, -, -, next, counted, -⟩ := happens.step.sent
  have zero : (0 : UInt64).toNat = 0 := rfl
  exact ⟨UInt64.lt_iff_toNat_lt.2 (by omega), next, counted⟩

/-! ### What counters stand at -/

theorem counts : (r.lane i s e).Counts := by
  induction i with
  | zero =>
    rw [lane_zero]
    exact fun absent => absurd rfl absent
  | succ i ih =>
    obtain ⟨a, d, happens⟩ := r.happens i s e
    exact happens.step.counts ih

theorem exists_counters (there : (r.lane i s e).channel = some x) :
    ∃ m n, (r.lane i s e).nextRecv = some m ∧ (r.lane i s e).nextAck = some n := by
  have counted : (r.lane i s e).Counts := counts
  obtain ⟨recv, ack⟩ := counted (by simp [there])
  obtain ⟨m, received⟩ := Option.ne_none_iff_exists'.1 recv
  obtain ⟨n, acked⟩ := Option.ne_none_iff_exists'.1 ack
  exact ⟨m, n, received, acked⟩

theorem exists_acknowledged_step (r : Run) (i : Nat) (s : Side) (e : EndId) :
    ∃ a d, LaneStep (r.host i s) a e (r.lane i s e) d (r.lane (i + 1) s e) ∧
      (r.history s (i + 1)).acknowledged e =
        (r.history s i).acknowledged e ++ d.acknowledged?.toList := by
  cases action : r.action? i s with
  | none =>
    refine ⟨.advance, .idle, ?_, ?_⟩
    · rw [lane, lane, host, host, rests action]
      exact .idle _
    · rw [history_of_rests action]
      exact (List.append_nil _).symm
  | some a =>
    obtain ⟨rep, move, done⟩ := acts action
    obtain ⟨d, step, accounts⟩ := (Chain.perform_stepped (r.orderly i s) done).lane e
    refine ⟨a, d, step, ?_⟩
    rw [history_of_move move, History.acknowledged_append, History.acknowledged_singleton accounts]

/-- The acknowledged packets of an end that was ordered so far are numbered without gap. -/
theorem numbered_acknowledged (ordered : ∀ j < i, ∀ y, (r.lane j s e).channel = some y →
    y.ordering = .ordered) : Numbered (r.lane i s e).nextAck ((r.history s i).acknowledged e) := by
  induction i with
  | zero =>
    rw [lane_zero]
    exact .nil
  | succ i ih =>
    have before := ih fun j lt => ordered j (Nat.lt_succ_of_lt lt)
    obtain ⟨a, d, step, grown⟩ := r.exists_acknowledged_step i s e
    rw [grown]
    rcases step.nextAck (ordered i (Nat.lt_succ_self i)) with
      ⟨quiet, same | ⟨absent, start⟩⟩ | ⟨p, next, rfl, counter, counted, after⟩
    · rw [quiet, same, Option.toList_none, List.append_nil]
      exact before
    · rw [quiet, start, Option.toList_none, List.append_nil]
      exact before.start absent
    · rw [after]
      exact before.push counter counted

theorem nextRecv_of_ordered (original : r.Original i s e) (there : (r.lane i s e).channel = some x)
    (ordered : x.ordering = .ordered) (positive : 0 < p.sequence)
    (earlier : ∀ m, 0 < m → m < p.sequence → ∃ q ∈ r.delivered i s e, q.sequence = m)
    (fresh : ∀ q ∈ r.delivered i s e, q.sequence ≠ p.sequence) :
    (r.lane i s e).nextRecv = some p.sequence := by
  have numbered := numbered_of_ordered (r := r) (i := i) (s := s) (d := e) fun j lt y before =>
    (original.ordering_eq (Nat.le_of_lt lt) before there).trans ordered
  obtain ⟨n, -, counter, -⟩ := exists_counters there
  rw [counter] at numbered ⊢
  rw [numbered.counter_eq positive earlier fresh]

theorem nextAck_of_ordered (original : r.Original i s e) (there : (r.lane i s e).channel = some x)
    (ordered : x.ordering = .ordered) (positive : 0 < p.sequence)
    (earlier : ∀ m, 0 < m → m < p.sequence →
      ∃ q ∈ (r.history s i).acknowledged e, q.sequence = m)
    (fresh : ∀ q ∈ (r.history s i).acknowledged e, q.sequence ≠ p.sequence) :
    (r.lane i s e).nextAck = some p.sequence := by
  have numbered := numbered_acknowledged (r := r) (i := i) (s := s) (e := e) fun j lt y before =>
    (original.ordering_eq (Nat.le_of_lt lt) before there).trans ordered
  obtain ⟨-, n, -, counter⟩ := exists_counters there
  rw [counter] at numbered ⊢
  rw [numbered.counter_eq positive earlier fresh]

theorem nextRecv_of_unordered (original : r.Original i s e)
    (there : (r.lane i s e).channel = some x) (unordered : x.ordering ≠ .ordered) :
    (r.lane i s e).nextRecv = some 1 := by
  have never (j : Nat) (le : j ≤ i) (y : ChannelEnd) (before : (r.lane j s e).channel = some y) :
      y.ordering ≠ .ordered := by
    rw [original.ordering_eq le before there]
    exact unordered
  have start (j : Nat) (le : j ≤ i) :
      (r.lane j s e).nextRecv = none ∨ (r.lane j s e).nextRecv = some 1 := by
    induction j with
    | zero =>
      rw [lane_zero]
      exact .inl rfl
    | succ j ih =>
      obtain ⟨a, d, happens⟩ := r.happens j s e
      rcases happens.step.nextRecv_of_unordered (never j (Nat.le_of_succ_le le)) (never _ le) with
        same | one
      · rw [same]
        exact ih (Nat.le_of_succ_le le)
      · exact .inr one
  obtain ⟨n, -, counter, -⟩ := exists_counters there
  rcases start i (Nat.le_refl i) with none | one
  · rw [none] at counter
    cases counter
  · exact one

theorem delivered_of_receipt {n : Sequence} (marked : (r.lane i s e).receipts n = true) :
    ∃ q ∈ r.delivered i s e, q.sequence = n := by
  induction i with
  | zero =>
    rw [lane_zero] at marked
    cases marked
  | succ i ih =>
    obtain ⟨a, d, happens⟩ := r.happens i s e
    rw [happens.delivered]
    rcases happens.step.of_receipt marked with before | ⟨q, rfl, number⟩
    · obtain ⟨q, mem, number⟩ := ih before
      exact ⟨q, List.mem_append_left _ mem, number⟩
    · exact ⟨q, List.mem_append_right _ List.mem_cons_self, number⟩

end Run

end Crosschain
