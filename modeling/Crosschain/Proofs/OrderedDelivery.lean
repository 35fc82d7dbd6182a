import Crosschain.Proofs.Courses
import Crosschain.Proofs.PacketTrail

/-!
# Ordered delivery

An end that was ordered so far was handed the packets of its other end in the order in which they
were announced, from the first one on and without a gap. They are the announced ones up to what a
commitment does not tell apart, times that count the same nanoseconds.
-/

namespace Crosschain

namespace Run

variable [Digest] {r : Run} {i : Nat} {s : Side} {e d : EndId} {x : ChannelEnd}

/-- The packets handed over by an end that was ordered so far are numbered like those announced. -/
theorem numbered_of_ordered (ordered : ∀ j < i, ∀ y, (r.lane j s d).channel = some y →
    y.ordering = .ordered) : Numbered (r.lane i s d).nextRecv (r.delivered i s d) := by
  induction i with
  | zero =>
    rw [lane_zero, delivered_zero]
    exact .nil
  | succ i ih =>
    have before := ih fun j lt => ordered j (Nat.lt_succ_of_lt lt)
    obtain ⟨a, deed, happens⟩ := r.happens i s d
    rw [happens.delivered]
    rcases happens.step.nextRecv (ordered i (Nat.lt_succ_self i)) with
      ⟨quiet, same | ⟨absent, start⟩⟩ | ⟨p, next, rfl, counter, counted, after⟩
    · rw [quiet, same, Option.toList_none, List.append_nil]
      exact before
    · rw [quiet, start, Option.toList_none, List.append_nil]
      exact before.start absent
    · rw [after]
      exact before.push counter counted

theorem exists_announced_by_peer (free : Digest.InjectiveOn r.Hashed) {j : Nat} (le : j ≤ i)
    (there : (r.lane i s d).channel = some x) (names : x.peer = .ofEnd e) {p : Packet}
    (mem : p ∈ r.delivered j s d) : ∃ q ∈ r.announced j s.other e, p.Alike q := by
  obtain ⟨q, announced, alike⟩ := exists_alike_of_delivered free mem
  obtain ⟨k, lt, a, happens⟩ := exists_received mem
  obtain ⟨rfl, m, y, rfl, rfl, guard⟩ := happens.step.received
  have le' : k ≤ i := Nat.le_of_lt (Nat.lt_of_lt_of_le lt le)
  have kept := peer_eq_of_joined free le' guard.channel (.inr guard.state) there
  rw [names, guard.peer] at kept
  rw [← ChannelPeer.ofEnd_injective kept] at announced
  exact ⟨q, announced, alike⟩

/-- Every packet handed over was announced by the other end, as it was handed over but for a time
that counts the same nanoseconds. While an end was ordered, what was handed over goes with the
beginning of what was announced. When the times of the run are told apart by their nanoseconds, all
of this holds of the packets field by field. -/
theorem delivered_of_announced (free : Digest.InjectiveOn r.Hashed)
    (there : (r.lane i s d).channel = some x) (names : x.peer = .ofEnd e) :
    (∀ p ∈ r.delivered i s d, ∃ q ∈ r.announced i s.other e, p.Alike q) ∧
      ((∀ j ≤ i, ∀ y, (r.lane j s d).channel = some y → y.ordering = .ordered) →
        ∃ l, l <+: r.announced i s.other e ∧ List.Forall₂ Packet.Alike (r.delivered i s d) l) ∧
      (r.TimesApart → (∀ p ∈ r.delivered i s d, p ∈ r.announced i s.other e) ∧
        ((∀ j ≤ i, ∀ y, (r.lane j s d).channel = some y → y.ordering = .ordered) →
          r.delivered i s d <+: r.announced i s.other e)) := by
  have like := fun p => exists_announced_by_peer free (Nat.le_refl i) there names (p := p)
  have received (ordered : ∀ j ≤ i, ∀ y, (r.lane j s d).channel = some y → y.ordering = .ordered) :=
    numbered_of_ordered fun j lt => ordered j (Nat.le_of_lt lt)
  refine ⟨like, fun ordered => ?_, fun apart => ?_⟩
  · refine (received ordered).exists_beginning r.numbered fun p mem => ?_
    obtain ⟨q, announced, alike⟩ := like p mem
    exact ⟨q, announced, alike.sequence, alike⟩
  · have sub : ∀ p ∈ r.delivered i s d, p ∈ r.announced i s.other e := by
      intro p mem
      obtain ⟨q, announced, alike⟩ := like p mem
      rwa [apart.eq alike (namesTime_of_delivered mem) (namesTime_of_announced announced)]
    exact ⟨sub, fun ordered => (received ordered).isPrefix r.numbered sub⟩

end Run

theorem Passage.timesApart_direct [Digest] (v : ChannelVersion) {data : Bytes}
    (filled : data ≠ []) : (direct v data filled).TimesApart :=
  .of_timed fun _ _ => timed_direct v filled

/-- A packet over a channel that was opened ordered. -/
theorem Run.delivered_of_announced_direct :
    letI : Digest := .plain
    let r := Passage.direct "ics20-1" [1] (by decide)
    r.delivered 11 .right Passage.owner = [Passage.packet [1]] ∧ r.TimesApart ∧
      (∀ p ∈ r.delivered 11 .right Passage.owner, p ∈ r.announced 11 .left Passage.owner) ∧
        r.delivered 11 .right Passage.owner <+: r.announced 11 .left Passage.owner := by
  let _ : Digest := .plain
  have filled : [1] ≠ ([] : Bytes) := by decide
  have apart := Passage.timesApart_direct "ics20-1" filled
  obtain ⟨-, -, told_apart⟩ := delivered_of_announced (r := Passage.direct "ics20-1" [1] filled)
    (i := 11) (s := .right) (d := Passage.owner) (e := Passage.owner) (Digest.injectiveOn_plain _)
    rfl rfl
  obtain ⟨sub, beginning⟩ := told_apart apart
  exact ⟨(Passage.direct_delivers _ filled).2, apart, sub,
    beginning fun j _ y there => Passage.ordered_direct _ filled there⟩

/-- Without times that are told apart, what is handed over need not be what was announced: a packet
due in the second after a leap second gets through as one that is due in the leap second. -/
theorem Run.not_announced_of_delivered_leap :
    letI : Digest := .plain
    let r := Passage.conveyed "ics20-1" Passage.twins_leap Passage.inTime_nextSecond
      Passage.inTime_leapSecond
    Digest.InjectiveOn r.Hashed ∧
      (∀ j y, (r.lane j .right Passage.owner).channel = some y → y.ordering = .ordered) ∧
      r.announced 11 .left Passage.owner = [Passage.dueAt Passage.nextSecond] ∧
      r.delivered 11 .right Passage.owner = [Passage.dueAt Passage.leapSecond] ∧
      ¬ ∀ p ∈ r.delivered 11 .right Passage.owner, p ∈ r.announced 11 .left Passage.owner := by
  let _ : Digest := .plain
  let r := Passage.conveyed "ics20-1" Passage.twins_leap Passage.inTime_nextSecond
    Passage.inTime_leapSecond
  obtain ⟨announced, delivered⟩ :
      r.announced 11 .left Passage.owner = [Passage.dueAt Passage.nextSecond] ∧
        r.delivered 11 .right Passage.owner = [Passage.dueAt Passage.leapSecond] :=
    Passage.conveyed_delivers _
  refine ⟨Digest.injectiveOn_plain _, fun j y there => Passage.ordered_conveyed _ there, announced,
    delivered, ?_⟩
  rw [announced, delivered]
  decide

end Crosschain
