import Crosschain.Proofs.Flushing
import Crosschain.Proofs.Reachability

/-!
# The scan for packets in flight

A packet is in flight as long as it is committed to. An end finds out about its packets number by
number, from one up to its send counter, and never looks beyond. No commitment stands outside of
these numbers, however the state was reached, so the scan misses none.
-/

namespace Crosschain

/-! ### The scan -/

/-- The numbers given out before a counter, from one on. -/
def Sequence.given (next : Sequence) : List Sequence :=
  (List.range' 1 (next.toNat - 1)).map UInt64.ofNat

theorem Sequence.mem_given {k next : Sequence} : k ∈ given next ↔ 0 < k ∧ k < next := by
  have zero : (0 : UInt64).toNat = 0 := rfl
  rw [given, List.mem_map, UInt64.lt_iff_toNat_lt, UInt64.lt_iff_toNat_lt, zero]
  constructor
  · rintro ⟨i, mem, rfl⟩
    have bounds := List.mem_range'_1.1 mem
    have bounded : i < UInt64.size := by
      have small : next.toNat < UInt64.size := next.toNat_lt
      omega
    rw [UInt64.toNat_ofNat_of_lt' bounded]
    omega
  · intro bounds
    refine ⟨k.toNat, List.mem_range'_1.2 ?_, UInt64.ofNat_toNat⟩
    omega

namespace ChannelStore

variable {s : ChannelStore} {e : EndId} {n : Sequence}

/-- Whether a packet of an end is in flight, found by asking for one commitment after the other. -/
def scan (s : ChannelStore) (e : EndId) : Except ChannelError Bool := do
  let next ← s.nextSendOf e
  pure ((Sequence.given next).any fun k => (s.commitmentAt ⟨e, k⟩).isOk)

theorem isOk_commitmentAt {slot : Slot} :
    (s.commitmentAt slot).isOk ↔ ∃ c, s.commitments[slot]? = some c := by
  unfold commitmentAt
  split
  next c stored => simp [stored, Except.isOk, Except.toBool]
  next none => simp [none, Except.isOk, Except.toBool]

theorem exists_scan (counter : s.nextSend[e]? = some n) :
    ∃ b, s.scan e = .ok b ∧ (b = true ↔ s.CommittedBelow e n) := by
  refine ⟨_, Except.bind_eq_ok.2 ⟨n, nextSendOf_eq_ok.2 counter, rfl⟩, ?_⟩
  simp only [List.any_eq_true, Sequence.mem_given, isOk_commitmentAt, CommittedBelow]

/-- Looking through the commitments there are comes to the same as the scan, in any store. -/
theorem inFlight_eq_scan (s : ChannelStore) (e : EndId) : s.inFlight e = s.scan e := by
  cases counter : s.nextSend[e]? with
  | none => simp [inFlight, scan, nextSendOf, counter]
  | some n =>
    obtain ⟨b, found, iff⟩ := exists_inFlight counter
    obtain ⟨b', scanned, iff'⟩ := exists_scan counter
    rw [found, scanned, Bool.eq_iff_iff.2 (iff.trans iff'.symm)]

end ChannelStore

/-! ### All along a history -/

namespace Chain.Reaches

variable [Digest] {c d : Chain} {l : History} {e : EndId} {x : ChannelEnd}

theorem tallies (start : c.host.store = .empty) (reaches : c.Reaches l d) (e : EndId) :
    ∃ sent resolved, (d.host.store.lane e).Tallies sent resolved := by
  apply reaches.lane_induction (P := fun l => ∃ sent resolved, l.Tallies sent resolved) start
  · exact ⟨[], [], .empty⟩
  · intro h a l l' deed step kept
    obtain ⟨sent, resolved, tallies⟩ := kept
    exact ⟨_, _, tallies.step step⟩

/-- On a chain that started without channels, whatever the other chains and its own operators did,
the scan of an end that exists always succeeds, and finds a packet in flight exactly if a
commitment of the end is kept, under any number at all. -/
theorem inFlight_exact (start : c.host.store = .empty) (reaches : c.Reaches l d)
    (there : d.host.store.ends[e]? = some x) :
    ∃ b, d.host.store.scan e = .ok b ∧ d.host.store.inFlight e = .ok b ∧
      (b = true ↔ ∃ n c, d.host.store.commitments[Slot.mk e n]? = some c) := by
  obtain ⟨sent, resolved, tallies⟩ := reaches.tallies start e
  have counted := tallies.counter (by simp [ChannelStore.lane, there])
  obtain ⟨n, counter⟩ := Option.ne_none_iff_exists'.1 counted
  obtain ⟨b, scanned, below⟩ := ChannelStore.exists_scan counter
  refine ⟨b, scanned, (ChannelStore.inFlight_eq_scan _ _).trans scanned, below.trans ?_⟩
  constructor
  · rintro ⟨k, -, stored⟩
    exact ⟨k, stored⟩
  · rintro ⟨k, c, stored⟩
    have within := tallies.between stored counter
    exact ⟨k, within, c, stored⟩

end Chain.Reaches

/-- A chain that sent a packet over a channel that was opened ordered, and has not heard of it
since. -/
theorem Chain.Reaches.inFlight_direct :
    letI : Digest := .plain
    let r := Passage.direct "ics20-1" [1] (by decide)
    (r.world 11 .left).host.store.inFlight Passage.owner = .ok true ∧
      ∃ n c, (r.world 11 .left).host.store.commitments[Slot.mk Passage.owner n]? = some c := by
  -- Evaluated before the run gets a name, so that the terms are closed.
  have opened : letI : Digest := .plain
      ((((Passage.direct "ics20-1" [1] (by decide)).world 11 .left).host.store.ends[
        Passage.owner]?).isSome) = true := rfl
  have found : letI : Digest := .plain
      (((Passage.direct "ics20-1" [1] (by decide)).world 11 .left).host.store.scan Passage.owner)
        = .ok true := rfl
  let _ : Digest := .plain
  let r := Passage.direct "ics20-1" [1] (by decide)
  obtain ⟨x, there⟩ := Option.isSome_iff_exists.1 opened
  obtain ⟨b, scanned, looked, exactly⟩ := Reaches.inFlight_exact (r.started.chain .left).store
    (r.leads .left 11).reaches there
  obtain rfl : b = true := Except.ok.inj (scanned.symm.trans found)
  exact ⟨looked, exactly.1 rfl⟩

end Crosschain
