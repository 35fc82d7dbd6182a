import Crosschain.Proofs.Courses
import Crosschain.Proofs.Rounds

/-!
# Agreement on the fields of a channel

Two open ends that name each other describe the same channel, through all rounds of upgrades. Between
the completions of a round one end is ahead of the other, which has agreed to the upgrade and holds
a proposal that fits. What could part the two ends is a cancellation of that agreed upgrade. It takes
an error receipt that the other end wrote once it had completed the round, and there are two ways to
get one. An open end that is shown a proposal no newer than its round answers with a receipt of the
round that it is in. And an end that gives up a later upgrade, as when that expires, writes a receipt
of the later round, which is good for all rounds before.
-/

namespace Crosschain

namespace Run

variable [Digest] {r : Run} {i j k : Nat} {s : Side} {e d : EndId} {x y z w : ChannelEnd}

/-! ### Ahead by a round -/

/-- The end completed the round of a sequence before a moment. -/
def Completed (r : Run) (i : Nat) (s : Side) (e : EndId) (n : Sequence) : Prop :=
  ∃ t < i, ∃ a x, r.Happens t s e a .completed ∧ (r.lane t s e).channel = some x ∧
    x.upgradeSequence = n

/-- A cancellation takes an end back behind a round that its other end completed. -/
def RevertsCompleted (r : Run) (i : Nat) (s : Side) : Prop :=
  ∃ m x y d, r.action? i s = some (.deliver (.upgrade (.cancel m))) ∧
    (r.lane i s m.owner).channel = some x ∧ x.state = .ackUpgrade ∧ x.peer = .ofEnd d ∧
      (r.lane (i + 1) s m.owner).channel = some y ∧ y.state = .opened ∧
        r.Completed i s.other d x.upgradeSequence

/-- The first end completed the round that the second one agreed to, with fields that fit. -/
structure Ahead (r : Run) (i : Nat) (s : Side) (e d : EndId) (x y : ChannelEnd) : Prop where
  state : y.state = .ackUpgrade
  proposal : ∃ u, (r.lane i s.other d).upgrade = some u ∧ r.Fits s x.fields u.fields
  completed : r.Completed i s e y.upgradeSequence

/-- Ends over which packets go and which name each other have fields that fit, or one of them is
ahead. -/
def Accord (r : Run) (i : Nat) (s : Side) (e d : EndId) : Prop :=
  ∀ x y, (r.lane i s e).channel = some x → (r.lane i s.other d).channel = some y →
    x.state.allowsPackets → y.state.allowsPackets → x.peer = .ofEnd d → y.peer = .ofEnd e →
      r.Fits s x.fields y.fields ∨ r.Ahead i s e d x y ∨ r.Ahead i s.other d e y x

theorem Accord.symm (accord : r.Accord i s e d) : r.Accord i s.other d e := by
  intro y x hy hx open_y open_x names' names
  rw [Side.other_other] at hx ⊢
  rcases accord x y hx hy open_x open_y names names' with fits | ahead | ahead
  · exact .inl fits.symm
  · exact .inr (.inr ahead)
  · exact .inr (.inl ahead)

theorem Completed.mono {n : Sequence} (le : i ≤ j) (completed : r.Completed i s e n) :
    r.Completed j s e n := by
  obtain ⟨t, lt, found⟩ := completed
  exact ⟨t, Nat.lt_of_lt_of_le lt le, found⟩

theorem Completed.phase_le {n : Sequence} (completed : r.Completed i s e n)
    (hx : (r.lane i s e).channel = some x) : 5 * n.toNat + 4 ≤ x.phase := by
  obtain ⟨t, lt, a, w, happens, there, rfl⟩ := completed
  obtain ⟨v, own, -, channel, -, -, after, -⟩ := happens.step.completed
  rw [there] at channel
  cases channel
  exact Run.phase_le (Nat.succ_le_of_lt lt) after hx

theorem Ahead.of_lane_eq (ahead : r.Ahead i s e d w y) (fields : x.fields = w.fields)
    (lane : r.lane (i + 1) s.other d = r.lane i s.other d) : r.Ahead (i + 1) s e d x y := by
  obtain ⟨state, ⟨u, proposal, fits⟩, completed⟩ := ahead
  exact ⟨state, ⟨u, by rw [lane]; exact proposal, by rw [fields]; exact fits⟩,
    completed.mono (Nat.le_succ i)⟩

/-! ### What becomes of an agreed upgrade -/

variable (free : Digest.InjectiveOn r.Hashed)

include free

theorem still_or_completed (le : j ≤ i) (hz : (r.lane j s d).channel = some z)
    (agreed : z.state = .ackUpgrade) (names : z.peer = .ofEnd e)
    (hx : (r.lane i s.other e).channel = some x) (upto : x.phase ≤ z.phase)
    (hy : (r.lane i s d).channel = some y) (packets : y.state.allowsPackets) :
    y = z ∨ ∃ own, (r.lane j s d).upgrade = some own ∧ y.fields = own.fields := by
  rcases follow_ack free le hz agreed names hx upto with
    ⟨w, there, same, -⟩ | ⟨t, ge, lt, a, happens, before, upgrade⟩
  · rw [hy] at there
    cases there
    rcases same with same | ⟨closed, -⟩
    · exact .inl same
    · rw [closed] at packets
      cases packets
  · -- The fields are those proposed, and stay while the other end is behind.
    obtain ⟨own, f, own_eq, after, -⟩ := exists_peer_of_completed free happens before
    rw [upgrade] at own_eq
    refine .inr ⟨own, own_eq, ?_⟩
    refine fields_kept free (Nat.succ_le_of_lt lt) after (.inr rfl) names hx (.inl ?_) hy
    have past : ({ z.withFields own.fields with state := .opened } : ChannelEnd).phase =
      5 * z.upgradeSequence.toNat + 4 := rfl
    rw [ChannelEnd.phase_of_ack agreed] at upto
    omega

/-! ### One step -/

/-- Two ends that fit or are apart by a round still are when one of them completed an upgrade. -/
theorem accord_of_completed {a : Action} (happens : r.Happens i s e a .completed)
    (hw : (r.lane i s e).channel = some w) (hx : (r.lane (i + 1) s e).channel = some x)
    (hy : (r.lane i s.other d).channel = some y)
    (lane : r.lane (i + 1) s.other d = r.lane i s.other d)
    (packets : y.state.allowsPackets) (names : w.peer = .ofEnd d)
    (before : r.Fits s w.fields y.fields ∨ r.Ahead i s e d w y ∨ r.Ahead i s.other d e y w) :
    r.Fits s x.fields y.fields ∨ r.Ahead (i + 1) s e d x y := by
  obtain ⟨own, f, own_eq, after, state, named, j, le, z, there, back, sequence, shown⟩ :=
    exists_peer_of_completed free happens hw
  rw [hx] at after
  cases after
  obtain rfl := ChannelPeer.ofEnd_injective (names.symm.trans named)
  obtain ⟨running, upper, far⟩ := phase_le_of_completed free happens hw names (Nat.le_refl i) hy
  have back' : (r.lane i s.other.other e).channel = some w := by rwa [Side.other_other]
  rcases before with fits | ahead | ahead
  · rcases shown with ⟨agreed, -⟩ | ⟨-, opened, fits'⟩
    · -- The other end agreed in this round, to a proposal that fits the one completed now.
      have upto : w.phase ≤ z.phase := by
        rw [ChannelEnd.phase_of_ack agreed, sequence]
        exact upper
      obtain ⟨own', own_eq', fits_own⟩ :=
        proposals_fit free hw running own_eq there agreed back sequence
      rcases still_or_completed free le there agreed back back' upto hy packets with
        rfl | ⟨own'', own_eq'', fields⟩
      · have kept := same_round there hy (by rw [agreed]; rfl) (by rw [agreed]; rfl) rfl
        refine .inr ⟨agreed, ⟨own', ?_, fits_own⟩, i, Nat.lt_succ_self i, a, w, happens, hw,
          sequence.symm⟩
        rw [lane, kept.2]
        exact own_eq'
      · rw [own_eq'] at own_eq''
        cases own_eq''
        rw [fields]
        exact .inl fits_own
    · -- The other end completed the round before, and has kept its fields.
      have past : z.phase = 5 * w.upgradeSequence.toNat + 4 := by
        rw [ChannelEnd.phase_of_open opened, sequence]
      have kept := fields_kept free le there (.inr (by rw [opened]; rfl)) back back'
        (.inl (by omega)) hy
      rw [kept]
      exact .inl fits'
  · -- An end that is ahead completes no further round before the other end does.
    have since := ahead.completed.phase_le hw
    rw [ChannelEnd.phase_of_ack ahead.state] at far
    omega
  · -- The other end is ahead by just this round, and took the fields that fit the proposal.
    obtain ⟨u, proposal, fits⟩ := ahead.proposal
    rw [Side.other_other, own_eq] at proposal
    cases proposal
    have flipped := fits.symm
    rw [Side.other_other] at flipped
    exact .inl flipped

theorem accord_of_opening {a : Action} {deed : Deed} (happens : r.Happens i s e a deed)
    (hw : (r.lane i s e).channel = some w) (closed : ¬ w.state.allowsPackets)
    (hx : (r.lane (i + 1) s e).channel = some x) (open_x : x.state.allowsPackets)
    (names : x.peer = .ofEnd d) (hy : (r.lane i s.other d).channel = some y) :
    r.Fits s x.fields y.fields := by
  obtain ⟨acts, -, unopened, proof, brought, height, time, st, hop, peerHop, f, named, hops, links,
    state, shown⟩ := happens.step.opening hw hx closed open_x
  obtain rfl := ChannelPeer.ofEnd_injective (names.symm.trans named)
  obtain ⟨j, le, saw⟩ := exists_saw free shown (happens.acts acts) (by simpa using brought)
  have there := saw.channel List.mem_cons_self
  have start := phase_of_unopened hw unopened
  have kept := fields_kept free le there (.of_opening state) rfl (by rwa [Side.other_other])
    (.inr start) hy
  rw [kept]
  exact ⟨rfl, rfl, hop, peerHop, hops, rfl, links_iff.1 links⟩

omit free in
theorem Ahead.of_behind (ahead : r.Ahead i s.other d e y w) (kept : ¬ r.RevertsCompleted i s)
    {a : Action} {deed : Deed} (happens : r.Happens i s e a deed)
    (hw : (r.lane i s e).channel = some w) (hx : (r.lane (i + 1) s e).channel = some x)
    (open_x : x.state.allowsPackets) (other : deed ≠ .completed) (names : w.peer = .ofEnd d) :
    r.Ahead (i + 1) s.other d e y x := by
  obtain ⟨state, ⟨u, proposal, fits⟩, completed⟩ := ahead
  by_cases still : x.state = .ackUpgrade
  · rcases happens.step.ack_or_agreed hw hx still with ⟨rfl, upgrade, -⟩ | rfl
    · rw [Side.other_other] at proposal
      refine ⟨still, ⟨u, ?_, fits⟩, completed.mono (Nat.le_succ i)⟩
      rw [Side.other_other, upgrade]
      exact proposal
    · obtain ⟨v, -, -, -, -, -, -, -, -, channel, -, before, -⟩ := happens.step.agreed
      rw [hw] at channel
      cases channel
      simp [state] at before
  · rcases happens.step.leaves_ack hw state hx still with
      ⟨closed, -⟩ | done | ⟨acts, m, f, time, action, rfl, opened, -, -, -⟩
    · rw [closed] at open_x
      cases open_x
    · exact absurd done other
    · refine absurd ?_ kept
      refine ⟨m, w, x, d, ?_, hw, state, names, hx, opened, completed⟩
      rw [← action]
      exact happens.acts acts

/-- A step of one chain keeps the accord, if it takes no end back behind a completed round. -/
theorem accord_succ (kept : ¬ r.RevertsCompleted i s) (quiet : r.action? i s.other = none)
    (before : r.Accord i s e d) : r.Accord (i + 1) s e d := by
  intro x y hx hy open_x open_y names names'
  have lane : r.lane (i + 1) s.other d = r.lane i s.other d := by
    rw [Run.lane, Run.lane, host, host, rests quiet]
  rw [lane] at hy
  obtain ⟨a, deed, happens⟩ := r.happens i s e
  cases hw : (r.lane i s e).channel with
  | none =>
    obtain ⟨-, -, init | ⟨-, -, -, -, -, tryOpen, -⟩⟩ := happens.step.created hw hx
    · rw [init] at open_x
      cases open_x
    · rw [tryOpen] at open_x
      cases open_x
  | some w =>
    by_cases open_w : w.state.allowsPackets
    · have peer := peer_eq_of_joined free (Nat.le_succ i) hw (.inr open_w) hx
      have names_w : w.peer = .ofEnd d := peer.symm.trans names
      have accord := before w y hw hy open_w open_y names_w names'
      by_cases done : deed = .completed
      · subst done
        rcases accord_of_completed free happens hw hx hy lane open_y names_w accord with
          fits | ahead
        · exact .inl fits
        · exact .inr (.inl ahead)
      · obtain ⟨v, after, step⟩ := happens.step.endStep hw
        rw [hx] at after
        cases after
        have fields := (step.fields_eq open_w).resolve_right done
        rcases accord with fits | ahead | ahead
        · rw [fields]
          exact .inl fits
        · exact .inr (.inl (ahead.of_lane_eq fields lane))
        · exact .inr (.inr (ahead.of_behind kept happens hw hx open_x done names_w))
    · exact .inl (accord_of_opening free happens hw open_w hx open_x names hy)

/-! ### All along a run -/

theorem accord (kept : ∀ i s, ¬ r.RevertsCompleted i s) : r.Accord i s e d := by
  induction i generalizing s e d with
  | zero =>
    intro x y hx
    rw [lane_zero] at hx
    cases hx
  | succ i ih =>
    rcases r.action?_eq_none_or i s with quiet | quiet
    · have flipped := accord_succ free (kept i s.other) (by rwa [Side.other_other])
        (ih (s := s) (e := e) (d := d)).symm
      have accord := flipped.symm
      rwa [Side.other_other] at accord
    · exact accord_succ free (kept i s) quiet ih

/-! ### What takes an end back -/

/-- An error receipt is written by an end that completed a round: when it is open and shown a
proposal no newer than the round it is in, or when it gives up an upgrade of a later round. -/
structure WritesPast (r : Run) (k : Nat) (s : Side) (e : EndId) (n : Sequence)
    (receipt : ErrorReceipt) : Prop where
  completed : r.Completed k s e n
  fresh : (r.lane k s e).errorReceipt ≠ some receipt
  written : (r.lane (k + 1) s e).errorReceipt = some receipt
  cause : ∃ y, (r.lane k s e).channel = some y ∧
    ((y.state = .opened ∧ n ≤ y.upgradeSequence ∧ receipt.sequence = y.upgradeSequence ∧
        ∃ m, r.action? k s = some (.deliver (.upgrade (.answer m))) ∧
          m.peerSequence ≤ y.upgradeSequence) ∨
      (y.state = .initUpgrade ∨ y.state = .tryUpgrade) ∧ n < y.upgradeSequence)

/-- What a cancellation takes an end back with, behind a round that its other end completed, is a
receipt that the other end wrote since. -/
theorem exists_writesPast (reverts : r.RevertsCompleted i s) :
    ∃ m x d, r.action? i s = some (.deliver (.upgrade (.cancel m))) ∧
      (r.lane i s m.owner).channel = some x ∧ x.state = .ackUpgrade ∧ x.peer = .ofEnd d ∧
        ∃ k < i, r.WritesPast k s.other d x.upgradeSequence m.receipt := by
  obtain ⟨m, x, y, d, action, hx, state, names, hy, opened, completed⟩ := reverts
  refine ⟨m, x, d, action, hx, state, names, ?_⟩
  obtain ⟨a, deed, happens⟩ := r.happens i s m.owner
  rcases happens.step.leaves_ack hx state hy (by simp [opened]) with
    ⟨closed, -⟩ | rfl | ⟨acts, m', d', time, rfl, -, -, newer, named, shown⟩
  · rw [opened] at closed
    cases closed
  · obtain ⟨m', rfl, other⟩ := happens.step.action_of_completed
    cases action.symm.trans (happens.acts (by simp))
    exact absurd rfl (other m)
  cases action.symm.trans (happens.acts acts)
  obtain rfl := ChannelPeer.ofEnd_injective (names.symm.trans named)
  obtain ⟨j, le, saw⟩ := exists_saw free shown action (by
    simp [Action.proofs, Datagram.evidence?, Evidence.proofs])
  obtain ⟨k, lt, fresh, written⟩ := exists_writing (saw.errorReceipt List.mem_cons_self)
  obtain ⟨b, deed, writes⟩ := r.happens k s.other d
  obtain ⟨rfl, z, z', there, after, open_z', sequence, cause⟩ :=
    writes.step.writesReceipt written fresh
  have since : r.Completed k s.other d x.upgradeSequence := by
    obtain ⟨t, -, c, w, done, hw, round⟩ := completed
    refine ⟨t, Nat.lt_of_not_le fun before => ?_, c, w, done, hw, round⟩
    obtain rfl | later := Nat.eq_or_lt_of_le before
    · rw [done.step.errorReceipt_of_completed] at written
      exact fresh written
    · -- The receipt leaves its end past the round, which is not completed by then.
      have onward := Run.phase_le later after hw
      obtain ⟨u, own, v, channel, -, running, -⟩ := done.step.completed
      cases hw.symm.trans channel
      have stage : w.state.stage ≤ 3 := by
        rcases running with running | running <;> rw [running] <;> decide
      rw [ChannelEnd.phase_of_open open_z', sequence, ChannelEnd.phase, round] at onward
      rw [UInt64.le_iff_toNat_le] at newer
      omega
  refine ⟨k, Nat.lt_of_lt_of_le lt le, since, fresh, written, z, there, ?_⟩
  have past := since.phase_le there
  rcases cause with ⟨open_z, own, m', rfl, old⟩ | giving
  · rw [ChannelEnd.phase_of_open open_z] at past
    refine .inl ⟨open_z, ?_, own, m', writes.acts (by simp), old⟩
    rw [UInt64.le_iff_toNat_le]
    omega
  · have stage : z.state.stage ≤ 2 := by
      rcases giving with giving | giving <;> rw [giving] <;> decide
    rw [ChannelEnd.phase] at past
    refine .inr ⟨giving, ?_⟩
    rw [UInt64.lt_iff_toNat_lt]
    omega

/-- Two open ends that name each other have the same ordering and version, and run over the two ends
of one connection, as long as no cancellation takes an end back behind a round that the other end
completed. -/
theorem open_ends_agree (kept : ∀ i s, ¬ r.RevertsCompleted i s)
    (hx : (r.lane i s e).channel = some x) (hy : (r.lane i s.other d).channel = some y)
    (open_x : x.state = .opened) (open_y : y.state = .opened) (names : x.peer = .ofEnd d)
    (names' : y.peer = .ofEnd e) :
    x.ordering = y.ordering ∧ x.version = y.version ∧ ∃ hop peerHop, x.hops = [hop] ∧
      y.hops = [peerHop] ∧ (r.host i s).Links hop peerHop ∧
        (r.host i s.other).Links peerHop hop := by
  have fits : r.Fits s x.fields y.fields := by
    rcases accord free kept x y hx hy (by rw [open_x]; rfl) (by rw [open_y]; rfl) names names' with
      fits | ahead | ahead
    · exact fits
    · have state := ahead.state
      rw [open_y] at state
      cases state
    · have state := ahead.state
      rw [open_x] at state
      cases state
  obtain ⟨ordering, version, hop, peerHop, own, peer, links⟩ := fits
  exact ⟨ordering, version, hop, peerHop, own, peer, links_iff.2 links, links_back links i⟩

end Run

/-- The ends of a channel that was turned ordered. -/
theorem Run.open_ends_agree_upgraded :
    letI : Digest := .plain
    let r := Passage.upgraded "ics20-1" [1] (by decide)
    ∃ x y, (r.lane 21 .left Passage.owner).channel = some x ∧
      (r.lane 21 .right Passage.owner).channel = some y ∧ x.state = .opened ∧ y.state = .opened ∧
        x.ordering = y.ordering ∧ x.version = y.version ∧ ∃ hop peerHop, x.hops = [hop] ∧
          y.hops = [peerHop] ∧ (r.host 21 .left).Links hop peerHop ∧
            (r.host 21 .right).Links peerHop hop := by
  let _ : Digest := .plain
  have filled : [1] ≠ ([] : Bytes) := by decide
  have kept (i : Nat) (s : Side) :
      ¬ (Passage.upgraded "ics20-1" [1] filled).RevertsCompleted i s := by
    rintro ⟨m, x, y, d, action, -⟩
    exact Passage.no_cancel_upgraded _ filled action
  refine ⟨Passage.turned "ics20-1", Passage.turned "ics20-1", rfl, rfl, rfl, rfl, ?_⟩
  exact open_ends_agree (s := .left) (Digest.injectiveOn_plain _) kept (d := Passage.owner) rfl rfl
    rfl rfl rfl rfl

end Crosschain
