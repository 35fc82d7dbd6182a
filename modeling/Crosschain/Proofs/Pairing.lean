import Crosschain.Proofs.EndSteps
import Crosschain.Proofs.Sightings

/-!
# Ends that name each other

An end that opened names an end of the other chain that named it too, and an end that is open or
answers a proposal never changes whom it names. So no third end comes between the two ends of a
channel.
-/

namespace Crosschain

namespace Run

variable [Digest] {r : Run} {i j k : Nat} {s : Side} {e d : EndId} {x y z : ChannelEnd}

/-! ### Ends along a run -/

theorem exists_endStep (there : (r.lane i s e).channel = some x) :
    ∃ d y, (r.lane (i + 1) s e).channel = some y ∧ EndStep x d y := by
  obtain ⟨a, d, happens⟩ := r.happens i s e
  exact ⟨d, happens.step.endStep there⟩

theorem exists_later (le : i ≤ j) (there : (r.lane i s e).channel = some x) :
    ∃ y, (r.lane j s e).channel = some y ∧ x.phase ≤ y.phase := by
  induction j, le using Nat.le_induction with
  | base => exact ⟨x, there, Nat.le_refl _⟩
  | succ k le ih =>
    obtain ⟨y, before, phase⟩ := ih
    obtain ⟨_, z, after, step⟩ := exists_endStep before
    exact ⟨z, after, Nat.le_trans phase step.phase_le⟩

theorem phase_le (le : i ≤ j) (hx : (r.lane i s e).channel = some x)
    (hy : (r.lane j s e).channel = some y) : x.phase ≤ y.phase := by
  obtain ⟨z, there, phase⟩ := exists_later le hx
  rw [hy] at there
  cases there
  exact phase

theorem le_of_phase_lt (hx : (r.lane i s e).channel = some x) (hy : (r.lane j s e).channel = some y)
    (lt : x.phase < y.phase) : i ≤ j := by
  by_contra later
  exact absurd (phase_le (Nat.le_of_not_le later) hy hx) (Nat.not_le.2 lt)

/-! ### Before an end opens -/

theorem unopened_eq (le : i ≤ j) (hx : (r.lane i s e).channel = some x)
    (hy : (r.lane j s e).channel = some y) (state : y.state = .init ∨ y.state = .tryOpen) :
    y = x := by
  induction j, le using Nat.le_induction generalizing y with
  | base =>
    rw [hx] at hy
    exact (Option.some.inj hy).symm
  | succ k le ih =>
    obtain ⟨z, there, -⟩ := exists_later le hx
    obtain ⟨_, w, after, step⟩ := exists_endStep there
    rw [hy] at after
    cases after
    obtain rfl := step.eq_of_unopened state
    exact ih there state

/-- No end both proposes a channel and answers a proposal. -/
theorem not_init_and_tryOpen (hx : (r.lane i s e).channel = some x) (init : x.state = .init)
    (hy : (r.lane j s e).channel = some y) : y.state ≠ .tryOpen := by
  intro tryOpen
  rcases Nat.le_total i j with le | le
  · obtain rfl := unopened_eq le hx hy (.inr tryOpen)
    rw [init] at tryOpen
    cases tryOpen
  · obtain rfl := unopened_eq le hy hx (.inl init)
    rw [init] at tryOpen
    cases tryOpen

variable (free : Digest.InjectiveOn r.Hashed)

include free

/-- An end that answers a proposal was shown the proposal, which did not name its channel yet. -/
theorem exists_proposal (hx : (r.lane i s d).channel = some x) (state : x.state = .tryOpen) :
    ∃ e, x.peer = .ofEnd e ∧ ∃ j z, (r.lane j s.other e).channel = some z ∧ z.state = .init := by
  induction i generalizing x with
  | zero =>
    rw [lane_zero] at hx
    cases hx
  | succ i ih =>
    cases before : (r.lane i s d).channel with
    | some y =>
      obtain ⟨_, z, after, step⟩ := exists_endStep before
      rw [hx] at after
      cases after
      obtain rfl := step.eq_of_unopened (.inr state)
      exact ih before state
    | none =>
      obtain ⟨a, deed, happens⟩ := r.happens i s d
      obtain ⟨acts, -, init | ⟨m, peerHop, peer, time, action, -, named, shown⟩⟩ :=
        happens.step.created before hx
      · rw [init] at state
        cases state
      · obtain ⟨j, -, saw⟩ := exists_saw free shown (happens.acts acts) (by
          simp [action, Action.proofs, Datagram.evidence?, Evidence.proofs])
        exact ⟨peer, named, j, _, saw.channel List.mem_cons_self, rfl⟩

/-! ### Ends keep whom they name -/

/-- An end that answers a proposal is never acknowledged: the other end would have answered too. -/
theorem kept_of_tryOpen (hx : (r.lane i s e).channel = some x) (state : x.state = .tryOpen)
    (hy : (r.lane (i + 1) s e).channel = some y) : y.peer = x.peer ∧ y.fields = x.fields := by
  by_contra changed
  obtain ⟨a, deed, happens⟩ := r.happens i s e
  obtain ⟨m, peerHop, time, action, acts, shown⟩ := happens.step.acked_of_ne hx hy state changed
  obtain ⟨j, -, saw⟩ := exists_saw free shown (happens.acts acts) (by
    simp [action, Action.proofs, Datagram.evidence?, Evidence.proofs])
  have answered := saw.channel List.mem_cons_self
  obtain ⟨f, named, k, z, proposed, init⟩ := exists_proposal free answered rfl
  obtain rfl := ChannelPeer.ofEnd_injective named
  rw [Side.other_other] at proposed
  exact not_init_and_tryOpen proposed init hx state

theorem exists_endStep_of_joined (hx : (r.lane i s e).channel = some x)
    (joined : x.Joined ∨ x.state = .closed) :
    ∃ y, (r.lane (i + 1) s e).channel = some y ∧ y.peer = x.peer ∧
      (y.Joined ∨ y.state = .closed) := by
  obtain ⟨_, y, after, step⟩ := exists_endStep hx
  have past : y.Joined ∨ y.state = .closed := step.joined joined
  refine ⟨y, after, ?_, past⟩
  by_cases tryOpen : x.state = .tryOpen
  · exact (kept_of_tryOpen free hx tryOpen after).1
  · refine step.peer_eq ?_ tryOpen
    intro init
    rcases joined with (state | packets) | closed
    · exact tryOpen state
    · rw [init] at packets
      cases packets
    · rw [init] at closed
      cases closed

theorem exists_joined_later (le : i ≤ j) (hx : (r.lane i s e).channel = some x)
    (joined : x.Joined) : ∃ y, (r.lane j s e).channel = some y ∧ y.peer = x.peer ∧
      (y.Joined ∨ y.state = .closed) := by
  induction j, le using Nat.le_induction with
  | base => exact ⟨x, hx, rfl, .inl joined⟩
  | succ k le ih =>
    obtain ⟨y, before, peer, past⟩ := ih
    obtain ⟨z, after, peer', past'⟩ := exists_endStep_of_joined free before past
    exact ⟨z, after, peer'.trans peer, past'⟩

theorem peer_eq_of_joined (le : i ≤ j) (hx : (r.lane i s e).channel = some x) (joined : x.Joined)
    (hy : (r.lane j s e).channel = some y) : y.peer = x.peer := by
  obtain ⟨z, there, peer, -⟩ := exists_joined_later free le hx joined
  rw [hy] at there
  cases there
  exact peer

/-- Whenever an end takes part in its channel, it names the same end. -/
theorem peer_unique (hx : (r.lane i s e).channel = some x) (joined : x.Joined)
    (hy : (r.lane j s e).channel = some y) (joined' : y.Joined) : y.peer = x.peer := by
  rcases Nat.le_total i j with le | le
  · exact peer_eq_of_joined free le hx joined hy
  · exact (peer_eq_of_joined free le hy joined' hx).symm

theorem exists_completed_of_fields_ne (le : j ≤ i) (hz : (r.lane j s d).channel = some z)
    (joined : z.Joined) (hy : (r.lane i s d).channel = some y) (changed : y.fields ≠ z.fields) :
    ∃ t, j ≤ t ∧ t < i ∧ ∃ a, r.Happens t s d a .completed := by
  by_contra never
  have upto {k : Nat} (ge : j ≤ k) (le : k ≤ i) :
      ∃ w, (r.lane k s d).channel = some w ∧ w.fields = z.fields := by
    induction k, ge using Nat.le_induction with
    | base => exact ⟨z, hz, rfl⟩
    | succ k ge ih =>
      obtain ⟨w, before, fields⟩ := ih (by omega)
      obtain ⟨a, deed, happens⟩ := r.happens k s d
      obtain ⟨v, after, step⟩ := happens.step.endStep before
      refine ⟨v, after, ?_⟩
      rw [← fields]
      obtain ⟨u, there, -, past⟩ := exists_joined_later free ge hz joined
      rw [before] at there
      cases there
      rcases past with (tryOpen | packets) | closed
      · exact (kept_of_tryOpen free before tryOpen after).2
      · rcases step.fields_eq packets with same | rfl
        · exact same
        · exact absurd ⟨k, ge, by omega, a, happens⟩ never
      · exact step.fields_eq_of_closed closed
  obtain ⟨w, there, fields⟩ := upto le (Nat.le_refl i)
  rw [hy] at there
  cases there
  exact changed fields

/-! ### Ends that opened -/

/-- An open end opened once, when the end it names had joined with the same fields. -/
theorem exists_opening (hx : (r.lane i s d).channel = some x) (packets : x.state.allowsPackets) :
    ∃ t ≤ i, ∃ y, (r.lane t s d).channel = some y ∧ y.state = .opened ∧ ∃ e, x.peer = .ofEnd e ∧
      ∃ j ≤ t, ∃ z, (r.lane j s.other e).channel = some z ∧ z.Joined ∧ z.peer = .ofEnd d ∧
        r.Fits s y.fields z.fields := by
  induction i generalizing x with
  | zero =>
    rw [lane_zero] at hx
    cases hx
  | succ i ih =>
    obtain ⟨a, deed, happens⟩ := r.happens i s d
    cases before : (r.lane i s d).channel with
    | none =>
      obtain ⟨-, -, init | ⟨-, -, -, -, -, tryOpen, -⟩⟩ := happens.step.created before hx
      · rw [init] at packets
        cases packets
      · rw [tryOpen] at packets
        cases packets
    | some w =>
      by_cases open_before : w.state.allowsPackets
      · obtain ⟨t, le, y, there, opened, e, named, rest⟩ := ih before open_before
        have peer := peer_eq_of_joined free (Nat.le_succ i) before (.inr open_before) hx
        exact ⟨t, Nat.le_succ_of_le le, y, there, opened, e, peer.trans named, rest⟩
      · obtain ⟨acts, opened, -, proof, brought, height, time, st, hop, peerHop, e, named, hops,
          links, state, shown⟩ := happens.step.opening before hx open_before packets
        obtain ⟨j, le, saw⟩ := exists_saw free shown (happens.acts acts) (by simpa using brought)
        refine ⟨i + 1, Nat.le_refl _, x, hx, opened, e, named, j, Nat.le_succ_of_le le, _,
          saw.channel List.mem_cons_self, .of_opening state, rfl, rfl, rfl, hop, peerHop, hops, rfl,
          links_iff.1 links⟩

/-- When an open end names an end that takes part in its channel, it is named by it. -/
theorem named_back (hx : (r.lane i s d).channel = some x) (packets : x.state.allowsPackets)
    (names : x.peer = .ofEnd e) (hy : (r.lane j s.other e).channel = some y) (joined : y.Joined) :
    y.peer = .ofEnd d := by
  obtain ⟨t, -, -, -, -, f, names', k, -, z, there, joined', back, -⟩ := exists_opening free hx packets
  obtain rfl := ChannelPeer.ofEnd_injective (names.symm.trans names')
  rw [peer_unique free there joined' hy joined]
  exact back

end Run

end Crosschain
