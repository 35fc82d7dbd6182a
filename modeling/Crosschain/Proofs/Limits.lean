import Crosschain.Proofs.Creation

/-!
# How far counters get

An end counts its packets and its upgrades one by one, and a chain its channels. Beyond that an end
takes numbers over that the other chain was shown to keep: the sequence of an upgrade or of a
receipt, and how many packets were sent before an upgrade. So the number of actions, with the
greatest number that was taken over, bounds all counters of a chain.
-/

namespace Crosschain

/-! ### Numbers of the other chain -/

/-- The numbers that an end takes over from the other chain when the action is taken. -/
def Action.adopted : Action → List Sequence
  | .deliver (.upgrade (.answer m)) => [m.peerSequence, m.peerUpgrade.latestSend]
  | .deliver (.upgrade (.ack m)) => [m.peerUpgrade.latestSend]
  | .deliver (.upgrade (.cancel m)) => [m.receipt.sequence]
  | _ => []

/-- No number above a bound was taken over in a history. -/
def History.AdoptsUpTo (l : History) (b : Nat) : Prop :=
  ∀ p ∈ l, p.2.outcome ≠ none → ∀ n ∈ p.1.adopted, n.toNat ≤ b

theorem History.AdoptsUpTo.of_append {l : History} {b : Nat} {p : Action × Report}
    (adopts : History.AdoptsUpTo (l ++ [p]) b) :
    l.AdoptsUpTo b ∧ (p.2.outcome ≠ none → ∀ n ∈ p.1.adopted, n.toNat ≤ b) :=
  ⟨fun q mem => adopts q (List.mem_append_left _ mem),
    adopts p (List.mem_append_right _ List.mem_cons_self)⟩

/-! ### One lane -/

/-- How far the numbers kept for an end got in `k` actions that took over numbers up to `b`. -/
structure Lane.Below (l : Lane) (b k : Nat) : Prop where
  nextSend : ∀ n, l.nextSend = some n → n.toNat ≤ k + 1
  nextRecv : ∀ n, l.nextRecv = some n → n.toNat ≤ b + k + 1
  sent : ∀ n c, l.commitments n = some c → n.toNat ≤ k
  sequence : ∀ x, l.channel = some x → x.upgradeSequence.toNat ≤ b + k
  latestSend : ∀ u, l.peerUpgrade = some u → u.latestSend.toNat ≤ b

namespace Lane.Below

variable {l l' : Lane} {b k : Nat}

theorem empty : Lane.empty.Below b k :=
  ⟨nofun, nofun, nofun, nofun, nofun⟩

theorem succ (below : l.Below b k) : l.Below b (k + 1) := by
  constructor
  · exact fun n there => Nat.le_succ_of_le (below.nextSend n there)
  · exact fun n there => Nat.le_succ_of_le (below.nextRecv n there)
  · exact fun n c there => Nat.le_succ_of_le (below.sent n c there)
  · exact fun x there => Nat.le_succ_of_le (below.sequence x there)
  · exact below.latestSend

theorem resets {x : ChannelEnd} {fields : UpgradeFields} {nextRecv nextAck : Option Sequence}
    {n : Sequence} (below : l.Below b k) (resets : l.Resets x fields nextRecv nextAck)
    (there : nextRecv = some n) : n.toNat ≤ b + k + 1 := by
  obtain ⟨-, rfl, -⟩ | ⟨-, -, peer, next, recv, other, sum, -, rfl, -⟩ := resets
  · exact below.nextRecv n there
  · cases there
    have least := below.latestSend peer other
    have one : (1 : UInt64).toNat = 1 := rfl
    rw [Word.add?_eq_some_iff.1 sum, one]
    omega

section Step

variable [Digest] {h : Host} {a : Action} {e : EndId} {d : Deed} (below : l.Below b k)
  (step : LaneStep h a e l d l')

include below step

theorem nextSend_step {n : Sequence} (there : l'.nextSend = some n) : n.toNat ≤ k + 2 := by
  cases step with
  | openInit =>
    cases there
    exact Nat.le_add_left 1 (k + 1)
  | openTry =>
    cases there
    exact Nat.le_add_left 1 (k + 1)
  | send _ cap m x peer n next c p action owner channel state order named counter counted =>
    cases there
    rw [Word.add?_eq_some_iff.1 counted]
    exact Nat.succ_le_succ (below.nextSend n counter)
  | _ => exact below.succ.nextSend n there

theorem nextRecv_step {n : Sequence} (there : l'.nextRecv = some n) : n.toNat ≤ b + k + 2 := by
  cases step with
  | openInit =>
    cases there
    exact Nat.le_add_left 1 (b + k + 1)
  | openTry =>
    cases there
    exact Nat.le_add_left 1 (b + k + 1)
  | receiveOrdered _ m x next acks action owner guard ordering counter counted =>
    cases there
    rw [Word.add?_eq_some_iff.1 counted]
    exact Nat.succ_le_succ (below.nextRecv _ counter)
  | confirm _ m x own nextRecv nextAck action owner channel state upgrade shown resets =>
    exact Nat.le_succ_of_le (below.resets resets there)
  | finish _ m x own nextRecv nextAck action owner channel state upgrade shown resets =>
    exact Nat.le_succ_of_le (below.resets resets there)
  | _ => exact below.succ.nextRecv n there

theorem sent_step {n : Sequence} {c : Bytes} (there : l'.commitments n = some c) :
    n.toNat ≤ k + 1 := by
  -- A packet that is resolved leaves, and no other comes.
  have resolved {m : Sequence} (there : Function.update l.commitments m none n = some c) :
      n.toNat ≤ k + 1 := by
    by_cases same : n = m
    · rw [same, Function.update_self] at there
      cases there
    · rw [Function.update_of_ne same] at there
      exact below.succ.sent n c there
  cases step with
  | openInit => cases there
  | openTry => cases there
  | send _ cap m x peer next after kept p action owner channel state order named counter =>
    by_cases same : n = next
    · rw [same]
      exact below.nextSend next counter
    · simp only [Function.update_of_ne same] at there
      exact below.succ.sent n c there
  | acknowledge => exact resolved there
  | timeoutOrdered => exact resolved there
  | timeoutUnordered => exact resolved there
  | _ => exact below.succ.sent n c there

variable (bounded : ∀ n ∈ a.adopted, n.toNat ≤ b)

include bounded

theorem sequence_step {y : ChannelEnd} (there : l'.channel = some y) :
    y.upgradeSequence.toNat ≤ b + k + 1 := by
  have kept {x : ChannelEnd} (channel : l.channel = some x)
      (same : y.upgradeSequence = x.upgradeSequence) : y.upgradeSequence.toNat ≤ b + k + 1 := by
    rw [same]
    exact below.succ.sequence x channel
  have given {n : Sequence} (adopted : n ∈ a.adopted) (same : y.upgradeSequence = n) :
      y.upgradeSequence.toNat ≤ b + k + 1 := by
    have least := bounded n adopted
    rw [same]
    omega
  cases step with
  | openInit =>
    cases there
    exact Nat.zero_le _
  | openTry =>
    cases there
    exact Nat.zero_le _
  | propose _ cap m x n sequence timeout hop c action owner channel state changed hops connection
      counter counted =>
    cases there
    show sequence.toNat ≤ b + k + 1
    rw [Word.add?_eq_some_iff.1 counted]
    exact Nat.succ_le_succ (below.sequence x channel)
  | reply _ m x fields n action owner guard =>
    cases there
    exact given (by rw [action]; exact List.mem_cons_self) rfl
  | cross _ m x fields own action owner guard =>
    cases there
    obtain own | peer := Word.max_eq x.upgradeSequence m.peerSequence
    · exact kept guard.channel own
    · exact given (by rw [action]; exact List.mem_cons_self) peer
  | cancel _ m x peer time action =>
    cases there
    exact given (by rw [action]; exact List.mem_cons_self) rfl
  | abort _ x receipt channel state newer source =>
    cases there
    obtain own | ⟨m, action, peer⟩ := source
    · exact kept channel own
    · exact given (by rw [action]; exact List.mem_cons_self) peer
  | idle => exact kept there rfl
  | send => exact kept there rfl
  | receiveOrdered => exact kept there rfl
  | receiveUnordered => exact kept there rfl
  | answer => exact kept there rfl
  | acknowledge => exact kept there rfl
  | timeoutUnordered => exact kept there rfl
  | _ =>
    cases there
    have channel := ‹l.channel = some _›
    exact kept channel rfl

theorem latestSend_step {u : Upgrade} (there : l'.peerUpgrade = some u) :
    u.latestSend.toNat ≤ b := by
  cases step with
  | openInit => cases there
  | openTry => cases there
  | reply _ m x fields n action =>
    cases there
    exact bounded _ (by rw [action]; simp [Action.adopted])
  | cross _ m x fields own action =>
    cases there
    exact bounded _ (by rw [action]; simp [Action.adopted])
  | agree _ m x own hop peerHop peer second time action =>
    cases there
    exact bounded _ (by rw [action]; simp [Action.adopted])
  | confirm => cases there
  | finish => cases there
  | cancel => cases there
  | abort => cases there
  | expire => cases there
  | _ => exact below.latestSend u there

/-- An action counts one further, or takes over a number that is bounded. -/
theorem after_step : l'.Below b (k + 1) :=
  ⟨fun _ => below.nextSend_step step, fun _ => below.nextRecv_step step,
    fun _ _ => below.sent_step step, fun _ => below.sequence_step step bounded,
    fun _ => below.latestSend_step step bounded⟩

end Step

end Lane.Below

/-! ### A chain -/

/-- How far all counters of a store got. -/
structure ChannelStore.Below (s : ChannelStore) (b k : Nat) : Prop where
  lane : ∀ e, (s.lane e).Below b k
  created : s.created.toNat ≤ k
  nextIndex : s.registry.nextIndex.toNat ≤ k

namespace ChannelStore

variable {s t : ChannelStore} {b k : Nat}

theorem Below.succ (below : s.Below b k) : s.Below b (k + 1) :=
  ⟨fun e => (below.lane e).succ, Nat.le_succ_of_le below.created,
    Nat.le_succ_of_le below.nextIndex⟩

theorem Enlists.le (enlists : s.Enlists t) :
    t.created.toNat ≤ s.created.toNat + 1 ∧
      t.registry.nextIndex.toNat ≤ s.registry.nextIndex.toNat + 1 := by
  cases enlists with
  | kept created registry =>
    rw [created, registry]
    exact ⟨Nat.le_succ _, Nat.le_succ _⟩
  | new port x hop cap creates =>
    obtain ⟨-, -, index, -⟩ := Registry.create_eq_ok.1 creates.enlisted
    rw [Word.add?_eq_some_iff.1 creates.counted, Word.add?_eq_some_iff.1 index]
    exact ⟨Nat.le_refl _, Nat.le_refl _⟩

end ChannelStore

namespace Chain.Reaches

variable [Digest] {c d : Chain} {l : History} {b : Nat}

theorem counters_below (start : c.host.store = .empty) (reaches : c.Reaches l d)
    (adopts : l.AdoptsUpTo b) : d.host.store.Below b l.length := by
  induction reaches with
  | rest =>
    rw [start]
    refine ⟨fun e => ?_, Nat.le_refl 0, Nat.le_refl 0⟩
    rw [ChannelStore.lane_empty]
    exact .empty
  | @act l d d' a rep before taken ih =>
    obtain ⟨earlier, bounded⟩ := adopts.of_append
    have below := ih earlier
    have registered := before.registered start
    rw [List.length_append, List.length_singleton]
    cases outcome : rep.outcome with
    | none =>
      rw [((taken.tidied registered).refused outcome).host]
      exact below.succ
    | some o =>
      have counted := (taken.enlists registered).le
      refine ⟨fun e => ?_, ?_, ?_⟩
      · obtain ⟨deed, step, -⟩ := (taken.stepped (before.orderly start)).lane e
        exact (below.lane e).after_step step (bounded (by simp [outcome]))
      · exact Nat.le_trans counted.1 (Nat.succ_le_succ below.created)
      · exact Nat.le_trans counted.2 (Nat.succ_le_succ below.nextIndex)
  | arrange before store ports ih =>
    rw [store]
    exact ih adopts

end Chain.Reaches

end Crosschain
