import Crosschain.Proofs.Completion

/-!
# Proposals that cross

When both ends propose the same terms, each takes the proposal of the other for an answer and keeps
its own. From then on the ends go on side by side, at the greater of the two sequences: each
acknowledges the other and then finishes, on blocks that are already out of date for the chain that
comes second.
-/

namespace Crosschain

namespace World

variable {w : World} {old new : Terms} {owner : Side → EndId} {sequence : Side → Sequence}

/-- Both chains keep their ends in one state, each with its own upgrade. -/
def Keeps (w : World) (old : Terms) (owner : Side → EndId) (state : ChannelState)
    (n : Side → Sequence) (u : Side → Upgrade) : Prop :=
  ∀ s, (w s).host.store.ends[owner s]? = some (old.endAt owner state (n s) s) ∧
    (w s).host.store.upgrades[owner s]? = some (u s)

theorem keeps_of_stages {h : Side → Height} {k : Nat} {state : ChannelState} {n : Side → Sequence}
    {u : Side → Upgrade} {peer : Side → Option Upgrade}
    (stages : ∀ s, Stage old new owner s (h s) k (w s) (old.endAt owner state (n s) s) (some (u s))
      (peer s)) : w.Keeps old owner state n u :=
  fun s => ⟨(stages s).channel, (stages s).upgrade⟩

variable [Digest]

theorem exists_proposes_of_both {w' : World} {cap : Side → Capability} {m : Side → UpgradeInit}
    (proposes : ∀ s, (w s).Proposes (cap s) (m s) (w' s)) (first : Side) :
    ∃ v, w.Proposes first (cap first) (m first) v ∧
      v.Proposes first.other (cap first.other) (m first.other) w' := by
  let v := w.put first (w' first)
  have second : (v first.other).Proposes (cap first.other) (m first.other) (w' first.other) := by
    rw [show v first.other = w first.other from put_other]
    exact proposes first.other
  have done := proposes_put second
  rw [put_both] at done
  exact ⟨v, proposes_put (proposes first), done⟩

/-- Two upgrades that cross: both ends propose, reaching sequences `n`. Then each is brought the
proposal of the other, then the answer of the other, then its acknowledgement, and in each round
either may come first. All the while each end keeps its own upgrade. -/
def UpgradesCrossing (w : World) (old new : Terms) (owner : Side → EndId) (cap : Side → Capability)
    (named : Side → Option UpgradeTimeout) (t : Side → UpgradeTimeout) (n : Side → Sequence)
    (r₀ r₁ r₂ r₃ : Side) (w' : World) : Prop :=
  ∃ (w₀ w₁ w₂ w₃ : World) (u : Side → Upgrade),
    w.Proposes r₀ (cap r₀) ⟨owner r₀, new.fields r₀, named r₀⟩ w₀ ∧
    w₀.Proposes r₀.other (cap r₀.other) ⟨owner r₀.other, new.fields r₀.other, named r₀.other⟩ w₁ ∧
    w₁.Keeps old owner .initUpgrade n u ∧
    w₁.Round r₁ (fun s => (old.conn s).client)
      (fun s e => .answer (Upgrading.answerTo owner new s (t s) (u s.other) (n s.other) e)) w₂ ∧
    w₂.Keeps old owner .tryUpgrade (fun s => max (n s) (n s.other)) u ∧
    w₂.Round r₂ (fun s => (old.conn s).client) (fun s e => .ack ⟨owner s, u s.other, e⟩) w₃ ∧
    w₃.Keeps old owner .ackUpgrade (fun s => max (n s) (n s.other)) u ∧
    w₃.Round r₃ (fun s => (old.conn s).client) (fun s e => .finish ⟨owner s, .ackUpgrade, e⟩) w'

/-- Proposals of the same terms that cross go through, in whichever order the chains come in each
round, and leave both ends open with the new terms at the greater sequence. -/
theorem Poised.crossing_completes {cap : Side → Capability} {named : Side → Option UpgradeTimeout}
    {t t' : Side → UpgradeTimeout} {n : Side → Sequence} {s : Side}
    (poised : w.Poised old new owner sequence) (changed : new.fields s ≠ old.fields s)
    (owns : ∀ s, (w s).host.store.authenticate (owner s) (cap s) = .ok ())
    (until_then : ∀ s, Upgrading.deadline (w s).host (named s) = .ok (t s))
    (set : ∀ s, (t s).isSet) (counted : ∀ s, Word.add? (sequence s) 1 = some (n s))
    (ahead : ∀ s, (t s).Ahead (w s.other).host.height 2) (r₀ r₁ r₂ r₃ : Side) :
    ∃ w', w.UpgradesCrossing old new owner cap named t' n r₀ r₁ r₂ r₃ w' ∧
      ∀ s, (w' s).OpenWith new owner (max (n .left) (n .right)) s := by
  have changed' := poised.fields_ne changed
  have room (k : Nat) (le : k ≤ 4) (s : Side) : (w s).host.height.Room k := (poised.room s).mono le
  have ahead' (s : Side) : (t s.other).Ahead (w s).host.height 1 := by
    have ahead := (ahead s.other).mono (Nat.le_succ 1)
    rwa [Side.other_other] at ahead
  -- Both ends meet at one sequence.
  have meet (s : Side) : max (n s) (n s.other) = max (n .left) (n .right) := by
    cases s with
    | left => rfl
    | right => exact Word.max_comm _ _
  choose w₁ u proposes stage₁ asks b₁ current₁ using fun s =>
    (poised.stage s).exists_proposes (changed' s) (owns s) (until_then s) (set s) (counted s)
      (room 1 (by decide) s)
  choose w₂ crosses stage₂ b₂ current₂ using fun s =>
    (stage₁ s).exists_crosses (changed' s) (asks s) (asks s.other) (ahead' s)
      ((stage₁ s.other).holds_end (current₁ s.other))
      ((stage₁ s.other).holds_upgrade (current₁ s.other)) (room 2 (by decide) s) (t' s)
  simp only [meet] at stage₂
  choose w₃ acknowledges stage₃ b₃ current₃ using fun s =>
    (stage₂ s).exists_acknowledges (.inr rfl) (asks s) (asks s.other)
      ((stage₂ s.other).in_time (current₂ s.other) (ahead s) (Nat.le_refl 2))
      ((stage₂ s.other).holds_end (current₂ s.other))
      ((stage₂ s.other).holds_upgrade (current₂ s.other)) (room 3 (by decide) s)
  choose w₄ finishes stage₄ b₄ current₄ using fun s =>
    (stage₃ s).exists_finishes (asks s) (asks s.other) .ackUpgrade
      ((stage₃ s.other).holds_end (current₃ s.other)) (room 4 (by decide) s)
  obtain ⟨w₀, first, second⟩ := exists_proposes_of_both proposes r₀
  refine ⟨w₄, ⟨w₀, w₁, w₂, w₃, u, first, second, keeps_of_stages stage₁,
    round_of_relays (fun s => (current₁ s).newest) crosses, ?_,
    round_of_relays (fun s => (current₂ s).newest) acknowledges, ?_,
    round_of_relays (fun s => (current₃ s).newest) finishes⟩, fun s => (stage₄ s).openWith⟩
  · simp only [meet]
    exact keeps_of_stages stage₂
  · simp only [meet]
    exact keeps_of_stages stage₃

end World

/-- Both ends of a channel propose at once to turn it ordered. -/
theorem World.Poised.crossing_completes_ordered :
    letI : Digest := .plain
    ∃ w', (Passage.paired .unordered "ics20-1").UpgradesCrossing
        (Passage.terms .unordered "ics20-1") (Passage.terms .ordered "ics20-1")
        (fun _ => Passage.owner) (fun _ => Passage.handle)
        (fun _ => some (Passage.pledge "ics20-1").timeout)
        (fun _ => (Passage.pledge "ics20-1").timeout) (fun _ => 1) .left .right .left .right w' ∧
      ∀ s, (w' s).OpenWith (Passage.terms .ordered "ics20-1") (fun _ => Passage.owner) 1 s := by
  let _ : Digest := .plain
  refine Poised.crossing_completes (s := .left) (Passage.poised_paired (by decide)) (by decide)
    (fun s => ?_) (fun _ => rfl) (fun _ => rfl) (fun _ => by decide) (fun s => ?_) .left .right
    .left .right
  · cases s <;> exact Passage.Shelf.authenticate_store
  · cases s with
    | left => exact Passage.at_following.ahead (by decide) (by decide)
    | right => exact Passage.at_leading.ahead (by decide) (by decide)

end Crosschain
