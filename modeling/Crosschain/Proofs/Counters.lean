import Crosschain.Proofs.AtMostOnce

/-!
# Counters of an end that turns ordered

When an upgrade turns an end ordered, its receive counter goes on where the other end goes on
sending. The counter is read off the proposal of the other end that was kept when the end answered
or agreed, and the other end sends nothing until it is through. Only a proposal that the other end
was done with long ago can lead the counter astray, and only an end that proposed itself takes one:
crossing proposals are not compared by their sequences.
-/

namespace Crosschain

section Steps

variable [Digest] {h : Host} {a : Action} {e : EndId} {l l' : Lane} {d : Deed} {x : ChannelEnd}
  {own : Upgrade}

theorem LaneStep.nextSend_of_changing (step : LaneStep h a e l d l') (channel : l.channel = some x)
    (running : x.state.isUpgrading) (upgrade : l.upgrade = some own)
    (changes : own.fields.ordering ≠ x.ordering) : l'.nextSend = l.nextSend := by
  cases step with
  | send _ cap m y peer n next c p action owner there state order =>
    rw [channel] at there
    cases there
    obtain ⟨u, pending, same⟩ := order running
    rw [show l.upgrade = some own from upgrade] at pending
    cases pending
    exact absurd same changes
  | openInit => cases channel
  | openTry => cases channel
  | _ => rfl

/-- An upgrade that turns an end ordered sets its receive counter behind the proposal of the other
end, and its acknowledgement counter to its send counter. -/
theorem LaneStep.turned (step : LaneStep h a e l .completed l') (channel : l.channel = some x)
    (upgrade : l.upgrade = some own) (before : x.ordering ≠ .ordered)
    (after : own.fields.ordering = .ordered) :
    ∃ peer n next, l.Turns x own peer ∧ Word.add? peer.latestSend 1 = some n ∧
      l'.nextRecv = some n ∧ l'.nextAck = some next ∧ l.nextSend = some next ∧
        l'.nextSend = some next := by
  have found {nextRecv nextAck : Option Sequence} (resets : l.Resets x own.fields nextRecv nextAck) :
      ∃ peer n next, l.Turns x own peer ∧ Word.add? peer.latestSend 1 = some n ∧
        nextRecv = some n ∧ nextAck = some next ∧ l.nextSend = some next := by
    rcases resets with ⟨keeps, -⟩ | ⟨-, -, peer, next, n, kept, sum, counter, recv, acked⟩
    · exact absurd ⟨after, before⟩ keeps
    · exact ⟨peer, n, next, ⟨channel, upgrade, kept, before, after⟩, sum, recv, acked, counter⟩
  cases step with
  | confirm _ m y own' nextRecv nextAck action owner there state pending shown resets =>
    rw [channel] at there
    cases there
    rw [upgrade] at pending
    cases pending
    obtain ⟨peer, n, next, turns, sum, recv, acked, counter⟩ := found resets
    exact ⟨peer, n, next, turns, sum, recv, acked, counter, counter⟩
  | finish _ m y own' nextRecv nextAck action owner there state pending shown resets =>
    rw [channel] at there
    cases there
    rw [upgrade] at pending
    cases pending
    obtain ⟨peer, n, next, turns, sum, recv, acked, counter⟩ := found resets
    exact ⟨peer, n, next, turns, sum, recv, acked, counter, counter⟩

/-- An end answers a proposal that it was shown: when it was open, one of a sequence above its own,
and otherwise one that crosses its own. -/
theorem LaneStep.replied {y : ChannelEnd} (step : LaneStep h a e l .replied l')
    (after : l'.channel = some y) :
    ∃ m w fields, a = .deliver (.upgrade (.answer m)) ∧ e = m.owner ∧ l.Replies h m w fields ∧
      l'.peerUpgrade = some m.peerUpgrade ∧ y.peer = w.peer ∧
        (y.upgradeSequence = m.peerSequence ∨ w.state = .initUpgrade ∧
          m.peerSequence < y.upgradeSequence ∧ w.upgradeSequence = y.upgradeSequence) := by
  cases step with
  | reply _ m w fields n action owner guard state newer =>
    cases after
    exact ⟨m, w, fields, action, owner, guard, rfl, rfl, .inl rfl⟩
  | cross _ m w fields own action owner guard state =>
    cases after
    refine ⟨m, w, fields, action, owner, guard, rfl, rfl, ?_⟩
    show max w.upgradeSequence m.peerSequence = m.peerSequence ∨ w.state = .initUpgrade ∧
      m.peerSequence < max w.upgradeSequence m.peerSequence ∧
        w.upgradeSequence = max w.upgradeSequence m.peerSequence
    by_cases le : w.upgradeSequence ≤ m.peerSequence
    · exact .inl (if_pos le)
    · rw [show max w.upgradeSequence m.peerSequence = w.upgradeSequence from if_neg le]
      exact .inr ⟨state, UInt64.not_le.1 le, rfl⟩

end Steps

namespace Run

variable [Digest] {r : Run} {i j k : Nat} {s : Side} {e d : EndId} {x y z w : ChannelEnd}
  {own peer v : Upgrade}

/-! ### Sends in one round -/

theorem exists_nextSend (there : (r.lane i s e).channel = some x) :
    ∃ n, (r.lane i s e).nextSend = some n := by
  have counted : (r.lane i s e).channel ≠ none → (r.lane i s e).nextSend ≠ none := by
    induction i generalizing x with
    | zero =>
      rw [lane_zero]
      exact fun absent => absurd rfl absent
    | succ i ih =>
      obtain ⟨a, deed, happens⟩ := r.happens i s e
      refine happens.step.counter fun before => ?_
      obtain ⟨y, there'⟩ := Option.ne_none_iff_exists'.1 before
      exact ih there' before
  exact Option.ne_none_iff_exists'.1 (counted (by simp [there]))

/-- All through a round that changes the ordering, and once it is over, the send counter is right
behind what was sent before the proposal. -/
theorem nextSend_of_round (hz : (r.lane j s d).channel = some z) (running : z.state.isUpgrading)
    (upgrade : (r.lane j s d).upgrade = some v) (changes : v.fields.ordering ≠ z.ordering)
    {n : Sequence} (sum : Word.add? v.latestSend 1 = some n)
    (hy : (r.lane k s d).channel = some y) (still : y.state.isUpgrading)
    (same : y.upgradeSequence = z.upgradeSequence) :
    (r.lane k s d).nextSend = some n ∧ (r.lane (k + 1) s d).nextSend = some n := by
  obtain ⟨fields, upgrade'⟩ := same_round hz hy running still same
  rw [upgrade] at upgrade'
  have changes' : v.fields.ordering ≠ y.ordering := by
    rw [show y.ordering = z.ordering from congrArg UpgradeFields.ordering fields]
    exact changes
  obtain ⟨y', there, -, last⟩ := paused v upgrade'
  rw [hy] at there
  cases there
  obtain ⟨m, counter⟩ := exists_nextSend hy
  -- The counter has been behind the proposal since the end proposed.
  have counted := last changes' m counter
  have sum' := Word.add?_eq_some_iff.1 sum
  have one : (1 : UInt64).toNat = 1 := rfl
  obtain rfl : m = n := UInt64.toNat_inj.1 (by omega)
  obtain ⟨a, deed, happens⟩ := r.happens k s d
  refine ⟨counter, ?_⟩
  rw [happens.step.nextSend_of_changing hy still upgrade' changes']
  exact counter

/-! ### The proposal that an end keeps -/

/-- In the round it is in, an end met the proposal of the other end, of a lower sequence, with its
own, although by now the other end is done with that proposal. -/
def AnswersOld (r : Run) (i : Nat) (s : Side) (e : EndId) : Prop :=
  ∃ t < i, ∃ m w x d, r.Happens t s e (.deliver (.upgrade (.answer m))) .replied ∧
    (r.lane t s e).channel = some w ∧ w.state = .initUpgrade ∧
      (r.lane i s e).channel = some x ∧ w.upgradeSequence = x.upgradeSequence ∧
        m.peerSequence < x.upgradeSequence ∧ x.peer = .ofEnd d ∧
          ∃ k ≤ i, ∃ z, (r.lane k s.other d).channel = some z ∧ z.state = .opened ∧
            m.peerSequence ≤ z.upgradeSequence

/-- The proposal that an end keeps from the other end is the one the other end has in some round. -/
structure Holds (r : Run) (j : Nat) (s : Side) (d : EndId) (n : Sequence) (peer : Upgrade)
    (z : ChannelEnd) (v : Upgrade) : Prop where
  there : (r.lane j s.other d).channel = some z
  running : z.state.isUpgrading
  sequence : z.upgradeSequence = n
  proposal : (r.lane j s.other d).upgrade = some v
  changes : v.fields.ordering ≠ z.ordering
  latest : v.latestSend = peer.latestSend

theorem upgrade_eq_of_unopened (le : j ≤ i) (hz : (r.lane j s d).channel = some z)
    (running : z.state.isUpgrading) (hy : (r.lane i s d).channel = some y)
    (still : y.state.isUpgrading)
    (unopened : ∀ k, j ≤ k → k ≤ i → ∀ w, (r.lane k s d).channel = some w → w.state ≠ .opened) :
    (r.lane i s d).upgrade = (r.lane j s d).upgrade := by
  have upto {k : Nat} (ge : j ≤ k) (le : k ≤ i) : ∃ w, (r.lane k s d).channel = some w ∧
      (w.state.isUpgrading ∧ (r.lane k s d).upgrade = (r.lane j s d).upgrade ∨
        w.state = .closed) := by
    induction k, ge using Nat.le_induction with
    | base => exact ⟨z, hz, .inl ⟨running, rfl⟩⟩
    | succ k ge ih =>
      obtain ⟨w, before, going⟩ := ih (by omega)
      obtain ⟨a, deed, happens⟩ := r.happens k s d
      obtain ⟨u, after, step⟩ := happens.step.endStep before
      refine ⟨u, after, ?_⟩
      rcases going with ⟨going, upgrade⟩ | closed
      · by_cases going' : u.state.isUpgrading
        · obtain ⟨-, upgrade'⟩ := happens.step.upgrade_eq before after going going'
          exact .inl ⟨going', upgrade'.trans upgrade⟩
        · have stage := step.stage_of_leaves going going'
          have unopened' := unopened (k + 1) (by omega) le u after
          right
          cases state : u.state <;> simp_all [ChannelState.stage]
      · exact .inr (step.closed closed)
  obtain ⟨w, there, found⟩ := upto le (Nat.le_refl i)
  rw [hy] at there
  cases there
  rcases found with ⟨-, upgrade⟩ | closed
  · exact upgrade
  · rw [closed] at still
    cases still

/-- An end that proposed in one round and agreed in a later one still had its proposal then, if it was
not open in between. -/
theorem upgrade_eq_of_lower (hw : (r.lane k s d).channel = some w) (init : w.state = .initUpgrade)
    (hz : (r.lane j s d).channel = some z) (agreed : z.state = .ackUpgrade)
    (lower : w.upgradeSequence < z.upgradeSequence)
    (unopened : ∀ l ≤ j, ∀ u, (r.lane l s d).channel = some u → u.state = .opened →
      ¬ w.upgradeSequence ≤ u.upgradeSequence) :
    (r.lane j s d).upgrade = (r.lane k s d).upgrade := by
  rw [UInt64.lt_iff_toNat_lt] at lower
  have first := ChannelEnd.phase_of_init init
  have last := ChannelEnd.phase_of_ack agreed
  have onward : k ≤ j := le_of_phase_lt hw hz (by omega)
  refine upgrade_eq_of_unopened onward hw (by rw [init]; rfl) hz (by rw [agreed]; rfl) ?_
  intro l ge le u there opened
  refine unopened l le u there opened ?_
  have since := phase_le ge hw there
  have at_open := ChannelEnd.phase_of_open opened
  rw [UInt64.le_iff_toNat_le]
  omega

variable (free : Digest.InjectiveOn r.Hashed)

include free

/-- The end that confirms kept the proposal it answered, and the other end agreed to that one, if it
was not done with it. -/
theorem exists_holds_of_confirm (state : x.state = .tryUpgrade)
    (turns : (r.lane i s e).Turns x own peer) (named : x.peer = .ofEnd d)
    (fresh : ¬ r.AnswersOld i s e) (le : j ≤ i) (hz : (r.lane j s.other d).channel = some z)
    (agreed : z.state = .ackUpgrade) (names : z.peer = .ofEnd e)
    (same : z.upgradeSequence = x.upgradeSequence) (fits : r.Fits s x.fields z.fields) :
    ∃ v, r.Holds j s d x.upgradeSequence peer z v := by
  have hx := turns.channel
  have running : z.state.isUpgrading := by rw [agreed]; rfl
  obtain ⟨v, pending, proposals⟩ :=
    proposals_fit free hx (by rw [state]; rfl) turns.upgrade hz agreed names same
  have changes : v.fields.ordering ≠ z.ordering := by
    rw [← proposals.1, ← show x.ordering = z.ordering from fits.1, turns.after]
    exact Ne.symm turns.before
  refine ⟨v, hz, running, same, pending, changes, ?_⟩
  -- The end answered a proposal that it was shown, and keeps it since.
  obtain ⟨t, lt, a, deed, happens, ⟨rfl, -⟩ | ⟨-, agreeing⟩, since⟩ := exists_entered hx (.inl state)
  swap
  · rw [state] at agreeing
    cases agreeing
  obtain ⟨there, -, kept⟩ := since (t + 1) (Nat.lt_succ_self t) (Nat.succ_le_of_lt lt)
  obtain ⟨m, w, fields, rfl, rfl, guard, kept', peer_eq, sequences⟩ := happens.step.replied there
  rw [kept, turns.peerUpgrade] at kept'
  cases kept'
  obtain ⟨hop, peerHop, f, second, time, hops, links, named', other, shown⟩ := guard.shown
  obtain rfl := ChannelPeer.ofEnd_injective (named.symm.trans (peer_eq.trans named'))
  obtain ⟨k, before, saw⟩ := exists_saw free shown (happens.acts (by simp)) (by
    simp [Action.proofs, Datagram.evidence?, Evidence.proofs, other])
  have proposed := saw.channel List.mem_cons_self
  obtain ⟨p, proposal, -, latest⟩ := saw.upgrade (List.mem_cons_of_mem _ List.mem_cons_self)
  have still : (r.lane j s.other d).upgrade = (r.lane k s.other d).upgrade := by
    rcases sequences with level | ⟨init, lower, own_sequence⟩
    · exact (same_round proposed hz rfl running (same.trans level)).2
    · refine upgrade_eq_of_lower proposed rfl hz agreed (by rwa [same]) ?_
      intro l le' u there' opened past
      exact fresh ⟨t, lt, m, w, x, d, happens, guard.channel, init, hx, own_sequence, lower, named,
        l, Nat.le_trans le' le, u, there', opened, past⟩
  rw [pending, proposal] at still
  cases still
  exact latest

/-- The end that agreed first kept the proposal it was shown, which the other end answered with. -/
theorem exists_holds_of_finish (state : x.state = .ackUpgrade)
    (turns : (r.lane i s e).Turns x own peer) (named : x.peer = .ofEnd d) :
    ∃ j ≤ i, ∃ z v, r.Holds j s d x.upgradeSequence peer z v := by
  obtain ⟨own', peer', d', pending, pending', named', t, lt, -, -, -, j, le, z, v, rests⟩ :=
    exists_rests free turns.channel state
  rw [turns.upgrade] at pending
  cases pending
  rw [turns.peerUpgrade] at pending'
  cases pending'
  obtain rfl := ChannelPeer.ofEnd_injective (named.symm.trans named')
  refine ⟨j, by omega, z, v, rests.there, by rw [rests.state]; rfl, rests.sequence, rests.proposal,
    ?_, rests.latest⟩
  rw [← rests.fits.1, rests.ordering, turns.after]
  exact Ne.symm turns.before

/-! ### Counters line up -/

omit free in
/-- The counters of an end line up with those of the other end, which goes through the round of a
sequence. -/
structure LinesUp (r : Run) (i : Nat) (s : Side) (e d : EndId) (round : Sequence) : Prop where
  /-- The end expects what the other end sends next, at each moment of the round and right after. -/
  received : ∃ n, (r.lane i s e).nextRecv = some n ∧
    ∀ j z, (r.lane j s.other d).channel = some z → z.state.isUpgrading → z.upgradeSequence = round →
      (r.lane j s.other d).nextSend = some n ∧ (r.lane (j + 1) s.other d).nextSend = some n
  /-- The end waits for the acknowledgement of what it sends next. -/
  acknowledged : ∃ n, (r.lane i s e).nextAck = some n ∧ (r.lane i s e).nextSend = some n

/-- When an end turns ordered, the other end was proven to have agreed to the upgrade or to have
completed it; the end now expects the packet that the other end sends next all through its attempt,
and waits for the acknowledgement of the packet that it sends next itself. This holds as long as the
end did not meet, with its own proposal, one of a lower sequence that the other end is done with. -/
theorem turned_lines_up (hx : (r.lane i s e).channel = some x) (before : x.ordering ≠ .ordered)
    (hy : (r.lane (i + 1) s e).channel = some y) (after : y.ordering = .ordered)
    (fresh : ¬ r.AnswersOld i s e) :
    ∃ d, x.peer = .ofEnd d ∧
      (∃ j ≤ i, ∃ z, (r.lane j s.other d).channel = some z ∧ z.peer = .ofEnd e ∧
        z.upgradeSequence = x.upgradeSequence ∧ (z.state = .ackUpgrade ∨ z.state = .opened)) ∧
      (∃ j ≤ i, ∃ z, (r.lane j s.other d).channel = some z ∧ z.state.isUpgrading ∧
        z.upgradeSequence = x.upgradeSequence) ∧
      r.LinesUp (i + 1) s e d x.upgradeSequence := by
  obtain ⟨a, deed, happens⟩ := r.happens i s e
  obtain rfl : deed = .completed := by
    obtain ⟨y', there, step⟩ := happens.step.endStep hx
    rw [hy] at there
    cases there
    by_contra other
    exact before ((step.ordering_eq other).symm.trans after)
  obtain ⟨own, d, upgrade, after', state, named, j, le, z, hz, back, same, shown⟩ :=
    exists_peer_of_completed free happens hx
  rw [hy] at after'
  cases after'
  obtain ⟨peer, n, next, turns, sum, recv, acked, -, counter⟩ :=
    happens.step.turned hx upgrade before after
  have holds : ∃ j ≤ i, ∃ z v, r.Holds j s d x.upgradeSequence peer z v := by
    rcases state with state | state
    · rcases shown with ⟨agreed, fits⟩ | ⟨agreed, -⟩
      · obtain ⟨v, found⟩ :=
          exists_holds_of_confirm free state turns named fresh le hz agreed back same fits
        exact ⟨j, le, z, v, found⟩
      · rw [state] at agreed
        cases agreed
    · exact exists_holds_of_finish free state turns named
  obtain ⟨k, le', w, v, holds⟩ := holds
  refine ⟨d, named, ⟨j, le, z, hz, back, same, shown.imp And.left fun completed => completed.2.1⟩,
    ⟨k, le', w, holds.there, holds.running, holds.sequence⟩, ⟨n, recv, ?_⟩, next, acked, counter⟩
  intro l u hu running round
  rw [← holds.latest] at sum
  exact nextSend_of_round holds.there holds.running holds.proposal holds.changes sum hu running
    (round.trans holds.sequence.symm)

end Run

/-- The end that answered the proposal turns ordered. -/
theorem Run.turned_lines_up_upgraded :
    letI : Digest := .plain
    let r := Passage.upgraded "ics20-1" [1] (by decide)
    ∃ d, (Passage.turning .tryUpgrade "ics20-1").peer = .ofEnd d ∧
      r.LinesUp 15 .right Passage.owner d 1 := by
  let _ : Digest := .plain
  have filled : [1] ≠ ([] : Bytes) := by decide
  have fresh :
      ¬ (Passage.upgraded "ics20-1" [1] filled).AnswersOld 14 .right Passage.owner := by
    rintro ⟨t, -, m, w, x, d, -, there, init, -⟩
    exact Passage.state_upgraded _ filled there init
  obtain ⟨d, names, -, -, lines⟩ := turned_lines_up (i := 14) (s := .right) (e := Passage.owner)
    (x := Passage.turning .tryUpgrade "ics20-1") (y := Passage.turned "ics20-1")
    (Digest.injectiveOn_plain _) rfl (by decide) rfl rfl fresh
  exact ⟨d, names, lines⟩

end Crosschain
