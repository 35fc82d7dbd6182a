import Crosschain.Proofs.ChainSteps
import Crosschain.Proofs.Courses
import Crosschain.Proofs.PacketTrail

/-!
# The history of one chain

A chain that starts without channels goes on by actions, whatever the headers that its clients are
told of. The packets of an end that the history announces are numbered one after the other, each is
acknowledged or times out at most once, and the commitments that are kept are those of the packets
that neither happened to.
-/

namespace Crosschain

/-! ### Histories -/

/-- What a chain was asked for and what was seen of it, the first action first. -/
abbrev History := List (Action × Report)

/-- A chain goes from one state to another by the actions of a history. None of them overflows, as
an overflow leads nowhere. -/
inductive Chain.Leads [Digest] (c : Chain) : History → Chain → Prop
  | rest : Leads c [] c
  | act {l : History} {d d' : Chain} {a : Action} {rep : Report} (before : Leads c l d)
    (done : d.perform a = some (rep, d')) : Leads c (l ++ [(a, rep)]) d'

namespace History

variable (l l' : History) (e : EndId)

def events : List Event := l.flatMap fun m => m.2.events

/-- The packets that an end announced. -/
def announced : List Packet := (events l |>.filterMap Event.sent?).filter fun p => p.source = e

/-- The packets of an end that were acknowledged or timed out. -/
def resolved : List Packet := (events l |>.filterMap Event.resolved?).filter fun p => p.source = e

theorem announced_append : announced (l ++ l') e = announced l e ++ announced l' e := by
  simp [announced, events]

theorem resolved_append : resolved (l ++ l') e = resolved l e ++ resolved l' e := by
  simp [resolved, events]

variable {l e}

theorem announced_singleton {c c' : Chain} {a : Action} {rep : Report} {d : Deed}
    (accounts : Accounts c a rep c' e d) : announced [(a, rep)] e = d.sent?.toList := by
  simpa [announced, events] using accounts.sent

theorem resolved_singleton {c c' : Chain} {a : Action} {rep : Report} {d : Deed}
    (accounts : Accounts c a rep c' e d) : resolved [(a, rep)] e = d.resolved?.toList := by
  simpa [resolved, events] using accounts.resolved

end History

namespace Chain.Leads

variable [Digest] {c d : Chain} {l : History}

theorem orderly (start : c.host.store = .empty) (leads : c.Leads l d) : d.Orderly := by
  induction leads with
  | rest =>
    constructor
    all_goals
      intro e taken
      rw [start] at taken
      exact absurd (ChannelStore.lane_empty e) taken
  | act before done ih => exact ih.perform done

theorem trans {d' : Chain} {l' : History} (leads : c.Leads l d) (onward : d.Leads l' d') :
    c.Leads (l ++ l') d' := by
  induction onward with
  | rest => simpa using leads
  | act before done ih =>
    rw [← List.append_assoc]
    exact .act ih done

end Chain.Leads

namespace Run

variable [Digest] (r : Run) (s : Side)

def history : Nat → History
  | 0 => []
  | i + 1 => match r.move i with
    | some m => if m.side = s then history i ++ [(m.action, m.report)] else history i
    | none => history i

theorem leads (i : Nat) : (r.world 0 s).Leads (r.history s i) (r.world i s) := by
  induction i with
  | zero => exact .rest
  | succ i ih =>
    have step := r.step i
    rw [history]
    cases move : r.move i with
    | none =>
      rw [move] at step
      rw [show r.world (i + 1) = r.world i from step]
      exact ih
    | some m =>
      rw [move] at step
      obtain ⟨c, done, world⟩ := step
      simp only [world]
      by_cases own : m.side = s
      · subst own
        simp only [if_true]
        exact .act ih done
      · rw [if_neg own, if_neg (Ne.symm own)]
        exact ih

variable {r s}

theorem exists_move_of_mem {i : Nat} {a : Action} {rep : Report} (mem : (a, rep) ∈ r.history s i) :
    ∃ j, r.move j = some ⟨s, a, rep⟩ := by
  induction i with
  | zero => cases mem
  | succ i ih =>
    rw [history] at mem
    split at mem
    next m move =>
      split at mem
      next own =>
        subst own
        obtain before | last := List.mem_append.1 mem
        · exact ih before
        · cases List.mem_singleton.1 last
          exact ⟨i, move⟩
      · exact ih mem
    · exact ih mem

end Run

/-! ### What is kept of the packets of an end -/

/-- What a lane keeps of the packets that its end announced, of which some were resolved. -/
structure Lane.Tallies [Digest] (l : Lane) (sent resolved : List Packet) : Prop where
  numbered : Numbered l.nextSend sent
  counter : l.channel ≠ none → l.nextSend ≠ none
  once : (resolved.map Packet.sequence).Nodup
  earlier : ∀ p ∈ resolved, ∃ q ∈ sent, q.sequence = p.sequence
  committed : ∀ p ∈ sent, Commitment.ofPacket? p ≠ none
  commitments : ∀ n c, l.commitments n = some c ↔
    ∃ p ∈ sent, p.sequence = n ∧ (∀ q ∈ resolved, q.sequence ≠ n) ∧ Commitment.ofPacket? p = some c

namespace LaneStep

variable [Digest] {h : Host} {a : Action} {e : EndId} {l l' : Lane} {d : Deed}

theorem resolved {p : Packet} (step : LaneStep h a e l d l') (told : d.resolved? = some p) :
    d.sent? = none ∧ l.channel ≠ none ∧ l'.nextSend = l.nextSend ∧
      (∃ c, l.commitments p.sequence = some c) ∧
        l'.commitments = Function.update l.commitments p.sequence none := by
  cases step with
  | acknowledge _ m x c time nextAck action owner channel state named stored =>
    cases told
    exact ⟨rfl, by simp [channel], rfl, ⟨c, stored⟩, rfl⟩
  | timeoutOrdered _ m x c time action owner channel named stored =>
    cases told
    exact ⟨rfl, by simp [channel], rfl, ⟨c, stored⟩, rfl⟩
  | timeoutUnordered _ m x c time action owner channel named stored =>
    cases told
    exact ⟨rfl, by simp [channel], rfl, ⟨c, stored⟩, rfl⟩
  | _ => cases told

theorem sent_commitments {p : Packet} (step : LaneStep h a e l (.sent p) l') :
    ∃ c, Commitment.ofPacket? p = some c ∧
      l'.commitments = Function.update l.commitments p.sequence (some c) := by
  cases step with
  | send _ cap m x peer n next c p action owner channel state order named counter counted packet
      ahead commitment =>
    refine ⟨c, commitment, ?_⟩
    rw [packet]

theorem commitments_eq (step : LaneStep h a e l d l') (quiet : d.sent? = none)
    (quiet' : d.resolved? = none) : l'.commitments = l.commitments := by
  cases step with
  | send => cases quiet
  | acknowledge => cases quiet'
  | timeoutOrdered => cases quiet'
  | timeoutUnordered => cases quiet'
  | _ => rfl

end LaneStep

namespace Lane.Tallies

variable [Digest] {h : Host} {a : Action} {e : EndId} {l l' : Lane} {d : Deed}
  {sent resolved : List Packet}

theorem empty : Lane.Tallies .empty [] [] where
  numbered := .nil
  counter there := absurd rfl there
  once := List.nodup_nil
  earlier := by simp
  committed := by simp
  commitments := by simp [Lane.empty]

/-- A sent packet has a number of its own, above those of all packets before it. -/
theorem of_sent {p : Packet} (tallies : l.Tallies sent resolved)
    (step : LaneStep h a e l (.sent p) l') : l'.Tallies (sent ++ [p]) resolved := by
  obtain ⟨-, -, -, -, counter, next, counted, after⟩ := step.sent
  obtain ⟨c, commitment, commitments⟩ := step.sent_commitments
  -- The send counter is behind all that was sent, so the number of the packet is new.
  have above : ∀ q ∈ sent, q.sequence ≠ p.sequence := by
    intro q mem same
    obtain ⟨k, lt, rfl⟩ := List.mem_iff_getElem.1 mem
    have number := tallies.numbered.numbers k lt
    have total := tallies.numbered.some _ counter
    rw [same] at number
    omega
  have unresolved : ∀ q ∈ resolved, q.sequence ≠ p.sequence := by
    intro q mem same
    obtain ⟨q', mem', same'⟩ := tallies.earlier q mem
    exact above q' mem' (same'.trans same)
  refine ⟨?_, step.counter tallies.counter, tallies.once, ?_, ?_, ?_⟩
  · rw [after]
    exact tallies.numbered.push counter counted
  · intro q mem
    obtain ⟨q', mem', same⟩ := tallies.earlier q mem
    exact ⟨q', List.mem_append_left _ mem', same⟩
  · intro q mem
    rcases List.mem_append.1 mem with mem | mem
    · exact tallies.committed q mem
    · rw [List.mem_singleton.1 mem, commitment]
      simp
  · intro n b
    rw [commitments]
    by_cases same : n = p.sequence
    · subst same
      rw [Function.update_self]
      constructor
      · rintro ⟨⟩
        exact ⟨p, by simp, rfl, unresolved, commitment⟩
      · rintro ⟨q, mem, number, -, found⟩
        rcases List.mem_append.1 mem with mem | mem
        · exact absurd number (above q mem)
        · obtain rfl := List.mem_singleton.1 mem
          exact commitment.symm.trans found
    · rw [Function.update_of_ne same, tallies.commitments]
      constructor
      · rintro ⟨q, mem, found⟩
        exact ⟨q, List.mem_append_left _ mem, found⟩
      · rintro ⟨q, mem, number, found⟩
        rcases List.mem_append.1 mem with mem | mem
        · exact ⟨q, mem, number, found⟩
        · rw [List.mem_singleton.1 mem] at number
          exact absurd number.symm same

/-- A packet is resolved while its commitment is kept, so for the first time. -/
theorem of_resolved {p : Packet} (tallies : l.Tallies sent resolved) (step : LaneStep h a e l d l')
    (told : d.resolved? = some p) : l'.Tallies sent (resolved ++ [p]) := by
  obtain ⟨-, there, counter, ⟨c, stored⟩, commitments⟩ := step.resolved told
  obtain ⟨q, mem, number, new, -⟩ := (tallies.commitments p.sequence c).1 stored
  refine ⟨?_, step.counter tallies.counter, ?_, ?_, tallies.committed, ?_⟩
  · rw [counter]
    exact tallies.numbered
  · rw [List.map_append, List.nodup_append]
    refine ⟨tallies.once, by simp, ?_⟩
    intro m hm n hn
    obtain ⟨x, hx, rfl⟩ := List.mem_map.1 hm
    obtain rfl := List.mem_singleton.1 hn
    exact new x hx
  · intro x hx
    rcases List.mem_append.1 hx with hx | hx
    · exact tallies.earlier x hx
    · rw [List.mem_singleton.1 hx]
      exact ⟨q, mem, number⟩
  · intro n b
    rw [commitments]
    by_cases same : n = p.sequence
    · subst same
      rw [Function.update_self]
      constructor
      · intro none
        cases none
      · rintro ⟨x, -, -, other, -⟩
        exact absurd rfl (other p (by simp))
    · rw [Function.update_of_ne same, tallies.commitments]
      simp only [List.mem_append, List.mem_singleton, or_imp, forall_and, forall_eq,
        Ne.symm same, ne_eq, not_false_eq_true, and_true]

theorem of_quiet (tallies : l.Tallies sent resolved) (step : LaneStep h a e l d l')
    (quiet : d.sent? = none) (quiet' : d.resolved? = none) : l'.Tallies sent resolved := by
  refine ⟨?_, step.counter tallies.counter, tallies.once, tallies.earlier, tallies.committed, ?_⟩
  · rcases step.nextSend quiet with same | ⟨absent, start⟩
    · rw [same]
      exact tallies.numbered
    · rw [start]
      exact tallies.numbered.start absent
  · rw [step.commitments_eq quiet quiet']
    exact tallies.commitments

theorem step (tallies : l.Tallies sent resolved) (step : LaneStep h a e l d l') :
    l'.Tallies (sent ++ d.sent?.toList) (resolved ++ d.resolved?.toList) := by
  cases deed : d.resolved? with
  | some p =>
    rw [(step.resolved deed).1]
    simpa using tallies.of_resolved step deed
  | none =>
    cases d with
    | sent p => simpa [Deed.sent?] using tallies.of_sent step
    | _ => simpa [Deed.sent?] using tallies.of_quiet step rfl deed

end Lane.Tallies

/-! ### All along a history -/

/-- What a chain keeps of the packets that the history of an end tells of. -/
structure Chain.Ledger [Digest] (d : Chain) (l : History) (e : EndId) : Prop where
  /-- The packets announced are numbered from one on. -/
  numbers : ∀ k (h : k < (l.announced e).length), (l.announced e)[k].sequence.toNat = k + 1
  /-- The send counter of the end is behind the last of them. -/
  counter : ∀ x, d.host.store.ends[e]? = some x → ∃ n, d.host.store.nextSend[e]? = some n ∧
    n.toNat = (l.announced e).length + 1
  /-- No number is acknowledged or timed out twice. -/
  once : ((l.resolved e).map Packet.sequence).Nodup
  /-- What is acknowledged or timed out was announced before. -/
  later : ∀ l₁ m l₂, l = l₁ ++ m :: l₂ → ∀ p ∈ History.resolved [m] e,
    ∃ q ∈ History.announced l₁ e, q.sequence = p.sequence
  /-- Each packet announced has a commitment. -/
  committed : ∀ p ∈ l.announced e, Commitment.ofPacket? p ≠ none
  /-- The commitments kept are those of the packets neither acknowledged nor timed out. -/
  commitments : ∀ n c, d.host.store.commitments[Slot.mk e n]? = some c ↔
    ∃ p ∈ l.announced e, p.sequence = n ∧ (∀ q ∈ l.resolved e, q.sequence ≠ n) ∧
      Commitment.ofPacket? p = some c

namespace Chain.Leads

variable [Digest] {c d : Chain} {l : History}

theorem tallies (start : c.host.store = .empty) (leads : c.Leads l d) (e : EndId) :
    (d.host.store.lane e).Tallies (l.announced e) (l.resolved e) := by
  induction leads with
  | rest =>
    rw [start, ChannelStore.lane_empty]
    exact .empty
  | act before done ih =>
    obtain ⟨deed, step, accounts⟩ := (perform_stepped (before.orderly start) done).lane e
    rw [History.announced_append, History.resolved_append, History.announced_singleton accounts,
      History.resolved_singleton accounts]
    exact ih.step step

theorem announced_before (start : c.host.store = .empty) (leads : c.Leads l d) (e : EndId)
    {l₁ l₂ : History} {m : Action × Report} (place : l = l₁ ++ m :: l₂) {p : Packet}
    (mem : p ∈ History.resolved [m] e) : ∃ q ∈ l₁.announced e, q.sequence = p.sequence := by
  induction leads generalizing l₂ with
  | rest => simp at place
  | @act l b b' a rep before done ih =>
    rcases List.eq_nil_or_concat l₂ with rfl | ⟨l₃, m', rfl⟩
    · -- The packet is resolved by the last action, against a commitment that was kept before.
      obtain ⟨rfl, last⟩ := List.append_inj' place rfl
      obtain rfl := List.singleton_inj.1 last
      obtain ⟨deed, step, accounts⟩ := (perform_stepped (before.orderly start) done).lane e
      rw [History.resolved_singleton accounts, Option.mem_toList] at mem
      obtain ⟨-, -, -, ⟨c, stored⟩, -⟩ := step.resolved mem
      obtain ⟨q, announced, number, -⟩ := ((before.tallies start e).commitments _ _).1 stored
      exact ⟨q, announced, number⟩
    · rw [List.concat_eq_append, ← List.cons_append, ← List.append_assoc] at place
      exact ih (List.append_inj' place rfl).1

/-- On a chain that started without channels, the packets an end announces are numbered without gap
or repetition, each number is acknowledged or timed out at most once and after its packet was
announced, and just the packets to which neither happened have their commitments kept. -/
theorem ledger (start : c.host.store = .empty) (leads : c.Leads l d) (e : EndId) : d.Ledger l e := by
  have tallies := leads.tallies start e
  refine ⟨tallies.numbered.numbers, ?_, tallies.once,
    fun _ _ _ place _ mem => leads.announced_before start e place mem, tallies.committed,
    tallies.commitments⟩
  intro x there
  have counted := tallies.counter (by simp [ChannelStore.lane, there])
  obtain ⟨n, counter⟩ := Option.ne_none_iff_exists'.1 counted
  exact ⟨n, counter, tallies.numbered.some n counter⟩

end Chain.Leads

/-- The chain that sent a packet over a channel that was opened ordered. -/
theorem Chain.Leads.ledger_direct :
    letI : Digest := .plain
    let r := Passage.direct "ics20-1" [1] (by decide)
    (r.world 11 .left).Ledger (r.history .left 11) Passage.owner := by
  let _ : Digest := .plain
  have filled : [1] ≠ ([] : Bytes) := by decide
  let r := Passage.direct "ics20-1" [1] filled
  exact Leads.ledger (r.started.chain .left).store (r.leads .left 11) Passage.owner

end Crosschain
