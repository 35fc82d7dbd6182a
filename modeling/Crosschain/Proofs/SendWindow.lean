import Crosschain.Proofs.Flushing

/-!
# Packets in flight on an ordered end

The packets that an ordered end has in flight are the last ones it sent: their numbers run from the
acknowledgement counter up to the send counter. Sending adds one at the upper end and an
acknowledgement takes one away at the lower end. A timeout may take one from anywhere, but closes
the end. An upgrade that turns an end ordered moves the lower end of the window up to the upper one,
where it belongs, as nothing is in flight then.
-/

namespace Crosschain

/-! ### Windows -/

/-- Commitments are kept only of numbers from `a` up to `n`. -/
structure InWindow (a n : Sequence) (f : Sequence → Option Bytes) : Prop where
  le : a ≤ n
  inside : ∀ k c, f k = some c → a ≤ k ∧ k < n

/-- Commitments are kept of all numbers from `a` up to `n`. -/
def FillsWindow (a n : Sequence) (f : Sequence → Option Bytes) : Prop :=
  ∀ k, a ≤ k → k < n → ∃ c, f k = some c

section Windows

variable {a n next k : Sequence} {f : Sequence → Option Bytes} {c : Bytes}

theorem InWindow.empty (none : ∀ k, f k = none) : InWindow n n f := by
  refine ⟨UInt64.le_refl n, ?_⟩
  intro k c stored
  rw [none] at stored
  cases stored

theorem FillsWindow.empty : FillsWindow n n f := by
  intro k above below
  exact absurd above (UInt64.not_le.2 below)

theorem InWindow.send (window : InWindow a n f) (counted : Word.add? n 1 = some next) :
    InWindow a next (Function.update f n (some c)) := by
  have sum := Word.add?_eq_some_iff.1 counted
  have one : (1 : UInt64).toNat = 1 := rfl
  have le := UInt64.le_iff_toNat_le.1 window.le
  refine ⟨UInt64.le_iff_toNat_le.2 (by omega), ?_⟩
  intro k b stored
  rw [UInt64.le_iff_toNat_le, UInt64.lt_iff_toNat_lt]
  by_cases last : k = n
  · subst last
    omega
  · rw [Function.update_of_ne last] at stored
    obtain ⟨above, below⟩ := window.inside k b stored
    rw [UInt64.le_iff_toNat_le] at above
    rw [UInt64.lt_iff_toNat_lt] at below
    omega

theorem FillsWindow.send (fills : FillsWindow a n f) (counted : Word.add? n 1 = some next) :
    FillsWindow a next (Function.update f n (some c)) := by
  have sum := Word.add?_eq_some_iff.1 counted
  have one : (1 : UInt64).toNat = 1 := rfl
  intro k above below
  by_cases last : k = n
  · subst last
    exact ⟨c, Function.update_self ..⟩
  · rw [Function.update_of_ne last]
    rw [← UInt64.toNat_inj] at last
    rw [UInt64.lt_iff_toNat_lt] at below
    exact fills k above (UInt64.lt_iff_toNat_lt.2 (by omega))

theorem InWindow.acknowledge (window : InWindow a n f) (stored : f a = some c)
    (counted : Word.add? a 1 = some next) : InWindow next n (Function.update f a none) := by
  have sum := Word.add?_eq_some_iff.1 counted
  have one : (1 : UInt64).toNat = 1 := rfl
  have first := UInt64.lt_iff_toNat_lt.1 (window.inside a c stored).2
  refine ⟨UInt64.le_iff_toNat_le.2 (by omega), ?_⟩
  intro k b there
  by_cases same : k = a
  · simp [same] at there
  · rw [Function.update_of_ne same] at there
    obtain ⟨above, below⟩ := window.inside k b there
    rw [← UInt64.toNat_inj] at same
    rw [UInt64.le_iff_toNat_le] at above
    exact ⟨UInt64.le_iff_toNat_le.2 (by omega), below⟩

theorem FillsWindow.acknowledge (fills : FillsWindow a n f) (counted : Word.add? a 1 = some next) :
    FillsWindow next n (Function.update f a none) := by
  have sum := Word.add?_eq_some_iff.1 counted
  have one : (1 : UInt64).toNat = 1 := rfl
  intro k above below
  rw [UInt64.le_iff_toNat_le] at above
  have other : k ≠ a := by
    rintro rfl
    omega
  rw [Function.update_of_ne other]
  exact fills k (UInt64.le_iff_toNat_le.2 (by omega)) below

end Windows

/-! ### Steps -/

/-- The commitments of an ordered end lie between its counters, and fill the window as long as the
end is not closed. -/
def Lane.Windowed (l : Lane) : Prop :=
  ∀ x, l.channel = some x → x.ordering = .ordered →
    ∃ a n, l.nextAck = some a ∧ l.nextSend = some n ∧ InWindow a n l.commitments ∧
      (x.state ≠ .closed → FillsWindow a n l.commitments)

section Steps

variable [Digest] {h : Host} {a : Action} {e : EndId} {l l' : Lane} {d : Deed}
  {x y : ChannelEnd}

omit [Digest] in
theorem Lane.Windowed.of_end (windowed : l.Windowed) (before : l.channel = some x)
    (after : l'.channel = some y) (ordering : y.ordering = x.ordering) (opened : x.state ≠ .closed)
    (nextAck : l'.nextAck = l.nextAck) (nextSend : l'.nextSend = l.nextSend)
    (commitments : l'.commitments = l.commitments) : l'.Windowed := by
  intro z there ordered
  obtain rfl : y = z := Option.some.inj (after.symm.trans there)
  rw [nextAck, nextSend, commitments]
  obtain ⟨a, n, acked, counter, window, fills⟩ := windowed x before (ordering ▸ ordered)
  exact ⟨a, n, acked, counter, window, fun _ => fills opened⟩

omit [Digest] in
theorem Lane.Windowed.of_shut (windowed : l.Windowed) (before : l.channel = some x)
    (after : l'.channel = some { x with state := .closed }) (nextAck : l'.nextAck = l.nextAck)
    (nextSend : l'.nextSend = l.nextSend)
    (commitments : ∀ k c, l'.commitments k = some c → l.commitments k = some c) :
    l'.Windowed := by
  intro z there ordered
  obtain rfl := Option.some.inj (after.symm.trans there)
  rw [nextAck, nextSend]
  obtain ⟨a, n, acked, counter, window, -⟩ := windowed x before ordered
  have inside : InWindow a n l'.commitments :=
    ⟨window.le, fun k c stored => window.inside k c (commitments k c stored)⟩
  exact ⟨a, n, acked, counter, inside, fun opened => absurd rfl opened⟩

omit [Digest] in
/-- A completed upgrade keeps the window, or starts one where nothing is in flight. -/
theorem Lane.Windowed.of_completed {own : Upgrade} {nextRecv nextAck : Option Sequence}
    (windowed : l.Windowed) (flushed : l.Flushed) (channel : l.channel = some x)
    (state : x.state = .tryUpgrade ∨ x.state = .ackUpgrade) (upgrade : l.upgrade = some own)
    (resets : l.Resets x own.fields nextRecv nextAck) :
    Lane.Windowed { l with
      channel := some { x.withFields own.fields with state := .opened }
      nextRecv, nextAck, upgrade := none, peerUpgrade := none } := by
  rintro y ⟨⟩ ordered
  rcases resets with ⟨keeps, -, acked⟩ | ⟨-, turned, peer, next, recv, -, -, counter, -, acked⟩
  · have before : x.ordering = .ordered := by
      by_contra other
      exact keeps ⟨ordered, other⟩
    obtain ⟨a, n, acked', counter, window, fills⟩ := windowed x channel before
    refine ⟨a, n, acked.trans acked', counter, window, fun _ => fills ?_⟩
    rcases state with state | state <;> simp [state]
  · have changes : own.fields.ordering ≠ x.ordering := fun same => turned (same.symm.trans ordered)
    exact ⟨next, next, acked, counter, .empty (flushed x own channel state upgrade changes),
      fun _ => .empty⟩

theorem LaneStep.windowed (step : LaneStep h a e l d l') (windowed : l.Windowed)
    (flushed : l.Flushed) : l'.Windowed := by
  cases step with
  | openInit =>
    rintro x ⟨⟩ -
    exact ⟨1, 1, rfl, rfl, .empty fun _ => rfl, fun _ => .empty⟩
  | openTry =>
    rintro x ⟨⟩ -
    exact ⟨1, 1, rfl, rfl, .empty fun _ => rfl, fun _ => .empty⟩
  | close _ cap m x action owner channel =>
    exact windowed.of_shut channel rfl rfl rfl fun _ _ stored => stored
  | timeoutOrdered _ m x c time action owner channel =>
    exact windowed.of_shut channel rfl rfl rfl fun _ _ stored => stored_of_erased stored
  | timeoutUnordered _ m x c time action owner channel named stored commitment late unordered =>
    intro y there ordered
    obtain rfl : x = y := Option.some.inj (channel.symm.trans there)
    exact absurd ordered unordered
  | send _ cap m x peer k next c p action owner channel state order named counter counted =>
    intro y there ordered
    obtain ⟨b, n, acked, counter', window, fills⟩ := windowed y there ordered
    obtain rfl : k = n := Option.some.inj (counter.symm.trans counter')
    exact ⟨b, next, acked, rfl, window.send counted, fun opened => (fills opened).send counted⟩
  | acknowledge _ m x c time nextAck action owner channel state named stored commitment shown
      counter =>
    intro y there ordered
    obtain rfl : x = y := Option.some.inj (channel.symm.trans there)
    rcases counter with ⟨unordered, -⟩ | ⟨-, expected, next, counted, acked⟩
    · exact absurd ordered unordered
    · obtain ⟨b, n, acked', counter, window, fills⟩ := windowed x channel ordered
      obtain rfl : m.packet.sequence = b := Option.some.inj (expected.symm.trans acked')
      exact ⟨next, n, acked, counter, window.acknowledge stored counted,
        fun opened => (fills opened).acknowledge counted⟩
  | confirm _ m x own nextRecv nextAck action owner channel state upgrade shown resets =>
    exact windowed.of_completed flushed channel (.inl state) upgrade resets
  | finish _ m x own nextRecv nextAck action owner channel state upgrade shown resets =>
    exact windowed.of_completed flushed channel (.inr state) upgrade resets
  -- In these the end changes, but neither its ordering nor what is in flight.
  | openAck _ m x hop peerHop time action owner channel state =>
    refine windowed.of_end channel rfl rfl ?_ rfl rfl rfl
    rcases state with state | state <;> simp [state]
  | openConfirm _ m x hop peerHop peer time action owner channel state =>
    exact windowed.of_end channel rfl rfl (by simp [state]) rfl rfl rfl
  | propose _ cap m x n sequence timeout hop c action owner channel state =>
    exact windowed.of_end channel rfl rfl (by simp [state]) rfl rfl rfl
  | reply _ m x fields n action owner guard state =>
    exact windowed.of_end guard.channel rfl rfl (by simp [state]) rfl rfl rfl
  | cross _ m x fields own action owner guard state =>
    exact windowed.of_end guard.channel rfl rfl (by simp [state]) rfl rfl rfl
  | agree _ m x own hop peerHop peer second time action owner channel state =>
    refine windowed.of_end channel rfl rfl ?_ rfl rfl rfl
    rcases state with state | state <;> simp [state]
  | cancel _ m x peer time action owner channel running =>
    refine windowed.of_end channel rfl rfl ?_ rfl rfl rfl
    intro closed
    simp [closed, ChannelState.isUpgrading_iff] at running
  | abort _ x receipt channel state =>
    refine windowed.of_end channel rfl rfl ?_ rfl rfl rfl
    rcases state with ⟨state, -⟩ | state | state <;> simp [state]
  | expire _ m x own peer time receipt action owner channel state =>
    refine windowed.of_end channel rfl rfl ?_ rfl rfl rfl
    rcases state with state | state <;> simp [state]
  | _ => exact windowed

end Steps

/-! ### All along a history -/

namespace Chain

variable [Digest] {c d : Chain} {l : History} {e : EndId} {x : ChannelEnd}

theorem Leads.windowed (start : c.host.store = .empty) (leads : c.Leads l d) (e : EndId) :
    (d.host.store.lane e).Windowed := by
  induction leads with
  | rest =>
    rw [start, ChannelStore.lane_empty]
    intro x there
    cases there
  | act before done ih =>
    obtain ⟨deed, step, -⟩ := (perform_stepped (before.orderly start) done).lane e
    exact step.windowed ih (before.flushed start e)

/-- A packet of an end is in flight: its commitment is kept. -/
def InFlight (d : Chain) (e : EndId) (k : Sequence) : Prop :=
  ∃ c, d.host.store.commitments[Slot.mk e k]? = some c

/-- The packets that the ordered end `x` has in flight are those from `a` up to `n`. -/
structure SendWindow (d : Chain) (e : EndId) (x : ChannelEnd) (a n : Sequence) : Prop where
  nextAck : d.host.store.nextAck[e]? = some a
  nextSend : d.host.store.nextSend[e]? = some n
  le : a ≤ n
  /-- Nothing is in flight but what is numbered between the two counters. -/
  inside : ∀ k, d.InFlight e k → a ≤ k ∧ k < n
  /-- Unless the end is closed, all of that is in flight. -/
  filled : x.state ≠ .closed → ∀ k, d.InFlight e k ↔ a ≤ k ∧ k < n

/-- On a chain that started without channels, the packets that an ordered end has in flight are
numbered from its acknowledgement counter up to its send counter, without a gap unless the end is
closed. -/
theorem Leads.exists_sendWindow (start : c.host.store = .empty) (leads : c.Leads l d)
    (there : d.host.store.ends[e]? = some x) (ordered : x.ordering = .ordered) :
    ∃ a n, d.SendWindow e x a n := by
  obtain ⟨a, n, acked, counter, window, fills⟩ := leads.windowed start e x there ordered
  have inside (k : Sequence) (flying : d.InFlight e k) : a ≤ k ∧ k < n := by
    obtain ⟨c, stored⟩ := flying
    exact window.inside k c stored
  refine ⟨a, n, acked, counter, window.le, inside, ?_⟩
  intro opened k
  exact ⟨inside k, fun ⟨above, below⟩ => fills opened k above below⟩

end Chain

/-- The chain that turned its channel ordered and then sent a packet has that packet in flight. -/
theorem Chain.Leads.exists_sendWindow_upgraded :
    letI : Digest := .plain
    let r := Passage.upgraded "ics20-1" [1] (by decide)
    (r.world 21 .left).SendWindow Passage.owner (Passage.turned "ics20-1") 1 2 := by
  let _ : Digest := .plain
  have filled : [1] ≠ ([] : Bytes) := by decide
  let r := Passage.upgraded "ics20-1" [1] filled
  obtain ⟨a, n, window⟩ := Leads.exists_sendWindow (r.started.chain .left).store (r.leads .left 21)
    (e := Passage.owner) (x := Passage.turned "ics20-1") Passage.Shelf.ends_store rfl
  have acked : (r.world 21 .left).host.store.nextAck[Passage.owner]? = some 1 :=
    Map.getElem?_single
  have counter : (r.world 21 .left).host.store.nextSend[Passage.owner]? = some 2 :=
    Passage.Shelf.nextSend_store
  obtain rfl := Option.some.inj (acked.symm.trans window.nextAck)
  obtain rfl := Option.some.inj (counter.symm.trans window.nextSend)
  exact window

end Crosschain
