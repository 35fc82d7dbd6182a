import Crosschain.Proofs.AcknowledgementTrail

/-!
# Records of packets that were received

A receipt is never taken away, and an acknowledgement is neither taken away nor written over, whether
it was written when its packet came or later, and whatever becomes of the channel. So at most one
acknowledgement is ever told of for a packet, and its hash is what is kept.
-/

namespace Crosschain

/-- The receipts and the acknowledgements of a store are in another one, as they were. -/
structure ChannelStore.Retains (s t : ChannelStore) : Prop where
  receipts : ∀ slot, s.hasReceipt slot = true → t.hasReceipt slot = true
  acknowledgements : ∀ (slot : Slot) (b : Bytes), s.acknowledgements[slot]? = some b →
    t.acknowledgements[slot]? = some b

namespace ChannelStore.Retains

variable {s t u : ChannelStore}

theorem refl (s : ChannelStore) : s.Retains s := ⟨fun _ kept => kept, fun _ _ kept => kept⟩

theorem trans (first : s.Retains t) (second : t.Retains u) : s.Retains u where
  receipts slot kept := second.receipts slot (first.receipts slot kept)
  acknowledgements slot b kept := second.acknowledgements slot b (first.acknowledgements slot b kept)

end ChannelStore.Retains

namespace Chain

variable [Digest] {c c' d d' : Chain} {a : Action} {rep : Report} {l l' : History}

theorem Takes.retains (orderly : c.Orderly) (taken : c.Takes a rep c') :
    c.host.store.Retains c'.host.store := by
  constructor
  · intro slot kept
    obtain ⟨deed, step, -⟩ := (taken.stepped orderly).lane slot.owner
    exact step.receipts kept
  · intro slot b kept
    obtain ⟨-, same⟩ | ⟨p, ack, -, free, -⟩ := taken.deposits.at_slot slot
    · rw [same]
      exact kept
    · -- Only where nothing is kept is an acknowledgement written.
      rw [free] at kept
      cases kept

namespace Reaches

theorem retains (start : c.host.store = .empty) (reaches : c.Reaches l d)
    (onward : d.Reaches l' d') : d.host.store.Retains d'.host.store := by
  induction onward with
  | rest => exact .refl _
  | act before taken ih => exact ih.trans (taken.retains ((reaches.trans before).orderly start))
  | arrange before store ports ih =>
    rw [store]
    exact ih

theorem written_eq_nil (start : c.host.store = .empty) (reaches : c.Reaches l d)
    (onward : d.Reaches l' d') {slot : Slot} (told : l.written slot ≠ []) :
    l'.written slot = [] := by
  -- The two histories taken together tell of one acknowledgement at most.
  have whole := (reaches.trans onward).written_cases start slot
  rw [History.written_append] at whole
  obtain ⟨none, -⟩ | ⟨p, ack, one, -⟩ := whole
  · exact (List.append_eq_nil_iff.1 none).2
  · obtain ⟨before, -⟩ | ⟨-, later⟩ := List.append_eq_singleton_iff.1 one
    · exact absurd before told
    · exact later

/-- On a chain that started without channels, whatever the other chains do: a receipt that is kept is
kept in every later state, and so is an acknowledgement, with the same bytes. For each packet the
history tells of at most one acknowledgement, whose hash is the one that is kept, and once one is
kept none is told of any more. -/
theorem permanent (start : c.host.store = .empty) (reaches : c.Reaches l d)
    (onward : d.Reaches l' d') :
    d.host.store.Retains d'.host.store ∧ ∀ slot : Slot,
      (l.written slot).length ≤ 1 ∧
      d.host.store.acknowledgements[slot]? =
        (l.written slot).head?.map (fun w => Commitment.ofAcknowledgement w.2) ∧
      (d.host.store.acknowledgements[slot]? ≠ none → l'.written slot = []) := by
  refine ⟨reaches.retains start onward, fun slot => ?_⟩
  obtain ⟨told, kept⟩ | ⟨p, ack, told, kept⟩ := reaches.written_cases start slot
  · rw [told, kept]
    exact ⟨Nat.zero_le 1, rfl, fun there => absurd rfl there⟩
  · refine ⟨by simp [told], by simp [told, kept], fun _ => ?_⟩
    exact reaches.written_eq_nil start onward (by simp [told])

end Reaches

end Chain

/-- A packet that was received is answered later, and answered again: the first answer stays. -/
theorem Chain.Reaches.permanent_direct :
    letI : Digest := .plain
    let r := Passage.direct "ics20-1" [1] (by decide)
    let slot : Slot := ⟨Passage.owner, 1⟩
    let answers (ack : Acknowledgement) : Action :=
      .writeAcknowledgement Passage.handle (Passage.packet [1]) ack
    ∃ rep d rep' d', (r.world 11 .right).perform (answers [2]) = some (rep, d) ∧
      d.perform (answers [3]) = some (rep', d') ∧
      d.host.store.acknowledgements[slot]? = some [2] ∧
      d'.host.store.acknowledgements[slot]? = some [2] ∧
      History.written [(answers [3], rep')] slot = [] := by
  -- Evaluated before the run gets a name, so that the term is closed.
  have answered : letI : Digest := .plain
      ((((Passage.direct "ics20-1" [1] (by decide)).world 11 .right).perform
        (.writeAcknowledgement Passage.handle (Passage.packet [1]) [2])).bind fun o =>
          (o.2.perform (.writeAcknowledgement Passage.handle (Passage.packet [1]) [3])).map fun _ =>
            o.2.host.store.acknowledgements[Slot.mk Passage.owner 1]?) = some (some [2]) := rfl
  let _ : Digest := .plain
  let r := Passage.direct "ics20-1" [1] (by decide)
  obtain ⟨⟨rep, d⟩, first, answered⟩ := Option.bind_eq_some_iff.1 answered
  obtain ⟨⟨rep', d'⟩, second, kept⟩ := Option.map_eq_some_iff.1 answered
  obtain ⟨stays, told⟩ := Reaches.permanent (r.started.chain .right).store
    (.act (r.leads .right 11).reaches (.inl first)) (.act .rest (.inl second))
  refine ⟨rep, d, rep', d', first, second, kept, stays.acknowledgements _ _ kept, ?_⟩
  exact (told _).2.2 (by simp [kept])

end Crosschain
