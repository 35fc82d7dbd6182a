import Crosschain.Proofs.UnorderedReceives

/-!
# A packet that is shown is recorded

An application that is told of a packet cannot be made to forget it, and its acknowledgement goes
through a second step with checks of its own. None of them can fail: the second step looks at the end
and the handle that the first one looked at, and it is asked for nothing when the acknowledgement is
empty. So the message is applied, and the packet leaves its receipt or moves the counter.
-/

namespace Crosschain

/-! ### What a received packet leaves -/

/-- From one store to another, a packet was received at its destination end, and answered with an
acknowledgement unless it is empty or there was one before. -/
structure ChannelStore.Records [Digest] (s : ChannelStore) (p : Packet) (ack : Acknowledgement)
    (t : ChannelStore) : Prop where
  received : ∃ x, s.ends[p.destination]? = some x ∧ t.ends[p.destination]? = some x ∧
    (x.ordering = .ordered ∧
        (∃ n, t.nextRecv[p.destination]? = some n ∧ n.toNat = p.sequence.toNat + 1) ∨
      x.ordering = .unordered ∧ t.hasReceipt p.destinationSlot)
  answered : ack ≠ [] → t.acknowledgements[p.destinationSlot]? =
    some (s.acknowledgements[p.destinationSlot]?.getD (Commitment.ofAcknowledgement ack))

namespace Transfer

variable [Digest] {h : Host} {cap : Capability} {out : Output PacketChange}

variable {m : ReceivePacket}

theorem records_of_receive (ok : receive h cap m = .ok out) (new : out.result.noOp? = none) :
    h.store.Records m.packet [] (h.store.applyPacket out.result) ∧
      (h.store.applyPacket out.result).acknowledgements = h.store.acknowledgements := by
  cases succeeds_of_receive ok with
  | receivedBefore => cases new
  | @receivedInOrder _ x after letsIn ordered counted =>
    have channel := letsIn.receivable.channel
    refine ⟨⟨⟨x, channel, channel, .inl ⟨ordered, after, ?_, ?_⟩⟩, fun filled => absurd rfl filled⟩, rfl⟩
    · exact Std.ExtTreeMap.getElem?_insert_self
    · exact Word.add?_eq_some_iff.1 counted
  | @received _ x next letsIn unordered =>
    have channel := letsIn.receivable.channel
    have ordering : x.ordering = .unordered := by
      cases order : x.ordering with
      | unordered => rfl
      | ordered => exact absurd order unordered
    refine ⟨⟨⟨x, channel, channel, .inr ⟨ordering, ?_⟩⟩, fun filled => absurd rfl filled⟩, rfl⟩
    simp [received, ChannelStore.applyPacket, ChannelStore.hasReceipt, ChannelStore.setReceipt]

theorem records_of_answer {ack : Acknowledgement} {written : Output PacketChange}
    (ok : receive h cap m = .ok out) (new : out.result.noOp? = none)
    (answered : writeAcknowledgement h cap m.packet ack = .ok written) :
    h.store.Records m.packet ack ((h.store.applyPacket out.result).applyPacket written.result) := by
  obtain ⟨⟨received, -⟩, acks⟩ := records_of_receive ok new
  cases writeAcknowledgement_eq_ok.1 answered with
  | before serves there =>
    refine ⟨received, fun _ => ?_⟩
    show (h.store.applyPacket out.result).acknowledgements[m.packet.destinationSlot]? = _
    rw [acks, there, Option.getD_some]
  | written serves free =>
    refine ⟨received, fun _ => ?_⟩
    rw [free]
    exact Std.ExtTreeMap.getElem?_insert_self

end Transfer

/-! ### One message -/

namespace Chain

variable [Digest] {c : Chain} {m : ReceivePacket}

/-- Whether an application is told of a packet is settled before it is told: then the message is
applied and the packet is recorded. -/
theorem applied_or_untold (c : Chain) (m : ReceivePacket) :
    (c.deliver (.packet (.receive m))).2.apps = c.apps ∨
      ∃ id app r t, c.appOf m.packet.destination.port = .ok (id, app) ∧
        c.deliver (.packet (.receive m)) =
          (.ok r, (c.tell id app (.receive m.packet)).withStore t) ∧
        r.outcome = .applied ∧
        c.host.store.Records m.packet (app.reply (.receive m.packet)).acknowledgement t := by
  have delivers := c.delivers (.packet (.receive m))
  generalize c.deliver (.packet (.receive m)) = r at delivers ⊢
  cases delivers with
  | unrouted | unowned | failed | repeated => exact .inl rfl
  | declined bound consults refusal =>
    -- The refusal of a received packet does not count.
    cases consults
    cases refusal
  | @applied _ id app cap out bound owns ok new agrees silent =>
    have empty : (app.reply (.receive m.packet)).acknowledgement = [] := promptAck_eq_none.1 silent
    have records := (Transfer.records_of_receive ok new).1
    rw [← empty] at records
    exact .inr ⟨id, app, _, _, bound, rfl, rfl, records⟩
  | answered bound owns ok new filled answer =>
    exact .inr ⟨_, _, _, _, bound, rfl, rfl, Transfer.records_of_answer ok new answer⟩

/-- Whenever a message about a received packet makes a chain tell an application of a packet, it is
that packet, told once, the message is applied, and the packet is recorded with the acknowledgement
the application replied; a block after it, if it fits, changes nothing of this. -/
theorem shown_recorded {id : ModuleId} {a b : Application} (before : c.apps[id]? = some a)
    (after : (c.deliver (.packet (.receive m))).2.apps[id]? = some b)
    (shown : b.received ≠ a.received) :
    ∃ r d, c.deliver (.packet (.receive m)) = (.ok r, d) ∧ r.outcome = .applied ∧
      b = a.after (.receive m.packet) ∧
      c.host.store.Records m.packet (a.reply (.receive m.packet)).acknowledgement d.host.store ∧
      ∀ d', d.advance? = some d' → sealed (c.deliver (.packet (.receive m))) = (.ok r, d') ∧
        d'.host.store = d.host.store := by
  obtain untold | ⟨id', app, r, t, bound, done, applied, records⟩ := applied_or_untold c m
  · rw [untold, before] at after
    cases after
    exact absurd rfl shown
  · obtain ⟨-, there⟩ := appOf_eq_ok.1 bound
    have apps : (c.apps.insert id' (app.after (.receive m.packet)))[id]? = some b := by
      rw [done] at after
      exact after
    rw [Std.ExtTreeMap.getElem?_insert] at apps
    by_cases same : id' = id
    · subst same
      obtain rfl : app = a := Option.some.inj (there.symm.trans before)
      rw [if_pos (by simp)] at apps
      refine ⟨r, _, done, applied, (Option.some.inj apps).symm, records, ?_⟩
      intro d' more
      rw [done, sealed, more]
      exact ⟨rfl, store_of_advance? more⟩
    · -- Another application was told.
      rw [if_neg (by simpa using same), before] at apps
      cases apps
      exact absurd rfl shown

end Chain

/-- The first packet for an unordered end, whose application acknowledges with one byte. -/
theorem Chain.shown_recorded_first :
    letI : Digest := .plain
    ∃ r d, Passage.listening.deliver (.packet (.receive (Passage.arriving 1))) = (.ok r, d) ∧
      r.outcome = .applied ∧
      Passage.listening.host.store.Records (Passage.numbered 1) [9] d.host.store := by
  let _ : Digest := .plain
  obtain ⟨r, done, -⟩ := Chain.deliver_of_accepts Passage.appOf_listening
    (Passage.accepts_listening (.inl rfl)) rfl
  have after : (Passage.listening.deliver (.packet (.receive (Passage.arriving 1)))).2.apps[
      Passage.app]? = some ⟨[.receive (Passage.numbered 1)], .recording [9] false⟩ := by
    rw [done]
    exact Std.ExtTreeMap.getElem?_insert_self
  have told : Application.received ⟨[.receive (Passage.numbered 1)], .recording [9] false⟩ ≠
      Application.received ⟨[], .recording [9] false⟩ := List.cons_ne_nil _ _
  obtain ⟨r, d, done, applied, -, records, -⟩ :=
    Chain.shown_recorded (appOf_eq_ok.1 Passage.appOf_listening).2 after told
  exact ⟨r, d, done, applied, records⟩

end Crosschain
