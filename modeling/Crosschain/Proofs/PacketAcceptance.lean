import Crosschain.Proofs.Relaying
import Crosschain.Proofs.UpgradeAcceptance

/-!
# When a packet and its acknowledgement are taken

On a host whose end is open with the terms of a channel, a packet is received when a block of the
other chain shows its commitment, its timeout is not reached and the end expects it; and an
acknowledgement is taken when a block of the other chain shows it, the packet's commitment is still
kept and the end waits for it. A chain whose application agrees then carries the message out.
-/

namespace Crosschain

theorem ChannelStore.authenticate_of_get {s : ChannelStore} {e : EndId} {cap : Capability}
    (owns : s.registry.get (.ofEnd e) = .ok cap) : s.authenticate e cap = .ok () := by
  rw [Registry.get] at owns
  split at owns
  next index taken =>
    cases owns
    simp [authenticate, Registry.authenticate, Registry.owns, taken, Except.mapError]
  · cases owns

/-! ### Ends that wait for a number -/

/-- An end of an ordering takes the packet of a number next: it counted up to it, or it does not
count and has no receipt of it. -/
def Lane.Expects (l : Lane) (o : Order) (n : Sequence) : Prop :=
  o = .ordered ∧ l.nextRecv = some n ∨
    o ≠ .ordered ∧ l.receipts n = false ∧ ∃ m, l.nextRecv = some m ∧ ¬ n < m

/-- An end of an ordering takes the acknowledgement of a number next. -/
def Lane.Awaits (l : Lane) (o : Order) (n : Sequence) : Prop := o = .ordered → l.nextAck = some n

namespace Transfer

variable [Digest] {h : Host} {t : Terms} {owner : Side → EndId} {s : Side} {b : Block}
  {cap : Capability} {n next : Sequence} {p : Packet} {bytes : Bytes}

/-! ### Receiving -/

theorem exists_receive {now : Timestamp} (rests : t.Rests s h)
    (channel : h.store.ends[p.destination]? = some (t.endAt owner .opened n s))
    (owns : h.store.authenticate p.destination cap = .ok ()) (source : p.source = owner s.other)
    (knows : h.Knows (t.conn s) b.height b.header.consensus)
    (commitment : Commitment.ofPacket? p = some bytes)
    (shown : b.Holds (.commitment p.sourceSlot) bytes) (time : h.now? = some now)
    (before : p.timedOut h.height now = false)
    (expected : (h.store.lane p.destination).Expects t.ordering p.sequence)
    (counted : Word.add? p.sequence 1 = some next) :
    ∃ out, receive h cap ⟨p, b.evidence⟩ = .ok out ∧ out.result.noOp? = none := by
  have first : h.provesPacket (t.conn s) p b.evidence = .ok () :=
    Host.provesPacket_of_block knows commitment (by rw [rests.label]; exact shown)
  have letsIn {m : Sequence} (counter : h.store.nextRecv[p.destination]? = some m) :
      LetsIn h cap ⟨p, b.evidence⟩ (t.endAt owner .opened n s) m := {
    receivable := ⟨channel, owns, rfl, by rw [source]; rfl, fun same => (by cases same), _,
      rests.openConnection rfl⟩
    inTime := ensureInTime_of_before time before
    shown := ⟨_, rests.openConnection rfl, first⟩
    counter := counter }
  obtain ⟨ordered, counter⟩ | ⟨unordered, fresh, m, counter, above⟩ := expected
  · exact ⟨_, step_eq_ok.2 (.receivedInOrder (letsIn counter) ordered counted), rfl⟩
  · exact ⟨_, step_eq_ok.2 (.received (letsIn counter) unordered above fresh), rfl⟩

/-! ### Taking an acknowledgement -/

theorem exists_acknowledge {ack : Acknowledgement} (rests : t.Rests s h)
    (channel : h.store.ends[p.source]? = some (t.endAt owner .opened n s))
    (owns : h.store.authenticate p.source cap = .ok ())
    (destination : p.destination = owner s.other)
    (knows : h.Knows (t.conn s) b.height b.header.consensus)
    (commitment : Commitment.ofPacket? p = some bytes)
    (committed : h.store.commitments[p.sourceSlot]? = some bytes)
    (shown : b.Holds (.acknowledgement p.destinationSlot) (Commitment.ofAcknowledgement ack))
    (awaited : (h.store.lane p.source).Awaits t.ordering p.sequence)
    (counted : Word.add? p.sequence 1 = some next) :
    ∃ out, acknowledge h cap ⟨p, ack, b.evidence⟩ = .ok out ∧ out.result.noOp? = none := by
  have first : h.provesAcknowledgement (t.conn s) p ack b.evidence = .ok () :=
    Host.provesAcknowledgement_of_block knows (by rw [rests.label]; exact shown)
  have outstanding : Outstanding h cap p (t.endAt owner .opened n s) (t.conn s) :=
    ⟨channel, owns, ⟨bytes, commitment, committed⟩, by rw [destination]; rfl, t.hop s, rfl,
      rests.there⟩
  have connects : h.openConnection (t.endAt owner .opened n s) = .ok (t.conn s) :=
    rests.openConnection rfl
  by_cases ordered : t.ordering = .ordered
  · have counts : CountsOn h p (t.endAt owner .opened n s) (some next) :=
      ⟨ordered, awaited ordered, counted⟩
    exact ⟨_, (step_eq_ok (m := .acknowledge ⟨p, ack, b.evidence⟩)).2
      (.acknowledged outstanding rfl connects first counts), rfl⟩
  · have counts : CountsOn h p (t.endAt owner .opened n s) none := ordered
    exact ⟨_, (step_eq_ok (m := .acknowledge ⟨p, ack, b.evidence⟩)).2
      (.acknowledged outstanding rfl connects first counts), rfl⟩

end Transfer

/-! ### Carrying messages out -/

/-- From one state of a chain to another, the application bound to a port was told of one call. -/
def Chain.Told (c c' : Chain) (port : PortId) (call : Call) : Prop :=
  ∃ id app, c.appOf port = .ok (id, app) ∧ c'.appOf port = .ok (id, app.after call)

namespace Chain

variable [Digest] {c : Chain} {m : PacketMessage} {out : Output PacketChange} {cap : Capability}

omit [Digest] in
theorem told_tell {c' : Chain} {port : PortId} {id : ModuleId} {app : Application} {call : Call}
    (bound : c.appOf port = .ok (id, app)) (bindings : c'.bindings = c.bindings)
    (apps : c'.apps = (c.tell id app call).apps) : c.Told c' port call := by
  obtain ⟨binding, -⟩ := appOf_eq_ok.1 bound
  refine ⟨id, app, bound, appOf_eq_ok.2 ⟨bindings ▸ binding, ?_⟩⟩
  rw [apps, tell]
  exact Std.ExtTreeMap.getElem?_insert_self

omit [Digest] in
theorem Told.advance {c c' d : Chain} {port : PortId} {call : Call} (told : c.Told d port call)
    (more : d.advance? = some c') : c.Told c' port call := by
  obtain ⟨id, app, bound, bound'⟩ := told
  obtain ⟨h, b, -, -, rfl⟩ := advance?_eq_some more
  exact ⟨id, app, bound, bound'⟩

/-- A message about a packet that the channel layer takes is carried out by a chain whose application
agrees, and the application is told of it. -/
theorem exists_perform_packet (willing : c.Willing m.owner.port)
    (owns : c.capabilityOf m.owner = .ok cap) (step : Transfer.step c.host cap m = .ok out)
    (new : out.result.noOp? = none) (room : c.host.height.Room 1) :
    ∃ c' events, c.perform (.deliver (.packet m)) = some (⟨some .applied, events⟩, c') ∧
      c.Told c' m.owner.port (packetCall m) := by
  obtain ⟨id, app, bound, consents⟩ := willing
  have agrees := Application.refusal_reply consents (packetCall m)
  suffices taken : ∃ receipt s, c.Delivers (.packet m) (.ok receipt,
      (c.tell id app (packetCall m)).withStore s) ∧ receipt.outcome = .applied by
    obtain ⟨receipt, s, delivers, applied⟩ := taken
    let d := (c.tell id app (packetCall m)).withStore s
    obtain ⟨c', more, -⟩ := exists_next_of_advance (c := d) room
    have told : c.Told d m.owner.port (packetCall m) := told_tell bound rfl rfl
    refine ⟨c', receipt.events, ?_, told.advance more⟩
    rw [delivers.perform more, DeliveryReceipt.report, applied]
  cases prompt : promptAck m (app.reply (packetCall m)) with
  | none => exact ⟨_, _, .applied bound owns step new agrees prompt, rfl⟩
  | some ack =>
    -- Only what is received is answered at once.
    obtain ⟨⟨m, rfl⟩, rfl, filled⟩ := promptAck_eq_some.1 prompt
    obtain ⟨written, answer⟩ := Transfer.writeAcknowledgement_of_receive step filled
    exact ⟨_, _, .answered bound owns step new filled answer, rfl⟩

end Chain

end Crosschain
