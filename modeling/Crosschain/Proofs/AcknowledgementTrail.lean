import Crosschain.Proofs.EarlyAnswer
import Crosschain.Proofs.Tellings
import Crosschain.Proofs.TimeoutExclusion

/-!
# Acknowledgements on their way

An acknowledgement is written once for a packet and told in an event, and the chain keeps its hash
from then on. A source takes an acknowledgement only against such a hash, and only for a packet that
it sent and committed to. So what it takes was written, once and with these bytes.
-/

namespace Crosschain

/-- The acknowledgement an event tells was written, with its packet, if it does. -/
def Event.written? : Event → Option (Packet × Acknowledgement)
  | .acknowledgement p ack => some (p, ack)
  | _ => none

theorem Event.OfKinds.unwritten {kinds : List EventKind} {events : List Event}
    (told : OfKinds kinds events) (other : .acknowledgement ∉ kinds) :
    events.filterMap Event.written? = [] := by
  refine told.filterMap_eq_nil fun event kind => ?_
  cases event with
  | acknowledgement p ack => exact absurd kind other
  | _ => rfl

theorem PacketMessage.acknowledgement_notMem_kinds (m : PacketMessage) :
    .acknowledgement ∉ m.kinds := by
  cases m <;> simp [kinds]

/-! ### What is kept of acknowledgements -/

namespace ChannelStore

theorem acknowledgements_applyPacket (s : ChannelStore) {c : PacketChange}
    (other : ∀ slot b, c ≠ .answered slot b) :
    (s.applyPacket c).acknowledgements = s.acknowledgements := by
  cases c with
  | answered slot b => exact absurd rfl (other slot b)
  | acknowledged slot next => cases next <;> rfl
  | timedOut slot closed => cases closed <;> rfl
  | _ => rfl

theorem acknowledgements_applyUpgrade (s : ChannelStore) (c : UpgradeChange) :
    (s.applyUpgrade c).acknowledgements = s.acknowledgements := by
  rw [applyUpgrade_eq]

theorem acknowledgements_applyEnd {s t : ChannelStore} {c : EndChange}
    {r : Attempt (Option Capability)} (stored : s.applyEnd c = (r, t)) :
    t.acknowledgements = s.acknowledgements := by
  obtain rfl : (s.applyEnd c).2 = t := congrArg Prod.snd stored
  rw [applyEnd_eq]

end ChannelStore

/-- What events tell of acknowledgements is what a store keeps more than before: nothing, or the
hash of one, where none was kept. -/
inductive Deposits [Digest] (s : ChannelStore) (events : List Event) (t : ChannelStore) : Prop
  | nothing (silent : events.filterMap Event.written? = [])
    (same : t.acknowledgements = s.acknowledgements)
  | one (p : Packet) (ack : Acknowledgement) (told : events.filterMap Event.written? = [(p, ack)])
    (free : s.acknowledgements[p.destinationSlot]? = none)
    (kept : t.acknowledgements =
      s.acknowledgements.insert p.destinationSlot (Commitment.ofAcknowledgement ack))

/-- What is told of writing an acknowledgement, after events that tell of none, is what is kept more,
also on top of a change that is no acknowledgement. -/
theorem Deposits.of_written [Digest] {h : Host} {cap : Capability} {p : Packet}
    {ack : Acknowledgement} {out : Output PacketChange} {s : ChannelStore} {l : List Event}
    (answer : Transfer.writeAcknowledgement h cap p ack = .ok out)
    (silent : l.filterMap Event.written? = [])
    (same : s.acknowledgements = h.store.acknowledgements) :
    Deposits h.store (l ++ out.events) (s.applyPacket out.result) := by
  cases Transfer.writeAcknowledgement_eq_ok.1 answer with
  | before => exact .nothing (by simp [silent, Transfer.noOp]) same
  | written serves free =>
    refine .one p ack (by simp [silent, Event.written?]) free ?_
    rw [← same]
    rfl

/-- Of one slot nothing is told and what is kept stays, or one acknowledgement is told of, and its
hash is kept where none was. -/
theorem Deposits.at_slot [Digest] {s t : ChannelStore} {events : List Event}
    (deposits : Deposits s events t) (slot : Slot) :
    (events.filterMap Event.written?).filter (fun w => w.1.destinationSlot = slot) = [] ∧
        t.acknowledgements[slot]? = s.acknowledgements[slot]? ∨
      ∃ p ack,
        (events.filterMap Event.written?).filter (fun w => w.1.destinationSlot = slot) =
          [(p, ack)] ∧ s.acknowledgements[slot]? = none ∧
        t.acknowledgements[slot]? = some (Commitment.ofAcknowledgement ack) := by
  cases deposits with
  | nothing silent same =>
    rw [silent, same]
    exact .inl ⟨rfl, rfl⟩
  | one p ack told free kept =>
    rw [told, kept]
    by_cases own : p.destinationSlot = slot
    · subst own
      exact .inr ⟨p, ack, by simp, free, by simp⟩
    · refine .inl ⟨by simp [own], ?_⟩
      simp [Std.ExtTreeMap.getElem?_insert, own]

namespace Chain

variable [Digest] {c c' : Chain}

/-- What is told of the acknowledgements that an action wrote is what is kept more of them; an action
that is refused keeps what there was. -/
def Records {ε α : Type} (c : Chain) (events : α → List Event) : Except (Fault ε) α × Chain → Prop
  | (.error (.refused _), c') => c'.host.store.acknowledgements = c.host.store.acknowledgements
  | (.error .overflow, _) => True
  | (.ok x, c') => Deposits c.host.store (events x) c'.host.store

theorem Records.of_error {ε α : Type} {events : α → List Event} {f : Fault ε}
    (same : c'.host.store.acknowledgements = c.host.store.acknowledgements) :
    c.Records events (.error f, c') := by
  cases f with
  | refused e => exact same
  | overflow => exact trivial

theorem Records.of_silent {ε α : Type} {events : α → List Event} {x : α}
    (silent : (events x).filterMap Event.written? = [])
    (same : c'.host.store.acknowledgements = c.host.store.acknowledgements) :
    c.Records events ((.ok x, c') : Except (Fault ε) α × Chain) := .nothing silent same

theorem Delivers.records {m : Datagram} {r : Routed DeliveryReceipt} (delivers : c.Delivers m r) :
    c.Records DeliveryReceipt.events r := by
  cases delivers with
  | unrouted | unowned | failed | declined => exact .of_error rfl
  | unstored bound ok agrees failed => exact .of_error (ChannelStore.acknowledgements_applyEnd failed)
  | stored bound ok agrees stored =>
    exact .of_silent ((Yields.handshake _ ok).unwritten (by decide))
      (ChannelStore.acknowledgements_applyEnd stored)
  | upgraded bound ok | upgradedTold bound ok =>
    exact .of_silent ((Yields.upgrade _ ok).unwritten (by decide))
      (ChannelStore.acknowledgements_applyUpgrade _ _)
  | @repeated m id app cap out reason bound owns ok =>
    exact .of_silent ((Yields.packet _ ok).1.unwritten m.acknowledgement_notMem_kinds) rfl
  | @applied m id app cap out bound owns ok =>
    obtain ⟨told, other⟩ := Yields.packet _ ok
    exact .of_silent (told.unwritten m.acknowledgement_notMem_kinds)
      (c.host.store.acknowledgements_applyPacket other)
  | answered bound owns ok new filled answer =>
    -- What is written at once is kept on top of what receiving the packet left.
    obtain ⟨told, other⟩ := Yields.packet (m := .receive _) _ ok
    exact .of_written answer (told.unwritten (PacketMessage.acknowledgement_notMem_kinds _))
      (c.host.store.acknowledgements_applyPacket other)

variable {a : Action} {rep : Report}

theorem Performs.deposits (performs : c.Performs a rep c') :
    Deposits c.host.store rep.events c'.host.store := by
  cases performs with
  | relayed delivers reports =>
    have records := delivers.records
    obtain ⟨x, rfl, rfl⟩ | ⟨e, rfl, rfl⟩ := reports
    · exact records
    · exact .nothing rfl records
  | refused | advanced | heard => exact .nothing rfl rfl
  | sent ok =>
    obtain ⟨told, other⟩ := Yields.send _ ok
    exact .nothing (told.unwritten (by decide)) (c.host.store.acknowledgements_applyPacket other)
  | written answer => exact .of_written (l := []) answer rfl rfl
  | proposed ok =>
    exact .nothing ((Yields.propose _ ok).unwritten (by decide))
      (ChannelStore.acknowledgements_applyUpgrade _ _)
  | closed ok => exact .nothing ((Yields.closeInit _ ok).unwritten (by decide)) rfl

/-- Whatever an action is, the acknowledgements it tells of are those that are kept more. -/
theorem Takes.deposits (taken : c.Takes a rep c') :
    Deposits c.host.store rep.events c'.host.store := by
  obtain ⟨d, performs, store⟩ := taken.exists_performs
  rw [store]
  exact performs.deposits

end Chain

/-! ### What was written along a history -/

/-- The acknowledgements that a history tells of for the packet of one slot, each with its packet. -/
def History.written (l : History) (slot : Slot) : List (Packet × Acknowledgement) :=
  (l.events.filterMap Event.written?).filter fun w => w.1.destinationSlot = slot

theorem History.written_append (l l' : History) (slot : Slot) :
    History.written (l ++ l') slot = l.written slot ++ l'.written slot := by
  simp [written, events]

theorem History.written_singleton (a : Action) (rep : Report) (slot : Slot) :
    History.written [(a, rep)] slot =
      (rep.events.filterMap Event.written?).filter fun w => w.1.destinationSlot = slot := by
  simp [written, events]

/-- An acknowledgement is told of once at most, and its hash is kept from then on. -/
theorem Chain.Reaches.written_cases [Digest] {c d : Chain} {l : History}
    (start : c.host.store = .empty) (reaches : c.Reaches l d) (slot : Slot) :
    l.written slot = [] ∧ d.host.store.acknowledgements[slot]? = none ∨
      ∃ p ack, l.written slot = [(p, ack)] ∧
        d.host.store.acknowledgements[slot]? = some (Commitment.ofAcknowledgement ack) := by
  induction reaches with
  | rest =>
    rw [start]
    exact .inl ⟨rfl, rfl⟩
  | act before taken ih =>
    rw [History.written_append, History.written_singleton]
    obtain ⟨told, kept⟩ | ⟨p, ack, told, free, kept⟩ := taken.deposits.at_slot slot
    · rw [told, kept, List.append_nil]
      exact ih
    · obtain ⟨none, -⟩ | ⟨q, k, -, there⟩ := ih
      · rw [told, none]
        exact .inr ⟨p, ack, rfl, kept⟩
      · rw [free] at there
        cases there
  | arrange before store ports ih =>
    rw [store]
    exact ih

/-! ### What was written along a run -/

namespace Run

variable [Digest] (r : Run)

def written : Nat → Side → Slot → List (Packet × Acknowledgement)
  | 0, _, _ => []
  | i + 1, s, slot => written i s slot ++
    ((r.events i s).filterMap Event.written?).filter fun w => w.1.destinationSlot = slot

variable {r} {i j : Nat} {s : Side} {slot : Slot}

theorem written_eq : r.written i s slot = (r.history s i).written slot := by
  induction i with
  | zero => rfl
  | succ i ih =>
    rw [written, events, history, ih]
    cases r.move i with
    | none => exact List.append_nil _
    | some m =>
      dsimp only
      split
      · rw [History.written_append, History.written_singleton]
      · exact List.append_nil _

theorem written_cases (i : Nat) (s : Side) (slot : Slot) :
    r.written i s slot = [] ∧ (r.host i s).store.acknowledgements[slot]? = none ∨
      ∃ p ack, r.written i s slot = [(p, ack)] ∧
        (r.host i s).store.acknowledgements[slot]? = some (Commitment.ofAcknowledgement ack) := by
  rw [written_eq]
  exact (r.leads s i).reaches.written_cases (r.started.chain s).store slot

theorem kept_of_written {w : Packet × Acknowledgement} (mem : w ∈ r.written i s slot) :
    (r.host i s).store.acknowledgements[slot]? = some (Commitment.ofAcknowledgement w.2) := by
  obtain ⟨none, -⟩ | ⟨p, ack, told, there⟩ := r.written_cases i s slot
  · rw [none] at mem
    cases mem
  · rw [told] at mem
    cases List.mem_singleton.1 mem
    exact there

theorem written_mono (le : i ≤ j) : r.written i s slot <+: r.written j s slot := by
  induction j, le using Nat.le_induction with
  | base => exact List.prefix_rfl
  | succ k le ih => exact ih.trans (List.prefix_append _ _)

theorem written_of_le {w : Packet × Acknowledgement} (le : i ≤ j)
    (once : r.written i s slot = [w]) : r.written j s slot = [w] := by
  have more : r.written i s slot <+: r.written j s slot := written_mono le
  rw [once] at more
  obtain ⟨none, -⟩ | ⟨p, ack, told, -⟩ := r.written_cases j s slot
  · rw [none] at more
    simpa using more.length_le
  · rw [told] at more ⊢
    simpa [eq_comm] using more

/-! ### What the source takes -/

/-- The byte strings the two chains hash on the way, with the acknowledgements that are written and
those that are relayed. -/
inductive HashedOrAnswered (r : Run) : Bytes → Prop
  | hashed {b : Bytes} : r.Hashed b → HashedOrAnswered r b
  | written {i : Nat} {s : Side} {slot : Slot} {p : Packet} {ack : Acknowledgement} :
    (p, ack) ∈ r.written i s slot → HashedOrAnswered r ack
  | relayed {i : Nat} {s : Side} {m : AcknowledgePacket} :
    r.action? i s = some (.deliver (.packet (.acknowledge m))) → HashedOrAnswered r m.ack

/-- An acknowledgement of a packet was applied. -/
def AppliesAcknowledgement (r : Run) (i : Nat) (s : Side) (p : Packet) (ack : Acknowledgement) :
    Prop :=
  ∃ rep m, r.move i = some ⟨s, .deliver (.packet (.acknowledge m)), rep⟩ ∧
    rep.outcome = some .applied ∧ m.packet = p ∧ m.ack = ack

theorem Saw.acknowledgement {height : Height} {time : Timestamp} {claims : List Claimed}
    {proof : StateProof} {c : Bytes} (saw : r.Saw i s height time claims)
    (mem : ⟨proof, .acknowledgement slot, some c⟩ ∈ claims) :
    (r.host i s.other).store.acknowledgements[slot]? = some c := saw.values _ mem trivial

end Run

theorem LaneStep.acknowledged [Digest] {h : Host} {a : Action} {e : EndId} {l l' : Lane}
    {p : Packet} (step : LaneStep h a e l (.acknowledged p) l') :
    e = p.source ∧ ∃ m x c time, a = .deliver (.packet (.acknowledge m)) ∧ m.packet = p ∧
      l.channel = some x ∧ x.peer = .ofEnd p.destination ∧ l.commitments p.sequence = some c ∧
      Commitment.ofPacket? p = some c ∧ h.Sees x m.evidence.height time [⟨m.evidence.object,
        .acknowledgement p.destinationSlot, some (Commitment.ofAcknowledgement m.ack)⟩] := by
  cases step with
  | acknowledge _ m x c time nextAck action owner channel state named stored commitment shown =>
    exact ⟨owner, m, x, c, time, action, rfl, channel, named, stored, commitment, shown⟩

namespace Run

variable [Digest] {r : Run} {i : Nat} {s : Side} {p : Packet} {ack : Acknowledgement}

/-- When a source takes an acknowledgement of a packet, the source announced one packet under its
number, and it is that one but for a time that counts the same nanoseconds: the very same when the
times of the run are told apart by them. The destination had told of just one acknowledgement for
that number, of these very bytes; it never tells of another one. -/
theorem acknowledged_of_written (free : Digest.InjectiveOn r.HashedOrAnswered)
    (proper : ∀ j m, r.move j = some m → m.action.ProperHeights)
    (applies : r.AppliesAcknowledgement i s p ack) :
    (∃ q, ((r.announced i s p.source).filter fun q => q.sequence = p.sequence) = [q] ∧
        p.Alike q ∧ (r.TimesApart → p = q)) ∧
      ∃ q, ∀ j ≥ i, r.written j s.other p.destinationSlot = [(q, ack)] := by
  have free' : Digest.InjectiveOn r.Hashed := fun x y hx hy => free x y (.hashed hx) (.hashed hy)
  obtain ⟨rep, m, move, outcome, rfl, rfl⟩ := applies
  obtain ⟨a, deed, happens⟩ := r.happens i s m.packet.source
  obtain ⟨rfl, rfl⟩ := happens.applied (.acknowledge m) rep move rfl outcome
  obtain ⟨-, m', x, c, time, same, -, channel, names, stored, commitment, shown⟩ :=
    happens.step.acknowledged
  cases same
  have acts := happens.acts (by simp [PacketMessage.deed])
  constructor
  · obtain ⟨q, announced, alike⟩ : ∃ q ∈ r.announced i s m.packet.source, m.packet.Alike q :=
      exists_alike_of_stored free' acts rfl (proper i _ move) channel names stored commitment
    refine ⟨q, ?_, alike, fun apart => apart.eq alike ⟨i, s, _, _, acts, rfl, rfl⟩
      (namesTime_of_announced announced)⟩
    rw [alike.sequence]
    exact r.numbered.filter_sequence announced
  · obtain ⟨k, le, saw⟩ := exists_saw free' shown acts (by
      simp [Action.proofs, Datagram.evidence?, Evidence.proofs])
    have kept := saw.acknowledgement List.mem_cons_self
    obtain ⟨-, none⟩ | ⟨q, bytes, told, there⟩ := r.written_cases k s.other m.packet.destinationSlot
    · rw [kept] at none
      cases none
    · -- The hash that was proven is the hash of what was written.
      rw [kept] at there
      have same : m.ack = bytes := free _ _ (.relayed acts)
        (.written (told ▸ List.mem_cons_self)) (Option.some.inj there)
      refine ⟨q, fun j ge => written_of_le (Nat.le_trans le ge) ?_⟩
      rw [told, same]

end Run

/-- A source takes the answer to its packet, though it was written before the packet arrived. -/
theorem Run.acknowledged_of_written_early :
    letI : Digest := .plain
    let r := Passage.foreseen "ics20-1" [1] [2] (by decide) (by decide)
    r.TimesApart ∧ ((r.announced 11 .left Passage.owner).filter fun q => q.sequence = 1) =
        [Passage.packet [1]] ∧
      ∃ q, ∀ j ≥ 11, r.written j .right ⟨Passage.owner, 1⟩ = [(q, [2])] := by
  let _ : Digest := .plain
  have apart : (Passage.foreseen "ics20-1" [1] [2] (by decide) (by decide)).TimesApart :=
    .of_timed fun _ _ => Passage.timed_foreseen
  obtain ⟨⟨q, announced, -, same⟩, written⟩ :=
    Run.acknowledged_of_written (p := Passage.packet [1]) (s := .left) (i := 11)
      (Digest.injectiveOn_plain _) (fun _ _ => Passage.properHeights_foreseen)
      ⟨_, _, rfl, rfl, rfl, rfl⟩
  rw [← same apart] at announced
  exact ⟨apart, announced, written⟩

/-- Without times that are told apart, a source that announced a packet due in the second after a
leap second takes the answer for one that is due in the leap second. -/
theorem Run.not_announced_of_acknowledged_leap :
    letI : Digest := .plain
    let r := Passage.foregone "ics20-1" Passage.twins_leap Passage.inTime_nextSecond
      (show ([2] : Acknowledgement) ≠ [] by decide)
    Digest.InjectiveOn r.HashedOrAnswered ∧
      (∀ j m, r.move j = some m → m.action.ProperHeights) ∧
      r.AppliesAcknowledgement 11 .left (Passage.dueAt Passage.leapSecond) [2] ∧
      r.announced 11 .left Passage.owner = [Passage.dueAt Passage.nextSecond] ∧
      Passage.dueAt Passage.leapSecond ≠ Passage.dueAt Passage.nextSecond := by
  let _ : Digest := .plain
  refine ⟨Digest.injectiveOn_plain _, fun j m move a h asked limit => ?_,
    ⟨_, _, rfl, rfl, rfl, rfl⟩, Passage.announced_foregone, by decide⟩
  obtain rfl | rfl := Passage.asks_foregone move asked
  · cases limit
  · cases limit

end Crosschain
