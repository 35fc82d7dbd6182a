import Crosschain.Proofs.Blocks
import Crosschain.Proofs.CommitmentBinding
import Crosschain.Proofs.EarlyAnswer
import Crosschain.Proofs.Histories
import Crosschain.Proofs.Relaying
import Crosschain.Proofs.TimeoutRefusals

/-!
# One rule for timeouts

A packet that is timed out at a height of a chain is timed out at every greater one of the same
revision, as the time goes on with the height. The three steps that look at timeouts go by this one
rule, each at the height and time it knows: the sender by what its client knows, the receiver by its
own, and the sender again by the block that a proof is of. So no packet is refused by the receiver
without the sender being able to take it back, from that height on.
-/

namespace Crosschain

/-! ### The rule along a chain -/

theorem exists_blockTime?_of_le {g k : Height} {t : Timestamp} (le : g.height ≤ k.height)
    (time : blockTime? k = some t) : ∃ s, blockTime? g = some s := by
  have room : k.Room 0 := by
    obtain ⟨n, -, value⟩ := blockTime?_eq_some time
    have := n.toNat_lt_size
    rwa [Height.Room, Nat.add_zero, ← value]
  have lower : g.Room 0 := by
    have less := Nat.mul_le_mul_right blockNanoseconds.toNat (UInt64.le_iff_toNat_le.1 le)
    rw [Height.Room, Nat.add_zero] at room ⊢
    omega
  simpa using lower.time

/-- A height of the same revision that is no lower. -/
structure Height.Onward (g k : Height) : Prop where
  revision : k.revision = g.revision
  le : g ≤ k

theorem Height.Onward.height_le {g k : Height} (onward : g.Onward k) : g.height ≤ k.height := by
  obtain lower | ⟨-, le⟩ := Height.le_iff.1 onward.le
  · exact absurd (onward.revision ▸ lower) (UInt64.lt_irrefl _)
  · exact le

theorem Height.Onward.rfl {g : Height} : g.Onward g :=
  ⟨.refl _, Height.le_iff.2 (.inr ⟨.refl _, UInt64.le_refl _⟩)⟩

theorem Height.Onward.trans {f g k : Height} (first : f.Onward g) (onward : g.Onward k) :
    f.Onward k :=
  ⟨onward.revision.trans first.revision, Height.le_trans first.le onward.le⟩

theorem Height.Onward.of_next? {g k : Height} (next : g.next? = some k) : g.Onward k := by
  obtain ⟨revision, more⟩ := Height.next?_eq_some next
  refine ⟨revision, Height.le_iff.2 (.inr ⟨revision.symm, ?_⟩)⟩
  rw [UInt64.le_iff_toNat_le]
  omega

theorem Chain.height_onward [Digest] {c d : Chain} {a : Action} {rep : Report}
    (done : c.perform a = some (rep, d)) : c.host.height.Onward d.host.height := by
  obtain abreast | ⟨b, block⟩ | ⟨id, header, -, rfl⟩ := perform_onward done
  · rw [abreast.height]
    exact .rfl
  · exact .of_next? block.next
  · exact .rfl

theorem Chain.Leads.height_onward [Digest] {c d : Chain} {l : History} (leads : c.Leads l d) :
    c.host.height.Onward d.host.height := by
  induction leads with
  | rest => exact .rfl
  | act before done ih => exact ih.trans (Chain.height_onward done)

theorem Packet.timedOut_mono {p : Packet} {g k : Height} {s t : Timestamp} (onward : g.Onward k)
    (before : blockTime? g = some s) (after : blockTime? k = some t) (late : p.timedOut g s) :
    p.timedOut k t := by
  rw [timedOut, Bool.or_eq_true] at late ⊢
  obtain height | time := late
  · left
    cases limit : p.timeoutHeight with
    | never => simp [limit, TimeoutHeight.reachedAt] at height
    | atHeight bound =>
      simp only [limit, TimeoutHeight.reachedAt, decide_eq_true_eq] at height ⊢
      exact Height.le_trans height onward.le
  · exact .inr (blockTime?_mono onward.height_le before after _ time)

/-! ### Taking a packet back -/

namespace Transfer

/-- The message proves that the other chain did not receive the packet. -/
def Unseen [Digest] (h : Host) (m : TimeoutPacket) (x : ChannelEnd) (c : ConnectionEnd) : Prop :=
  x.ordering = .ordered ∧ ¬ m.packet.sequence < m.nextRecv ∧
      h.provesNextRecv c m.packet m.nextRecv m.evidence = .ok () ∨
    x.ordering ≠ .ordered ∧ h.provesNoReceipt c m.packet m.evidence = .ok ()

variable [Digest] {h : Host} {cap : Capability} {m : TimeoutPacket}

/-- A packet is taken back just where it is outstanding, the block of the proof is known and the
packet timed out there, and the proof shows that it was not received. -/
theorem timeout_new_iff : (∃ out, timeout h cap m = .ok out ∧ out.result.noOp? = none) ↔
    ∃ x c cs, Outstanding h cap m.packet x c ∧ h.Knows c m.evidence.height cs ∧
      m.packet.timedOut m.evidence.height cs.timestamp ∧ Unseen h m x c := by
  constructor
  · rintro ⟨out, ok, new⟩
    cases succeeds_of_timeout ok with
    | timedOutBefore => cases new
    | timedOutInOrder outstanding hops knows late ordered expected shown
    | timedOutShut outstanding knows late ordered expected shown =>
      exact ⟨_, _, _, outstanding, knows, late, .inl ⟨ordered, expected, shown⟩⟩
    | timedOut outstanding knows late unordered shown =>
      exact ⟨_, _, _, outstanding, knows, late, .inr ⟨unordered, shown⟩⟩
  · rintro ⟨x, c, cs, outstanding, knows, late, unseen⟩
    obtain ⟨hop, hops, -⟩ := outstanding.route
    suffices ∃ out, Succeeds h cap (.timeout m) out ∧ out.result.noOp? = none by
      obtain ⟨out, succeeds, new⟩ := this
      exact ⟨out, step_eq_ok.2 succeeds, new⟩
    obtain ⟨ordered, expected, shown⟩ | ⟨unordered, shown⟩ := unseen
    · by_cases closed : x.state = .closed
      · exact ⟨_, .timedOutShut outstanding knows late ordered expected shown closed, rfl⟩
      · exact ⟨_, .timedOutInOrder outstanding hops knows late ordered expected shown closed, rfl⟩
    · exact ⟨_, .timedOut outstanding knows late unordered shown, rfl⟩

end Transfer

/-! ### What a block shows of a packet that did not come -/

/-- An end of an ordering did not receive a packet: it has no receipt of it, or expects a number no
greater. -/
def ChannelStore.Misses (s : ChannelStore) (o : Order) (p : Packet) (next : Sequence) : Prop :=
  o = .ordered ∧ s.nextRecv[p.destination]? = some next ∧ ¬ p.sequence < next ∨
    o ≠ .ordered ∧ s.hasReceipt p.destinationSlot = false

theorem Transfer.unseen_of_block [Digest] {h r : Host} {c : ConnectionEnd} {b : Block} {p : Packet}
    {x : ChannelEnd} {next : Sequence} (knows : h.Knows c b.height b.header.consensus)
    (shows : b.Shows r) (label : c.peer.label = .default) (clean : p.destination.Clean)
    (misses : r.store.Misses x.ordering p next) : Unseen h ⟨p, next, b.evidence⟩ x c := by
  obtain ⟨ordered, counter, expected⟩ | ⟨unordered, fresh⟩ := misses
  · refine .inl ⟨ordered, expected, Host.provesNextRecv_of_block knows ?_⟩
    rw [label]
    exact shows.holds (p := .nextRecv p.destination) clean (by rw [Host.provableAt?, counter]; rfl)
  · refine .inr ⟨unordered, Host.provesNoReceipt_of_block knows ?_⟩
    have absent : r.store.receipts[p.destinationSlot]? = none := by
      rwa [ChannelStore.hasReceipt, Option.isSome_eq_false_iff, Option.isNone_iff_eq_none] at fresh
    have clean : (Path.receipt p.destinationSlot).Clean := clean
    rw [label, shows.snapshot, Host.get?_snapshot_of_clean clean, Host.provableAt?, absent]
    rfl

/-! ### Too late for good -/

section TooLate

variable [Digest] {r r' : Host} {p : Packet} {cap : Capability} {v : Evidence} {t : Timestamp}

theorem TimesOut.timedOut_later (late : TimesOut (Transfer.receive r cap ⟨p, v⟩)) {g : Height}
    (onward : r.height.Onward g) (time : blockTime? g = some t) : p.timedOut g t := by
  obtain ⟨-, timedOut⟩ := Transfer.timesOut_receive.1 late
  obtain ⟨s, now⟩ : ∃ s, blockTime? r.height = some s := exists_blockTime?_of_le onward.height_le time
  rw [show r.now? = some s from now] at timedOut
  exact Packet.timedOut_mono onward now time timedOut

theorem Transfer.refused_of_timedOut (time : r.now? = some t) (late : p.timedOut r.height t)
    (cap : Capability) (v : Evidence) :
    ∃ cause, Transfer.receive r cap ⟨p, v⟩ = .error (.refused cause) := by
  obtain ⟨cause, -, refused⟩ : TimesOut (ensureInTime r p) := by
    rw [timesOut_ensureInTime, time]
    exact late
  have fits : Fits (reception r cap p) := fits_reception
  -- An earlier check may refuse it first.
  rw [receive_split]
  cases passed : reception r cap p with
  | ok found => exact ⟨cause, by simp only [bind, Except.bind, refused]⟩
  | error fault =>
    cases fault with
    | refused cause => exact ⟨cause, rfl⟩
    | overflow => exact absurd passed fits

/-- What a chain once refused for a timeout it refuses from then on. -/
theorem Chain.Leads.refused_again {c d : Chain} {l : History} (leads : c.Leads l d)
    (late : TimesOut (Transfer.receive c.host cap ⟨p, v⟩)) (time : d.host.now? = some t)
    (cap' : Capability) (v' : Evidence) :
    ∃ cause, Transfer.receive d.host cap' ⟨p, v'⟩ = .error (.refused cause) :=
  Transfer.refused_of_timedOut time (late.timedOut_later leads.height_onward time) cap' v'

end TooLate

/-! ### One rule -/

/-- The steps that look at the timeouts of a packet go by one rule, and nothing that was too late for
the receiver is lost. -/
structure Packet.JudgedAlike [Digest] (p : Packet) : Prop where
  /-- The sender refuses the packet for its timeouts just where it is timed out at the latest height
  of the client and the time known of it, if the checks before pass. -/
  sending : ∀ h cap, TimesOut (Transfer.send h cap p.outgoing) ↔ ∃ x client,
    Transfer.Sendable h cap p.outgoing x client ∧
      p.timedOut client.state.latestHeight client.latestTime
  /-- The receiver refuses it for its timeouts just where it is timed out at the height and the time
  of the host, if the checks before pass. -/
  receiving : ∀ h cap v, TimesOut (Transfer.receive h cap ⟨p, v⟩) ↔
    (∃ x, Transfer.Receivable h cap p x) ∧ p.timedOut h.height (h.now?.getD .unset)
  /-- The sender takes it back just where it is timed out at the height of the proof and the time
  known of it, among other things. -/
  takingBack : ∀ h cap next v,
    (∃ out, Transfer.timeout h cap ⟨p, next, v⟩ = .ok out ∧ out.result.noOp? = none) ↔
      ∃ x c cs, Transfer.Outstanding h cap p x c ∧ h.Knows c v.height cs ∧
        p.timedOut v.height cs.timestamp ∧ Transfer.Unseen h ⟨p, next, v⟩ x c
  /-- Once timed out along a chain, it stays so. -/
  lasting : ∀ g k s t, g.Onward k → blockTime? g = some s → blockTime? k = some t →
    p.timedOut g s → p.timedOut k t
  /-- What the receiver refused once for a timeout it refuses at all later heights. -/
  refusedLater : ∀ r cap v, TimesOut (Transfer.receive r cap ⟨p, v⟩) →
    ∀ (r' : Host) (t : Timestamp), r.height.Onward r'.height → r'.now? = some t →
      ∀ cap' v', ∃ cause, Transfer.receive r' cap' ⟨p, v'⟩ = .error (.refused cause)
  /-- What the receiver refused once for a timeout, and has not received, the sender can take back
  from each later block of the receiver that it knows. -/
  takenBackLater : ∀ r cap v, TimesOut (Transfer.receive r cap ⟨p, v⟩) →
    ∀ (r' : Host) (b : Block), r.height.Onward r'.height → b.Shows r' →
      ∀ h cap' x c next, Transfer.Outstanding h cap' p x c → c.peer.label = .default →
        p.destination.Clean → h.Knows c b.height b.header.consensus →
        r'.store.Misses x.ordering p next →
        ∃ out, Transfer.timeout h cap' ⟨p, next, b.evidence⟩ = .ok out ∧ out.result.noOp? = none
  /-- A packet just sent on such terms is not timed out at the latest height the client knows. -/
  sentInTime : ∀ h cap out, Transfer.send h cap p.outgoing = .ok out →
    ∃ q x client cs, out.events = [.packet .sent q] ∧ q.outgoing = p.outgoing ∧
      Transfer.Sendable h cap p.outgoing x client ∧
      client.consensus[client.state.latestHeight]? = some cs ∧
      q.timedOut client.state.latestHeight cs.timestamp = false

/-- Sending, receiving and taking back agree for every packet on when it is timed out. -/
theorem Packet.judged_alike [Digest] (p : Packet) : p.JudgedAlike where
  sending _ _ := Transfer.timesOut_send
  receiving _ _ _ := Transfer.timesOut_receive
  takingBack _ _ _ _ := Transfer.timeout_new_iff
  lasting _ _ _ _ onward before after late := timedOut_mono onward before after late
  refusedLater r cap v late r' t onward time :=
    Transfer.refused_of_timedOut time (late.timedOut_later onward time)
  takenBackLater r cap v late r' b onward shows h cap' x c next outstanding label clean knows
      misses := by
    have timedOut := late.timedOut_later onward shows.time
    rw [← shows.height] at timedOut
    exact Transfer.timeout_new_iff.2 ⟨x, c, b.header.consensus, outstanding, knows, timedOut,
      Transfer.unseen_of_block knows shows label clean misses⟩
  sentInTime _ _ _ ok := Transfer.timedOut_of_send ok

section Overdue

attribute [local instance] Digest.plain

namespace Passage

/-- The first packet of an end, for as long as the other chain is below the fourth height. -/
def brief : Packet := ⟨1, owner, owner, [7], .atHeight ⟨0, 4⟩, .ofNanoseconds 0⟩

def relaxed : ChannelEnd := opened .unordered "v"

def hopeful : Shelf :=
  { Shelf.fresh relaxed with
    nextSend := 2
    commitment := some (Digest.hash (Commitment.packetInput [7] (.atHeight ⟨0, 4⟩) 0)) }

def missing (n : UInt64) : Host := hostOf n none (Shelf.fresh relaxed).store

def missed : Block := block 6 (Shelf.fresh relaxed).store

def waiting : Host := hostOf 3 (some (.ofHeader missed.header)) hopeful.store

theorem outstanding_brief : Transfer.Outstanding waiting handle brief relaxed connection where
  channel := Shelf.ends_store
  owned := Shelf.authenticate_store
  committed := ⟨_, Commitment.ofPacket?_of_time rfl, Map.getElem?_single⟩
  peer := rfl
  route := ⟨hop, rfl, Map.getElem?_single⟩

theorem receivable_brief {n : UInt64} :
    Transfer.Receivable (missing n) handle brief relaxed where
  channel := Shelf.ends_store
  owned := Shelf.authenticate_store
  state := rfl
  peer := rfl
  order := nofun
  connection := ⟨connection, Site.openConnection_host rfl⟩

theorem shows_missed : missed.Shows (missing 6) :=
  ⟨rfl, (Early.of_low (n := 6) (by decide)).time, rfl⟩

theorem knows_missed : waiting.Knows connection missed.height missed.header.consensus :=
  ⟨.ofHeader missed.header, Map.getElem?_single, rfl, Std.ExtTreeMap.getElem?_insert_self⟩

theorem misses_brief {n : UInt64} : (missing n).store.Misses relaxed.ordering brief 1 :=
  .inr ⟨nofun, rfl⟩

end Passage

/-- A packet that arrives late, and is taken back with the proofs of the next block. -/
theorem Packet.judged_alike_brief :
    TimesOut (Transfer.receive (Passage.missing 5) Passage.handle
      ⟨Passage.brief, Passage.missed.evidence⟩) ∧
    ∃ out, Transfer.timeout Passage.waiting Passage.handle
      ⟨Passage.brief, 1, Passage.missed.evidence⟩ = .ok out ∧ out.result.noOp? = none := by
  have judged := Packet.judged_alike Passage.brief
  have refused := (judged.receiving (Passage.missing 5) Passage.handle Passage.missed.evidence).2
    ⟨⟨Passage.relaxed, Passage.receivable_brief⟩, by decide⟩
  have onward : Height.Onward (Passage.missing 5).height (Passage.missing 6).height :=
    .of_next? rfl
  exact ⟨refused, judged.takenBackLater _ _ _ refused _ _ onward Passage.shows_missed _ _ _ _ _
    Passage.outstanding_brief rfl Passage.clean_owner Passage.knows_missed Passage.misses_brief⟩

end Overdue

end Crosschain
