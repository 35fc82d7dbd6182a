import Crosschain.Proofs.Creation
import Crosschain.Proofs.Tellings

/-!
# Closed ends

An end opens, goes through upgrades, and may close; it never comes back from that. Once it is closed
nothing that is kept for it changes, but for the commitments of packets in flight, which their
timeouts still take away. Closing is told of in one event, whether the application asked for it or a
timeout brought it about.
-/

namespace Crosschain

/-! ### Moves of an end -/

/-- The states an end can go to from a state, if it goes anywhere. -/
inductive ChannelState.Moves : ChannelState → ChannelState → Prop
  | stay (s : ChannelState) : Moves s s
  | opens (s : ChannelState) (opening : s = .init ∨ s = .tryOpen) : Moves s .opened
  | proposes : Moves .opened .initUpgrade
  | replies (s : ChannelState) (before : s = .opened ∨ s = .initUpgrade) : Moves s .tryUpgrade
  | agrees (s : ChannelState) (before : s = .initUpgrade ∨ s = .tryUpgrade) : Moves s .ackUpgrade
  /-- An upgrade is completed or given up. -/
  | ends (s : ChannelState) (running : s.isUpgrading) : Moves s .opened
  | closes (s : ChannelState) : Moves s .closed

/-- The end under a name goes on: it comes into being as a proposal or an answer, or its state
moves. It does not vanish. -/
inductive ChannelEnd.Goes : Option ChannelEnd → Option ChannelEnd → Prop
  | absent : Goes none none
  | begins (x : ChannelEnd) (state : x.state = .init ∨ x.state = .tryOpen) : Goes none (some x)
  | moves (x y : ChannelEnd) (state : x.state.Moves y.state) : Goes (some x) (some y)

theorem EndStep.moves {x y : ChannelEnd} {d : Deed} (step : EndStep x d y) :
    x.state.Moves y.state := by
  cases step with
  | same => exact .stay _
  | acked c version state => exact .opens _ state
  | confirmed state => exact .opens _ (.inr state)
  | shut => exact .closes _
  | proposed n state =>
    rw [state]
    exact .proposes
  | replied n state => exact .replies _ (.inl state)
  | crossed n state => exact .replies _ (.inr state)
  | agreed state => exact .agrees _ state
  | completed f state =>
    apply ChannelState.Moves.ends
    rw [ChannelState.isUpgrading_iff]
    exact .inr state
  | restored n state =>
    obtain state | running := state
    · rw [state]
      exact .stay _
    · exact .ends _ running

theorem LaneStep.goes [Digest] {h : Host} {a : Action} {e : EndId} {l l' : Lane} {d : Deed}
    (step : LaneStep h a e l d l') : ChannelEnd.Goes l.channel l'.channel := by
  cases before : l.channel with
  | some x =>
    obtain ⟨y, after, change⟩ := step.endStep before
    rw [after]
    exact .moves x y change.moves
  | none =>
    cases after : l'.channel with
    | none => exact .absent
    | some y =>
      apply ChannelEnd.Goes.begins
      obtain ⟨-, -, state | ⟨m, peerHop, peer, time, -, state, -⟩⟩ := step.created before after
      · exact .inl state
      · exact .inr state

/-! ### What is kept for a closed end -/

def Lane.Shut (l : Lane) : Prop := ∃ x, l.channel = some x ∧ x.state = .closed

/-- A lane keeps all it has, but for commitments that go. -/
structure Lane.Dwindles (l l' : Lane) : Prop where
  kept : l' = { l with commitments := l'.commitments }
  commitments : ∀ n, l'.commitments n = none ∨ l'.commitments n = l.commitments n

namespace Lane.Dwindles

variable {l l' l'' : Lane}

theorem refl (l : Lane) : l.Dwindles l := ⟨rfl, fun _ => .inr rfl⟩

theorem trans (first : l.Dwindles l') (second : l'.Dwindles l'') : l.Dwindles l'' := by
  constructor
  · rw [second.kept, first.kept]
  · intro n
    obtain gone | same := second.commitments n
    · exact .inl gone
    · rw [same]
      exact first.commitments n

theorem shut (dwindles : l.Dwindles l') (shut : l.Shut) : l'.Shut := by
  rw [dwindles.kept]
  exact shut

end Lane.Dwindles

/-- Of a closed end, a step changes nothing, or it is the timeout of a packet of the end whose
commitment is kept, and this goes. -/
def Lane.Drains (a : Action) (e : EndId) (l l' : Lane) : Prop :=
  l' = l ∨ ∃ (m : TimeoutPacket) (b : Bytes), a = .deliver (.packet (.timeout m)) ∧
    m.packet.source = e ∧ l.commitments m.packet.sequence = some b ∧
    l' = { l with commitments := Function.update l.commitments m.packet.sequence none }

theorem Lane.Drains.dwindles {a : Action} {e : EndId} {l l' : Lane} (drains : l.Drains a e l') :
    l.Dwindles l' := by
  obtain rfl | ⟨m, b, -, -, -, rfl⟩ := drains
  · exact .refl _
  · refine ⟨rfl, ?_⟩
    intro n
    by_cases same : n = m.packet.sequence
    · subst same
      exact .inl (Function.update_self ..)
    · exact .inr (Function.update_of_ne same ..)

namespace LaneStep

variable [Digest] {h : Host} {a : Action} {e : EndId} {l l' : Lane} {d : Deed}

/-- Every operation refuses a closed end or leaves it alone, but for the timeout of a packet. -/
theorem drains (step : LaneStep h a e l d l') (shut : l.Shut) : l.Drains a e l' := by
  obtain ⟨x, there, closed⟩ := shut
  -- Whatever an operation asks of the state of the end, it asks of a closed one.
  have state {y : ChannelEnd} (channel : l.channel = some y) : y.state = .closed := by
    rw [there] at channel
    cases channel
    exact closed
  have packets {y : ChannelEnd} (channel : l.channel = some y) : ¬ y.state.allowsPackets := by
    rw [state channel]
    decide
  cases step with
  | idle => exact .inl rfl
  | openInit => cases there
  | openTry => cases there
  | timeoutOrdered _ m y c time action owner channel named stored =>
    refine .inr ⟨m, c, action, owner.symm, stored, ?_⟩
    obtain rfl := Option.some.inj (channel.symm.trans there)
    have same : { y with state := .closed } = y := by rw [← closed]
    rw [same, ← channel]
  | timeoutUnordered _ m y c time action owner channel named stored =>
    exact .inr ⟨m, c, action, owner.symm, stored, rfl⟩
  | close _ cap m y action owner channel live => exact absurd (state channel) live
  | send _ cap m y peer n next c p action owner channel allows =>
    exact absurd allows (packets channel)
  | receiveOrdered _ m y next acks action owner guard =>
    exact absurd guard.state (packets guard.channel)
  | receiveUnordered _ m y next acks action owner guard =>
    exact absurd guard.state (packets guard.channel)
  | answer _ cap p ack y action owner channel allows => exact absurd allows (packets channel)
  | acknowledge _ m y c time nextAck action owner channel allows =>
    exact absurd allows (packets channel)
  | reply _ m y fields n action owner guard opened => simp [state guard.channel] at opened
  | cross _ m y fields own action owner guard proposed =>
    simp [state guard.channel] at proposed
  | cancel _ m y peer time action owner channel running =>
    rw [state channel] at running
    cases running
  | abort _ y receipt channel open_or => simp [state channel] at open_or
  | _ => simp_all

/-- Only an application that asks for it and a timeout close an end. -/
theorem closes (step : LaneStep h a e l d l') (live : ¬ l.Shut) (shut : l'.Shut) :
    (∃ cap m, a = .close cap m) ∨ ∃ m, a = .deliver (.packet (.timeout m)) := by
  obtain ⟨y, after, closed⟩ := shut
  have kept (same : l.channel = some y) : False := live ⟨y, same, closed⟩
  cases step with
  | close _ cap m x action => exact .inl ⟨cap, m, action⟩
  | timeoutOrdered _ m x c time action => exact .inr ⟨m, action⟩
  | timeoutUnordered _ m x c time action => exact .inr ⟨m, action⟩
  | idle => exact (kept after).elim
  | send => exact (kept after).elim
  | receiveOrdered => exact (kept after).elim
  | receiveUnordered => exact (kept after).elim
  | answer => exact (kept after).elim
  | acknowledge => exact (kept after).elim
  | _ =>
    cases after
    cases closed

end LaneStep

/-! ### What is told of closing -/

def Event.closed? : Event → Option EndId
  | .handshake .closeInit a | .closed a _ => a.channel.map fun c => ⟨a.port, c⟩
  | _ => none

/-- How often a history tells that an end has closed. -/
def History.closings (l : History) (e : EndId) : Nat := (l.events.filterMap Event.closed?).count e

theorem Event.OfKinds.unclosed {kinds : List EventKind} {events : List Event}
    (told : OfKinds kinds events) (other : .closed ∉ kinds)
    (other' : .handshake .closeInit ∉ kinds) : events.filterMap Event.closed? = [] := by
  refine told.filterMap_eq_nil fun event kind => ?_
  cases event with
  | closed a ordering => exact absurd kind other
  | handshake step a =>
    cases step with
    | closeInit => exact absurd kind other'
    | _ => rfl
  | _ => rfl

/-- What events tell of closing is what happened: no end closed, or one did and this is told
once. -/
inductive ChannelStore.Closes (s : ChannelStore) (events : List Event) (t : ChannelStore) : Prop
  | nothing (silent : events.filterMap Event.closed? = [])
    (same : ∀ e, (t.lane e).Shut ↔ (s.lane e).Shut)
  | one (e : EndId) (told : events.filterMap Event.closed? = [e]) (live : ¬ (s.lane e).Shut)
    (shut : (t.lane e).Shut) (others : ∀ f, f ≠ e → ((t.lane f).Shut ↔ (s.lane f).Shut))

namespace ChannelStore.Closes

variable {s t : ChannelStore} {events : List Event} {e : EndId} {x : ChannelEnd}

theorem of_ends (silent : events.filterMap Event.closed? = [])
    (same : ∀ e, (t.lane e).channel = (s.lane e).channel) : s.Closes events t := by
  refine .nothing silent fun e => ?_
  rw [Lane.Shut, Lane.Shut, same]

theorem of_setEnd (channel : s.ends[e]? = some x) (live : x.state ≠ .closed)
    (told : events.filterMap Event.closed? = [e])
    (ends : ∀ f, (t.lane f).channel = ((s.setEnd e { x with state := .closed }).lane f).channel) :
    s.Closes events t := by
  refine .one e told ?_ ?_ ?_
  · rintro ⟨y, there, closed⟩
    obtain rfl : x = y := Option.some.inj (channel.symm.trans there)
    exact live closed
  · refine ⟨{ x with state := .closed }, ?_, rfl⟩
    rw [ends, lane_setEnd]
  · intro f apart
    rw [Lane.Shut, Lane.Shut, ends, lane_setEnd_of_ne _ apart.symm]

end ChannelStore.Closes

theorem Transfer.timeout_closes [Digest] {h : Host} {cap : Capability} {m : TimeoutPacket}
    {out : Output PacketChange} (ok : timeout h cap m = .ok out) :
    h.store.Closes out.events (h.store.applyPacket out.result) := by
  cases succeeds_of_timeout ok with
  | timedOutInOrder outstanding hops knows late ordered expected shown live =>
    exact .of_setEnd outstanding.channel live rfl fun _ => rfl
  | _ => exact .of_ends rfl fun _ => rfl

namespace Chain

variable [Digest] {c c' d : Chain} {a : Action} {rep : Report} {l : History}

theorem Delivers.closes {m : TimeoutPacket} {r : Routed DeliveryReceipt}
    (delivers : c.Delivers (.packet (.timeout m)) r) {rep : Report}
    (reports : Reports r.1 DeliveryReceipt.report rep) :
    c.host.store.Closes rep.events r.2.host.store := by
  cases delivers with
  | unrouted | unowned | failed | declined =>
    rw [reports.refused]
    exact .of_ends rfl fun _ => rfl
  | repeated bound owns ok again =>
    rw [reports.done]
    have closes := Transfer.timeout_closes ok
    rwa [(Transfer.events_of_noOp (m := .timeout m) ok again).1] at closes
  | applied bound owns ok =>
    rw [reports.done]
    exact Transfer.timeout_closes ok

theorem Takes.closes (orderly : c.Orderly) (taken : c.Takes a rep c') :
    c.host.store.Closes rep.events c'.host.store := by
  by_cases closing : ∃ cap m, a = .close cap m
  · obtain ⟨cap, m, rfl⟩ := closing
    obtain ⟨d, performs, store⟩ := taken.exists_performs
    rw [store]
    cases performs with
    | refused => exact .of_ends rfl fun _ => rfl
    | closed ok =>
      obtain ⟨channel, owned, live⟩ := Handshake.closeInit_eq_ok.1 ok
      exact .of_setEnd channel live rfl fun _ => rfl
  by_cases late : ∃ m, a = .deliver (.packet (.timeout m))
  · obtain ⟨m, rfl⟩ := late
    obtain ⟨d, performs, store⟩ := taken.exists_performs
    rw [store]
    cases performs with
    | refused => exact .of_ends rfl fun _ => rfl
    | relayed delivers reports => exact delivers.closes reports
  -- No other action closes an end or tells of it.
  refine .nothing (taken.kinds.unclosed ?_ ?_) fun e => ?_
  · intro mem
    cases a with
    | deliver m =>
      cases m with
      | packet m =>
        cases m with
        | timeout m => exact late ⟨m, rfl⟩
        | _ => simp [Action.kinds, Datagram.kinds, PacketMessage.kinds] at mem
      | _ => simp [Action.kinds, Datagram.kinds, EventKind.opening, EventKind.upgrading] at mem
    | _ => simp [Action.kinds] at mem
  · intro mem
    cases a with
    | close cap m => exact closing ⟨cap, m, rfl⟩
    | deliver m =>
      cases m with
      | packet m => cases m <;> simp [Action.kinds, Datagram.kinds, PacketMessage.kinds] at mem
      | _ => simp [Action.kinds, Datagram.kinds, EventKind.opening, EventKind.upgrading] at mem
    | _ => simp [Action.kinds] at mem
  · obtain ⟨deed, step, -⟩ := (taken.stepped orderly).lane e
    constructor
    · intro shut
      by_contra live
      obtain asked | timed := step.closes live shut
      · exact closing asked
      · exact late timed
    · intro shut
      exact (step.drains shut).dwindles.shut shut

namespace Reaches

/-- Closing was told of once if the end is closed, and not at all otherwise. -/
theorem closings (start : c.host.store = .empty) (reaches : c.Reaches l d) (e : EndId) :
    (d.host.store.lane e).Shut ∧ l.closings e = 1 ∨
      ¬ (d.host.store.lane e).Shut ∧ l.closings e = 0 := by
  induction reaches with
  | rest =>
    rw [start, ChannelStore.lane_empty]
    refine .inr ⟨?_, rfl⟩
    rintro ⟨x, there, -⟩
    cases there
  | @act l b b' a rep before taken ih =>
    have count : History.closings (l ++ [(a, rep)]) e =
        l.closings e + (rep.events.filterMap Event.closed?).count e := by
      simp [History.closings, History.events]
    rw [count]
    cases taken.closes (before.orderly start) with
    | nothing silent same =>
      rw [silent, same]
      exact ih
    | one f told live shut others =>
      rw [told]
      by_cases own : e = f
      · subst own
        obtain ⟨closed, -⟩ | ⟨-, none⟩ := ih
        · exact absurd closed live
        · exact .inl ⟨shut, by simp [none]⟩
      · rw [others e own, List.count_singleton, if_neg (by simpa using Ne.symm own)]
        exact ih
  | arrange before store ports ih =>
    rw [store]
    exact ih

/-- What a closed end has left only dwindles, and the end stays with its owner. -/
theorem dwindles {l' : History} {d' : Chain} (start : c.host.store = .empty)
    (reaches : c.Reaches l d) {e : EndId} (shut : (d.host.store.lane e).Shut)
    (onward : d.Reaches l' d') :
    (d.host.store.lane e).Dwindles (d'.host.store.lane e) ∧ d'.capabilityOf e = d.capabilityOf e := by
  obtain ⟨x, there, -⟩ := id shut
  obtain ⟨i, owned⟩ := (reaches.enrolled start).taken e ⟨x, there⟩
  suffices kept : (d.host.store.lane e).Dwindles (d'.host.store.lane e) ∧
      d'.host.store.registry.owners[CapabilityName.ofEnd e]? = some i by
    refine ⟨kept.1, ?_⟩
    rw [capabilityOf, capabilityOf, Registry.get, Registry.get, kept.2, owned]
  induction onward with
  | rest => exact ⟨.refl _, owned⟩
  | act before taken ih =>
    have reached := reaches.trans before
    obtain ⟨deed, step, -⟩ := (taken.stepped (reached.orderly start)).lane e
    refine ⟨ih.1.trans (step.drains (ih.1.shut shut)).dwindles, ?_⟩
    cases taken.enlists (reached.registered start) with
    | kept created registry =>
      rw [registry]
      exact ih.2
    | new port x hop cap creates => exact Registry.getElem?_of_create creates.enlisted ih.2
  | arrange before store ports ih =>
    rw [store]
    exact ih

/-- On a chain that started without channels, whatever the other chains do: an end begins as a
proposal or an answer, opens once, and then goes between the open state and upgrades until it closes.
Once it is closed, each action leaves all that is kept for it, but for the timeout of a packet of the
end, which takes the packet's commitment away; so nothing is ever added or changed for it. That it
closed is told once, and of no end that did not close. -/
theorem closed_stays (start : c.host.store = .empty) (reaches : c.Reaches l d) (e : EndId) :
    (∀ a rep d', d.Takes a rep d' →
      ChannelEnd.Goes d.host.store.ends[e]? d'.host.store.ends[e]?) ∧
    ((d.host.store.lane e).Shut →
      (∀ a rep d', d.Takes a rep d' → (d.host.store.lane e).Drains a e (d'.host.store.lane e)) ∧
      ∀ l' d', d.Reaches l' d' → (d.host.store.lane e).Dwindles (d'.host.store.lane e) ∧
        d'.capabilityOf e = d.capabilityOf e) ∧
    l.closings e ≤ 1 ∧ (l.closings e = 1 ↔ (d.host.store.lane e).Shut) := by
  have orderly := reaches.orderly start
  refine ⟨?_, ?_, ?_⟩
  · intro a rep d' taken
    obtain ⟨deed, step, -⟩ := (taken.stepped orderly).lane e
    exact step.goes
  · intro shut
    refine ⟨?_, fun l' d' onward => reaches.dwindles start shut onward⟩
    intro a rep d' taken
    obtain ⟨deed, step, -⟩ := (taken.stepped orderly).lane e
    exact step.drains shut
  · obtain ⟨shut, once⟩ | ⟨live, never⟩ := reaches.closings start e
    · exact ⟨Nat.le_of_eq once, fun _ => shut, fun _ => once⟩
    · rw [never]
      exact ⟨Nat.zero_le 1, fun none => absurd none (by decide), fun shut => absurd shut live⟩

end Reaches

end Chain

/-- The end of a channel with a packet in flight is closed by its application. -/
theorem Chain.Reaches.closed_stays_direct :
    letI : Digest := .plain
    let r := Passage.direct "ics20-1" [1] (by decide)
    let closing : Action := .close Passage.handle ⟨Passage.owner⟩
    ∃ rep c', (r.world 11 .left).perform closing = some (rep, c') ∧
      (c'.host.store.lane Passage.owner).Shut ∧
      History.closings (r.history .left 11 ++ [(closing, rep)]) Passage.owner = 1 ∧
      ∀ l' d', c'.Reaches l' d' →
        (c'.host.store.lane Passage.owner).Dwindles (d'.host.store.lane Passage.owner) := by
  -- Evaluated before the run gets a name, so that the term is closed.
  have taken : letI : Digest := .plain
      ((((Passage.direct "ics20-1" [1] (by decide)).world 11 .left).perform
        (.close Passage.handle ⟨Passage.owner⟩)).bind fun o =>
          o.2.host.store.ends[Passage.owner]?.map ChannelEnd.state) = some .closed := rfl
  let _ : Digest := .plain
  let r := Passage.direct "ics20-1" [1] (by decide)
  cases done : (r.world 11 .left).perform (.close Passage.handle ⟨Passage.owner⟩) with
  | none =>
    rw [done] at taken
    cases taken
  | some o =>
    obtain ⟨rep, c'⟩ := o
    rw [done] at taken
    obtain ⟨x, there, state⟩ := Option.map_eq_some_iff.1 taken
    have shut : (c'.host.store.lane Passage.owner).Shut := ⟨x, there, state⟩
    obtain ⟨-, stays, -, told⟩ := Reaches.closed_stays (r.started.chain .left).store
      (.act (r.leads .left 11).reaches (.inl done)) Passage.owner
    exact ⟨rep, c', done, shut, told.2 shut, fun l' d' onward => ((stays shut).2 l' d' onward).1⟩

end Crosschain
