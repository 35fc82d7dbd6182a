import Crosschain.Proofs.Encodings
import Crosschain.Proofs.Outcomes
import Crosschain.Proofs.UpgradeSteps

/-!
# Actions of a chain

Whatever is asked of a chain, each of its lanes takes one step, the events announce just the
packets that lanes sent, and the applications are handed just the packets that lanes received.
-/

namespace Crosschain

/-! ### Packets handed over -/

namespace Chain

/-- The packets for an end that were handed to the application bound to its port. -/
def delivered (c : Chain) (e : EndId) : List Packet :=
  match c.appOf e.port with
  | .ok (_, app) => app.received.filter fun p => p.destination = e
  | .error _ => []

theorem appOf_eq_ok {c : Chain} {port : PortId} {id : ModuleId} {app : Application} :
    c.appOf port = .ok (id, app) ↔ c.bindings[port]? = some id ∧ c.apps[id]? = some app := by
  unfold appOf boundTo
  cases hb : c.bindings[port]? with
  | none => simp [Except.mapError, bind, Except.bind]
  | some i =>
    cases ha : c.apps[i]? with
    | none =>
      simp only [Except.mapError, bind, Except.bind, ha, reduceCtorEq, Option.some.injEq,
        false_iff, not_and]
      rintro rfl
      simp [ha]
    | some a =>
      simp only [Except.mapError, bind, Except.bind, ha, Except.ok.injEq, Prod.mk.injEq,
        Option.some.injEq]
      constructor
      · rintro ⟨rfl, rfl⟩
        exact ⟨rfl, ha⟩
      · rintro ⟨rfl, there⟩
        rw [ha] at there
        exact ⟨rfl, Option.some.inj there⟩

theorem delivered_congr {c d : Chain} (apps : d.apps = c.apps) (bindings : d.bindings = c.bindings)
    (e : EndId) : d.delivered e = c.delivered e := by
  simp only [delivered, appOf, boundTo, apps, bindings]

theorem received_after (a : Application) (call : Call) :
    (a.after call).received = a.received ++ call.received?.toList := by
  simp only [Application.received, Application.after, List.filterMap_append]
  cases h : call.received? <;> simp [h]

theorem delivered_tell {c : Chain} {port : PortId} {id : ModuleId} {app : Application} {call : Call}
    (bound : c.appOf port = .ok (id, app))
    (here : ∀ p, call.received? = some p → p.destination.port = port) (e : EndId) :
    (c.tell id app call).delivered e =
      c.delivered e ++ call.received?.toList.filter fun p => p.destination = e := by
  obtain ⟨binding, there⟩ := appOf_eq_ok.1 bound
  by_cases own : c.bindings[e.port]? = some id
  · have before : c.appOf e.port = .ok (id, app) := appOf_eq_ok.2 ⟨own, there⟩
    have after : (c.tell id app call).appOf e.port = .ok (id, app.after call) :=
      appOf_eq_ok.2 ⟨own, by simp [tell]⟩
    simp only [delivered, before, after, received_after, List.filter_append]
  · -- The end belongs to another application, so the packet of the call is not for it.
    have absent : (call.received?.toList.filter fun p => p.destination = e) = [] := by
      rw [List.filter_eq_nil_iff]
      intro p hp dest
      rw [decide_eq_true_eq] at dest
      have port_eq := here p (Option.mem_toList.1 hp)
      rw [dest] at port_eq
      exact own (port_eq ▸ binding)
    have same_app : (c.tell id app call).appOf e.port = c.appOf e.port := by
      have bindings : (c.tell id app call).bindings = c.bindings := rfl
      simp only [appOf, boundTo, bindings]
      cases there' : c.bindings[e.port]? with
      | none => rfl
      | some i =>
        have other : ¬ compare id i = .eq := fun h =>
          own (there'.trans (congrArg some (Std.compare_eq_iff_eq.1 h).symm))
        simp only [Except.mapError, bind, Except.bind, tell, Std.ExtTreeMap.getElem?_insert,
          if_neg other]
    simp only [delivered, same_app, absent, List.append_nil]

end Chain

/-! ### One action -/

/-- The lanes of a chain belong to ends that were created on bound ports under names the chain gave
out. -/
structure Chain.Orderly (c : Chain) : Prop where
  port : ∀ e, c.host.store.lane e ≠ .empty → ∃ id, c.bindings[e.port]? = some id
  channel : ∀ e, c.host.store.lane e ≠ .empty →
    ∃ n : UInt64, n < c.host.store.created ∧ e.channel = Identifier.channel n

/-- What a deed of an end means outside: what the events tell of packets the end sent, the packet it
handed over, and what an applied message about a packet did. -/
structure Accounts (c : Chain) (a : Action) (rep : Report) (c' : Chain) (e : EndId) (d : Deed) :
    Prop where
  told : ((rep.events.filterMap Event.fate?).filter fun f => f.2.source = e) = d.fate?.toList
  received : c'.delivered e = c.delivered e ++ d.received?.toList
  applied : ∀ m : PacketMessage, a = .deliver (.packet m) → m.owner = e →
    rep.outcome = some .applied → d = m.deed

theorem Event.filter_filterMap {g : Event → Option Packet} (stage : PacketStage → Prop)
    [DecidablePred stage]
    (picks : ∀ event, g event = (fate? event).bind fun f => if stage f.1 then some f.2 else none)
    (events : List Event) (e : EndId) : ((events.filterMap g).filter fun p => p.source = e) =
      ((events.filterMap fate?).filter fun f => f.2.source = e).filterMap fun f =>
        if stage f.1 then some f.2 else none := by
  induction events with
  | nil => rfl
  | cons event rest ih =>
    simp only [List.filterMap_cons, picks event]
    cases fate? event with
    | none => exact ih
    | some f =>
      by_cases picked : stage f.1 <;> by_cases own : f.2.source = e <;>
        simp [picked, own, ih]

namespace Accounts

variable {c c' : Chain} {a : Action} {rep : Report} {e : EndId} {d : Deed}

theorem sent (accounts : Accounts c a rep c' e d) :
    ((rep.events.filterMap Event.sent?).filter fun p => p.source = e) = d.sent?.toList := by
  have picks (event : Event) : event.sent? =
      event.fate?.bind fun f => if f.1 = .sent then some f.2 else none := by
    cases event with
    | packet stage p => cases stage <;> rfl
    | _ => rfl
  rw [Event.filter_filterMap (· = .sent) picks, accounts.told]
  cases d <;> rfl

theorem resolved (accounts : Accounts c a rep c' e d) :
    ((rep.events.filterMap Event.resolved?).filter fun p => p.source = e) = d.resolved?.toList := by
  have picks (event : Event) : event.resolved? =
      event.fate?.bind fun f => if f.1 ≠ .sent then some f.2 else none := by
    cases event with
    | packet stage p => cases stage <;> rfl
    | _ => rfl
  rw [Event.filter_filterMap (· ≠ .sent) picks, accounts.told]
  cases d <;> rfl

end Accounts

/-- How a chain goes on in an action: each lane takes one step, connections and ports stay, and the
count of channels grows when an end is new. -/
structure Chain.Stepped [Digest] (c : Chain) (a : Action) (rep : Report) (c' : Chain) : Prop where
  lane : ∀ e, ∃ d, LaneStep c.host a e (c.host.store.lane e) d (c'.host.store.lane e) ∧
    Accounts c a rep c' e d
  connections : c'.host.connections = c.host.connections
  bindings : c'.bindings = c.bindings
  created : c.host.store.created ≤ c'.host.store.created
  fresh : ∀ e, c.host.store.lane e = .empty → c'.host.store.lane e ≠ .empty →
    c.host.store.created < c'.host.store.created ∧ ∃ id, c.bindings[e.port]? = some id

namespace Chain

variable [Digest] {c c' : Chain} {a : Action} {rep : Report}

theorem Stepped.idle (store : c'.host.store = c.host.store)
    (connections : c'.host.connections = c.host.connections) (bindings : c'.bindings = c.bindings)
    (delivered : ∀ e, c'.delivered e = c.delivered e)
    (silent : rep.events.filterMap Event.fate? = [])
    (applied : ∀ m, a = .deliver (.packet m) → rep.outcome ≠ some .applied) :
    Stepped c a rep c' := by
  refine ⟨?_, connections, bindings, by rw [store]; exact UInt64.le_refl _, ?_⟩
  · intro e
    refine ⟨.idle, by rw [store]; exact .idle _, by rw [silent]; rfl, ?_, ?_⟩
    · rw [delivered e]
      exact (List.append_nil _).symm
    · intro m action _ outcome
      exact absurd outcome (applied m action)
  · intro e free taken
    rw [store] at taken
    exact absurd free taken

theorem Stepped.of_stores {owner : EndId} {d : Deed} (stores : Stores c.host a owner d c'.host.store)
    (connections : c'.host.connections = c.host.connections) (bindings : c'.bindings = c.bindings)
    (bound : c.host.store.lane owner = .empty → ∃ id, c.bindings[owner.port]? = some id)
    (told : rep.events.filterMap Event.fate? = d.fate?.toList)
    (source : ∀ f, d.fate? = some f → f.2.source = owner)
    (delivered : ∀ e, c'.delivered e =
      c.delivered e ++ d.received?.toList.filter fun p => p.destination = e)
    (destination : ∀ p, d.received? = some p → p.destination = owner)
    (applied : ∀ m, a = .deliver (.packet m) → m.owner = owner →
      rep.outcome = some .applied → d = m.deed)
    (mine : ∀ m, a = .deliver (.packet m) → m.owner = owner) :
    Stepped c a rep c' := by
  have filter_self {α : Type} {o : Option α} {f : α → EndId} (h : ∀ p, o = some p → f p = owner) :
      (o.toList.filter fun p => f p = owner) = o.toList := by
    rw [List.filter_eq_self]
    intro p hp
    rw [decide_eq_true_eq]
    exact h p (Option.mem_toList.1 hp)
  have filter_other {α : Type} {o : Option α} {f : α → EndId} {e : EndId}
      (h : ∀ p, o = some p → f p = owner) (other : e ≠ owner) :
      (o.toList.filter fun p => f p = e) = [] := by
    rw [List.filter_eq_nil_iff]
    intro p hp same
    rw [decide_eq_true_eq, h p (Option.mem_toList.1 hp)] at same
    exact other same.symm
  refine ⟨?_, connections, bindings, stores.count, ?_⟩
  · intro e
    by_cases own : e = owner
    · subst own
      refine ⟨d, stores.step, by rw [told, filter_self source], ?_, applied⟩
      rw [delivered e, filter_self destination]
    · refine ⟨.idle, by rw [stores.others e own]; exact .idle _, ?_, ?_, ?_⟩
      · rw [told, filter_other source own]
        rfl
      · rw [delivered e, filter_other destination own]
        rfl
      · intro m action named
        exact absurd (named.symm.trans (mine m action)) own
  · intro e free taken
    by_cases own : e = owner
    · subst own
      exact ⟨stores.fresh free, bound free⟩
    · rw [stores.others e own] at taken
      exact absurd free taken

theorem Stepped.of_quiet {owner : EndId} {d : Deed} (stores : Stores c.host a owner d c'.host.store)
    (quiet : d.Quiet) (connections : c'.host.connections = c.host.connections)
    (bindings : c'.bindings = c.bindings)
    (bound : c.host.store.lane owner = .empty → ∃ id, c.bindings[owner.port]? = some id)
    (silent : rep.events.filterMap Event.fate? = [])
    (delivered : ∀ e, c'.delivered e = c.delivered e)
    (other : ∀ m, a ≠ .deliver (.packet m)) : Stepped c a rep c' := by
  obtain ⟨untold, received⟩ := quiet
  refine .of_stores stores connections bindings bound ?_ ?_ ?_ ?_ ?_ ?_
  · rw [silent, untold]
    rfl
  · intro f h
    rw [untold] at h
    cases h
  · intro e
    rw [delivered e, received]
    exact (List.append_nil _).symm
  · intro p h
    rw [received] at h
    cases h
  · intro m action
    exact absurd action (other m)
  · intro m action
    exact absurd action (other m)

theorem Stepped.refused (store : c'.host.store = c.host.store)
    (connections : c'.host.connections = c.host.connections) (bindings : c'.bindings = c.bindings)
    (delivered : ∀ e, c'.delivered e = c.delivered e) : Stepped c a ⟨none, []⟩ c' :=
  .idle store connections bindings delivered rfl fun _ _ outcome => by cases outcome

/-! ### Relayed messages -/

omit [Digest] in
theorem received?_handshakeCall (m : HandshakeMessage) (owner : EndId) :
    (handshakeCall m owner).received? = none := by
  cases m <;> rfl

omit [Digest] in
theorem received?_upgradeCall {m : UpgradeMessage} {change : UpgradeChange} {call : Call}
    (told : upgradeCall? m change = some call) : call.received? = none := by
  unfold upgradeCall? at told
  split at told
  case h_5 =>
    split at told
    · cases told
      rfl
    · cases told
  all_goals first
    | (cases told; rfl)
    | cases told

omit [Digest] in
theorem delivered_tell_other {port : PortId} {id : ModuleId} {app : Application} {call : Call}
    (bound : c.appOf port = .ok (id, app)) (other : call.received? = none) (e : EndId) :
    (c.tell id app call).delivered e = c.delivered e := by
  rw [delivered_tell bound (by simp [other]), other]
  exact List.append_nil _

variable {r : Except (Fault RoutingError) DeliveryReceipt}

/-- A handshake that the channel layer takes and the application agrees to is stored, but for the
capability if the chain runs out of them. -/
theorem Stepped.handshake {m : HandshakeMessage} {id : ModuleId} {app : Application}
    {out : Output EndChange} {version : ChannelVersion} {r : Attempt (Option Capability)}
    {t : ChannelStore} (free : c.host.store.lane (Handshake.freshEnd c.host m.port) = .empty)
    (bound : c.appOf m.port = .ok (id, app)) (ok : Handshake.step c.host m = .ok out)
    (stored : c.host.store.applyEnd (settleVersion m out.result version) = (r, t))
    (fits : r ≠ .error .overflow) (silent : rep.events.filterMap Event.fate? = []) :
    Stepped c (.deliver (.handshake m)) rep
      ((c.tell id app (handshakeCall m out.result.owner)).withStore t) := by
  obtain ⟨port, d, quiet, stores⟩ := Handshake.step_stores version ok free stored fits
  refine .of_quiet stores quiet rfl rfl ?_ silent
    (delivered_tell_other bound (received?_handshakeCall m out.result.owner)) (by simp)
  intro _
  rw [port]
  exact ⟨id, (appOf_eq_ok.1 bound).1⟩

/-- The end of an upgrade is stored, whether the application is told of the step or not. -/
theorem Stepped.upgrade {m : UpgradeMessage} {id : ModuleId} {app : Application}
    {out : Output UpgradeChange} {outcome : Option Outcome}
    (bound : c.appOf m.owner.port = .ok (id, app)) (ok : Upgrading.step c.host m = .ok out)
    (store : c'.host.store = c.host.store.applyUpgrade out.result)
    (connections : c'.host.connections = c.host.connections) (bindings : c'.bindings = c.bindings)
    (delivered : ∀ e, c'.delivered e = c.delivered e) :
    Stepped c (.deliver (.upgrade m)) ⟨outcome, out.events⟩ c' := by
  obtain ⟨named, silent, d, quiet, stores⟩ := Upgrading.step_stored ok
  refine .of_quiet (by rw [store]; exact stores) quiet connections bindings ?_ silent delivered
    (by simp)
  intro _
  exact ⟨id, (appOf_eq_ok.1 bound).1⟩

/-! ### Packets -/

omit [Digest] in
theorem received?_packetCall (m : PacketMessage) : (packetCall m).received? = m.deed.received? := by
  cases m <;> rfl

theorem Stepped.packet {m : PacketMessage} {id : ModuleId} {app : Application}
    {outcome : Option Outcome} {events : List Event} (bound : c.appOf m.owner.port = .ok (id, app))
    (stores : Stores c.host (.deliver (.packet m)) m.owner m.deed c'.host.store)
    (connections : c'.host.connections = c.host.connections) (bindings : c'.bindings = c.bindings)
    (apps : c'.apps = (c.tell id app (packetCall m)).apps)
    (told : events.filterMap Event.fate? = m.deed.fate?.toList) :
    Stepped c (.deliver (.packet m)) ⟨outcome, events⟩ c' := by
  have source : ∀ f, m.deed.fate? = some f → f.2.source = m.owner := by
    cases m with
    | receive m =>
      rintro f ⟨⟩
    | acknowledge m =>
      rintro f ⟨⟩
      rfl
    | timeout m =>
      rintro f ⟨⟩
      rfl
  have destination : ∀ p, m.deed.received? = some p → p.destination = m.owner := by
    cases m with
    | receive m =>
      rintro p ⟨⟩
      rfl
    | acknowledge m =>
      rintro p ⟨⟩
    | timeout m =>
      rintro p ⟨⟩
  refine .of_stores stores connections bindings ?_ told source ?_ destination ?_ ?_
  · intro _
    exact ⟨id, (appOf_eq_ok.1 bound).1⟩
  · intro e
    have here : ∀ p, (packetCall m).received? = some p → p.destination.port = m.owner.port := by
      intro p h
      rw [received?_packetCall] at h
      rw [destination p h]
    rw [← received?_packetCall, ← delivered_tell bound here e]
    exact delivered_congr apps bindings e
  · rintro m' ⟨⟩ - -
    rfl
  · rintro m' ⟨⟩
    rfl

omit [Digest] in
theorem received?_of_refused {app : Application} {call : Call} {e : ChannelError}
    (refusal : (app.reply call).refusal = some e) : call.received? = none := by
  cases call with
  | receive p =>
    simp only [Application.reply, Call.mayFail] at refusal
    cases refusal
  | _ => rfl

theorem Delivers.stepped {m : Datagram} (delivers : c.Delivers m (r, c'))
    (free : ∀ port, c.host.store.lane (Handshake.freshEnd c.host port) = .empty)
    (reports : Reports r DeliveryReceipt.report rep) : Stepped c (.deliver m) rep c' := by
  cases delivers with
  | unrouted | unowned | failed =>
    rw [reports.refused]
    exact .refused rfl rfl rfl fun _ => rfl
  | declined bound consults refusal =>
    -- Only what may fail refuses, so nothing was handed over.
    rw [reports.refused]
    exact .refused rfl rfl rfl (delivered_tell_other bound (received?_of_refused refusal))
  | unstored bound ok agrees failed =>
    rw [reports.refused]
    refine .handshake (free _) bound ok failed ?_ rfl
    rintro overflow
    cases overflow
    obtain ⟨x, none, -⟩ | ⟨e, none, -⟩ := reports
    · cases none
    · cases none
  | stored bound ok agrees stored =>
    rw [reports.done]
    exact .handshake (free _) bound ok stored (by simp) (Handshake.silent ok)
  | upgraded bound ok =>
    rw [reports.done]
    exact .upgrade bound ok rfl rfl rfl fun _ => rfl
  | upgradedTold bound ok told =>
    rw [reports.done]
    exact .upgrade bound ok rfl rfl rfl (delivered_tell_other bound (received?_upgradeCall told))
  | repeated bound owns ok again =>
    rw [reports.done]
    refine .idle rfl rfl rfl (fun _ => rfl) ?_ fun _ _ => by simp [DeliveryReceipt.report]
    rw [DeliveryReceipt.report, (Transfer.events_of_noOp ok again).2]
    rfl
  | applied bound owns ok new =>
    rw [reports.done]
    exact .packet bound (Transfer.step_stores ok new) rfl rfl rfl (Transfer.fates ok new)
  | answered bound owns ok new filled answer =>
    rw [reports.done]
    refine .packet bound (Transfer.receive_answered_stores ok new answer) rfl rfl rfl ?_
    obtain ⟨_, -, silent, -⟩ := Transfer.writeAcknowledgement_stores answer
    rw [List.filterMap_append, silent, Transfer.fates (m := .receive _) ok new]
    exact List.append_nil _

/-! ### Any action -/

/-- What is said of a chain after an action stands once a block is added. -/
theorem Stepped.advance {d : Chain} (step : Stepped c a rep c') (more : c'.advance? = some d) :
    Stepped c a rep d := by
  obtain ⟨h, b, -, -, rfl⟩ := advance?_eq_some more
  refine ⟨?_, step.connections, step.bindings, step.created, step.fresh⟩
  intro e
  obtain ⟨deed, lane, told, received, applied⟩ := step.lane e
  exact ⟨deed, lane, told, received, applied⟩

omit [Digest] in
theorem Orderly.free (orderly : c.Orderly) (port : PortId) :
    c.host.store.lane (Handshake.freshEnd c.host port) = .empty := by
  by_contra taken
  obtain ⟨n, below, name⟩ := orderly.channel _ taken
  rw [Identifier.channel_injective (m := c.host.store.created) name] at below
  exact UInt64.lt_irrefl n below

theorem Performs.stepped (orderly : c.Orderly) (performs : c.Performs a rep c') :
    Stepped c a rep c' := by
  cases performs with
  | relayed delivers reports => exact delivers.stepped orderly.free reports
  | refused => exact .refused rfl rfl rfl fun _ => rfl
  | @sent cap m out ok =>
    obtain ⟨p, source, events, stores⟩ := Transfer.send_stores ok
    refine .of_stores stores rfl rfl ?_ ?_ ?_ ?_ ?_ (by simp) (by simp)
    · intro free
      obtain ⟨idle, -⟩ | ⟨created, -⟩ := stores.step.of_empty free
      · cases idle
      · cases created
    · simp [events, Event.fate?, Deed.fate?]
    · intro f told
      rw [← Option.some.inj told]
      exact source
    · intro e
      exact (List.append_nil _).symm
    · intro q handed
      cases handed
  | written ok =>
    obtain ⟨d, quiet, silent, stores⟩ := Transfer.writeAcknowledgement_stores ok
    obtain ⟨x, serves⟩ := (Transfer.writeAcknowledgement_eq_ok.1 ok).exists_serves
    exact .of_quiet stores quiet rfl rfl
      (fun free => absurd free (ChannelStore.lane_ne_empty serves.channel)) silent (fun _ => rfl)
      (by simp)
  | proposed ok =>
    obtain ⟨named, silent, d, quiet, stores⟩ := Upgrading.propose_stored ok
    obtain ⟨channel, -⟩ := Upgrading.propose_eq_ok.1 ok
    exact .of_quiet stores quiet rfl rfl (fun free => absurd free (ChannelStore.lane_ne_empty channel))
      silent (fun _ => rfl) (by simp)
  | closed ok =>
    obtain ⟨silent, stores⟩ := Handshake.closeInit_stores ok
    refine .of_quiet stores ⟨rfl, rfl⟩ rfl rfl ?_ silent (fun _ => rfl) (by simp)
    intro free
    obtain ⟨idle, -⟩ | ⟨created, -⟩ := stores.step.of_empty free
    · cases idle
    · cases created
  | advanced => exact .idle rfl rfl rfl (fun _ => rfl) rfl (by simp)
  | heard => exact .idle rfl rfl rfl (fun _ => rfl) rfl (by simp)

/-- Every action that is carried out moves each lane by one step. -/
theorem perform_stepped (orderly : c.Orderly) (done : c.perform a = some (rep, c')) :
    Stepped c a rep c' := by
  obtain ⟨d, performs, rfl | ⟨-, more⟩⟩ := exists_performs done
  · exact performs.stepped orderly
  · exact (performs.stepped orderly).advance more

theorem Orderly.stepped (orderly : c.Orderly) (step : Stepped c a rep c') : c'.Orderly := by
  constructor
  · intro e taken
    rw [step.bindings]
    by_cases free : c.host.store.lane e = .empty
    · exact (step.fresh e free taken).2
    · exact orderly.port e free
  · intro e taken
    by_cases free : c.host.store.lane e = .empty
    · obtain ⟨d, lane, -⟩ := step.lane e
      obtain ⟨-, same⟩ | ⟨created, -⟩ := lane.of_empty free
      · exact absurd (same.trans free) taken
      · have name : ∃ port, e = Handshake.freshEnd c.host port := by
          generalize c.host.store.lane e = l at lane
          generalize c'.host.store.lane e = l' at lane
          cases lane <;> first
            | exact ⟨_, ‹e = Handshake.freshEnd _ _›⟩
            | cases created
        obtain ⟨port, rfl⟩ := name
        exact ⟨_, (step.fresh _ free taken).1, rfl⟩
    · obtain ⟨n, below, name⟩ := orderly.channel e free
      exact ⟨n, UInt64.lt_of_lt_of_le below step.created, name⟩

theorem Orderly.perform (orderly : c.Orderly) (done : c.perform a = some (rep, c')) :
    c'.Orderly :=
  orderly.stepped (perform_stepped orderly done)

end Chain

end Crosschain
