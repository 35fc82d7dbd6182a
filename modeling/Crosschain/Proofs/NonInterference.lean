import Crosschain.Proofs.Courses
import Crosschain.Proofs.Locality
import Crosschain.Proofs.Tellings

/-!
# Channels do not interfere

Whatever comes for an end, and whatever becomes of it, everything that a chain keeps for its other
ends stays as it is. A call for an end without its handle is refused. And two relayed messages for
two ends can come in either order: the chain keeps the same in the end and gives the same answers,
as far as the applications do.
-/

namespace Crosschain

/-! ### The end an action is for -/

/-- The end that a message is about, if it is there already. -/
def Datagram.owner? : Datagram → Option EndId
  | .handshake m => m.owner?
  | .upgrade m => some m.owner
  | .packet m => some m.owner

/-- The end that an action addresses. -/
def Action.owner? : Action → Option EndId
  | .deliver m => m.owner?
  | .send _ m => some m.source
  | .writeAcknowledgement _ p _ => some p.destination
  | .proposeUpgrade _ m => some m.owner
  | .close _ m => some m.owner
  | .advance | .updateClient _ _ => none

/-- Whatever a step on an end writes, it writes for this end. -/
def Output.For (out : Output PacketChange) (e : EndId) : Prop :=
  ∀ f, out.result.owner? = some f → f = e

namespace Yields

variable [Digest] {h : Host} {cap : Capability}

theorem send_for {m : OutgoingPacket} :
    Yields (Transfer.send h cap m) fun out => out.For m.source := by
  intro out ok
  cases Transfer.send_eq_ok.1 ok
  rintro _ ⟨⟩
  rfl

theorem writeAcknowledgement_for {p : Packet} {ack : Acknowledgement} :
    Yields (Transfer.writeAcknowledgement h cap p ack) fun out => out.For p.destination := by
  intro out ok
  cases Transfer.writeAcknowledgement_eq_ok.1 ok <;> rintro _ ⟨⟩
  rfl

theorem packet_for {m : PacketMessage} :
    Yields (Transfer.step h cap m) fun out => out.For m.owner := by
  intro out ok
  cases Transfer.step_eq_ok.1 ok <;> rintro _ ⟨⟩ <;> rfl

end Yields

theorem Handshake.change_of_owner [Digest] {h : Host} {m : HandshakeMessage} {e : EndId}
    {out : Output EndChange} (addressed : m.owner? = some e) (ok : step h m = .ok out) :
    out.result.owner = e ∧ out.result.isNew = false ∧
      ∀ version, Chain.settleVersion m out.result version = out.result := by
  cases step_eq_ok.1 ok with
  | openInit | openTry => cases addressed
  | openAck | openConfirm =>
    cases addressed
    exact ⟨rfl, rfl, fun _ => rfl⟩

theorem Datagram.port_of_owner {m : Datagram} {e : EndId} (addressed : m.owner? = some e) :
    m.port = e.port := by
  cases m with
  | handshake m => cases m <;> cases addressed <;> rfl
  | upgrade m => exact congrArg EndId.port (Option.some.inj addressed)
  | packet m => exact congrArg EndId.port (Option.some.inj addressed)

/-! ### What is left to do with a message -/

/-- What the channel layer makes of a message before any application is told: it is refused, settled
with a change of the store, or settled by the reply to a call. -/
inductive Verdict
  | refused (f : Fault RoutingError)
  | settled (r : DeliveryReceipt) (change : ChannelStore → ChannelStore)
  | asks (call : Call)
    (rest : Reply → Except (Fault RoutingError) (DeliveryReceipt × (ChannelStore → ChannelStore)))

namespace Verdict

def call? : Verdict → Option Call
  | .asks call _ => some call
  | .refused _ | .settled _ _ => none

/-- The result with the change, once the application replied. -/
def conclude (v : Verdict) (reply : Call → Reply) :
    Except (Fault RoutingError) DeliveryReceipt × (ChannelStore → ChannelStore) :=
  match v with
  | .refused f => (.error f, id)
  | .settled r change => (.ok r, change)
  | .asks call rest =>
    match (reply call).refusal with
    | some e => (.error (.refused (.channel e)), id)
    | none =>
      match rest (reply call) with
      | .error f => (.error f, id)
      | .ok (r, change) => (.ok r, change)

/-- Whatever the reply, the change is within an end. -/
def Within (v : Verdict) (e : EndId) : Prop :=
  ∀ reply, ChannelStore.Within e (v.conclude reply).2

theorem conclude_congr (v : Verdict) {reply reply' : Call → Reply}
    (same : ∀ call, v.call? = some call → reply' call = reply call) :
    v.conclude reply' = v.conclude reply := by
  cases v with
  | refused f => rfl
  | settled r change => rfl
  | asks call rest => simp only [conclude, same call rfl]

end Verdict

namespace Host

variable [Digest]

/-- What the channel layer of a host makes of a message about an end that is there already. -/
def verdict (h : Host) : Datagram → Verdict
  | .handshake m =>
    match Handshake.step h m with
    | .error f => .refused (f.map .channel)
    | .ok out =>
      .asks (Chain.handshakeCall m out.result.owner) fun reply =>
        .ok (⟨.applied, out.events, out.log ++ reply.log, none⟩,
          fun s => s.setEnd out.result.owner out.result.value)
  | .upgrade m =>
    match Upgrading.step h m with
    | .error f => .refused (f.map .channel)
    | .ok out =>
      let receipt (log : List String) : DeliveryReceipt :=
        ⟨Chain.upgradeOutcome out.result.step, out.events, out.log ++ log, none⟩
      match Chain.upgradeCall? m out.result with
      | none => .settled (receipt []) fun s => s.applyUpgrade out.result
      | some call =>
        .asks call fun reply => .ok (receipt reply.log, fun s => s.applyUpgrade out.result)
  | .packet m =>
    match h.store.registry.get (.ofEnd m.owner) with
    | .error e => .refused (.refused (.port e))
    | .ok cap =>
      match Transfer.step h cap m with
      | .error f => .refused (f.map .channel)
      | .ok out =>
        match out.result.noOp? with
        | some _ => .settled ⟨.alreadyApplied, out.events, out.log, none⟩ id
        | none =>
          .asks (Chain.packetCall m) fun reply =>
            let told := out.append reply.log []
            match Chain.promptAck m reply with
            | none =>
              .ok (⟨.applied, told.events, told.log, none⟩, fun s => s.applyPacket out.result)
            | some ack =>
              match Transfer.writeAcknowledgement h cap m.packet ack with
              | .error f => .error (f.map .channel)
              | .ok written =>
                let all := told.append written.log written.events
                .ok (⟨.applied, all.events, all.log, none⟩,
                  fun s => (s.applyPacket out.result).applyPacket written.result)

variable {h : Host} {m : Datagram} {e : EndId}

/-- A message is answered by what is kept for its end alone. -/
theorem verdict_congr {t : ChannelStore} (addressed : m.owner? = some e)
    (agrees : h.store.Agrees t e) : (h.withStore t).verdict m = h.verdict m := by
  cases m with
  | handshake m => simp only [verdict, Handshake.step_congr addressed agrees]
  | upgrade m =>
    obtain rfl : m.owner = e := Option.some.inj addressed
    simp only [verdict, Upgrading.step_congr agrees]
  | packet m =>
    obtain rfl : m.owner = e := Option.some.inj addressed
    simp only [verdict, Transfer.step_congr agrees, store_withStore, agrees.registry]
    cases m with
    | receive m =>
      have agrees : h.store.Agrees t m.packet.destination := agrees
      simp only [PacketMessage.packet, Transfer.writeAcknowledgement_congr agrees]
    | acknowledge m => rfl
    | timeout m => rfl

/-- A message changes nothing but what is kept for its end. -/
theorem verdict_within (addressed : m.owner? = some e) : (h.verdict m).Within e := by
  intro reply
  cases m with
  | handshake m =>
    simp only [verdict]
    split
    · exact .none
    next out ok =>
    obtain ⟨rfl, -, -⟩ := Handshake.change_of_owner addressed ok
    simp only [Verdict.conclude]
    split
    · exact .none
    · exact .setEnd _
  | upgrade m =>
    obtain rfl : m.owner = e := Option.some.inj addressed
    simp only [verdict]
    split
    · exact .none
    next out ok =>
    obtain ⟨named, -⟩ := Upgrading.step_stored ok
    split
    · exact .applyUpgrade named
    · simp only [Verdict.conclude]
      split
      · exact .none
      · exact .applyUpgrade named
  | packet m =>
    obtain rfl : m.owner = e := Option.some.inj addressed
    simp only [verdict]
    split
    · exact .none
    split
    · exact .none
    next out ok =>
    have mine := Yields.packet_for out ok
    split
    · exact .none
    simp only [Verdict.conclude]
    split
    · exact .none
    split
    · exact .none
    next r change settled =>
    split at settled
    · cases settled
      exact .applyPacket mine
    next ack prompt =>
    split at settled
    · cases settled
    next written answered =>
      cases settled
      -- Only a packet that was received is answered at once, on the end it came to.
      cases m with
      | receive m =>
        have also := Yields.writeAcknowledgement_for written answered
        exact (ChannelStore.Within.applyPacket also).comp (.applyPacket mine)
      | acknowledge m => cases prompt
      | timeout m => cases prompt

end Host

namespace Chain

variable [Digest] {c : Chain} {m : Datagram} {e : EndId}

/-- The result of a message for an end on a port, with the change it makes. -/
def ruling (c : Chain) (m : Datagram) (port : PortId) :
    Except (Fault RoutingError) DeliveryReceipt × (ChannelStore → ChannelStore) :=
  match c.appOf port with
  | .error f => (.error (.refused f), id)
  | .ok (_, app) => (c.host.verdict m).conclude app.reply

/-- The chain once the application of a port was told of a call, if there is a call. -/
def told (c : Chain) (port : PortId) (call? : Option Call) : Chain :=
  match c.appOf port, call? with
  | .ok (id, app), some call => c.tell id app call
  | _, _ => c

omit [Digest] in
theorem apps_mapStore (f : ChannelStore → ChannelStore) : (c.mapStore f).apps = c.apps := rfl

omit [Digest] in
theorem told_none (port : PortId) : c.told port none = c := by
  unfold told
  split <;> trivial

omit [Digest] in
theorem host_told (port : PortId) (call? : Option Call) : (c.told port call?).host = c.host := by
  unfold told
  split <;> rfl

theorem ruling_eq {port : PortId} {id : ModuleId} {app : Application}
    (bound : c.appOf port = .ok (id, app)) :
    c.ruling m port = (c.host.verdict m).conclude app.reply := by
  rw [ruling, bound]

omit [Digest] in
theorem told_eq {port : PortId} {id : ModuleId} {app : Application} {call : Call}
    (bound : c.appOf port = .ok (id, app)) : c.told port (some call) = c.tell id app call := by
  simp only [told, bound]

theorem Fails.verdict_eq {f : Fault ChannelError} (fails : c.Fails m f) :
    c.host.verdict m = .refused (f.map .channel) := by
  cases fails with
  | handshake failed => simp only [Host.verdict, failed]
  | upgrade failed => simp only [Host.verdict, failed]
  | packet owns failed =>
    rw [capabilityOf] at owns
    simp only [Host.verdict, owns, failed]

theorem Consults.exists_verdict {call : Call} (consults : c.Consults m call) :
    ∃ rest, c.host.verdict m = .asks call rest := by
  cases consults with
  | handshake ok =>
    simp only [Host.verdict, ok]
    exact ⟨_, rfl⟩
  | upgrade ok told =>
    simp only [Host.verdict, ok, told]
    exact ⟨_, rfl⟩
  | packet owns ok new =>
    rw [capabilityOf] at owns
    simp only [Host.verdict, owns, ok, new]
    exact ⟨_, rfl⟩

theorem applyEnd_settled {m : HandshakeMessage} {out : Output EndChange} {version : ChannelVersion}
    (addressed : m.owner? = some e) (ok : Handshake.step c.host m = .ok out) :
    c.host.store.applyEnd (settleVersion m out.result version) =
      (.ok none, c.host.store.setEnd out.result.owner out.result.value) := by
  obtain ⟨-, old, same⟩ := Handshake.change_of_owner addressed ok
  obtain ⟨hop, hops, -⟩ := Handshake.exists_hop ok version
  rw [same] at hops ⊢
  exact ChannelStore.applyEnd_old old hops

/-- A message about an end is taken in three steps: the channel layer looks at it, an application is
told, and the change is made. -/
theorem deliver_eq (addressed : m.owner? = some e) :
    c.deliver m = ((c.ruling m e.port).1,
      (c.told e.port (c.host.verdict m).call?).mapStore (c.ruling m e.port).2) := by
  rw [← Datagram.port_of_owner addressed]
  have delivers := c.delivers m
  generalize c.deliver m = r at delivers ⊢
  cases delivers with
  | unrouted unbound =>
    simp only [ruling, told, unbound]
    rfl
  | unowned bound unowned =>
    rw [capabilityOf] at unowned
    simp only [Datagram.port, ruling_eq bound, Host.verdict, unowned, Verdict.call?, told_none]
    rfl
  | failed bound fails =>
    simp only [ruling_eq bound, fails.verdict_eq, Verdict.call?, told_none]
    rfl
  | declined bound consults refusal =>
    obtain ⟨rest, verdict⟩ := consults.exists_verdict
    simp only [ruling_eq bound, verdict, Verdict.call?, told_eq bound, Verdict.conclude, refusal]
    rfl
  | unstored bound ok agrees failed =>
    rw [applyEnd_settled addressed ok] at failed
    cases failed
  | stored bound ok agrees stored =>
    rw [applyEnd_settled addressed ok] at stored
    cases stored
    simp only [Datagram.port, ruling_eq bound, Host.verdict, ok, Verdict.call?, told_eq bound,
      Verdict.conclude, agrees]
    rfl
  | upgraded bound ok untold =>
    simp only [Datagram.port, ruling_eq bound, Host.verdict, ok, untold, Verdict.call?, told_none,
      Verdict.conclude, List.append_nil]
  | upgradedTold bound ok told agrees =>
    simp only [Datagram.port, ruling_eq bound, Host.verdict, ok, told, Verdict.call?, told_eq bound,
      Verdict.conclude, agrees]
  | repeated bound owns ok again =>
    rw [capabilityOf] at owns
    simp only [Datagram.port, ruling_eq bound, Host.verdict, owns, ok, again, Verdict.call?,
      told_none]
    rfl
  | applied bound owns ok new agrees silent =>
    rw [capabilityOf] at owns
    simp only [Datagram.port, ruling_eq bound, Host.verdict, owns, ok, new, Verdict.call?,
      told_eq bound, Verdict.conclude, agrees, silent, Output.append, List.append_nil]
  | @answered m id app cap out written bound owns ok new filled answer =>
    rw [capabilityOf] at owns
    have prompt := promptAck_of_filled (m := m) filled
    have agrees : (app.reply (.receive m.packet)).refusal = none := rfl
    simp only [Datagram.port, PacketMessage.owner, PacketMessage.packet, packetCall,
      ruling_eq bound, Host.verdict, owns, Transfer.step, ok, new, Verdict.call?, told_eq bound,
      Verdict.conclude, agrees, prompt, answer, Output.append, List.append_nil]

theorem ruling_within (addressed : m.owner? = some e) :
    ChannelStore.Within e (c.ruling m e.port).2 := by
  unfold ruling
  split
  · exact .none
  · exact Host.verdict_within addressed _

theorem host_deliver (addressed : m.owner? = some e) : (c.deliver m).2.host =
    c.host.withStore ((c.ruling m e.port).2 c.host.store) := by
  rw [deliver_eq addressed, mapStore, withStore, host_told]
  rfl

/-! ### Other ends -/

/-- Nothing changed but what is kept for an end. -/
structure Spares (c c' : Chain) (e : EndId) : Prop where
  lane : ∀ f, f ≠ e → c'.host.store.lane f = c.host.store.lane f
  registry : c'.host.store.registry = c.host.store.registry
  created : c'.host.store.created = c.host.store.created
  listed : c'.host.store.overConnection = c.host.store.overConnection
  clients : c'.host.clients = c.host.clients
  connections : c'.host.connections = c.host.connections

omit [Digest] in
theorem Spares.of_within {c' : Chain} {w : ChannelStore → ChannelStore}
    (within : ChannelStore.Within e w) (host : c'.host = c.host.withStore (w c.host.store)) :
    c.Spares c' e := by
  constructor
  · intro f apart
    rw [host]
    exact within.others _ f apart
  · rw [host]
    exact within.registry _
  · rw [host]
    exact within.created _
  · rw [host]
    exact within.listed _
  · rw [host]
    rfl
  · rw [host]
    rfl

omit [Digest] in
theorem Spares.refl (c : Chain) (e : EndId) : c.Spares c e :=
  ⟨fun _ _ => rfl, rfl, rfl, rfl, rfl, rfl⟩

/-- The chain that an action leaves, whatever it ends with. A relayed message is not followed by a
block here. -/
def left (c : Chain) : Action → Chain
  | .deliver m => (c.deliver m).2
  | .send cap m => (c.send cap m).2
  | .writeAcknowledgement cap p ack => (c.writeAcknowledgement cap p ack).2
  | .proposeUpgrade cap m => (c.proposeUpgrade cap m).2
  | .close cap m => (c.close cap m).2
  | .advance => c.advance?.getD c
  | .updateClient id header => c.mapHost fun h => h.updateClient id header

theorem spares_of_owner {a : Action} (addressed : a.owner? = some e) : c.Spares (c.left a) e := by
  cases a with
  | deliver m => exact .of_within (ruling_within addressed) (host_deliver addressed)
  | send cap m =>
    obtain rfl : m.source = e := Option.some.inj addressed
    rw [left, send]
    split
    · exact .refl c _
    next out ok =>
    dsimp only
    split <;> exact .of_within (.applyPacket (Yields.send_for out ok)) rfl
  | writeAcknowledgement cap p ack =>
    obtain rfl : p.destination = e := Option.some.inj addressed
    rw [left, writeAcknowledgement]
    split
    · exact .refl c _
    next out ok => exact .of_within (.applyPacket (Yields.writeAcknowledgement_for out ok)) rfl
  | proposeUpgrade cap m =>
    obtain rfl : m.owner = e := Option.some.inj addressed
    rw [left, proposeUpgrade]
    split
    · exact .refl c _
    next out ok => exact .of_within (.applyUpgrade (Upgrading.propose_stored ok).1) rfl
  | close cap m =>
    obtain rfl : m.owner = e := Option.some.inj addressed
    rw [left, close]
    split
    · exact .refl c _
    next out ok =>
    obtain ⟨channel, owned, live, connection, hops⟩ := Handshake.closeInit_eq_ok.1 ok
    rw [ChannelStore.applyEnd_old rfl hops]
    exact .of_within (.setEnd _) rfl
  | advance => cases addressed
  | updateClient id header => cases addressed

omit [Digest] in
theorem Spares.sealed {ε α : Type} {r : Except (Fault ε) α × Chain} (spares : c.Spares r.2 e) :
    c.Spares (Chain.sealed r).2 e := by
  rcases r with ⟨f | x, d⟩
  · exact spares
  · simp only [Chain.sealed]
    cases more : d.advance? with
    | none => exact spares
    | some d' =>
      obtain ⟨h, b, -, -, rfl⟩ := advance?_eq_some more
      exact ⟨spares.lane, spares.registry, spares.created, spares.listed, spares.clients,
        spares.connections⟩

/-! ### Foreign handles -/

section Foreign

variable {cap : Capability}

omit [Digest] in
theorem exists_refusal {α : Type} (foreign : c.host.store.registry.owns (.ofEnd e) cap = false)
    (rest : ChannelEnd → Attempt α) : ∃ f, (do
      let x ← Fault.lift (c.host.store.endAt e)
      Fault.lift (c.host.store.authenticate e cap)
      rest x : Attempt α) = .error (.refused f) := by
  have refused : c.host.store.authenticate e cap =
      .error (.wrongCapability e (.notAuthentic (CapabilityName.ofEnd e).text)) := by
    simp [ChannelStore.authenticate, Registry.authenticate, foreign, Except.mapError]
  rw [refused]
  cases c.host.store.endAt e with
  | error f => exact ⟨f, rfl⟩
  | ok x => exact ⟨_, rfl⟩

theorem send_of_foreign {m : OutgoingPacket}
    (foreign : c.host.store.registry.owns (.ofEnd m.source) cap = false) :
    ∃ f, c.send cap m = (.error (.refused f), c) := by
  obtain ⟨f, refused⟩ := exists_refusal foreign _
  exact ⟨f, by rw [send, Transfer.send, refused]⟩

theorem writeAcknowledgement_of_foreign {p : Packet} {ack : Acknowledgement}
    (foreign : c.host.store.registry.owns (.ofEnd p.destination) cap = false) :
    ∃ f, c.writeAcknowledgement cap p ack = (.error (.refused f), c) := by
  obtain ⟨f, refused⟩ := exists_refusal foreign _
  exact ⟨f, by rw [writeAcknowledgement, Transfer.writeAcknowledgement, refused]⟩

omit [Digest] in
theorem proposeUpgrade_of_foreign {m : UpgradeInit}
    (foreign : c.host.store.registry.owns (.ofEnd m.owner) cap = false) :
    ∃ f, c.proposeUpgrade cap m = (.error (.refused f), c) := by
  obtain ⟨f, refused⟩ := exists_refusal foreign _
  exact ⟨f, by rw [proposeUpgrade, Upgrading.propose, refused]⟩

omit [Digest] in
theorem close_of_foreign {m : CloseInit}
    (foreign : c.host.store.registry.owns (.ofEnd m.owner) cap = false) :
    ∃ f, c.close cap m = (.error (.refused f), c) := by
  obtain ⟨f, refused⟩ := exists_refusal foreign _
  exact ⟨f, by rw [close, Handshake.closeInit, refused]⟩

end Foreign

/-! ### Two messages -/

/-- Taking a message tells an application of a call. -/
def Tells (c : Chain) (m : Datagram) (id : ModuleId) (call : Call) : Prop :=
  ∃ app, c.apps[id]? = some app ∧ (c.deliver m).2.apps[id]? = some (app.after call)

/-- An application that is told of two messages replies to each of them as it would without the
other. -/
def Independent (c : Chain) (m m' : Datagram) : Prop :=
  ∀ (id : ModuleId) (app : Application) (k k' : Call), c.apps[id]? = some app → c.Tells m id k →
    c.Tells m' id k' → (app.after k).reply k' = app.reply k' ∧ (app.after k').reply k = app.reply k

theorem Independent.symm {m' : Datagram} (independent : c.Independent m m') :
    c.Independent m' m :=
  fun id app k k' there told told' => (independent id app k' k there told' told).symm

theorem tells_of_call {id : ModuleId} {app : Application} {call : Call}
    (addressed : m.owner? = some e) (bound : c.appOf e.port = .ok (id, app))
    (asked : (c.host.verdict m).call? = some call) : c.Tells m id call := by
  refine ⟨app, (appOf_eq_ok.1 bound).2, ?_⟩
  rw [deliver_eq addressed]
  simp only [told, bound, asked]
  exact Std.ExtTreeMap.getElem?_insert_self

omit [Digest] in
theorem appOf_tell {id : ModuleId} {app : Application} {call : Call}
    (there : c.apps[id]? = some app) (port : PortId) :
    (c.tell id app call).appOf port =
      (c.appOf port).map fun found => if found.1 = id then (id, app.after call) else found := by
  simp only [appOf, boundTo, tell]
  cases c.bindings[port]? with
  | none => rfl
  | some i =>
    by_cases same : i = id
    · subst same
      simp [Except.mapError, bind, Except.bind, there, Except.map]
    · simp only [Except.mapError, bind, Except.bind, Std.ExtTreeMap.getElem?_insert,
        Std.compare_eq_iff_eq, Ne.symm same, if_false]
      cases c.apps[i]? with
      | none => rfl
      | some a => simp [Except.map, same]

/-- What is ruled about a message is the same after a message for another end, unless the
application answers otherwise. -/
theorem ruling_after {m' : Datagram} {e' : EndId} (addressed : m.owner? = some e)
    (addressed' : m'.owner? = some e') (apart : e ≠ e') (independent : c.Independent m m') :
    (c.deliver m).2.ruling m' e'.port = c.ruling m' e'.port := by
  have agrees := (ruling_within (c := c) addressed).agrees apart.symm c.host.store
  have verdict : (c.deliver m).2.host.verdict m' = c.host.verdict m' := by
    rw [host_deliver addressed]
    exact Host.verdict_congr addressed' agrees
  have apps : (c.deliver m).2.appOf e'.port =
      (c.told e.port (c.host.verdict m).call?).appOf e'.port := by
    rw [deliver_eq addressed]
    rfl
  rw [ruling, ruling, verdict, apps]
  cases bound : c.appOf e.port with
  | error f => simp only [told, bound]
  | ok found =>
    obtain ⟨id, app⟩ := found
    cases asked : (c.host.verdict m).call? with
    | none => simp only [told, bound]
    | some call =>
      have there := (appOf_eq_ok.1 bound).2
      simp only [told, bound, appOf_tell there]
      cases bound' : c.appOf e'.port with
      | error f => rfl
      | ok found' =>
        obtain ⟨id', app'⟩ := found'
        by_cases same : id' = id
        · subst same
          -- Both ends belong to one application, which was told of the first message.
          obtain rfl : app = app' :=
            Option.some.inj (there.symm.trans (appOf_eq_ok.1 bound').2)
          simp only [Except.map, if_true]
          refine Verdict.conclude_congr _ fun call' asked' => ?_
          exact (independent id' app call call' there (tells_of_call addressed bound asked)
            (tells_of_call addressed' bound' asked')).1
        · simp only [Except.map, if_neg same]

/-- On any chain, an action for one end leaves all that is kept for the others, with the handles, the
clients and the connections, whatever it ends with. A call with a handle that is not the one of the
end is refused and changes nothing. And of two relayed messages for two ends, each gives the same
result before and after the other, and the chain keeps the same whichever comes first, where no
application makes its answer to one depend on the other. -/
theorem ends_apart (c : Chain) :
    (∀ a e, a.owner? = some e → c.Spares (c.left a) e) ∧
    (∀ m e, m.owner? = some e → c.Spares (sealed (c.deliver m)).2 e) ∧
    (∀ e cap, c.host.store.registry.owns (.ofEnd e) cap = false →
      (∀ m, m.source = e → ∃ f, c.send cap m = (.error (.refused f), c)) ∧
      (∀ p ack, p.destination = e →
        ∃ f, c.writeAcknowledgement cap p ack = (.error (.refused f), c)) ∧
      (∀ m, m.owner = e → ∃ f, c.proposeUpgrade cap m = (.error (.refused f), c)) ∧
      (∀ m, m.owner = e → ∃ f, c.close cap m = (.error (.refused f), c))) ∧
    (∀ m m' e e', m.owner? = some e → m'.owner? = some e' → e ≠ e' → c.Independent m m' →
      ((c.deliver m).2.deliver m').1 = (c.deliver m').1 ∧
      ((c.deliver m').2.deliver m).1 = (c.deliver m).1 ∧
      ((c.deliver m).2.deliver m').2.host = ((c.deliver m').2.deliver m).2.host) := by
  refine ⟨fun a e => spares_of_owner, ?_, ?_, ?_⟩
  · intro m e addressed
    exact (spares_of_owner (a := .deliver m) addressed).sealed
  · rintro e cap foreign
    refine ⟨?_, ?_, ?_, ?_⟩
    · rintro m rfl
      exact send_of_foreign foreign
    · rintro p ack rfl
      exact writeAcknowledgement_of_foreign foreign
    · rintro m rfl
      exact proposeUpgrade_of_foreign foreign
    · rintro m rfl
      exact close_of_foreign foreign
  · intro m m' e e' addressed addressed' apart independent
    have second := ruling_after addressed addressed' apart independent
    have first := ruling_after addressed' addressed apart.symm independent.symm
    refine ⟨?_, ?_, ?_⟩
    · rw [deliver_eq addressed', deliver_eq (c := c) addressed', second]
    · rw [deliver_eq addressed, deliver_eq (c := c) addressed, first]
    · have after : ((c.deliver m).2.deliver m').2.host = c.host.withStore
          ((c.ruling m' e'.port).2 ((c.ruling m e.port).2 c.host.store)) := by
        rw [host_deliver addressed', second, host_deliver addressed]
        rfl
      have after' : ((c.deliver m').2.deliver m).2.host = c.host.withStore
          ((c.ruling m e.port).2 ((c.ruling m' e'.port).2 c.host.store)) := by
        rw [host_deliver addressed, first, host_deliver addressed']
        rfl
      rw [after, after', (ruling_within addressed).comm (ruling_within addressed') apart]

end Chain

section Direct

attribute [local instance] Digest.plain

namespace Passage

/-- The chain that sent a packet over a direct channel and proposes a second one. -/
def forked : Chain :=
  ((departed (leading .ordered "ics20-1") (opened .ordered "ics20-1") (commitment [1])).chain.deliver
    (.handshake (.openInit (openInit .ordered "ics20-1")))).2

def second : EndId := ⟨port, .channel 1⟩

/-- An acknowledgement on the first channel, and a timeout on the second, of packets that were not
sent. -/
def strayAck : Datagram :=
  .packet (.acknowledge ⟨{ packet [1] with sequence := 2 }, [1], ⟨⟨[]⟩, none, ⟨0, 1⟩⟩⟩)

def strayTimeout : Datagram :=
  .packet (.timeout ⟨{ packet [1] with source := second }, 1, ⟨⟨[]⟩, none, ⟨0, 1⟩⟩⟩)

end Passage

/-- Of two channels, one is closed and the other stays; its handle opens nothing for the first; and
messages for both come in either order. -/
theorem Chain.ends_apart_direct :
    let c := Passage.forked
    let closed := c.left (.close Passage.handle ⟨Passage.owner⟩)
    closed.host.store.ends[Passage.owner]?.map ChannelEnd.state = some .closed ∧
    closed.host.store.lane Passage.second = c.host.store.lane Passage.second ∧
    (∃ f, c.send ⟨1⟩ (Passage.outgoing [1]) = (.error (.refused f), c)) ∧
    (c.deliver Passage.strayAck).1.map DeliveryReceipt.outcome = .ok .alreadyApplied ∧
    ((c.deliver Passage.strayTimeout).2.deliver Passage.strayAck).1 =
      (c.deliver Passage.strayAck).1 ∧
    ((c.deliver Passage.strayAck).2.deliver Passage.strayTimeout).1 =
      (c.deliver Passage.strayTimeout).1 ∧
    ((c.deliver Passage.strayAck).2.deliver Passage.strayTimeout).2.host =
      ((c.deliver Passage.strayTimeout).2.deliver Passage.strayAck).2.host := by
  obtain ⟨spares, -, foreign, ordered⟩ := Chain.ends_apart Passage.forked
  have apart : Passage.owner ≠ Passage.second := by decide
  -- One evaluation of the chain serves all four facts.
  have facts : (Passage.forked.left
      (.close Passage.handle ⟨Passage.owner⟩)).host.store.ends[Passage.owner]?.map
        ChannelEnd.state = some .closed ∧
      Passage.forked.host.store.registry.owns (.ofEnd Passage.owner) ⟨1⟩ = false ∧
      (Passage.forked.deliver Passage.strayAck).1.map DeliveryReceipt.outcome =
        .ok .alreadyApplied ∧
      (Passage.forked.host.verdict Passage.strayAck).call? = none := by decide +kernel
  obtain ⟨closed, unowned, repeated, silent⟩ := facts
  -- The applications hear nothing of either message.
  have quiet : (Passage.forked.deliver Passage.strayAck).2.apps = Passage.forked.apps := by
    rw [Chain.deliver_eq (e := Passage.owner) rfl, silent, Chain.told_none,
      Chain.apps_mapStore]
  have independent : Passage.forked.Independent Passage.strayAck Passage.strayTimeout := by
    rintro id app k k' there ⟨app', there', told⟩ -
    rw [quiet, there'] at told
    have same : app'.history = (app'.after k).history :=
      congrArg Application.history (Option.some.inj told)
    exact absurd same (by simp [Application.after])
  obtain ⟨late, late', hosts⟩ := ordered _ _ _ _ rfl rfl apart independent
  refine ⟨closed, ?_, ?_, repeated, late', late, hosts⟩
  · exact (spares _ Passage.owner rfl).lane _ apart.symm
  · exact (foreign Passage.owner ⟨1⟩ unowned).1 _ rfl

end Direct

end Crosschain
