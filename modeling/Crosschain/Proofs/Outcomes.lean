import Crosschain.Proofs.HandshakeSteps
import Crosschain.Proofs.PacketSteps

/-!
# What can come of an action

The ways in which a relayed message can go, with its result and the chain it leaves, and from them
the ways in which any action can go. What holds of every action is shown by cases on these ways, so
that no other proof has to follow a message through the routing.
-/

namespace Crosschain

/-- The port whose application a message is for. -/
def Datagram.port : Datagram → PortId
  | .handshake m => m.port
  | .upgrade m => m.owner.port
  | .packet m => m.owner.port

namespace Chain

/-! ### Relayed messages -/

/-- The channel layer does not take a message. -/
inductive Fails [Digest] (c : Chain) : Datagram → Fault ChannelError → Prop
  | handshake {m : HandshakeMessage} {f : Fault ChannelError}
      (failed : Handshake.step c.host m = .error f) : Fails c (.handshake m) f
  | upgrade {m : UpgradeMessage} {f : Fault ChannelError}
      (failed : Upgrading.step c.host m = .error f) : Fails c (.upgrade m) f
  | packet {m : PacketMessage} {cap : Capability} {f : Fault ChannelError}
      (owns : c.capabilityOf m.owner = .ok cap) (failed : Transfer.step c.host cap m = .error f) :
      Fails c (.packet m) f

/-- The channel layer takes a message, and its application is to be told of a call. -/
inductive Consults [Digest] (c : Chain) : Datagram → Call → Prop
  | handshake {m : HandshakeMessage} {out : Output EndChange}
      (ok : Handshake.step c.host m = .ok out) :
      Consults c (.handshake m) (handshakeCall m out.result.owner)
  | upgrade {m : UpgradeMessage} {out : Output UpgradeChange} {call : Call}
      (ok : Upgrading.step c.host m = .ok out) (told : upgradeCall? m out.result = some call) :
      Consults c (.upgrade m) call
  | packet {m : PacketMessage} {cap : Capability} {out : Output PacketChange}
      (owns : c.capabilityOf m.owner = .ok cap) (ok : Transfer.step c.host cap m = .ok out)
      (new : out.result.noOp? = none) : Consults c (.packet m) (packetCall m)

/-- The ways in which a relayed message can go, each with the result and the chain it leaves. -/
inductive Delivers [Digest] (c : Chain) : Datagram → Routed DeliveryReceipt → Prop
  | unrouted {m : Datagram} {e : RoutingError} (unbound : c.appOf m.port = .error e) :
      Delivers c m (.error (.refused e), c)
  | unowned {m : PacketMessage} {id : ModuleId} {app : Application} {e : PortError}
      (bound : c.appOf m.owner.port = .ok (id, app)) (unowned : c.capabilityOf m.owner = .error e) :
      Delivers c (.packet m) (.error (.refused (.port e)), c)
  | failed {m : Datagram} {id : ModuleId} {app : Application} {f : Fault ChannelError}
      (bound : c.appOf m.port = .ok (id, app)) (fails : c.Fails m f) :
      Delivers c m (.error (f.map .channel), c)
  | declined {m : Datagram} {id : ModuleId} {app : Application} {call : Call} {e : ChannelError}
      (bound : c.appOf m.port = .ok (id, app)) (consults : c.Consults m call)
      (refusal : (app.reply call).refusal = some e) :
      Delivers c m (.error (.refused (.channel e)), c.tell id app call)
  | unstored {m : HandshakeMessage} {id : ModuleId} {app : Application} {out : Output EndChange}
      {f : Fault ChannelError} {t : ChannelStore} (bound : c.appOf m.port = .ok (id, app))
      (ok : Handshake.step c.host m = .ok out)
      (agrees : (app.reply (handshakeCall m out.result.owner)).refusal = none)
      (failed : c.host.store.applyEnd (settleVersion m out.result
        (app.reply (handshakeCall m out.result.owner)).version) = (.error f, t)) :
      Delivers c (.handshake m) (.error (f.map .channel),
        (c.tell id app (handshakeCall m out.result.owner)).withStore t)
  | stored {m : HandshakeMessage} {id : ModuleId} {app : Application} {out : Output EndChange}
      {cap : Option Capability} {t : ChannelStore} (bound : c.appOf m.port = .ok (id, app))
      (ok : Handshake.step c.host m = .ok out)
      (agrees : (app.reply (handshakeCall m out.result.owner)).refusal = none)
      (stored : c.host.store.applyEnd (settleVersion m out.result
        (app.reply (handshakeCall m out.result.owner)).version) = (.ok cap, t)) :
      Delivers c (.handshake m)
        (.ok ⟨.applied, out.events,
            out.log ++ (app.reply (handshakeCall m out.result.owner)).log, cap⟩,
          (c.tell id app (handshakeCall m out.result.owner)).withStore t)
  | upgraded {m : UpgradeMessage} {id : ModuleId} {app : Application} {out : Output UpgradeChange}
      (bound : c.appOf m.owner.port = .ok (id, app)) (ok : Upgrading.step c.host m = .ok out)
      (untold : upgradeCall? m out.result = none) :
      Delivers c (.upgrade m)
        (.ok ⟨upgradeOutcome out.result.step, out.events, out.log, none⟩,
          c.mapStore fun s => s.applyUpgrade out.result)
  | upgradedTold {m : UpgradeMessage} {id : ModuleId} {app : Application}
      {out : Output UpgradeChange} {call : Call} (bound : c.appOf m.owner.port = .ok (id, app))
      (ok : Upgrading.step c.host m = .ok out) (told : upgradeCall? m out.result = some call)
      (agrees : (app.reply call).refusal = none) :
      Delivers c (.upgrade m)
        (.ok ⟨upgradeOutcome out.result.step, out.events, out.log ++ (app.reply call).log, none⟩,
          (c.tell id app call).mapStore fun s => s.applyUpgrade out.result)
  | repeated {m : PacketMessage} {id : ModuleId} {app : Application} {cap : Capability}
      {out : Output PacketChange} {reason : NoOpReason}
      (bound : c.appOf m.owner.port = .ok (id, app)) (owns : c.capabilityOf m.owner = .ok cap)
      (ok : Transfer.step c.host cap m = .ok out) (again : out.result.noOp? = some reason) :
      Delivers c (.packet m) (.ok ⟨.alreadyApplied, out.events, out.log, none⟩, c)
  | applied {m : PacketMessage} {id : ModuleId} {app : Application} {cap : Capability}
      {out : Output PacketChange} (bound : c.appOf m.owner.port = .ok (id, app))
      (owns : c.capabilityOf m.owner = .ok cap) (ok : Transfer.step c.host cap m = .ok out)
      (new : out.result.noOp? = none) (agrees : (app.reply (packetCall m)).refusal = none)
      (silent : promptAck m (app.reply (packetCall m)) = none) :
      Delivers c (.packet m)
        (.ok ⟨.applied, out.events, out.log ++ (app.reply (packetCall m)).log, none⟩,
          (c.tell id app (packetCall m)).mapStore fun s => s.applyPacket out.result)
  | answered {m : ReceivePacket} {id : ModuleId} {app : Application} {cap : Capability}
      {out written : Output PacketChange}
      (bound : c.appOf m.packet.destination.port = .ok (id, app))
      (owns : c.capabilityOf m.packet.destination = .ok cap)
      (ok : Transfer.receive c.host cap m = .ok out) (new : out.result.noOp? = none)
      (filled : (app.reply (.receive m.packet)).acknowledgement ≠ [])
      (answer : Transfer.writeAcknowledgement c.host cap m.packet
        (app.reply (.receive m.packet)).acknowledgement = .ok written) :
      Delivers c (.packet (.receive m))
        (.ok ⟨.applied, out.events ++ written.events,
            out.log ++ (app.reply (.receive m.packet)).log ++ written.log, none⟩,
          (c.tell id app (.receive m.packet)).mapStore fun s =>
            (s.applyPacket out.result).applyPacket written.result)

theorem promptAck_eq_some {m : PacketMessage} {reply : Reply} {ack : Acknowledgement} :
    promptAck m reply = some ack ↔
      (∃ received, m = .receive received) ∧ reply.acknowledgement = ack ∧ ack ≠ [] := by
  cases m with
  | receive m =>
    by_cases empty : reply.acknowledgement = []
    · simp only [promptAck, empty, List.isEmpty_nil, if_true]
      constructor
      · rintro ⟨⟩
      · rintro ⟨-, rfl, filled⟩
        exact absurd rfl filled
    · simp only [promptAck, List.isEmpty_iff, empty, if_false, Option.some.injEq]
      constructor
      · rintro rfl
        exact ⟨⟨m, rfl⟩, rfl, empty⟩
      · rintro ⟨-, same, -⟩
        exact same
  | acknowledge m => simp [promptAck]
  | timeout m => simp [promptAck]

theorem promptAck_of_filled {m : ReceivePacket} {reply : Reply} (filled : reply.acknowledgement ≠ []) :
    promptAck (.receive m) reply = some reply.acknowledgement :=
  promptAck_eq_some.2 ⟨⟨m, rfl⟩, rfl, filled⟩

theorem promptAck_eq_none {m : ReceivePacket} {reply : Reply} :
    promptAck (.receive m) reply = none ↔ reply.acknowledgement = [] := by
  simp [promptAck]

variable [Digest] {c c' : Chain} {a : Action} {rep : Report}

theorem delivers_handshake (c : Chain) (m : HandshakeMessage) :
    c.Delivers (.handshake m) (c.deliverHandshake m) := by
  unfold deliverHandshake
  split
  next e unbound => exact .unrouted unbound
  next id app bound =>
  split
  next f failed => exact .failed bound (.handshake failed)
  next out ok =>
  dsimp only
  split
  next e refusal => exact .declined bound (.handshake ok) refusal
  next agrees =>
  have store : (c.tell id app (handshakeCall m out.result.owner)).host.store = c.host.store := rfl
  rw [store]
  split
  next f failed => exact .unstored bound ok agrees (Prod.ext failed rfl)
  next cap stored => exact .stored bound ok agrees (Prod.ext stored rfl)

theorem delivers_upgrade (c : Chain) (m : UpgradeMessage) :
    c.Delivers (.upgrade m) (c.deliverUpgrade m) := by
  unfold deliverUpgrade
  split
  next e unbound => exact .unrouted unbound
  next id app bound =>
  split
  next f failed => exact .failed bound (.upgrade failed)
  next out ok =>
  dsimp only
  split
  next untold =>
    rw [List.append_nil]
    exact .upgraded bound ok untold
  next call told =>
  split
  next e refusal => exact .declined bound (.upgrade ok told) refusal
  next agrees => exact .upgradedTold bound ok told agrees

theorem delivers_packet (c : Chain) (m : PacketMessage) :
    c.Delivers (.packet m) (c.deliverPacket m) := by
  unfold deliverPacket
  split
  next e unbound => exact .unrouted unbound
  next id app bound =>
  split
  next e unowned => exact .unowned bound unowned
  next cap owns =>
  split
  next f failed => exact .failed bound (.packet owns failed)
  next out ok =>
  split
  next reason again => exact .repeated bound owns ok again
  next new =>
  dsimp only
  split
  next e refusal => exact .declined bound (.packet owns ok new) refusal
  next agrees =>
  split
  next silent =>
    rw [Output.append, List.append_nil]
    exact .applied bound owns ok new agrees silent
  next ack prompt =>
  -- Only a packet that was received is answered at once, and then it can be.
  obtain ⟨⟨m, rfl⟩, rfl, filled⟩ := promptAck_eq_some.1 prompt
  obtain ⟨written, answer⟩ := Transfer.writeAcknowledgement_of_receive ok filled
  have answer' : Transfer.writeAcknowledgement (c.tell id app (packetCall (.receive m))).host cap
      (PacketMessage.receive m).packet (app.reply (packetCall (.receive m))).acknowledgement =
        .ok written := answer
  rw [answer']
  simp only [Output.append, List.append_nil]
  exact .answered bound owns ok new filled answer

theorem delivers (c : Chain) (m : Datagram) : c.Delivers m (c.deliver m) := by
  cases m with
  | handshake m => exact c.delivers_handshake m
  | upgrade m => exact c.delivers_upgrade m
  | packet m => exact c.delivers_packet m

/-- A message goes in no other way than the one that it can go. -/
theorem Delivers.eq {m : Datagram} {r : Routed DeliveryReceipt} (delivers : c.Delivers m r) :
    c.deliver m = r := by
  cases delivers with
  | @unrouted m e unbound =>
    cases m with
    | handshake m => simp only [deliver, deliverHandshake, show c.appOf m.port = _ from unbound]
    | upgrade m => simp only [deliver, deliverUpgrade, show c.appOf m.owner.port = _ from unbound]
    | packet m => simp only [deliver, deliverPacket, show c.appOf m.owner.port = _ from unbound]
  | unowned bound unowned => simp only [deliver, deliverPacket, bound, unowned]
  | failed bound fails =>
    simp only [Datagram.port] at bound
    cases fails with
    | handshake failed => simp only [deliver, deliverHandshake, bound, failed]
    | upgrade failed => simp only [deliver, deliverUpgrade, bound, failed]
    | packet owns failed => simp only [deliver, deliverPacket, bound, owns, failed]
  | declined bound consults refusal =>
    simp only [Datagram.port] at bound
    cases consults with
    | handshake ok => simp only [deliver, deliverHandshake, bound, ok, refusal]
    | upgrade ok told => simp only [deliver, deliverUpgrade, bound, ok, told, refusal]
    | packet owns ok new => simp only [deliver, deliverPacket, bound, owns, ok, new, refusal]
  | @unstored m id app out f t bound ok agrees failed =>
    have store : (c.tell id app (handshakeCall m out.result.owner)).host.store = c.host.store := rfl
    simp only [deliver, deliverHandshake, bound, ok, agrees, store, failed]
  | @stored m id app out cap t bound ok agrees stored =>
    have store : (c.tell id app (handshakeCall m out.result.owner)).host.store = c.host.store := rfl
    simp only [deliver, deliverHandshake, bound, ok, agrees, store, stored]
  | upgraded bound ok untold =>
    simp only [deliver, deliverUpgrade, bound, ok, untold, List.append_nil]
  | upgradedTold bound ok told agrees => simp only [deliver, deliverUpgrade, bound, ok, told, agrees]
  | repeated bound owns ok again => simp only [deliver, deliverPacket, bound, owns, ok, again]
  | applied bound owns ok new agrees silent =>
    simp only [deliver, deliverPacket, bound, owns, ok, new, agrees, silent, Output.append,
      List.append_nil]
  | @answered m id app cap out written bound owns ok new filled answer =>
    have prompt := promptAck_of_filled (m := m) filled
    have agrees : (app.reply (.receive m.packet)).refusal = none := rfl
    have answer' : Transfer.writeAcknowledgement (c.tell id app (.receive m.packet)).host cap
        m.packet (app.reply (.receive m.packet)).acknowledgement = .ok written := answer
    simp only [deliver, deliverPacket, PacketMessage.owner, PacketMessage.packet, packetCall, bound,
      owns, Transfer.step, ok, new, agrees, prompt, answer', Output.append, List.append_nil]

/-! ### Reports -/

def Reports {ε α : Type} (r : Except (Fault ε) α) (report : α → Report) (rep : Report) : Prop :=
  (∃ x, r = .ok x ∧ rep = report x) ∨ ∃ e, r = .error (.refused e) ∧ rep = ⟨none, []⟩

def DeliveryReceipt.report (r : DeliveryReceipt) : Report := ⟨some r.outcome, r.events⟩

omit [Digest] in
theorem settle_eq_some {ε α : Type} {r : Except (Fault ε) α × Chain} {report : α → Report}
    (done : settle r report = some (rep, c')) : c' = r.2 ∧ Reports r.1 report rep := by
  unfold settle at done
  split at done
  · cases done
    exact ⟨rfl, .inl ⟨_, rfl, rfl⟩⟩
  · cases done
    exact ⟨rfl, .inr ⟨_, rfl, rfl⟩⟩
  · cases done

omit [Digest] in
theorem Reports.refused {ε α : Type} {f : Fault ε} {report : α → Report}
    (reports : Reports (.error f) report rep) : rep = ⟨none, []⟩ := by
  obtain ⟨x, none, -⟩ | ⟨e, -, rfl⟩ := reports
  · cases none
  · rfl

omit [Digest] in
theorem Reports.done {ε α : Type} {x : α} {report : α → Report}
    (reports : Reports (.ok x : Except (Fault ε) α) report rep) : rep = report x := by
  obtain ⟨y, same, rfl⟩ | ⟨e, none, -⟩ := reports
  · cases same
    rfl
  · cases none

/-- A message that is taken is carried out once a block is added. -/
theorem Delivers.perform {m : Datagram} {receipt : DeliveryReceipt} {d : Chain}
    (delivers : c.Delivers m (.ok receipt, d)) (more : d.advance? = some c') :
    c.perform (.deliver m) = some (DeliveryReceipt.report receipt, c') := by
  simp only [Chain.perform, delivers.eq, sealed, more, settle, DeliveryReceipt.report]

/-- A relayed message that is carried out is refused, or taken with a block after it. -/
theorem deliver_cases {m : Datagram} (done : c.perform (.deliver m) = some (rep, c')) :
    (∃ e, c.Delivers m (.error (.refused e), c') ∧ rep = ⟨none, []⟩) ∨
      ∃ receipt d, c.Delivers m (.ok receipt, d) ∧ rep = DeliveryReceipt.report receipt ∧
        d.advance? = some c' := by
  have delivers := c.delivers m
  obtain ⟨rfl, reports⟩ := settle_eq_some done
  rcases taken : c.deliver m with ⟨f | receipt, d⟩
  · rw [taken] at reports delivers
    obtain ⟨x, none, -⟩ | ⟨e, refused, rfl⟩ := reports
    · cases none
    · cases refused
      exact .inl ⟨e, delivers, rfl⟩
  · rw [taken] at reports delivers
    simp only [sealed] at reports ⊢
    cases more : d.advance? with
    | none =>
      rw [more] at reports
      obtain ⟨x, none, -⟩ | ⟨e, none, -⟩ := reports
      · cases none
      · cases none
    | some d' =>
      rw [more] at reports
      exact .inr ⟨receipt, d, delivers, reports.done, more⟩

/-! ### Calls of applications -/

/-- What comes of a call of an application: it goes through, is refused, or breaks. -/
def attempted {α : Type} (c : Chain) (r : Attempt α) (done : α → Report × Chain) :
    Option (Report × Chain) :=
  match r with
  | .ok x => some (done x)
  | .error (.refused _) => some (⟨none, []⟩, c)
  | .error .overflow => none

omit [Digest] in
theorem attempted_eq_some {α : Type} {r : Attempt α} {done : α → Report × Chain} :
    c.attempted r done = some (rep, c') ↔
      (∃ x, r = .ok x ∧ done x = (rep, c')) ∨
        (∃ e, r = .error (.refused e)) ∧ rep = ⟨none, []⟩ ∧ c' = c := by
  rcases r with ⟨_ | _⟩ | x
  · simp [attempted, eq_comm]
  · simp [attempted]
  · simp [attempted]

theorem perform_send (cap : Capability) (m : OutgoingPacket) :
    c.perform (.send cap m) = c.attempted (Transfer.send c.host cap m) fun out =>
      (⟨some .applied, out.events⟩, c.mapStore fun s => s.applyPacket out.result) := by
  rcases sent : Transfer.send c.host cap m with ⟨_ | _⟩ | out
  · simp only [perform, send, sent, settle, attempted]
  · simp only [perform, send, sent, settle, attempted]
  · obtain ⟨next, counted⟩ := Transfer.exists_nextSendOf_of_send sent
    have counted : (c.mapStore fun s => s.applyPacket out.result).host.store.nextSendOf m.source =
        .ok next := counted
    simp only [perform, send, sent, counted, settle, Output.map, attempted]

theorem perform_writeAcknowledgement (cap : Capability) (p : Packet) (ack : Acknowledgement) :
    c.perform (.writeAcknowledgement cap p ack) =
      c.attempted (Transfer.writeAcknowledgement c.host cap p ack) fun out =>
        (⟨some (if out.result.noOp?.isSome then .alreadyApplied else .applied), out.events⟩,
          c.mapStore fun s => s.applyPacket out.result) := by
  rcases written : Transfer.writeAcknowledgement c.host cap p ack with ⟨_ | _⟩ | out <;>
    simp only [perform, writeAcknowledgement, written, settle, Output.map, attempted]

theorem perform_proposeUpgrade (cap : Capability) (m : UpgradeInit) :
    c.perform (.proposeUpgrade cap m) = c.attempted (Upgrading.propose c.host cap m) fun out =>
      (⟨some .applied, out.events⟩, c.mapStore fun s => s.applyUpgrade out.result) := by
  rcases proposed : Upgrading.propose c.host cap m with ⟨_ | _⟩ | out <;>
    simp only [perform, proposeUpgrade, proposed, settle, Output.map, attempted]

theorem perform_close (cap : Capability) (m : CloseInit) :
    c.perform (.close cap m) = c.attempted (Handshake.closeInit c.host cap m) fun out =>
      (⟨some .applied, out.events⟩,
        c.withStore (c.host.store.setEnd out.result.owner out.result.value)) := by
  rcases closed : Handshake.closeInit c.host cap m with ⟨_ | _⟩ | out
  · simp only [perform, close, closed, settle, attempted]
  · simp only [perform, close, closed, settle, attempted]
  · obtain ⟨hop, hops, old⟩ := Handshake.exists_hop_of_closeInit closed
    simp only [perform, close, closed, ChannelStore.applyEnd_old old hops, settle, Except.map,
      Output.map, attempted]

/-! ### Any action -/

/-- The ways in which an action can go, before a block is added. -/
inductive Performs (c : Chain) : Action → Report → Chain → Prop
  | relayed {m : Datagram} {r : Except (Fault RoutingError) DeliveryReceipt} {rep : Report}
      {d : Chain} (delivers : c.Delivers m (r, d))
      (reports : Reports r DeliveryReceipt.report rep) : Performs c (.deliver m) rep d
  | refused {a : Action} : Performs c a ⟨none, []⟩ c
  | sent {cap : Capability} {m : OutgoingPacket} {out : Output PacketChange}
      (ok : Transfer.send c.host cap m = .ok out) :
      Performs c (.send cap m) ⟨some .applied, out.events⟩
        (c.mapStore fun s => s.applyPacket out.result)
  | written {cap : Capability} {p : Packet} {ack : Acknowledgement} {out : Output PacketChange}
      (ok : Transfer.writeAcknowledgement c.host cap p ack = .ok out) :
      Performs c (.writeAcknowledgement cap p ack)
        ⟨some (if out.result.noOp?.isSome then .alreadyApplied else .applied), out.events⟩
        (c.mapStore fun s => s.applyPacket out.result)
  | proposed {cap : Capability} {m : UpgradeInit} {out : Output UpgradeChange}
      (ok : Upgrading.propose c.host cap m = .ok out) :
      Performs c (.proposeUpgrade cap m) ⟨some .applied, out.events⟩
        (c.mapStore fun s => s.applyUpgrade out.result)
  | closed {cap : Capability} {m : CloseInit} {out : Output EndChange}
      (ok : Handshake.closeInit c.host cap m = .ok out) :
      Performs c (.close cap m) ⟨some .applied, out.events⟩
        (c.withStore (c.host.store.setEnd out.result.owner out.result.value))
  | advanced : Performs c .advance ⟨some .applied, []⟩ c
  | heard {id : ClientId} {header : Header} :
      Performs c (.updateClient id header) ⟨some .applied, []⟩
        (c.mapHost fun h => h.updateClient id header)

theorem performs_of_settle {m : Datagram}
    (done : settle (c.deliver m) DeliveryReceipt.report = some (rep, c')) :
    c.Performs (.deliver m) rep c' := by
  obtain ⟨rfl, reports⟩ := settle_eq_some done
  exact .relayed (c.delivers m) reports

omit [Digest] in
theorem advance?_eq_some (more : c.advance? = some c') :
    ∃ h b, c.host.height.next? = some h ∧ Block.ofHeight? h c.host.snapshot = some b ∧
      c' = { c with host := { c.host with height := h }, blocks := pushBlock c.window c.blocks b } := by
  simp only [advance?, Option.bind_eq_bind, Option.bind_eq_some_iff, Option.pure_def,
    Option.some.injEq] at more
  obtain ⟨h, next, b, block, rfl⟩ := more
  exact ⟨h, b, next, block, rfl⟩

omit [Digest] in
theorem store_of_advance? (more : c.advance? = some c') : c'.host.store = c.host.store := by
  obtain ⟨h, b, -, -, rfl⟩ := advance?_eq_some more
  rfl

/-- What is carried out goes one of the ways; a block may follow unless it is refused. -/
theorem exists_performs (done : c.perform a = some (rep, c')) :
    ∃ d, c.Performs a rep d ∧ (c' = d ∨ rep.outcome ≠ none ∧ d.advance? = some c') := by
  cases a with
  | deliver m =>
    obtain ⟨e, refused, rfl⟩ | ⟨receipt, d, taken, rfl, more⟩ := deliver_cases done
    · exact ⟨c', .relayed refused (.inr ⟨e, rfl, rfl⟩), .inl rfl⟩
    · exact ⟨d, .relayed taken (.inl ⟨receipt, rfl, rfl⟩),
        .inr ⟨by simp [DeliveryReceipt.report], more⟩⟩
  | send cap m =>
    rw [perform_send] at done
    obtain ⟨out, ok, ⟨⟩⟩ | ⟨-, rfl, rfl⟩ := attempted_eq_some.1 done
    · exact ⟨_, .sent ok, .inl rfl⟩
    · exact ⟨_, .refused, .inl rfl⟩
  | writeAcknowledgement cap p ack =>
    rw [perform_writeAcknowledgement] at done
    obtain ⟨out, ok, ⟨⟩⟩ | ⟨-, rfl, rfl⟩ := attempted_eq_some.1 done
    · exact ⟨_, .written ok, .inl rfl⟩
    · exact ⟨_, .refused, .inl rfl⟩
  | proposeUpgrade cap m =>
    rw [perform_proposeUpgrade] at done
    obtain ⟨out, ok, ⟨⟩⟩ | ⟨-, rfl, rfl⟩ := attempted_eq_some.1 done
    · exact ⟨_, .proposed ok, .inl rfl⟩
    · exact ⟨_, .refused, .inl rfl⟩
  | close cap m =>
    rw [perform_close] at done
    obtain ⟨out, ok, ⟨⟩⟩ | ⟨-, rfl, rfl⟩ := attempted_eq_some.1 done
    · exact ⟨_, .closed ok, .inl rfl⟩
    · exact ⟨_, .refused, .inl rfl⟩
  | advance =>
    simp only [perform, Option.map_eq_some_iff, Prod.mk.injEq] at done
    obtain ⟨d, more, rfl, rfl⟩ := done
    exact ⟨c, .advanced, .inr ⟨by simp, more⟩⟩
  | updateClient id header =>
    cases done
    exact ⟨_, .heard, .inl rfl⟩

theorem exists_performs_store (done : c.perform a = some (rep, c')) :
    ∃ d, c.Performs a rep d ∧ c'.host.store = d.host.store := by
  obtain ⟨d, performs, rfl | ⟨-, more⟩⟩ := exists_performs done
  · exact ⟨_, performs, rfl⟩
  · exact ⟨d, performs, store_of_advance? more⟩

end Chain

end Crosschain
