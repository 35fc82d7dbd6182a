import Crosschain.Proofs.Reachability

/-!
# What each action tells

The events of an action are of the kinds that belong to it, whatever its message says: opening a
channel tells of nothing but steps of the handshake, an upgrade of nothing but the upgrade, and a
message about a packet of what happened to the packet, of its acknowledgement, or of an end that the
timeout closed.
-/

namespace Crosschain

/-! ### Kinds -/

namespace EventKind

def opening : List EventKind :=
  [.handshake .openInit, .handshake .openTry, .handshake .openAck, .handshake .openConfirm]

def upgrading : List EventKind :=
  [.upgrade .answered, .upgrade .ack, .upgrade .confirm, .upgrade .opened, .upgrade .cancelled,
    .upgrade .timedOut, .upgradeError]

end EventKind

def PacketMessage.kinds : PacketMessage → List EventKind
  | .receive _ => [.packet .received]
  | .acknowledge _ => [.packet .acknowledged]
  | .timeout _ => [.packet .timedOut, .closed]

/-- What is told of a relayed message. A packet that is received may be acknowledged at once. -/
def Datagram.kinds : Datagram → List EventKind
  | .handshake _ => EventKind.opening
  | .upgrade _ => EventKind.upgrading
  | .packet m => .acknowledgement :: m.kinds

/-- What is told of an action. -/
def Action.kinds : Action → List EventKind
  | .deliver m => m.kinds
  | .send _ _ => [.packet .sent]
  | .writeAcknowledgement _ _ _ => [.acknowledgement]
  | .proposeUpgrade _ _ => [.upgrade .init]
  | .close _ _ => [.handshake .closeInit]
  | .advance | .updateClient _ _ => []

/-- Events of some kinds. -/
def Event.OfKinds (kinds : List EventKind) (events : List Event) : Prop :=
  ∀ event ∈ events, event.kind ∈ kinds

namespace Event.OfKinds

variable {kinds kinds' : List EventKind} {events events' : List Event}

theorem of_all (all : (events.all fun event => decide (event.kind ∈ kinds)) = true) :
    OfKinds kinds events := by
  intro event mem
  exact of_decide_eq_true (List.all_eq_true.1 all event mem)

theorem nil : OfKinds kinds [] := by
  intro event mem
  cases mem

theorem append (told : OfKinds kinds events) (told' : OfKinds kinds events') :
    OfKinds kinds (events ++ events') := by
  intro event mem
  rcases List.mem_append.1 mem with mem | mem
  · exact told event mem
  · exact told' event mem

theorem mono (told : OfKinds kinds events) (sub : kinds ⊆ kinds') : OfKinds kinds' events :=
  fun event mem => sub (told event mem)

theorem filterMap_eq_nil {α : Type} {f : Event → Option α} (told : OfKinds kinds events)
    (other : ∀ event, event.kind ∈ kinds → f event = none) : events.filterMap f = [] := by
  rw [List.filterMap_eq_nil_iff]
  exact fun event mem => other event (told event mem)

end Event.OfKinds

/-! ### The steps of the channel layer -/

/-- What an attempt yields, if it succeeds, has a property. -/
def Yields {α : Type} (r : Attempt α) (P : α → Prop) : Prop := ∀ a, r = .ok a → P a

/-- The events are of some kinds. -/
def Output.Tells {α : Type} (kinds : List EventKind) (out : Output α) : Prop :=
  Event.OfKinds kinds out.events

/-- The events are of some kinds, and no acknowledgement is written. -/
def Output.Unanswered (kinds : List EventKind) (out : Output PacketChange) : Prop :=
  out.Tells kinds ∧ ∀ slot b, out.result ≠ .answered slot b

namespace Yields

theorem closeInit {h : Host} {cap : Capability} {m : CloseInit} :
    Yields (Handshake.closeInit h cap m) (Output.Tells [.handshake .closeInit]) := by
  intro out ok
  cases Handshake.closeInit_eq_ok.1 ok
  exact .of_all rfl

theorem propose {h : Host} {cap : Capability} {m : UpgradeInit} :
    Yields (Upgrading.propose h cap m) (Output.Tells [.upgrade .init]) := by
  intro out ok
  cases Upgrading.propose_eq_ok.1 ok
  exact .of_all rfl

variable [Digest] {h : Host} {cap : Capability}

theorem handshake {m : HandshakeMessage} :
    Yields (Handshake.step h m) (Output.Tells EventKind.opening) := by
  intro out ok
  cases Handshake.step_eq_ok.1 ok <;> exact .of_all rfl

theorem upgrade {m : UpgradeMessage} :
    Yields (Upgrading.step h m) (Output.Tells EventKind.upgrading) := by
  intro out ok
  cases Upgrading.step_eq_ok.1 ok <;> exact .of_all rfl

theorem send {m : OutgoingPacket} :
    Yields (Transfer.send h cap m) (Output.Unanswered [.packet .sent]) := by
  intro out ok
  cases Transfer.send_eq_ok.1 ok
  exact ⟨.of_all rfl, by rintro _ _ ⟨⟩⟩

theorem packet {m : PacketMessage} :
    Yields (Transfer.step h cap m) (Output.Unanswered m.kinds) := by
  intro out ok
  cases Transfer.step_eq_ok.1 ok <;> exact ⟨.of_all rfl, by rintro _ _ ⟨⟩⟩

theorem writeAcknowledgement {p : Packet} {ack : Acknowledgement} :
    Yields (Transfer.writeAcknowledgement h cap p ack) (Output.Tells [.acknowledgement]) := by
  intro out ok
  cases Transfer.writeAcknowledgement_eq_ok.1 ok <;> exact .of_all rfl

end Yields

/-! ### Any action -/

namespace Chain

variable [Digest] {c c' : Chain}

theorem Delivers.kinds {m : Datagram} {r : DeliveryReceipt} (delivers : c.Delivers m (.ok r, c')) :
    Event.OfKinds m.kinds r.events := by
  cases delivers with
  | stored bound ok => exact Yields.handshake _ ok
  | upgraded bound ok | upgradedTold bound ok => exact Yields.upgrade _ ok
  | repeated bound owns ok | applied bound owns ok =>
    exact (Yields.packet _ ok).1.mono (List.subset_cons_self _ _)
  | answered bound owns ok new filled answer =>
    have told := (Yields.packet (m := .receive _) _ ok).1
    refine (told.mono (List.subset_cons_self _ _)).append
      ((Yields.writeAcknowledgement _ answer).mono ?_)
    exact List.cons_subset_cons _ (List.nil_subset _)

variable {a : Action} {rep : Report}

theorem Performs.kinds (performs : c.Performs a rep c') : Event.OfKinds a.kinds rep.events := by
  cases performs with
  | relayed delivers reports =>
    obtain ⟨x, rfl, rfl⟩ | ⟨e, -, rfl⟩ := reports
    · exact delivers.kinds
    · exact .nil
  | refused | advanced | heard => exact .nil
  | sent ok => exact (Yields.send _ ok).1
  | written ok => exact Yields.writeAcknowledgement _ ok
  | proposed ok => exact Yields.propose _ ok
  | closed ok => exact Yields.closeInit _ ok

/-- The events of an action are of its kinds. -/
theorem Takes.kinds (taken : c.Takes a rep c') : Event.OfKinds a.kinds rep.events := by
  obtain ⟨d, performs, -⟩ := taken.exists_performs
  exact performs.kinds

end Chain

end Crosschain
