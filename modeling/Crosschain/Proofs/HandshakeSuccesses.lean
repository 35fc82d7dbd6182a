import Crosschain.Proofs.Attempts

/-!
# How a handshake succeeds

The ways in which a step of the handshake succeeds, with the checks that it passed and what it
yields. These are all the ways, and each of them is one: so what holds of every success is shown by
cases on them, and a message is shown to succeed by naming its way.
-/

namespace Crosschain

namespace Handshake

variable {h : Host} {out : Output EndChange}

inductive Closes (h : Host) (cap : Capability) (m : CloseInit) : Output EndChange → Prop
  | closed {x : ChannelEnd} {c : ConnectionEnd} {hop : ConnectionId}
      (channel : h.store.ends[m.owner]? = some x)
      (owned : h.store.authenticate m.owner cap = .ok ()) (live : x.state ≠ .closed)
      (connection : h.openConnection x = .ok c) (hops : x.hops = [hop]) :
      Closes h cap m ⟨⟨m.owner, false, { x with state := .closed }⟩,
        ["success: channel close init"], [event .closeInit m.owner hop x.peer]⟩

theorem closeInit_eq_ok {cap : Capability} {m : CloseInit} :
    closeInit h cap m = .ok out ↔ Closes h cap m out := by
  simp only [closeInit, Except.bind_eq_ok, Fault.lift_eq_ok, Fault.ensure_eq_ok,
    ChannelStore.endAt_eq_ok, ChannelEnd.hop_eq_ok, Except.pure_eq_ok]
  constructor
  · rintro ⟨x, channel, _, owned, _, live, c, connection, hop, hops, rfl⟩
    exact .closed channel owned live connection hops
  · rintro ⟨channel, owned, live, connection, hops⟩
    exact ⟨_, channel, (), owned, (), live, _, connection, _, hops, rfl⟩

theorem exists_hop_of_closeInit {cap : Capability} {m : CloseInit}
    (ok : closeInit h cap m = .ok out) :
    ∃ hop, out.result.value.hops = [hop] ∧ out.result.isNew = false := by
  obtain ⟨channel, owned, live, connection, hops⟩ := closeInit_eq_ok.1 ok
  exact ⟨_, hops, rfl⟩

variable [Digest] {m : HandshakeMessage}

/-- The ways in which a message of the handshake passes, each with what it checked and what it
yields. -/
inductive Succeeds (h : Host) : HandshakeMessage → Output EndChange → Prop
  | openInit {m : OpenInit} {c : ConnectionEnd} {hop : ConnectionId}
      (connection : h.openConnection m.proposal = .ok c) (hops : m.proposal.hops = [hop])
      (supported : c.supports m.proposal.ordering) :
      Succeeds h (.openInit m)
        ⟨⟨freshEnd h m.port, true, .ofParts .init m.proposal.ordering m.proposal.peer
            m.proposal.hops m.proposal.version⟩,
          [freshLine (freshEnd h m.port)],
          [event .openInit (freshEnd h m.port) hop ⟨m.proposal.peer.port, none⟩]⟩
  | openTry {m : OpenTry} {peer : EndId} {c : ConnectionEnd} {hop peerHop : ConnectionId}
      (named : m.proposal.peer = .ofEnd peer) (connection : h.openConnection m.proposal = .ok c)
      (hops : m.proposal.hops = [hop]) (supported : c.supports m.proposal.ordering)
      (peerHop_eq : c.peer.connection = some peerHop)
      (shown : h.provesEnd c (.ofParts .tryOpen m.proposal.ordering m.proposal.peer m.proposal.hops
        m.peerVersion) m.evidence.height m.evidence.object
        (.ofParts .init m.proposal.ordering ⟨m.port, none⟩ [peerHop] m.peerVersion) = .ok ()) :
      Succeeds h (.openTry m)
        ⟨⟨freshEnd h m.port, true, .ofParts .tryOpen m.proposal.ordering m.proposal.peer
            m.proposal.hops m.peerVersion⟩,
          [freshLine (freshEnd h m.port), "success: channel open try"],
          [event .openTry (freshEnd h m.port) hop (.ofEnd peer)]⟩
  | openAck {m : OpenAck} {x : ChannelEnd} {c : ConnectionEnd} {hop peerHop : ConnectionId}
      (channel : h.store.ends[m.owner]? = some x) (state : x.state = .init ∨ x.state = .tryOpen)
      (connection : h.openConnection x = .ok c) (hops : x.hops = [hop])
      (peerHop_eq : c.peer.connection = some peerHop)
      (shown : h.provesEnd c (x.withPeerChannel m.peerChannel) m.evidence.height m.evidence.object
        (.ofParts .tryOpen x.ordering (.ofEnd m.owner) [peerHop] m.peerVersion) = .ok ()) :
      Succeeds h (.openAck m)
        ⟨⟨m.owner, false, { x.withPeerChannel m.peerChannel with
            state := .opened, version := m.peerVersion }⟩,
          ["success: channel open ack"],
          [event .openAck m.owner hop (x.withPeerChannel m.peerChannel).peer]⟩
  | openConfirm {m : OpenConfirm} {x : ChannelEnd} {c : ConnectionEnd} {hop peerHop : ConnectionId}
      (channel : h.store.ends[m.owner]? = some x) (state : x.state = .tryOpen)
      (connection : h.openConnection x = .ok c) (hops : x.hops = [hop])
      (peerHop_eq : c.peer.connection = some peerHop)
      (shown : h.provesEnd c x m.evidence.height m.evidence.object
        (.ofParts .opened x.ordering (.ofEnd m.owner) [peerHop] x.version) = .ok ()) :
      Succeeds h (.openConfirm m)
        ⟨⟨m.owner, false, { x with state := .opened }⟩, ["success: channel open confirm "],
          [event .openConfirm m.owner hop x.peer]⟩

theorem step_eq_ok : step h m = .ok out ↔ Succeeds h m out := by
  constructor
  · intro ok
    cases m with
    | openInit m =>
      simp only [step, openInit, Except.bind_eq_ok, Fault.lift_eq_ok, Fault.ensure_eq_ok,
        ChannelEnd.hop_eq_ok, Except.pure_eq_ok] at ok
      obtain ⟨c, connection, hop, hops, _, supported, rfl⟩ := ok
      exact .openInit connection hops supported
    | openTry m =>
      simp only [step, openTry, Except.bind_eq_ok, Fault.lift_eq_ok, Fault.ensure_eq_ok,
        ChannelEnd.hop_eq_ok, ChannelPeer.endId_eq_ok, Host.peerHop_eq_ok,
        Except.pure_eq_ok] at ok
      obtain ⟨peer, named, c, connection, hop, hops, _, supported, peerHop, peerHop_eq, _, shown,
        rfl⟩ := ok
      exact .openTry named connection hops supported peerHop_eq shown
    | openAck m =>
      simp only [step, openAck, Except.bind_eq_ok, Fault.lift_eq_ok, Fault.ensure_eq_ok,
        ChannelStore.endAt_eq_ok, ChannelEnd.hop_eq_ok, Host.peerHop_eq_ok,
        Except.pure_eq_ok] at ok
      obtain ⟨x, channel, _, state, c, connection, peerHop, peerHop_eq, _, shown, hop, hops,
        rfl⟩ := ok
      exact .openAck channel state connection hops peerHop_eq shown
    | openConfirm m =>
      simp only [step, openConfirm, Except.bind_eq_ok, Fault.lift_eq_ok, Fault.ensure_eq_ok,
        ChannelStore.endAt_eq_ok, ChannelEnd.hop_eq_ok, Host.peerHop_eq_ok,
        Except.pure_eq_ok] at ok
      obtain ⟨x, channel, _, state, c, connection, peerHop, peerHop_eq, _, shown, hop, hops,
        rfl⟩ := ok
      exact .openConfirm channel state connection hops peerHop_eq shown
  · intro passes
    cases passes with
    | openInit connection hops supported =>
      simp only [step, openInit, Except.bind_eq_ok, Fault.lift_eq_ok, Fault.ensure_eq_ok,
        ChannelEnd.hop_eq_ok, Except.pure_eq_ok]
      exact ⟨_, connection, _, hops, (), supported, rfl⟩
    | openTry named connection hops supported peerHop_eq shown =>
      simp only [step, openTry, Except.bind_eq_ok, Fault.lift_eq_ok, Fault.ensure_eq_ok,
        ChannelEnd.hop_eq_ok, ChannelPeer.endId_eq_ok, Host.peerHop_eq_ok, Except.pure_eq_ok]
      exact ⟨_, named, _, connection, _, hops, (), supported, _, peerHop_eq, (), shown, rfl⟩
    | openAck channel state connection hops peerHop_eq shown =>
      simp only [step, openAck, Except.bind_eq_ok, Fault.lift_eq_ok, Fault.ensure_eq_ok,
        ChannelStore.endAt_eq_ok, ChannelEnd.hop_eq_ok, Host.peerHop_eq_ok, Except.pure_eq_ok]
      exact ⟨_, channel, (), state, _, connection, _, peerHop_eq, (), shown, _, hops, rfl⟩
    | openConfirm channel state connection hops peerHop_eq shown =>
      simp only [step, openConfirm, Except.bind_eq_ok, Fault.lift_eq_ok, Fault.ensure_eq_ok,
        ChannelStore.endAt_eq_ok, ChannelEnd.hop_eq_ok, Host.peerHop_eq_ok, Except.pure_eq_ok]
      exact ⟨_, channel, (), state, _, connection, _, peerHop_eq, (), shown, _, hops, rfl⟩

end Handshake

end Crosschain
