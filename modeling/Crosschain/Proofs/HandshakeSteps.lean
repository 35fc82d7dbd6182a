import Crosschain.Proofs.HandshakeSuccesses
import Crosschain.Proofs.LaneStep

/-!
# Opening and closing, lane by lane

A handshake step that succeeds and is stored changes the lane of its own end in one of the ways
listed for the step, and leaves all others as they are.
-/

namespace Crosschain

/-! ### Storing an end -/

namespace ChannelStore

variable {s t : ChannelStore} {change : EndChange}

@[simp] theorem lane_withCreated (s : ChannelStore) (n : UInt64) (e : EndId) :
    { s with created := n }.lane e = s.lane e := rfl

@[simp] theorem lane_withRegistry (s : ChannelStore) (r : Registry) (e : EndId) :
    { s with registry := r }.lane e = s.lane e := rfl

@[simp] theorem lane_addOverConnection (s : ChannelStore) (c : ConnectionId) (o e : EndId) :
    (s.addOverConnection c o).lane e = s.lane e := rfl

theorem lane_startCounters (s : ChannelStore) (e : EndId) :
    (s.startCounters e).lane e =
      { s.lane e with nextSend := some 1, nextRecv := some 1, nextAck := some 1 } := by
  simp [startCounters]

theorem lane_startCounters_of_ne (s : ChannelStore) {e f : EndId} (h : e ≠ f) :
    (s.startCounters e).lane f = s.lane f := by
  simp only [startCounters, lane_setNextAck_of_ne _ h, lane_setNextRecv_of_ne _ h,
    lane_setNextSend_of_ne _ h]

theorem applyEnd_new {hop : ConnectionId} {r : Attempt (Option Capability)}
    (new : change.isNew = true) (hops : change.value.hops = [hop])
    (stored : s.applyEnd change = (r, t)) (fits : r ≠ .error .overflow) :
    t.lane change.owner = { s.lane change.owner with
        channel := some change.value, nextSend := some 1, nextRecv := some 1, nextAck := some 1 } ∧
      (∀ f, f ≠ change.owner → t.lane f = s.lane f) ∧ s.created < t.created := by
  have hop_ok : change.value.hop = .ok hop := ChannelEnd.hop_eq_ok.2 hops
  simp only [applyEnd, hop_ok, new, if_true] at stored
  cases count : Word.add? s.created 1 with
  | none =>
    simp only [setEnd, count, Prod.mk.injEq] at stored
    exact absurd stored.1.symm fits
  | some n =>
    have grows : s.created < n := Word.lt_of_add?_one count
    have count' : Word.add? (s.setEnd change.owner change.value).created 1 = some n := count
    simp only [count'] at stored
    split at stored
    · obtain ⟨-, rfl⟩ := stored
      refine ⟨by simp [lane_startCounters], ?_, grows⟩
      intro f other
      rw [lane_startCounters_of_ne _ other.symm, lane_addOverConnection, lane_withCreated,
        lane_setEnd_of_ne _ other.symm]
    · obtain ⟨-, rfl⟩ := stored
      refine ⟨by simp [lane_startCounters], ?_, grows⟩
      intro f other
      rw [lane_withRegistry, lane_startCounters_of_ne _ other.symm, lane_addOverConnection,
        lane_withCreated, lane_setEnd_of_ne _ other.symm]

theorem applyEnd_old {hop : ConnectionId} (old : change.isNew = false)
    (hops : change.value.hops = [hop]) :
    s.applyEnd change = (.ok none, s.setEnd change.owner change.value) := by
  have hop_ok : change.value.hop = .ok hop := ChannelEnd.hop_eq_ok.2 hops
  simp [applyEnd, hop_ok, old]

theorem applyEnd_eq (s : ChannelStore) (c : EndChange) :
    (s.applyEnd c).2 = { s with
      ends := (s.applyEnd c).2.ends
      overConnection := (s.applyEnd c).2.overConnection
      nextSend := (s.applyEnd c).2.nextSend
      nextRecv := (s.applyEnd c).2.nextRecv
      nextAck := (s.applyEnd c).2.nextAck
      created := (s.applyEnd c).2.created
      registry := (s.applyEnd c).2.registry } := by
  unfold applyEnd
  split
  · rfl
  dsimp only
  split
  · split
    · rfl
    · split <;> rfl
  · rfl

end ChannelStore

/-! ### The steps -/

namespace Handshake

variable [Digest] {h : Host} {m : HandshakeMessage} {out : Output EndChange} {t : ChannelStore}
  {r : Attempt (Option Capability)}

theorem silent (ok : step h m = .ok out) : out.events.filterMap Event.fate? = [] := by
  cases step_eq_ok.1 ok <;> rfl

/-- What a handshake step that was stored leaves behind. -/
def Stored (h : Host) (m : HandshakeMessage) (out : Output EndChange) (t : ChannelStore) : Prop :=
  out.result.owner.port = m.port ∧ ∃ d, d.Quiet ∧
    Stores h (.deliver (.handshake m)) out.result.owner d t

theorem Stored.of_new {change : EndChange} {hop : ConnectionId}
    (stored : h.store.applyEnd change = (r, t)) (fits : r ≠ .error .overflow)
    (free : h.store.lane (freshEnd h m.port) = .empty)
    (owner : out.result.owner = freshEnd h m.port) (same : change.owner = out.result.owner)
    (new : change.isNew = true) (hops : change.value.hops = [hop])
    (step : LaneStep h (.deliver (.handshake m)) (freshEnd h m.port) .empty .created { Lane.empty with
      channel := some change.value, nextSend := some 1, nextRecv := some 1, nextAck := some 1 }) :
    Stored h m out t := by
  obtain ⟨own, others, count⟩ := ChannelStore.applyEnd_new new hops stored fits
  rw [same, owner] at own others
  rw [free] at own
  refine ⟨by rw [owner]; rfl, .created, ⟨rfl, rfl⟩, ?_⟩
  rw [owner]
  exact ⟨by rw [own, free]; exact step, others, UInt64.le_of_lt count, fun _ => count⟩

theorem Stored.of_old {x : ChannelEnd} {hop : ConnectionId}
    (stored : h.store.applyEnd out.result = (r, t)) (port : out.result.owner.port = m.port)
    (old : out.result.isNew = false) (hops : out.result.value.hops = [hop])
    (channel : h.store.ends[out.result.owner]? = some x)
    (step : LaneStep h (.deliver (.handshake m)) out.result.owner (h.store.lane out.result.owner)
      .settled { h.store.lane out.result.owner with channel := some out.result.value }) :
    Stored h m out t := by
  rw [ChannelStore.applyEnd_old old hops] at stored
  obtain ⟨-, rfl⟩ := stored
  refine ⟨port, .settled, ⟨rfl, rfl⟩, .old channel ?_
    (fun f other => ChannelStore.lane_setEnd_of_ne _ other.symm _) rfl⟩
  rw [ChannelStore.lane_setEnd]
  exact step

/-- A handshake step that succeeded and was stored, with the version the application chose. -/
theorem step_stores (version : ChannelVersion) (ok : step h m = .ok out)
    (free : h.store.lane (freshEnd h m.port) = .empty)
    (stored : h.store.applyEnd (Chain.settleVersion m out.result version) = (r, t))
    (fits : r ≠ .error .overflow) : Stored h m out t := by
  cases step_eq_ok.1 ok with
  | openInit connection hops =>
    obtain ⟨_, hops', there, -⟩ := Host.openConnection_eq_ok.1 connection
    exact .of_new stored fits free rfl rfl rfl hops (.openInit _ _ _ rfl rfl hops' there)
  | openTry named connection hops supported peerHop_eq shown =>
    obtain ⟨_, hops', there, -⟩ := Host.openConnection_eq_ok.1 connection
    obtain ⟨peer, time, named, sees⟩ := Host.sees_of_provesPeerValue hops' there shown
    exact .of_new stored fits free rfl rfl rfl hops (.openTry _ version _ _ peer time rfl rfl
      hops' ⟨_, there, peerHop_eq⟩ named sees)
  | @openAck m x _ _ _ channel state connection hops peerHop_eq shown =>
    obtain ⟨_, hops', there, -⟩ := Host.openConnection_eq_ok.1 connection
    have hops'' : (x.withPeerChannel m.peerChannel).hops = [_] := hops'
    obtain ⟨peer, time, named, sees⟩ := Host.sees_of_provesPeerValue hops'' there shown
    obtain rfl : EndId.mk x.peer.port m.peerChannel = peer := ChannelPeer.ofEnd_injective named
    exact .of_old stored rfl rfl hops channel (.openAck _ m x _ _ time rfl rfl channel state
      hops' ⟨_, there, peerHop_eq⟩ sees)
  | openConfirm channel state connection hops peerHop_eq shown =>
    obtain ⟨_, hops', there, -⟩ := Host.openConnection_eq_ok.1 connection
    obtain ⟨peer, time, named, sees⟩ := Host.sees_of_provesPeerValue hops' there shown
    exact .of_old stored rfl rfl hops channel (.openConfirm _ _ _ _ _ peer time rfl rfl channel
      state hops' ⟨_, there, peerHop_eq⟩ named sees)

theorem closeInit_stores {cap : Capability} {m : CloseInit} (ok : closeInit h cap m = .ok out) :
    out.events.filterMap Event.fate? = [] ∧ Stores h (.close cap m) out.result.owner .shut
      (h.store.setEnd out.result.owner out.result.value) := by
  obtain ⟨channel, owned, live⟩ := closeInit_eq_ok.1 ok
  refine ⟨rfl, .old channel ?_ (fun f other => ChannelStore.lane_setEnd_of_ne _ other.symm _) rfl⟩
  rw [ChannelStore.lane_setEnd]
  exact .close _ cap m _ rfl rfl channel live

end Handshake

end Crosschain
