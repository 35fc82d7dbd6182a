import Crosschain.Proofs.Opening
import Crosschain.Proofs.Passage

/-!
# Storing an end

The end that a handshake step yields is stored by up to seven writes, and the capability of a new
end comes last of them. The registry hands out names to others as well, so the name of the next end
may be taken by then: the capability is refused, and all that was written before it stays. Storing is
all or nothing just where the name is free and the two numbers it takes can be counted on from.
-/

namespace Crosschain

/-- The changes that the steps of a handshake yield on a host. An application may have chosen the
version. -/
inductive Handshake.Yields [Digest] (h : Host) : EndChange → Prop
  | relayed {m : HandshakeMessage} {out : Output EndChange} (version : ChannelVersion)
      (ok : step h m = .ok out) : Yields h (Chain.settleVersion m out.result version)
  | closing {cap : Capability} {m : CloseInit} {out : Output EndChange}
      (ok : closeInit h cap m = .ok out) : Yields h out.result

theorem Handshake.Yields.exists_hop [Digest] {h : Host} {change : EndChange}
    (yields : Yields h change) : ∃ hop, change.value.hops = [hop] := by
  cases yields with
  | relayed version ok =>
    obtain ⟨hop, hops, -⟩ := Handshake.exists_hop ok version
    exact ⟨hop, hops⟩
  | closing ok =>
    obtain ⟨hop, hops, -⟩ := Handshake.exists_hop_of_closeInit ok
    exact ⟨hop, hops⟩

namespace ChannelStore

/-! ### How far a new end gets -/

/-- The store with a new end that is counted, listed and has its counters, but no capability. -/
def withNewEnd (s : ChannelStore) (change : EndChange) (hop : ConnectionId) (n : UInt64) :
    ChannelStore :=
  ({ s.setEnd change.owner change.value with created := n }.addOverConnection hop
    change.owner).startCounters change.owner

/-- A new end is there, counted and listed over its connection, and got no capability. -/
structure Strands (s : ChannelStore) (e : EndId) (x : ChannelEnd) (hop : ConnectionId)
    (t : ChannelStore) : Prop where
  lane : t.lane e = { s.lane e with
    channel := some x, nextSend := some 1, nextRecv := some 1, nextAck := some 1 }
  others : ∀ f, f ≠ e → t.lane f = s.lane f
  counted : Word.add? s.created 1 = some t.created
  listed : t.overConnection = s.overConnection.insert hop (s.endsOver hop ++ [e])
  registry : t.registry = s.registry

variable {s : ChannelStore} {change : EndChange} {hop : ConnectionId} {n : UInt64}

theorem strands_withNewEnd (number : Word.add? s.created 1 = some n) :
    s.Strands change.owner change.value hop (s.withNewEnd change hop n) where
  lane := by simp [withNewEnd, lane_startCounters]
  others f other := by
    rw [withNewEnd, lane_startCounters_of_ne _ other.symm, lane_addOverConnection,
      lane_withCreated, lane_setEnd_of_ne _ other.symm]
  counted := number
  listed := rfl
  registry := rfl

theorem applyEnd_of_no_number (new : change.isNew = true) (hops : change.value.hops = [hop])
    (none : Word.add? s.created 1 = none) : (s.applyEnd change).1 = .error .overflow := by
  have hop_ok : change.value.hop = .ok hop := ChannelEnd.hop_eq_ok.2 hops
  have none' : Word.add? (s.setEnd change.owner change.value).created 1 = Option.none := none
  simp only [applyEnd, hop_ok, new, if_true, none']

theorem applyEnd_of_number (new : change.isNew = true) (hops : change.value.hops = [hop])
    (number : Word.add? s.created 1 = some n) :
    s.applyEnd change = match s.registry.create (.ofEnd change.owner) with
      | .error f => (.error (f.map .port), s.withNewEnd change hop n)
      | .ok (cap, registry) => (.ok (some cap), { s.withNewEnd change hop n with registry }) := by
  have hop_ok : change.value.hop = .ok hop := ChannelEnd.hop_eq_ok.2 hops
  have number' : Word.add? (s.setEnd change.owner change.value).created 1 = some n := number
  simp only [applyEnd, hop_ok, new, if_true, number']
  rfl

/-- A new end whose name is taken is refused with all but its capability written. -/
theorem strands_of_taken {index : UInt64} (new : change.isNew = true)
    (hops : change.value.hops = [hop]) (number : Word.add? s.created 1 = some n)
    (taken : s.registry.owners[CapabilityName.ofEnd change.owner]? = some index) :
    ∃ t, s.applyEnd change =
        (.error (.refused (.port (.alreadyTaken (CapabilityName.ofEnd change.owner).text))), t) ∧
      s.Strands change.owner change.value hop t := by
  refine ⟨s.withNewEnd change hop n, ?_, strands_withNewEnd number⟩
  rw [applyEnd_of_number new hops number, Registry.create, taken]
  rfl

/-! ### All or nothing -/

/-- Storing an end was all or nothing. -/
inductive Whole (s : ChannelStore) (change : EndChange) :
    Attempt (Option Capability) × ChannelStore → Prop
  | created {hop : ConnectionId} {cap : Capability} {t : ChannelStore} (new : change.isNew = true)
      (hops : change.value.hops = [hop]) (creates : s.Creates change.owner change.value hop cap t) :
      Whole s change (.ok (some cap), t)
  | replaced (old : change.isNew = false) :
      Whole s change (.ok none, s.setEnd change.owner change.value)
  | refused (cause : ChannelError) : Whole s change (.error (.refused cause), s)

theorem Whole.fits {r : Attempt (Option Capability)} {t : ChannelStore}
    (whole : s.Whole change (r, t)) : r ≠ .error .overflow := by
  rintro rfl
  cases whole

theorem Strands.not_whole {e : EndId} {x : ChannelEnd} {t : ChannelStore} {f : Fault ChannelError}
    (strands : s.Strands e x hop t) : ¬ s.Whole change (.error f, t) := by
  -- The counter of channels alone tells the two stores apart.
  intro whole
  cases whole with
  | refused cause => exact UInt64.lt_irrefl _ (Word.lt_of_add?_one strands.counted)

/-- There is a place for an end: it is there, or its name is free and it can be counted. -/
def Admits (s : ChannelStore) (change : EndChange) : Prop :=
  change.isNew = true →
    s.registry.owners[CapabilityName.ofEnd change.owner]? = none ∧ s.Spacious

theorem Admits.whole (admits : s.Admits change) (hops : change.value.hops = [hop]) :
    s.Whole change (s.applyEnd change) := by
  cases new : change.isNew with
  | false =>
    rw [applyEnd_old new hops]
    exact .replaced new
  | true =>
    obtain ⟨free, ⟨n, number⟩, next, index⟩ := admits new
    have stored := applyEnd_of_number new hops number
    simp only [Registry.create, free, index] at stored
    obtain ⟨cap, given, creates⟩ := creates_of_applyEnd new hops stored
    rw [stored, given]
    exact .created new hops creates

theorem admits_of_whole (hops : change.value.hops = [hop])
    (whole : s.Whole change (s.applyEnd change)) : s.Admits change := by
  intro new
  cases number : Word.add? s.created 1 with
  | none => exact absurd (applyEnd_of_no_number new hops number) whole.fits
  | some n =>
    have stored := applyEnd_of_number new hops number
    cases made : s.registry.create (.ofEnd change.owner) with
    | error f =>
      rw [stored, made] at whole
      exact absurd whole (strands_withNewEnd number).not_whole
    | ok given =>
      obtain ⟨free, -, index, -⟩ := Registry.create_eq_ok.1 made
      exact ⟨free, ⟨n, number⟩, _, index⟩

end ChannelStore

/-- On every host, the result of a handshake step is stored as a whole or not at all just where a
new end finds its name free and its numbers can be counted on from. -/
theorem Handshake.Yields.whole_iff [Digest] {h : Host} {change : EndChange}
    (yields : Yields h change) :
    h.store.Whole change (h.store.applyEnd change) ↔ h.store.Admits change := by
  obtain ⟨hop, hops⟩ := yields.exists_hop
  exact ⟨ChannelStore.admits_of_whole hops, fun admits => admits.whole hops⟩

namespace Passage

/-- A store without channels in which somebody took the name of the first end. -/
def claimed : ChannelStore :=
  { ChannelStore.empty with registry := ⟨1, (∅ : Map CapabilityName UInt64).insert (.ofEnd owner) 0⟩ }

theorem yields_proposed [Digest] {s : ChannelStore} (first : s.created = 0) :
    Handshake.Yields (hostOf 1 none s) ⟨owner, true, proposed .unordered "ics20-1"⟩ := by
  have step : Handshake.step (hostOf 1 none s) (.openInit (openInit .unordered "ics20-1")) =
      .ok ⟨⟨owner, true, proposed .unordered "ics20-1"⟩, [Handshake.freshLine owner],
        [Handshake.event .openInit owner hop ⟨port, none⟩]⟩ := by
    have fresh : Handshake.freshEnd (hostOf 1 none s) port = owner := by
      rw [Handshake.freshEnd, show (hostOf 1 none s).store = s from rfl, first]
      rfl
    rw [← fresh]
    exact Handshake.step_eq_ok.2 (.openInit (Site.openConnection_host rfl) rfl rfl)
  exact .relayed "" step

end Passage

/-- The first proposal is stored as a whole on a new host, and left half done on one where the name
of its end was taken. -/
theorem Handshake.Yields.whole_iff_proposed :
    letI : Digest := .plain
    let change : EndChange := ⟨Passage.owner, true, Passage.proposed .unordered "ics20-1"⟩
    ChannelStore.empty.Whole change (ChannelStore.empty.applyEnd change) ∧
      ¬ Passage.claimed.Whole change (Passage.claimed.applyEnd change) := by
  let _ : Digest := .plain
  constructor
  · refine (whole_iff (Passage.yields_proposed (s := .empty) rfl)).2 fun _ => ⟨?_, ?_⟩
    · simp [ChannelStore.empty, Registry.empty, Passage.hostOf]
    · exact ⟨⟨1, rfl⟩, 1, rfl⟩
  · intro whole
    obtain ⟨free, -⟩ := (whole_iff (Passage.yields_proposed (s := Passage.claimed) rfl)).1 whole rfl
    simp [Passage.claimed, Passage.hostOf] at free

end Crosschain
