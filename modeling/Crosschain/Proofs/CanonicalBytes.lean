import Crosschain.Proofs.InstantTexts
import Crosschain.Proofs.Sites
import Crosschain.Proofs.SnapshotProofs

/-!
# A proven value is the stored value

Ends, upgrades and error receipts are known by the bytes they are committed as. So when a proof
shows the bytes of an expected value to be what the other chain holds for the peer of an end, the
other chain stores this very value.
-/

namespace Crosschain

open Json

/-! ### Deadlines -/

theorem Height.toJson_injective {a b : Height} (h : a.toJson = b.toJson) : a = b := by
  obtain ⟨r, n⟩ := a
  obtain ⟨r', n'⟩ := b
  simp only [toJson, obj, List.map_cons, List.map_nil, Json.object.injEq, List.cons.injEq,
    Prod.mk.injEq, true_and, and_true] at h
  rw [word_injective h.1, word_injective h.2]

theorem TimeoutHeight.toJson_injective {a b : TimeoutHeight} (h : a.toJson = b.toJson) : a = b := by
  cases a with
  | never =>
    cases b with
    | never => rfl
    | atHeight b => cases h
  | atHeight a =>
    cases b with
    | never => cases h
    | atHeight b =>
      simp only [toJson, obj, List.map_cons, List.map_nil, Json.object.injEq, List.cons.injEq,
        Prod.mk.injEq, true_and, and_true] at h
      rw [Height.toJson_injective h]

namespace Timestamp

/-- The time, if there is one, does not lie in a leap second. -/
def Ordinary (t : Timestamp) : Prop := ∀ i, t.time = some i → i.nanos < Instant.perSecond

theorem ordinary_ofNanoseconds (n : UInt64) : (ofNanoseconds n).Ordinary := by
  intro i time
  unfold ofNanoseconds at time
  split at time
  · cases time
  · rw [← Option.some.inj time]
    exact Nat.mod_lt _ (by decide)

theorem toJson_injective {s t : Timestamp} (hs : s.Ordinary) (ht : t.Ordinary)
    (h : s.toJson = t.toJson) : s = t := by
  obtain ⟨a⟩ := s
  obtain ⟨b⟩ := t
  simp only [toJson, obj, List.map_cons, List.map_nil, Json.object.injEq, List.cons.injEq,
    Prod.mk.injEq, true_and, and_true] at h
  cases a with
  | none =>
    cases b with
    | none => rfl
    | some b => cases h
  | some a =>
    cases b with
    | none => cases h
    | some b => rw [Instant.zuluText_injective (hs a rfl) (ht b rfl) (str_injective h)]

end Timestamp

/-! ### Upgrades -/

/-- The time in the deadline of an upgrade comes from a number of nanoseconds. -/
def Upgrade.Timed (u : Upgrade) : Prop := ∃ n, u.timeout.timestamp = .ofNanoseconds n

/-- All upgrades in a store have a time that comes from a number of nanoseconds. -/
def ChannelStore.KeepsTimed (s : ChannelStore) : Prop :=
  ∀ (e : EndId) (u : Upgrade), s.upgrades[e]? = some u → u.Timed

theorem Upgrade.Timed.ordinary {u : Upgrade} (timed : u.Timed) : u.timeout.timestamp.Ordinary := by
  obtain ⟨n, time⟩ := timed
  rw [time]
  exact Timestamp.ordinary_ofNanoseconds n

theorem Upgrade.encode_injective {u v : Upgrade} (hu : u.Timed) (hv : v.Timed)
    (h : u.encode = v.encode) : u = v := by
  have json := Json.encode_injective u.plain_toJson v.plain_toJson h
  obtain ⟨f, ⟨deadline, time⟩, latest⟩ := u
  obtain ⟨f', ⟨deadline', time'⟩, latest'⟩ := v
  simp only [toJson, UpgradeTimeout.toJson, obj, List.map_cons, List.map_nil, Json.object.injEq,
    List.cons.injEq, Prod.mk.injEq, true_and, and_true] at json
  obtain ⟨fields, ⟨height, timestamp⟩, sequence⟩ := json
  have times : time = time' := Timestamp.toJson_injective hu.ordinary hv.ordinary timestamp
  rw [UpgradeFields.toJson_injective fields, TimeoutHeight.toJson_injective height, times,
    word_injective sequence]

/-! ### Values of the peer -/

namespace Host

variable [Digest] {h g : Host} {c : ConnectionEnd} {x : ChannelEnd} {height : Height}
  {proof : StateProof}

/-- What a host may know of a height over a connection is the root of what another host keeps, under
the label that both chains use. -/
structure Follows (h : Host) (c : ConnectionEnd) (height : Height) (g : Host) : Prop where
  label : c.peer.label = .default
  root : ∀ cs, h.Knows c height cs → cs.root = g.snapshot.root

theorem Follows.of_block {b : Block} (label : c.peer.label = .default)
    (knows : h.Knows c b.height b.header.consensus) (shows : b.snapshot = g.snapshot) :
    h.Follows c b.height g := by
  refine ⟨label, fun cs known => ?_⟩
  rw [Knows.unique known knows, ← shows]
  rfl

/-- A value that is shown for the peer of an end is what the other host keeps for it. -/
theorem provableAt?_of_provesPeerValue {path : EndId → Path} {value : Bytes}
    {f : ClientError → ChannelError} (follows : h.Follows c height g)
    (clean : ∀ e, x.peer = .ofEnd e → (path e).Clean)
    (free : Digest.InjectiveOn fun b => b = proof.bytes ∨ b = g.snapshot.encode)
    (shown : h.provesPeerValue c x height proof path value f = .ok ()) :
    ∃ e, x.peer = .ofEnd e ∧ g.provableAt? (path e) = some value := by
  obtain ⟨cs, e, knows, named, s, opened, kept⟩ := provesPeerValue_eq_ok shown
  rw [follows.root cs knows] at opened
  obtain ⟨-, rfl⟩ := (StateProof.opened_root_iff free).1 opened
  rw [follows.label, get?_snapshot_of_clean (clean e named)] at kept
  exact ⟨e, named, kept⟩

theorem stored_of_provesEnd {y : ChannelEnd} (follows : h.Follows c height g)
    (clean : ∀ e, x.peer = .ofEnd e → e.Clean)
    (free : Digest.InjectiveOn fun b => b = proof.bytes ∨ b = g.snapshot.encode)
    (shown : h.provesEnd c x height proof y = .ok ()) :
    ∃ e, x.peer = .ofEnd e ∧ g.store.ends[e]? = some y := by
  obtain ⟨e, named, kept⟩ := provableAt?_of_provesPeerValue follows clean free shown
  obtain ⟨z, there, bytes⟩ := Option.map_eq_some_iff.1 kept
  rw [ChannelEnd.encode_injective bytes] at there
  exact ⟨e, named, there⟩

theorem stored_of_provesUpgrade {u : Upgrade} (follows : h.Follows c height g)
    (clean : ∀ e, x.peer = .ofEnd e → e.Clean)
    (free : Digest.InjectiveOn fun b => b = proof.bytes ∨ b = g.snapshot.encode)
    (timed : u.Timed) (keptTimed : g.store.KeepsTimed)
    (shown : h.provesUpgrade c x height proof u = .ok ()) :
    ∃ e, x.peer = .ofEnd e ∧ g.store.upgrades[e]? = some u := by
  obtain ⟨e, named, kept⟩ := provableAt?_of_provesPeerValue follows clean free shown
  obtain ⟨v, there, bytes⟩ := Option.map_eq_some_iff.1 kept
  rw [Upgrade.encode_injective (keptTimed e v there) timed bytes] at there
  exact ⟨e, named, there⟩

theorem stored_of_provesReceipt {r : ErrorReceipt} (follows : h.Follows c height g)
    (clean : ∀ e, x.peer = .ofEnd e → e.Clean)
    (free : Digest.InjectiveOn fun b => b = proof.bytes ∨ b = g.snapshot.encode)
    (shown : h.provesReceipt c x height proof r = .ok ()) :
    ∃ e, x.peer = .ofEnd e ∧ g.store.errorReceipts[e]? = some r := by
  obtain ⟨e, named, kept⟩ := provableAt?_of_provesPeerValue follows clean free shown
  obtain ⟨s, there, bytes⟩ := Option.map_eq_some_iff.1 kept
  rw [ErrorReceipt.encode_injective bytes] at there
  exact ⟨e, named, there⟩

end Host

/-- Ends, upgrades with a time in nanoseconds and error receipts are known by their bytes. So a
proof for the peer of an end that is accepted shows what the other chain stores, as it stores it. -/
theorem Host.proven_value_exact :
    (∀ a b : ChannelEnd, a.encode = b.encode → a = b) ∧
    (∀ u v : Upgrade, u.Timed → v.Timed → u.encode = v.encode → u = v) ∧
    (∀ r s : ErrorReceipt, r.encode = s.encode → r = s) ∧
    ∀ [Digest] (h g : Host) (c : ConnectionEnd) (x : ChannelEnd) (height : Height)
      (proof : StateProof), h.Follows c height g → (∀ e, x.peer = .ofEnd e → e.Clean) →
      Digest.InjectiveOn (fun b => b = proof.bytes ∨ b = g.snapshot.encode) →
      (∀ y, h.provesEnd c x height proof y = .ok () →
        ∃ e, x.peer = .ofEnd e ∧ g.store.ends[e]? = some y) ∧
      (∀ u : Upgrade, u.Timed → g.store.KeepsTimed →
        h.provesUpgrade c x height proof u = .ok () →
        ∃ e, x.peer = .ofEnd e ∧ g.store.upgrades[e]? = some u) ∧
      ∀ r, h.provesReceipt c x height proof r = .ok () →
        ∃ e, x.peer = .ofEnd e ∧ g.store.errorReceipts[e]? = some r := by
  refine ⟨fun _ _ => ChannelEnd.encode_injective, fun _ _ => Upgrade.encode_injective,
    fun _ _ => ErrorReceipt.encode_injective, ?_⟩
  intro _ h g c x height proof follows clean free
  exact ⟨fun y => stored_of_provesEnd follows clean free,
    fun u => stored_of_provesUpgrade follows clean free,
    fun r => stored_of_provesReceipt follows clean free⟩

/-- A chain whose values hold quotes, a backslash, a control character and several scripts, and a
chain that knows its block: the block's proof is accepted for these values and for no others. -/
theorem Host.proven_value_exact_scripts :
    let _ : Digest := .plain
    let e : EndId := Passage.owner
    let y : ChannelEnd := .ofParts .opened .unordered (.ofEnd e) [Passage.hop] "v\"1\"\\é"
    let u : Upgrade := ⟨⟨.ordered, [Passage.hop], "版\n"⟩, ⟨.never, .ofNanoseconds 1500000000⟩, 3⟩
    let r : ErrorReceipt := ⟨2, "\u0001 нет"⟩
    let g : Host := Passage.hostOf 5 none { ChannelStore.empty with
      ends := .single e (some y), upgrades := .single e (some u),
      errorReceipts := .single e (some r) }
    let b : Block := ⟨⟨0, 5⟩, .ofNanoseconds 7, g.snapshot⟩
    let h : Host := Passage.hostOf 9 (some (.ofHeader b.header)) .empty
    (∀ z, h.provesEnd Passage.connection y b.height b.proof z = .ok () ↔ z = y) ∧
      (∀ v : Upgrade, v.Timed →
        (h.provesUpgrade Passage.connection y b.height b.proof v = .ok () ↔ v = u)) ∧
      ∀ s, h.provesReceipt Passage.connection y b.height b.proof s = .ok () ↔ s = r := by
  intro _ e y u r g b h
  have named : y.peer = .ofEnd e := rfl
  have ends : g.store.ends[e]? = some y := Map.getElem?_single
  have upgrades : g.store.upgrades[e]? = some u := Map.getElem?_single
  have receipts : g.store.errorReceipts[e]? = some r := Map.getElem?_single
  have clean : e.Clean := ⟨by decide, Identifier.slash_notMem_channel 0⟩
  have only {d : EndId} (peer : y.peer = .ofEnd d) : d = e :=
    ChannelPeer.ofEnd_injective (peer.symm.trans named)
  have knows : h.Knows Passage.connection b.height b.header.consensus :=
    ⟨.ofHeader b.header, Map.getElem?_single, rfl, Std.ExtTreeMap.getElem?_insert_self⟩
  have shows : b.snapshot = g.snapshot := by simp only [b]
  have follows : h.Follows Passage.connection b.height g := .of_block rfl knows shows
  have timed : g.store.KeepsTimed := by
    intro d v there
    obtain rfl : d = e := by
      by_contra other
      rw [show g.store.upgrades[d]? = none from
        Map.getElem?_single_of_ne (Ne.symm other)] at there
      cases there
    rw [← Option.some.inj (upgrades.symm.trans there)]
    exact ⟨1500000000, rfl⟩
  have holds (p : Path) (hp : p.Clean) :
      b.snapshot.get? (Passage.connection.peer.label.key p) = g.provableAt? p := by
    rw [shows]
    exact get?_snapshot_of_clean hp
  obtain ⟨-, -, -, exactly⟩ := proven_value_exact
  obtain ⟨forEnd, forUpgrade, forReceipt⟩ := exactly h g Passage.connection y b.height b.proof
    follows (fun d peer => by rw [only peer]; exact clean) (Digest.injectiveOn_plain _)
  refine ⟨fun z => ⟨fun shown => ?_, ?_⟩, fun v ofNumber => ⟨fun shown => ?_, ?_⟩,
    fun s => ⟨fun shown => ?_, ?_⟩⟩
  · obtain ⟨d, peer, there⟩ := forEnd z shown
    rw [only peer, ends] at there
    exact (Option.some.inj there).symm
  · rintro rfl
    refine provesEnd_of_block (b := b) knows named ?_
    rw [holds (.channelEnd e) clean, provableAt?, ends, Option.map_some]
  · obtain ⟨d, peer, there⟩ := forUpgrade v ofNumber timed shown
    rw [only peer, upgrades] at there
    exact (Option.some.inj there).symm
  · rintro rfl
    refine provesUpgrade_of_block (b := b) knows named ?_
    rw [holds (.upgrade e) clean, provableAt?, upgrades, Option.map_some]
  · obtain ⟨d, peer, there⟩ := forReceipt s shown
    rw [only peer, receipts] at there
    exact (Option.some.inj there).symm
  · rintro rfl
    refine provesPeerValue_of_block (b := b) knows named ?_
    rw [holds (.upgradeError e) clean, provableAt?, receipts, Option.map_some]

end Crosschain
