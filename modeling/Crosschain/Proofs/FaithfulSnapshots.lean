import Crosschain.Proofs.Sites

/-!
# Snapshots are faithful

All that a host keeps is laid out in one snapshot, under keys that are texts of paths. The rules for
identifiers keep the paths apart, so the snapshot of a host answers the key of each path with the
encoding of what the host keeps under the path, or with nothing where it keeps nothing, and it has
no other key.
-/

namespace Crosschain

/-! ### Names that keep the rules -/

/-- The text of an identifier keeps the rules for its kind. -/
def Identifier.Accepted {k : IdKind} (i : Identifier k) : Prop := ofText k i.text = .ok i

instance {k : IdKind} (i : Identifier k) : Decidable i.Accepted :=
  inferInstanceAs (Decidable (Identifier.ofText k i.text = .ok i))

structure EndId.Accepted (e : EndId) : Prop where
  port : e.port.Accepted
  channel : e.channel.Accepted

theorem EndId.Accepted.clean {e : EndId} (accepted : e.Accepted) : e.Clean :=
  ⟨Identifier.slash_notMem_of_ofText accepted.port,
    Identifier.slash_notMem_of_ofText accepted.channel⟩

namespace Path

def Accepted : Path → Prop
  | .connection id => id.Accepted
  | .channelEnd e | .nextSend e | .nextRecv e | .nextAck e | .upgrade e | .upgradeError e
  | .capability e => e.Accepted
  | .commitment s | .acknowledgement s | .receipt s => s.owner.Accepted

theorem Accepted.clean {p : Path} (accepted : p.Accepted) : p.Clean := by
  cases p with
  | connection id => trivial
  | _ => exact EndId.Accepted.clean accepted

end Path

namespace Host

variable {h : Host}

/-- Whatever a host keeps and commits to, it keeps for names that keep the rules. -/
structure Named (h : Host) : Prop where
  connections : ∀ id ∈ h.connections, id.Accepted
  ends : ∀ e ∈ h.store.ends, e.Accepted
  nextSend : ∀ e ∈ h.store.nextSend, e.Accepted
  nextRecv : ∀ e ∈ h.store.nextRecv, e.Accepted
  nextAck : ∀ e ∈ h.store.nextAck, e.Accepted
  commitments : ∀ s ∈ h.store.commitments, s.owner.Accepted
  receipts : ∀ s ∈ h.store.receipts, s.owner.Accepted
  acknowledgements : ∀ s ∈ h.store.acknowledgements, s.owner.Accepted
  upgrades : ∀ e ∈ h.store.upgrades, e.Accepted
  errorReceipts : ∀ e ∈ h.store.errorReceipts, e.Accepted

theorem Named.accepted (named : h.Named) {p : Path} {v : Bytes}
    (kept : h.provableAt? p = some v) : p.Accepted := by
  have mem {κ α : Type} [Ord κ] [Std.TransOrd κ] [Std.LawfulEqOrd κ] {m : Map κ α} {k : κ}
      {f : α → Bytes} (value : m[k]?.map f = some v) : k ∈ m := by
    obtain ⟨a, there, -⟩ := Option.map_eq_some_iff.1 value
    exact Std.ExtTreeMap.mem_iff_isSome_getElem?.2 (by rw [there]; rfl)
  have mem_bytes {m : Map Slot Bytes} {s : Slot} (there : m[s]? = some v) : s ∈ m :=
    Std.ExtTreeMap.mem_iff_isSome_getElem?.2 (by rw [there]; rfl)
  cases p with
  | connection id => exact named.connections id (mem kept)
  | channelEnd e => exact named.ends e (mem kept)
  | nextSend e => exact named.nextSend e (mem kept)
  | nextRecv e => exact named.nextRecv e (mem kept)
  | nextAck e => exact named.nextAck e (mem kept)
  | commitment s => exact named.commitments s (mem_bytes kept)
  | receipt s => exact named.receipts s (mem kept)
  | acknowledgement s => exact named.acknowledgements s (mem_bytes kept)
  | upgrade e => exact named.upgrades e (mem kept)
  | upgradeError e => exact named.errorReceipts e (mem kept)
  | capability e => cases kept

theorem Named.clean (named : h.Named) : h.Clean := fun _ _ kept => (named.accepted kept).clean

theorem isProvable_of_provableAt? {p : Path} {v : Bytes} (kept : h.provableAt? p = some v) :
    p.isProvable = true := by
  cases p with
  | capability e => cases kept
  | _ => rfl

/-! ### Keys of a snapshot -/

theorem exists_path_of_get?_snapshot {key : String} {v : Bytes}
    (there : h.snapshot.get? key = some v) :
    ∃ p w, h.provableAt? p = some w ∧ StorePrefix.default.key p = key := by
  by_contra missing
  have free : h.snapshot.get? key = none := by
    rw [Snapshot.get?, entries_snapshot, getElem?_filled_of_none]
    · simp
    · intro e mem same
      exact missing ⟨e.1, e.2, mem_provable_iff.1 mem, same⟩
  rw [there] at free
  cases free

/-- The snapshot of a host whose names keep the rules is the host's provable values under the keys
of their paths, and no other path has the text of a path whose names keep the rules. -/
theorem snapshot_faithful (named : h.Named) :
    (∀ p : Path, h.snapshot.get? (StorePrefix.default.key p) = h.provableAt? p) ∧
    (∀ key v, h.snapshot.get? key = some v → ∃ p : Path, p.Accepted ∧ p.isProvable ∧
      key = StorePrefix.default.key p ∧ h.provableAt? p = some v) ∧
    ∀ p q : Path, p.Accepted → p.text = q.text → p = q := by
  refine ⟨get?_snapshot named.clean, ?_, fun p q accepted => Path.text_injective accepted.clean⟩
  intro key v there
  obtain ⟨p, w, kept, rfl⟩ := exists_path_of_get?_snapshot there
  rw [get?_snapshot named.clean] at there
  exact ⟨p, named.accepted there, isProvable_of_provableAt? there, rfl, there⟩

/-- A host whose names hold marks and letters of several scripts, with an end and the receipt of the
last packet that an end can have. -/
theorem snapshot_faithful_scripts :
    let e : EndId := ⟨⟨"pört.[1]<+>"⟩, ⟨"κανάλι-#_0"⟩⟩
    let x : ChannelEnd := .ofParts .opened .unordered (.ofEnd e) [.connection 0] "v\"1\n"
    let last : Slot := ⟨e, 18446744073709551615⟩
    let h : Host := { Host.atHeight ⟨0, 5⟩ with store := { ChannelStore.empty with
      ends := .single e (some x), receipts := .single last (some ()) } }
    h.Named ∧
      h.snapshot.get? (StorePrefix.default.key (.channelEnd e)) = some x.encode ∧
      h.snapshot.get? (StorePrefix.default.key (.receipt last)) = some Commitment.receiptMark ∧
      h.snapshot.get? (StorePrefix.default.key (.acknowledgement last)) = none ∧
      ∀ q : Path, q.text = (Path.receipt last).text → q = .receipt last := by
  intro e x last h
  have accepted : e.Accepted := ⟨by decide +kernel, by decide +kernel⟩
  have named : h.Named := by
    constructor
    all_goals simp [h, Host.atHeight, ChannelStore.empty, Map.single, accepted, last]
  obtain ⟨answers, -, apart⟩ := snapshot_faithful named
  refine ⟨named, ?_, ?_, ?_, fun q same => (apart (.receipt last) q accepted same.symm).symm⟩
  · rw [answers]
    simp [provableAt?, h]
  · rw [answers]
    simp [provableAt?, h]
  · rw [answers]
    simp [provableAt?, h, ChannelStore.empty]

end Host

end Crosschain
