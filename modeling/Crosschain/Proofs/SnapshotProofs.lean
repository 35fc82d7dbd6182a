import Crosschain.Proofs.Plays

/-!
# What a proof opens

A proof opens a root to a snapshot when it has the hash of the root and spells the snapshot. So as
long as no two of the byte strings at hand have one hash, the root of a snapshot is opened by the
bytes of this snapshot alone, to this snapshot alone: values that are kept are shown, values that
are not kept are not, and nothing can be shown both ways.
-/

namespace Crosschain

namespace StateProof

variable [Digest] {p q : StateProof} {root : StateRoot} {s t : Snapshot} {label : StorePrefix}
  {path : Path} {value : Bytes}

/-! ### Opening a root -/

theorem opened_eq_ok_iff :
    p.opened root = .ok s ↔
      Digest.hash p.bytes = root.bytes ∧ Snapshot.decode? p.bytes = some s := by
  unfold opened
  split
  next other => simp [other]
  next same =>
    have hash : Digest.hash p.bytes = root.bytes := not_not.1 same
    cases Snapshot.decode? p.bytes <;> simp [hash]

/-- The root of a snapshot is opened by the bytes of the snapshot and by no others. -/
theorem opened_root_iff (free : Digest.InjectiveOn fun b => b = p.bytes ∨ b = s.encode) :
    p.opened s.root = .ok t ↔ p = s.proof ∧ t = s := by
  rw [opened_eq_ok_iff]
  constructor
  · rintro ⟨hash, spelled⟩
    have bytes : p.bytes = s.encode := free _ _ (.inl rfl) (.inr rfl) hash
    rw [bytes, Snapshot.decode?_encode] at spelled
    refine ⟨?_, (Option.some.inj spelled).symm⟩
    cases p
    exact congrArg StateProof.mk bytes
  · rintro ⟨rfl, rfl⟩
    exact ⟨rfl, Snapshot.decode?_encode t⟩

theorem opened_unique (free : Digest.InjectiveOn fun b => b = p.bytes ∨ b = q.bytes)
    (first : p.opened root = .ok s) (second : q.opened root = .ok t) : s = t := by
  obtain ⟨hash, spelled⟩ := opened_eq_ok_iff.1 first
  obtain ⟨hash', spelled'⟩ := opened_eq_ok_iff.1 second
  have same : p.bytes = q.bytes := free _ _ (.inl rfl) (.inr rfl) (hash.trans hash'.symm)
  rw [same, spelled'] at spelled
  exact (Option.some.inj spelled).symm

/-! ### Showing what is kept -/

theorem showsValue_eq_ok_iff :
    p.showsValue root label path value = .ok () ↔
      ∃ s, p.opened root = .ok s ∧ s.get? (label.key path) = some value := by
  unfold showsValue
  cases p.opened root with
  | error e => simp [bind, Except.bind]
  | ok s => simp [bind, Except.bind]

theorem showsAbsence_eq_ok_iff :
    p.showsAbsence root label path = .ok () ↔
      ∃ s, p.opened root = .ok s ∧ s.get? (label.key path) = none := by
  unfold showsAbsence
  cases p.opened root with
  | error e => simp [bind, Except.bind]
  | ok s => simp [bind, Except.bind]

/-- The bytes of a snapshot, and no others, say under a key what the snapshot keeps there. -/
theorem exists_opened_root_iff {kept : Option Bytes} {key : String}
    (free : Digest.InjectiveOn fun b => b = p.bytes ∨ b = s.encode) :
    (∃ t, p.opened s.root = .ok t ∧ t.get? key = kept) ↔ p = s.proof ∧ s.get? key = kept := by
  constructor
  · rintro ⟨t, opened, found⟩
    obtain ⟨own, rfl⟩ := (opened_root_iff free).1 opened
    exact ⟨own, found⟩
  · rintro ⟨own, found⟩
    exact ⟨s, (opened_root_iff free).2 ⟨own, rfl⟩, found⟩

end StateProof

namespace Snapshot

/-- A snapshot is read back from its bytes. Its root shows a value, or none, under a key just when
the bytes of the snapshot are the proof and the snapshot keeps this value, or none. No root shows a
value and none, or two values, under one key. -/
theorem proofs_exact [Digest] :
    (∀ s : Snapshot, decode? s.encode = some s) ∧
    (∀ (s : Snapshot) (p : StateProof) (label : StorePrefix) (path : Path),
      Digest.InjectiveOn (fun b => b = p.bytes ∨ b = s.encode) →
        (∀ value, p.showsValue s.root label path value = .ok () ↔
          p = s.proof ∧ s.get? (label.key path) = some value) ∧
        (p.showsAbsence s.root label path = .ok () ↔
          p = s.proof ∧ s.get? (label.key path) = none)) ∧
    ∀ (root : StateRoot) (p q : StateProof) (label : StorePrefix) (path : Path) (value : Bytes),
      Digest.InjectiveOn (fun b => b = p.bytes ∨ b = q.bytes) →
        p.showsValue root label path value = .ok () →
          q.showsAbsence root label path ≠ .ok () ∧
          ∀ other, q.showsValue root label path other = .ok () → other = value := by
  refine ⟨decode?_encode, ?_, ?_⟩
  · intro s p label path free
    constructor
    · intro value
      exact StateProof.showsValue_eq_ok_iff.trans (StateProof.exists_opened_root_iff free)
    · exact StateProof.showsAbsence_eq_ok_iff.trans (StateProof.exists_opened_root_iff free)
  · intro root p q label path value free shown
    obtain ⟨s, opened, kept⟩ := StateProof.showsValue_eq_ok_iff.1 shown
    constructor
    · intro absent
      obtain ⟨t, opened', missing⟩ := StateProof.showsAbsence_eq_ok_iff.1 absent
      rw [← StateProof.opened_unique free opened opened', kept] at missing
      cases missing
    · intro other shown'
      obtain ⟨t, opened', kept'⟩ := StateProof.showsValue_eq_ok_iff.1 shown'
      rw [← StateProof.opened_unique free opened opened', kept] at kept'
      exact (Option.some.inj kept').symm

/-- The snapshot of a chain with one value, whose bytes show this value, no other value and nothing
else, and to which the bytes of the empty snapshot say nothing. -/
theorem proofs_exact_single :
    let _ : Digest := .plain
    let here : Path := .connection (.connection 0)
    let there : Path := .connection (.connection 1)
    let s := empty.insert .default here [7]
    s.proof.showsValue s.root .default here [7] = .ok () ∧
      s.proof.showsValue s.root .default here [8] ≠ .ok () ∧
      s.proof.showsAbsence s.root .default there = .ok () ∧
      empty.proof.showsAbsence s.root .default there ≠ .ok () := by
  intro _ here there s
  have kept : s.get? (StorePrefix.default.key here) = some [7] :=
    Std.ExtTreeMap.getElem?_insert_self
  have free : s.get? (StorePrefix.default.key there) = none := by
    have apart : StorePrefix.default.key here ≠ StorePrefix.default.key there := fun same => by
      have text := StorePrefix.key_injective (p := here) trivial same
      exact absurd text (by decide)
    simp [s, get?, insert, empty, apart]
  obtain ⟨-, told, unique⟩ := proofs_exact
  obtain ⟨shows, misses⟩ := told s s.proof .default here (Digest.injectiveOn_plain _)
  obtain ⟨-, absent⟩ := told s s.proof .default there (Digest.injectiveOn_plain _)
  obtain ⟨-, foreign⟩ := told s empty.proof .default there (Digest.injectiveOn_plain _)
  have first := (shows [7]).2 ⟨rfl, kept⟩
  refine ⟨first, fun second => ?_, absent.2 ⟨rfl, free⟩, fun shown => ?_⟩
  · have only := unique s.root s.proof s.proof .default here [7] (Digest.injectiveOn_plain _) first
    exact absurd (only.2 [8] second) (by decide)
  · have bytes : empty.encode = s.encode := congrArg StateProof.bytes (foreign.1 shown).1
    have read := decode?_encode empty
    rw [bytes, decode?_encode] at read
    rw [Option.some.inj read] at kept
    simp [get?, empty] at kept

end Snapshot

end Crosschain
