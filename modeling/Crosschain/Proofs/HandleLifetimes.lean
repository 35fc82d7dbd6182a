import Crosschain.Proofs.Ownership
import Mathlib.Data.Nat.Count

/-!
# How long a handle is good for

A handle is a bare index, and the registry hands out copies of it to whoever asks for its name. What
makes it good for one name and one lifetime is the history: each index is given out once, to one
name, and no name gets an index back that it lost. So a handle is authentic under the name it was
obtained for until the name is freed, and never again under any name.
-/

namespace Crosschain

namespace Registry

/-! ### One request -/

/-- What a registry is asked for. -/
inductive Request
  | create (name : CapabilityName)
  | get (name : CapabilityName)
  | authenticate (name : CapabilityName) (cap : Capability)
  | release (name : CapabilityName) (cap : Capability)

/-- The answer to a request, with a handle if one is asked for, and the registry after it. -/
def serve (r : Registry) : Request → Except (Fault PortError) (Option Capability) × Registry
  | .create name =>
    match r.create name with
    | .ok (cap, r') => (.ok (some cap), r')
    | .error f => (.error f, r)
  | .get name => (Fault.lift ((r.get name).map some), r)
  | .authenticate name cap => (Fault.lift ((r.authenticate name cap).map fun _ => none), r)
  | .release name cap =>
    match r.release name cap with
    | .ok r' => (.ok none, r')
    | .error e => (.error (.refused e), r)

/-- A request gives a new handle to a name. -/
def Mints (r : Registry) (q : Request) (name : CapabilityName) (cap : Capability) : Prop :=
  q = .create name ∧ (r.serve q).1 = .ok (some cap)

/-- A request frees a name. -/
def Frees (r : Registry) (q : Request) (name : CapabilityName) : Prop :=
  (∃ cap, q = .release name cap) ∧ (r.serve q).1 = .ok none

/-- A request yields a handle for a name: a new one, or a copy of the one that owns it. -/
def Grants (r : Registry) (q : Request) (name : CapabilityName) (cap : Capability) : Prop :=
  (q = .create name ∨ q = .get name) ∧ (r.serve q).1 = .ok (some cap)

variable {r : Registry} {q : Request} {name : CapabilityName} {cap : Capability} {i : UInt64}

theorem authenticate_eq_ok {u : Unit} :
    r.authenticate name cap = .ok u ↔ r.owners[name]? = some cap.index := by
  unfold authenticate owns
  split <;> simp_all

theorem serve_get : (r.serve (.get name)).1 = .ok (some cap) ↔
    r.owners[name]? = some cap.index := by
  obtain ⟨i⟩ := cap
  simp only [serve, Fault.lift_eq_ok, get]
  split
  next index taken => simp [Except.map, taken]
  next free => simp [Except.map, free]

/-- A request mints a handle, or frees a name, or changes nothing. -/
theorem serve_cases (r : Registry) (q : Request) :
    (∃ name cap r', q = .create name ∧ r.create name = .ok (cap, r') ∧
      r.serve q = (.ok (some cap), r')) ∨
    (∃ name cap, q = .release name cap ∧ r.owners[name]? = some cap.index ∧
      r.serve q = (.ok none, { r with owners := r.owners.erase name })) ∨
    ((r.serve q).2 = r ∧ (∀ name cap, ¬ r.Mints q name cap) ∧ ∀ name, ¬ r.Frees q name) := by
  cases q with
  | create name =>
    cases made : r.create name with
    | ok given =>
      obtain ⟨cap, r'⟩ := given
      exact .inl ⟨name, cap, r', rfl, made, by simp only [serve, made]⟩
    | error f =>
      refine .inr (.inr ⟨by simp only [serve, made], ?_, ?_⟩)
      · rintro other cap ⟨-, ok⟩
        simp only [serve, made] at ok
        cases ok
      · rintro other ⟨⟨cap, ⟨⟩⟩, -⟩
  | get name =>
    refine .inr (.inr ⟨rfl, ?_, ?_⟩)
    · rintro other cap ⟨⟨⟩, -⟩
    · rintro other ⟨⟨cap, ⟨⟩⟩, -⟩
  | authenticate name cap =>
    refine .inr (.inr ⟨rfl, ?_, ?_⟩)
    · rintro other cap ⟨⟨⟩, -⟩
    · rintro other ⟨⟨cap, ⟨⟩⟩, -⟩
  | release name cap =>
    cases owned : r.authenticate name cap with
    | ok u =>
      refine .inr (.inl ⟨name, cap, rfl, authenticate_eq_ok.1 owned, ?_⟩)
      simp only [serve, release, owned, Except.map]
    | error e =>
      refine .inr (.inr ⟨by simp only [serve, release, owned, Except.map], ?_, ?_⟩)
      · rintro other cap ⟨⟨⟩, -⟩
      · rintro other ⟨-, ok⟩
        simp only [serve, release, owned, Except.map] at ok
        cases ok

theorem serve_of_error {f : Fault PortError} (failed : (r.serve q).1 = .error f) :
    (r.serve q).2 = r := by
  obtain ⟨name, cap, r', -, -, done⟩ | ⟨name, cap, -, -, done⟩ | ⟨same, -⟩ := r.serve_cases q
  · rw [done] at failed
    cases failed
  · rw [done] at failed
    cases failed
  · exact same

theorem getElem?_serve : (r.serve q).2.owners[name]? = some i ↔
    r.Mints q name ⟨i⟩ ∨ r.owners[name]? = some i ∧ ¬ r.Frees q name := by
  obtain ⟨other, cap, r', rfl, made, done⟩ | ⟨other, cap, rfl, owned, done⟩ | ⟨same, mints, frees⟩ :=
    r.serve_cases q
  · obtain ⟨free, rfl, -, owners⟩ := create_eq_ok.1 made
    have keeps : ¬ r.Frees (.create other) name := by rintro ⟨⟨cap, ⟨⟩⟩, -⟩
    simp only [Mints, keeps, done, owners, Std.ExtTreeMap.getElem?_insert]
    by_cases same : other = name
    · subst same
      simp [free]
    · simp [same]
  · have mints : ¬ r.Mints (.release other cap) name ⟨i⟩ := by rintro ⟨⟨⟩, -⟩
    simp only [Frees, mints, done, Std.ExtTreeMap.getElem?_erase]
    by_cases same : other = name
    · subst same
      simp
    · simp [same]
  · rw [same]
    simp [mints, frees]

theorem Mints.index (mints : r.Mints q name cap) :
    cap.index = r.nextIndex ∧ cap.index < (r.serve q).2.nextIndex := by
  obtain ⟨rfl, ok⟩ := mints
  simp only [serve] at ok ⊢
  split at ok
  next made =>
    cases ok
    obtain ⟨-, rfl, sum, -⟩ := create_eq_ok.1 made
    exact ⟨rfl, Word.lt_of_add?_one sum⟩
  · cases ok

theorem nextIndex_serve_le : r.nextIndex ≤ (r.serve q).2.nextIndex := by
  obtain ⟨name, cap, r', -, made, done⟩ | ⟨name, cap, -, -, done⟩ | ⟨same, -⟩ := r.serve_cases q
  · obtain ⟨-, -, sum, -⟩ := create_eq_ok.1 made
    rw [done]
    exact UInt64.le_of_lt (Word.lt_of_add?_one sum)
  · rw [done]
    exact UInt64.le_refl _
  · rw [same]
    exact UInt64.le_refl _

/-! ### Requests one after the other -/

/-- The registry after the first requests of a sequence, on one that started empty. The sequence is
endless, so that its beginnings are all the finite ones. -/
def after (q : Nat → Request) : Nat → Registry
  | 0 => .empty
  | n + 1 => ((after q n).serve (q n)).2

/-- A name has an owner before a request: it was given a handle and was not freed since. -/
def Taken (q : Nat → Request) (n : Nat) (name : CapabilityName) : Prop :=
  ∃ k < n, (∃ cap, (after q k).Mints (q k) name cap) ∧
    ∀ j, k < j → j < n → ¬ (after q j).Frees (q j) name

/-- Whether a request is to give a name its handle, and the name is free. -/
def creates (r : Registry) : Request → Bool
  | .create name => r.owners[name]?.isNone
  | _ => false

theorem exists_mints {r : Registry} {name : CapabilityName} (free : r.owners[name]? = none)
    (room : r.nextIndex.toNat + 1 < UInt64.size) : ∃ cap, r.Mints (.create name) name cap := by
  have sum : Word.add? r.nextIndex 1 = some (r.nextIndex + 1) := if_pos room
  exact ⟨⟨r.nextIndex⟩, rfl, by simp only [serve, create, free, sum]⟩

/-- How many handles were created by the first requests. -/
def creations (q : Nat → Request) (n : Nat) : Nat := Nat.count (fun k => (after q k).creates (q k)) n

section Sequences

variable {q : Nat → Request} {k m n : Nat} {name other : CapabilityName} {cap : Capability}
  {i : UInt64}

/-- The owner of a name is the last handle that was minted for it, unless it was freed since. -/
theorem getElem?_after : (after q n).owners[name]? = some i ↔
    ∃ k < n, (after q k).Mints (q k) name ⟨i⟩ ∧
      ∀ j, k < j → j < n → ¬ (after q j).Frees (q j) name := by
  induction n with
  | zero => simp [after, empty]
  | succ n ih =>
    rw [after, getElem?_serve, ih]
    constructor
    · rintro (mints | ⟨⟨k, before, mints, kept⟩, keeps⟩)
      · exact ⟨n, Nat.lt_succ_self n, mints, fun j later earlier => by omega⟩
      · refine ⟨k, Nat.lt_succ_of_lt before, mints, fun j later earlier => ?_⟩
        obtain earlier | rfl := Nat.lt_succ_iff_lt_or_eq.1 earlier
        · exact kept j later earlier
        · exact keeps
    · rintro ⟨k, before, mints, kept⟩
      obtain before | rfl := Nat.lt_succ_iff_lt_or_eq.1 before
      · exact .inr ⟨⟨k, before, mints, fun j later earlier =>
          kept j later (Nat.lt_succ_of_lt earlier)⟩, kept n before (Nat.lt_succ_self n)⟩
      · exact .inl mints

theorem taken_iff : Taken q n name ↔ ∃ i, (after q n).owners[name]? = some i := by
  simp only [Taken, getElem?_after]
  constructor
  · rintro ⟨k, before, ⟨⟨i⟩, mints⟩, kept⟩
    exact ⟨i, k, before, mints, kept⟩
  · rintro ⟨i, k, before, mints, kept⟩
    exact ⟨k, before, ⟨⟨i⟩, mints⟩, kept⟩

theorem nextIndex_after_mono (le : m ≤ n) : (after q m).nextIndex ≤ (after q n).nextIndex := by
  induction n, le using Nat.le_induction with
  | base => exact UInt64.le_refl _
  | succ n le ih => exact UInt64.le_trans ih nextIndex_serve_le

theorem mint_unique (first : (after q k).Mints (q k) name cap)
    (second : (after q m).Mints (q m) other cap) : k = m ∧ name = other := by
  -- A minted index is below the counter from then on, and a new one is not.
  have apart {a b : Nat} {x y : CapabilityName} (sooner : (after q a).Mints (q a) x cap)
      (later : (after q b).Mints (q b) y cap) : ¬ a < b := by
    intro before
    have below : cap.index < (after q (a + 1)).nextIndex := sooner.index.2
    have used : (after q (a + 1)).nextIndex ≤ cap.index :=
      later.index.1 ▸ nextIndex_after_mono before
    exact UInt64.lt_irrefl _ (UInt64.lt_of_lt_of_le below used)
  obtain rfl : k = m := by
    have := apart first second
    have := apart second first
    omega
  exact ⟨rfl, Request.create.inj (first.1.symm.trans second.1)⟩

theorem exists_mint (grants : (after q k).Grants (q k) name cap) :
    ∃ a ≤ k, (after q a).Mints (q a) name cap ∧
      ∀ j, a < j → j ≤ k → ¬ (after q j).Frees (q j) name := by
  obtain ⟨create | get, ok⟩ := grants
  · exact ⟨k, Nat.le_refl k, ⟨create, ok⟩, fun j later earlier => by omega⟩
  · rw [get, serve_get, getElem?_after] at ok
    obtain ⟨a, before, mints, kept⟩ := ok
    refine ⟨a, Nat.le_of_lt before, mints, fun j later earlier => ?_⟩
    obtain earlier | rfl := Nat.lt_or_eq_of_le earlier
    · exact kept j later earlier
    · rintro ⟨⟨cap, release⟩, -⟩
      rw [get] at release
      cases release

theorem creations_succ : creations q (n + 1) =
    creations q n + if (after q n).creates (q n) then 1 else 0 := Nat.count_succ _ n

theorem creations_mono (le : m ≤ n) : creations q m ≤ creations q n := Nat.count_monotone _ le

theorem nextIndex_after (few : creations q n < UInt64.size) :
    (after q n).nextIndex.toNat = creations q n := by
  induction n with
  | zero => rfl
  | succ n ih =>
    rw [creations_succ] at few ⊢
    have before := ih (by omega)
    rw [after]
    obtain ⟨name, cap, r', asked, made, done⟩ | ⟨name, cap, asked, -, done⟩ | ⟨same, mints, -⟩ :=
      (after q n).serve_cases (q n)
    · obtain ⟨free, -, sum, -⟩ := create_eq_ok.1 made
      rw [done, Word.add?_eq_some_iff.1 sum, before, asked]
      simp [creates, free]
    · rw [done, asked]
      exact before
    · -- A free name would have got its handle.
      have idle : (after q n).creates (q n) = false := by
        by_contra new
        rw [Bool.not_eq_false] at new
        rw [if_pos new] at few
        cases asked : q n with
        | create name =>
          rw [asked, creates, Option.isNone_iff_eq_none] at new
          obtain ⟨cap, minted⟩ := exists_mints new (by omega)
          exact mints name cap (asked ▸ minted)
        | _ => simp [asked, creates] at new
      rw [same, idle, before]
      rfl

/-- Whatever is asked of a registry that started empty, among the first requests, with fewer than
2^64 handles created: a name gets a handle just if it has no owner, and is refused as taken if it
has one; a handle that was obtained for a name is from then on authentic under this name until it is
freed, and afterwards under none, and it is never authentic under another name; and what is refused
changes nothing. -/
theorem handle_lifetimes (few : creations q n < UInt64.size) :
    (∀ k < n, ∀ name, q k = .create name →
      (Taken q k name → ((after q k).serve (q k)).1 =
        .error (.refused (.alreadyTaken name.text))) ∧
      (¬ Taken q k name → ∃ cap, ((after q k).serve (q k)).1 = .ok (some cap))) ∧
    (∀ k < n, ∀ name cap, (after q k).Grants (q k) name cap → ∀ m ≤ n, ∀ other,
      ((after q m).authenticate other cap = .ok () → other = name) ∧
      (k < m → ((after q m).authenticate other cap = .ok () ↔
        other = name ∧ ∀ j, k < j → j < m → ¬ (after q j).Frees (q j) name))) ∧
    ∀ k < n, ∀ f, ((after q k).serve (q k)).1 = .error f → after q (k + 1) = after q k := by
  refine ⟨?_, ?_, fun k _ f failed => serve_of_error failed⟩
  · intro k below name asked
    refine ⟨fun taken => ?_, fun free => ?_⟩
    · obtain ⟨i, owned⟩ := taken_iff.1 taken
      simp only [asked, serve, create, owned]
    · have unowned : (after q k).owners[name]? = none := by
        by_contra owned
        exact free (taken_iff.2 (Option.ne_none_iff_exists'.1 owned))
      -- The creation is among those that were counted, so there is an index for it.
      have counted : creations q (k + 1) = creations q k + 1 := by
        rw [creations_succ, asked]
        simp [creates, unowned]
      have among : creations q (k + 1) ≤ creations q n := creations_mono below
      have room := nextIndex_after (q := q) (n := k) (by omega)
      obtain ⟨cap, -, minted⟩ := exists_mints unowned (by omega)
      exact ⟨cap, asked ▸ minted⟩
  · intro k below name cap grants m _ other
    -- Copies and the original stem from one request, and only that one minted the index.
    obtain ⟨a, before, minted, kept⟩ := exists_mint grants
    simp only [authenticate_eq_ok, getElem?_after]
    refine ⟨?_, fun later => ⟨?_, ?_⟩⟩
    · rintro ⟨b, -, minted', -⟩
      exact (mint_unique minted' minted).2
    · rintro ⟨b, -, minted', kept'⟩
      obtain ⟨rfl, rfl⟩ := mint_unique minted' minted
      exact ⟨rfl, fun j after before => kept' j (by omega) before⟩
    · rintro ⟨rfl, kept'⟩
      refine ⟨a, by omega, minted, fun j after before => ?_⟩
      obtain le | lt := le_or_gt j k
      · exact kept j after le
      · exact kept' j lt before

end Sequences

/-- A name is taken, its handle is copied, the name is freed and taken again. -/
def renewal : Nat → Request
  | 0 => .create ⟨"a"⟩
  | 1 => .get ⟨"a"⟩
  | 2 => .release ⟨"a"⟩ ⟨0⟩
  | 3 => .create ⟨"a"⟩
  | _ => .create ⟨"b"⟩

/-- The copy is good until its name is freed, and not any more when the name has a new owner. -/
theorem handle_lifetimes_renewal : creations renewal 5 = 3 ∧
    (after renewal 2).authenticate ⟨"a"⟩ ⟨0⟩ = .ok () ∧
    (∀ name, (after renewal 5).authenticate name ⟨0⟩ ≠ .ok ()) ∧
    ∃ cap, ((after renewal 3).serve (renewal 3)).1 = .ok (some cap) := by
  have counted : creations renewal 5 = 3 := by decide
  have few : creations renewal 5 < UInt64.size := by
    rw [counted]
    decide
  obtain ⟨created, lives, -⟩ := handle_lifetimes few
  have copied : (after renewal 1).Grants (renewal 1) ⟨"a"⟩ ⟨0⟩ := ⟨.inr rfl, rfl⟩
  have freed : (after renewal 2).Frees (renewal 2) ⟨"a"⟩ := ⟨⟨⟨0⟩, rfl⟩, rfl⟩
  have life := lives 1 (by decide) ⟨"a"⟩ ⟨0⟩ copied
  refine ⟨counted, ?_, ?_, ?_⟩
  · exact ((life 2 (by decide) ⟨"a"⟩).2 (by decide)).2 ⟨rfl, fun j _ _ => by omega⟩
  · intro name authentic
    exact (((life 5 (by decide) name).2 (by decide)).1 authentic).2 2 (by decide) (by decide) freed
  · refine (created 3 (by decide) ⟨"a"⟩ rfl).2 fun taken => ?_
    obtain ⟨i, owned⟩ := taken_iff.1 taken
    have free : (after renewal 3).owners[CapabilityName.mk "a"]? = none := rfl
    rw [free] at owned
    cases owned

end Registry

end Crosschain
