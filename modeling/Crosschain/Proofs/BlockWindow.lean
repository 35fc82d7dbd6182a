import Crosschain.Proofs.Histories
import Crosschain.Proofs.Relaying

/-!
# The window of blocks

A chain keeps its latest blocks, as many as its window has room for. Counted from the newest one
back, their numbers fall by one each time from the height of the host, so that what is kept is the
end of all blocks that there ever were. A block once added stays as it is until the window has moved
past it.
-/

namespace Crosschain

theorem Height.Room.of_le {g h : Height} {j k : Nat} (room : h.Room j)
    (le : g.height.toNat + k ≤ h.height.toNat + j) : g.Room k :=
  Nat.lt_of_le_of_lt (Nat.add_le_add_left (Nat.mul_le_mul_right _ le) _) room

/-! ### One block -/

theorem Block.IsOf.append {h : Height} {taken : List Snapshot} {n : Nat} {b : Block}
    (known : b.IsOf h taken n) (past : n ≤ h.height.toNat + taken.length) (s : Snapshot) :
    b.IsOf h (taken ++ [s]) n := by
  refine ⟨known.revision, known.number, known.time, known.early, ?_⟩
  intro i t listed place
  have before : i < taken.length := by omega
  rw [List.getElem?_append_left before] at listed
  exact known.later i t listed place

theorem Block.IsOf.eq_of_append {h : Height} {taken more : List Snapshot} {n : Nat} {b b' : Block}
    (known : b.IsOf h taken n) (known' : b'.IsOf h (taken ++ more) n)
    (same : b'.height = b.height) (past : n ≤ h.height.toNat + taken.length) : b' = b := by
  have time : b'.timestamp = b.timestamp := by
    have times := known'.time
    rw [same, known.time] at times
    exact Option.some.inj times.symm
  have snapshot : b'.snapshot = b.snapshot := by
    by_cases low : n ≤ h.height.toNat
    · rw [known'.early low, known.early low]
    · obtain ⟨i, place⟩ : ∃ i, n = h.height.toNat + i + 1 := ⟨n - h.height.toNat - 1, by omega⟩
      have before : i < taken.length := by omega
      have listed := List.getElem?_eq_getElem before
      have listed' : (taken ++ more)[i]? = some taken[i] := by
        rw [List.getElem?_append_left before, listed]
      rw [known.later i _ listed place, known'.later i _ listed' place]
  obtain ⟨height, timestamp, contents⟩ := b
  obtain ⟨height', timestamp', contents'⟩ := b'
  rw [Block.mk.injEq]
  exact ⟨same, time, snapshot⟩

namespace Chain

/-! ### The blocks at the start -/

theorem exists_emptyBlocks {h : Height} {n : Nat} (room : h.Room 0) (low : n ≤ h.height.toNat) :
    ∃ l, emptyBlocks? h n = some l := by
  induction n with
  | zero => exact ⟨[], rfl⟩
  | succ n ih =>
    obtain ⟨rest, made⟩ := ih (by omega)
    have lower : (Height.mk h.revision (h.height - UInt64.ofNat n)).Room 0 := by
      have number := toNat_sub_ofNat (a := h.height) (n := n) (by omega)
      apply room.of_le
      change (h.height - UInt64.ofNat n).toNat + 0 ≤ _
      omega
    obtain ⟨now, time⟩ := lower.time
    rw [Height.later_zero] at time
    refine ⟨⟨⟨h.revision, h.height - .ofNat n⟩, now, .empty⟩ :: rest, ?_⟩
    simp only [emptyBlocks?, Block.ofHeight?, time, made, Option.map_some, Option.bind_eq_bind,
      Option.bind_some, Option.pure_def]

/-! ### A block more -/

/-- Counted from the newest one back, a new block comes in front, and what there is no room for is
cut off at the end. -/
theorem reverse_pushBlock {window : UInt64} {l : List Block} {b : Block} (positive : window ≠ 0)
    (within : l.length ≤ window.toNat) :
    (pushBlock window l b).reverse = (b :: l.reverse).take window.toNat := by
  unfold pushBlock
  split
  next full =>
    have some_room : 0 < window.toNat := by
      have apart : window.toNat ≠ 0 := fun zero => positive (UInt64.toNat_inj.1 zero)
      omega
    cases l with
    | nil =>
      simp only [List.length_nil] at full
      omega
    | cons oldest rest =>
      have size : window.toNat = rest.length + 1 := by
        simp only [List.length_cons] at full within
        omega
      rw [size, List.take_succ_cons, List.reverse_cons, List.tail_cons, List.reverse_append,
        List.take_left' List.length_reverse]
      rfl
  next spare =>
    have fits : (b :: l.reverse).length ≤ window.toNat := by
      simp only [List.length_cons, List.length_reverse]
      omega
    rw [List.take_of_length_le fits, List.reverse_append]
    rfl

/-! ### Growing -/

/-- A chain stands where it stood, whatever else of it changed. -/
structure Stands (c c' : Chain) : Prop where
  height : c'.host.height = c.host.height
  window : c'.window = c.window
  blocks : c'.blocks = c.blocks

/-- A chain goes on by blocks, whatever is done to it between them. The snapshots that its host had
when the blocks were added are listed, the first one in front. -/
inductive Grows (c : Chain) : List Snapshot → Chain → Prop
  | rest : Grows c [] c
  | change {taken : List Snapshot} {d d' : Chain} (before : Grows c taken d) (stands : Stands d d') :
    Grows c taken d'
  | advance {taken : List Snapshot} {d d' : Chain} (before : Grows c taken d)
    (more : d.advance? = some d') : Grows c (taken ++ [d.host.snapshot]) d'

/-- A chain that was started at a height keeps as many of the newest blocks as its window allows. -/
structure Windowed (window : UInt64) (h : Height) (taken : List Snapshot) (d : Chain) : Prop where
  capacity : d.window = window
  revision : d.host.height.revision = h.revision
  height : d.host.height.height.toNat = h.height.toNat + taken.length
  length : d.blocks.length = min window.toNat (h.height.toNat + taken.length)
  newest : ∀ (j : Nat) (b : Block), d.blocks.reverse[j]? = some b →
    b.IsOf h taken (h.height.toNat + taken.length - j)

variable {c d d' : Chain} {window : UInt64} {h : Height} {taken : List Snapshot} {n : Nat}

namespace Windowed

theorem stands (kept : d.Windowed window h taken) (stands : Stands d d') :
    d'.Windowed window h taken where
  capacity := stands.window.trans kept.capacity
  revision := stands.height ▸ kept.revision
  height := stands.height ▸ kept.height
  length := stands.blocks ▸ kept.length
  newest := stands.blocks ▸ kept.newest

theorem advance (positive : window ≠ 0) (kept : d.Windowed window h taken)
    (more : d.advance? = some d') : d'.Windowed window h (taken ++ [d.host.snapshot]) := by
  obtain ⟨g, b, next, block, rfl⟩ := advance?_eq_some more
  obtain ⟨now, time, rfl⟩ := Option.map_eq_some_iff.1 block
  obtain ⟨revision, number⟩ := Height.next?_eq_some next
  rw [kept.revision] at revision
  rw [kept.height] at number
  have total : (taken ++ [d.host.snapshot]).length = taken.length + 1 := List.length_append
  have within : d.blocks.length ≤ window.toNat := by
    have length := kept.length
    omega
  have reversed := reverse_pushBlock (b := ⟨g, now, d.host.snapshot⟩) positive within
  rw [← kept.capacity] at reversed
  refine ⟨kept.capacity, revision, by rw [total]; exact number, ?_, ?_⟩
  · have length := congrArg List.length reversed
    simp only [List.length_reverse, List.length_take, List.length_cons, kept.length,
      kept.capacity] at length
    rw [total]
    change (pushBlock d.window d.blocks ⟨g, now, d.host.snapshot⟩).length = _
    rw [kept.capacity]
    omega
  · intro j b place
    change (pushBlock d.window d.blocks ⟨g, now, d.host.snapshot⟩).reverse[j]? = some b at place
    rw [reversed, List.getElem?_take] at place
    split at place
    next inside =>
      rw [total]
      cases j with
      | zero =>
        rw [List.getElem?_cons_zero, Option.some.injEq] at place
        subst place
        refine ⟨revision, number, time, fun low => by omega, ?_⟩
        intro i s listed place
        obtain rfl : i = taken.length := by omega
        rw [List.getElem?_concat_length, Option.some.injEq] at listed
        exact listed
      | succ j =>
        rw [List.getElem?_cons_succ] at place
        have known := kept.newest j b place
        have back : h.height.toNat + (taken.length + 1) - (j + 1) =
            h.height.toNat + taken.length - j := by omega
        rw [back]
        exact known.append (by omega) _
    next => cases place

end Windowed

theorem exists_start (positive : window ≠ 0) (room : h.Room 0) : ∃ c, start? window h = some c := by
  have least := UInt64.toNat_min window h.height
  obtain ⟨l, made⟩ := exists_emptyBlocks (n := (min window h.height).toNat) room (by omega)
  exact ⟨_, by rw [start?, if_neg positive, made, Option.map_some]⟩

theorem windowed_of_start (started : start? window h = some c) :
    window ≠ 0 ∧ c.Windowed window h [] := by
  unfold start? at started
  split at started
  · cases started
  next positive =>
    obtain ⟨l, made, rfl⟩ := Option.map_eq_some_iff.1 started
    have least := UInt64.toNat_min window h.height
    obtain ⟨length, known⟩ := of_emptyBlocks made (by omega)
    exact ⟨positive, rfl, rfl, rfl, length.trans least, known⟩

theorem Grows.trans {more : List Snapshot} (grows : c.Grows taken d) (onward : d.Grows more d') :
    c.Grows (taken ++ more) d' := by
  induction onward with
  | rest => simpa using grows
  | change before stands ih => exact ih.change stands
  | advance before more ih =>
    rw [← List.append_assoc]
    exact ih.advance more

theorem Grows.windowed (positive : window ≠ 0) (start : c.Windowed window h [])
    (grows : c.Grows taken d) : d.Windowed window h taken := by
  induction grows with
  | rest => exact start
  | change before stands ih => exact ih.stands stands
  | advance before more ih => exact ih.advance positive more

/-! ### What is kept -/

/-- A chain that was started at a height, and went on by as many blocks as snapshots are listed,
keeps its latest blocks. -/
structure KeepsLatest (window : UInt64) (h : Height) (taken : List Snapshot) (d : Chain) : Prop where
  revision : d.host.height.revision = h.revision
  height : d.host.height.height.toNat = h.height.toNat + taken.length
  count : d.blocks.length = min window.toNat (h.height.toNat + taken.length)
  /-- The heights of the blocks follow one another up to the height of the host. -/
  heights : d.blocks.map Block.height =
    (List.range' (d.host.height.height.toNat + 1 - d.blocks.length) d.blocks.length).map
      fun n => ⟨h.revision, .ofNat n⟩
  /-- A block is found for these heights and for no others. -/
  found : ∀ g, (d.blockAt? g).isSome = true ↔ g.revision = h.revision ∧
    d.host.height.height.toNat < g.height.toNat + d.blocks.length ∧
      g.height.toNat ≤ d.host.height.height.toNat
  /-- It commits to what the host kept when it was added. -/
  committed : ∀ g b, d.blockAt? g = some b → b.height = g ∧ b.IsOf h taken g.height.toNat

namespace Windowed

theorem le_height (kept : d.Windowed window h taken) :
    d.blocks.length ≤ d.host.height.height.toNat := by
  have length := kept.length
  have height := kept.height
  omega

theorem heights (kept : d.Windowed window h taken) : d.blocks.map Block.height =
    (List.range' (d.host.height.height.toNat + 1 - d.blocks.length) d.blocks.length).map
      fun n => ⟨h.revision, .ofNat n⟩ := by
  have bounded := kept.le_height
  have height := kept.height
  apply List.ext_getElem
  · simp
  intro i below _
  rw [List.length_map] at below
  rw [List.getElem_map, List.getElem_map, List.getElem_range', Nat.one_mul]
  -- The block is found by its distance from the newest one.
  have place : d.blocks.reverse[d.blocks.length - 1 - i]? = some d.blocks[i] := by
    rw [List.getElem?_reverse (by omega), List.getElem?_eq_getElem (by omega)]
    congr 2
    omega
  have known := kept.newest _ _ place
  have number : d.blocks[i].height.height =
      .ofNat (d.host.height.height.toNat + 1 - d.blocks.length + i) := by
    rw [← UInt64.ofNat_toNat (x := d.blocks[i].height.height), known.number]
    congr 1
    omega
  rw [← known.revision, ← number]

theorem isSome_blockAt? (kept : d.Windowed window h taken) (g : Height) :
    (d.blockAt? g).isSome = true ↔ g.revision = h.revision ∧
      d.host.height.height.toNat < g.height.toNat + d.blocks.length ∧
        g.height.toNat ≤ d.host.height.height.toNat := by
  have bounded := kept.le_height
  have mem : (d.blockAt? g).isSome = true ↔ g ∈ d.blocks.map Block.height := by
    simp [blockAt?, List.find?_isSome, List.mem_map]
  rw [mem, kept.heights, List.mem_map]
  constructor
  · rintro ⟨n, within, rfl⟩
    have bounds := List.mem_range'_1.1 within
    have small : (UInt64.ofNat n).toNat = n := by
      have top : d.host.height.height.toNat < UInt64.size := d.host.height.height.toNat_lt
      exact UInt64.toNat_ofNat_of_lt' (by omega)
    refine ⟨rfl, ?_, ?_⟩
    · change _ < (UInt64.ofNat n).toNat + _
      omega
    · change (UInt64.ofNat n).toNat ≤ _
      omega
  · rintro ⟨revision, above, below⟩
    refine ⟨g.height.toNat, List.mem_range'_1.2 (by omega), ?_⟩
    rw [UInt64.ofNat_toNat, ← revision]

theorem isOf_blockAt? (kept : d.Windowed window h taken) {g : Height} {b : Block}
    (there : d.blockAt? g = some b) : b.height = g ∧ b.IsOf h taken g.height.toNat := by
  have named : b.height = g := by simpa using List.find?_some there
  have mem := List.mem_reverse.2 (List.mem_of_find?_eq_some there)
  obtain ⟨j, place⟩ := List.mem_iff_getElem?.1 mem
  have known := kept.newest j b place
  have number := known.number
  rw [named] at number
  rw [← number] at known
  exact ⟨named, known⟩

theorem keepsLatest (kept : d.Windowed window h taken) : d.KeepsLatest window h taken where
  revision := kept.revision
  height := kept.height
  count := kept.length
  heights := kept.heights
  found := kept.isSome_blockAt?
  committed _ _ there := kept.isOf_blockAt? there

theorem exists_advance (kept : d.Windowed window h taken) (room : h.Room n)
    (ahead : taken.length < n) : ∃ d', d.advance? = some d' := by
  have height := kept.height
  have further : d.host.height.Room 1 := room.of_le (by omega)
  obtain ⟨d', more, -⟩ := exists_next_of_advance further
  exact ⟨d', more⟩

end Windowed

/-- A chain can be started at any height with any window that has room for a block, and can go on by
blocks, as long as heights and times fit 64 bits. Whatever is done to it between the blocks, it
keeps as many of the latest ones as the window has room for and as there were, under the heights
up to its own. Each holds what the host kept when it was added, and is the same block for as long as
it is found. -/
theorem exists_start_keepsLatest (positive : window ≠ 0) (room : h.Room n) :
    ∃ c, start? window h = some c ∧ ∀ taken d, c.Grows taken d →
      d.KeepsLatest window h taken ∧ (taken.length < n → ∃ d', d.advance? = some d') ∧
        ∀ more d' g b b', d.Grows more d' → d.blockAt? g = some b → d'.blockAt? g = some b' →
          b' = b := by
  obtain ⟨c, started⟩ := exists_start positive (room.mono (Nat.zero_le n))
  have windowed := (windowed_of_start started).2
  refine ⟨c, started, fun taken d grows => ?_⟩
  have kept := grows.windowed positive windowed
  refine ⟨kept.keepsLatest, kept.exists_advance room, ?_⟩
  intro more d' g b b' onward found found'
  obtain ⟨named, known⟩ := kept.isOf_blockAt? found
  obtain ⟨named', known'⟩ := ((grows.trans onward).windowed positive windowed).isOf_blockAt? found'
  have past : g.height.toNat ≤ h.height.toNat + taken.length := by
    have height := kept.height
    have within := (kept.isSome_blockAt? g).1 (by rw [found]; rfl)
    omega
  exact known.eq_of_append known' (named'.trans named.symm) past

/-- Four blocks past a window of three, with a connection set before the last of them. -/
theorem exists_keepsLatest_past :
    let connected (d : Chain) : Chain :=
      d.mapHost fun x => x.setConnection Passage.hop Passage.connection
    ∃ c taken d d', start? 3 ⟨1, 5⟩ = some c ∧ c.Grows taken d ∧ taken.length = 3 ∧
      (connected d).advance? = some d' ∧ d'.blocks.length = 3 ∧ d'.blockAt? ⟨1, 6⟩ = none ∧
        ∃ b, d'.blockAt? ⟨1, 9⟩ = some b ∧ b.snapshot = (connected d).host.snapshot := by
  intro connected
  have positive : (3 : UInt64) ≠ 0 := by decide
  have room : (Height.mk 1 5).Room 4 := by
    unfold Height.Room
    decide
  obtain ⟨c, started, keeps⟩ := exists_start_keepsLatest positive room
  obtain ⟨d₁, first⟩ := (keeps _ _ .rest).2.1 (by decide)
  have one := Grows.rest.advance first
  obtain ⟨d₂, second⟩ := (keeps _ _ one).2.1 (by simp)
  have two := one.advance second
  obtain ⟨d₃, third⟩ := (keeps _ _ two).2.1 (by simp)
  have three := two.advance third
  have set : c.Grows _ (connected d₃) := three.change ⟨rfl, rfl, rfl⟩
  obtain ⟨d₄, fourth⟩ := (keeps _ _ set).2.1 (by simp)
  obtain ⟨kept, -⟩ := keeps _ _ (set.advance fourth)
  have top : d₄.host.height.height.toNat = 9 := kept.height
  have count : d₄.blocks.length = 3 := kept.count
  have gone : d₄.blockAt? ⟨1, 6⟩ = none := by
    rw [← Option.not_isSome_iff_eq_none, kept.found, top, count]
    decide
  have there : (d₄.blockAt? ⟨1, 9⟩).isSome = true := by
    rw [kept.found, top, count]
    decide
  obtain ⟨b, found⟩ := Option.isSome_iff_exists.1 there
  obtain ⟨-, known⟩ := kept.committed _ _ found
  exact ⟨c, _, d₃, d₄, started, three, rfl, fourth, count, gone, b, found,
    known.later 3 _ rfl rfl⟩

/-! ### All along a history -/

theorem Leads.grows [Digest] {l : History} (leads : c.Leads l d) : ∃ taken, c.Grows taken d := by
  induction leads with
  | rest => exact ⟨[], .rest⟩
  | act before done ih =>
    obtain ⟨taken, grows⟩ := ih
    obtain ⟨id, x, -, rfl⟩ | ⟨b, abreast, rfl | more⟩ := perform_abreast done
    · exact ⟨taken, grows.change ⟨rfl, rfl, rfl⟩⟩
    · exact ⟨taken, grows.change ⟨abreast.height, abreast.window, abreast.blocks⟩⟩
    · exact ⟨_, (grows.change ⟨abreast.height, abreast.window, abreast.blocks⟩).advance more⟩

/-- Whatever a chain does once it was started, it keeps its latest blocks. -/
theorem Leads.keepsLatest [Digest] {l : History} (started : c.Started) (leads : c.Leads l d) :
    ∃ taken, d.KeepsLatest c.window c.host.height taken := by
  obtain ⟨b, start, blocks⟩ := started.blocks
  obtain ⟨positive, windowed⟩ := windowed_of_start start
  have first : c.Windowed c.window c.host.height [] :=
    ⟨rfl, rfl, rfl, blocks ▸ windowed.length, blocks ▸ windowed.newest⟩
  obtain ⟨taken, grows⟩ := leads.grows
  exact ⟨taken, (grows.windowed positive first).keepsLatest⟩

end Chain

end Crosschain
