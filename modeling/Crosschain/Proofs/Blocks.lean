import Crosschain.Proofs.ChainSteps
import Crosschain.Proofs.Moments

/-!
# Blocks of a chain

An action of a chain adds at most one block, after all else it does, and the block holds the
snapshot that the chain is left with. Only news of a header changes what clients know.
-/

namespace Crosschain

/-- A block is the one of a number on a chain that was started at a height. The blocks up to this
height commit to nothing, and those behind it to the snapshots listed, one after the other. -/
structure Block.IsOf (h : Height) (taken : List Snapshot) (n : Nat) (b : Block) : Prop where
  revision : b.height.revision = h.revision
  number : b.height.height.toNat = n
  time : blockTime? b.height = some b.timestamp
  early : n ≤ h.height.toNat → b.snapshot = .empty
  later : ∀ i s, taken[i]? = some s → n = h.height.toNat + i + 1 → b.snapshot = s

namespace Chain

/-- Two chains with the same height, clients and blocks. -/
structure Abreast (c c' : Chain) : Prop where
  height : c'.host.height = c.host.height
  clients : c'.host.clients = c.host.clients
  blocks : c'.blocks = c.blocks
  window : c'.window = c.window

variable [Digest] {c c' : Chain}

theorem Delivers.abreast {m : Datagram} {r : Routed DeliveryReceipt} (delivers : c.Delivers m r) :
    Abreast c r.2 := by
  cases delivers <;> exact ⟨rfl, rfl, rfl, rfl⟩

theorem Performs.abreast {a : Action} {rep : Report} (performs : c.Performs a rep c')
    (unheard : ∀ id header, a ≠ .updateClient id header) : Abreast c c' := by
  cases performs with
  | relayed delivers => exact delivers.abreast
  | heard => exact absurd rfl (unheard _ _)
  | _ => exact ⟨rfl, rfl, rfl, rfl⟩

/-! ### What an action does to the blocks -/

/-- A chain that went on by a block, which holds what the chain is left with. -/
structure Sealed (c c' : Chain) (b : Block) : Prop where
  next : c.host.height.next? = some c'.host.height
  height : b.height = c'.host.height
  time : blockTime? b.height = some b.timestamp
  snapshot : b.snapshot = c'.host.snapshot
  clients : c'.host.clients = c.host.clients
  blocks : c'.blocks = pushBlock c.window c.blocks b

omit [Digest] in
theorem Sealed.of_advance {d : Chain} (abreast : Abreast c d) (more : d.advance? = some c') :
    ∃ b, Sealed c c' b := by
  obtain ⟨h, b, next, block, rfl⟩ := advance?_eq_some more
  obtain ⟨t, time, rfl⟩ := Option.map_eq_some_iff.1 block
  rw [abreast.height] at next
  have blocks : pushBlock d.window d.blocks ⟨h, t, d.host.snapshot⟩ =
      pushBlock c.window c.blocks ⟨h, t, d.host.snapshot⟩ := by
    rw [abreast.window, abreast.blocks]
  exact ⟨⟨h, t, d.host.snapshot⟩, next, rfl, time, rfl, abreast.clients, blocks⟩

/-- An action tells a client of a header, or leaves height, clients and blocks as they are but for
a block that may be added at the end. -/
theorem perform_abreast {a : Action} {rep : Report} (done : c.perform a = some (rep, c')) :
    (∃ id header, a = .updateClient id header ∧
      c' = c.mapHost fun h => h.updateClient id header) ∨
      ∃ d, Abreast c d ∧ (c' = d ∨ d.advance? = some c') := by
  cases a with
  | updateClient id header =>
    cases done
    exact .inl ⟨id, header, rfl, rfl⟩
  | _ =>
    obtain ⟨d, performs, block⟩ := exists_performs done
    exact .inr ⟨d, performs.abreast (by simp), block.imp_right And.right⟩

theorem perform_onward {a : Action} {rep : Report} (done : c.perform a = some (rep, c')) :
    Abreast c c' ∨ (∃ b, Sealed c c' b) ∨
      ∃ id header, a = .updateClient id header ∧
        c' = c.mapHost fun h => h.updateClient id header := by
  obtain told | ⟨d, abreast, rfl | more⟩ := perform_abreast done
  · exact .inr (.inr told)
  · exact .inl abreast
  · exact .inr (.inl (Sealed.of_advance abreast more))

/-! ### The first blocks -/

omit [Digest] in
theorem toNat_sub_ofNat {a : UInt64} {n : Nat} (low : n ≤ a.toNat) :
    (a - UInt64.ofNat n).toNat = a.toNat - n := by
  have bounded : a.toNat < UInt64.size := a.toNat_lt
  have small : (UInt64.ofNat n).toNat = n := UInt64.toNat_ofNat_of_lt' (by omega)
  have le : UInt64.ofNat n ≤ a := by
    rw [UInt64.le_iff_toNat_le]
    omega
  rw [UInt64.toNat_sub_of_le _ _ le, small]

omit [Digest] in
/-- The blocks a chain starts with have, counted from the newest one back, the numbers from its
height down. -/
theorem of_emptyBlocks {h : Height} {n : Nat} {l : List Block} (made : emptyBlocks? h n = some l)
    (fits : n ≤ h.height.toNat + 1) : l.length = n ∧
      ∀ (j : Nat) (b : Block), l.reverse[j]? = some b → b.IsOf h [] (h.height.toNat - j) := by
  induction n generalizing l with
  | zero =>
    cases made
    exact ⟨rfl, by simp⟩
  | succ n ih =>
    simp only [emptyBlocks?, Option.bind_eq_bind, Option.bind_eq_some_iff, Option.pure_def,
      Option.some.injEq] at made
    obtain ⟨first, block, rest, made, rfl⟩ := made
    obtain ⟨t, time, rfl⟩ := Option.map_eq_some_iff.1 block
    obtain ⟨length, known⟩ := ih made (by omega)
    refine ⟨congrArg Nat.succ length, ?_⟩
    intro j b place
    rw [List.reverse_cons, List.getElem?_append, List.length_reverse, length] at place
    split at place
    next old => exact known j b place
    next last =>
      rw [List.getElem?_singleton] at place
      split at place
      next only =>
        cases place
        obtain rfl : j = n := by omega
        have number := toNat_sub_ofNat (a := h.height) (n := j) (by omega)
        exact ⟨rfl, number, time, fun _ => rfl, by simp⟩
      next => cases place

omit [Digest] in
theorem of_mem_emptyBlocks {h : Height} {n : Nat} {l : List Block} (some_l : emptyBlocks? h n = some l)
    (fits : n ≤ h.height.toNat + 1) {b : Block} (mem : b ∈ l) :
    b.height.revision = h.revision ∧ b.height.height.toNat ≤ h.height.toNat ∧
      blockTime? b.height = some b.timestamp ∧ b.snapshot = .empty := by
  obtain ⟨j, place⟩ := List.mem_iff_getElem?.1 (List.mem_reverse.2 mem)
  have known := (of_emptyBlocks some_l fits).2 j b place
  have number := known.number
  exact ⟨known.revision, by omega, known.time, known.early (by omega)⟩

omit [Digest] in
theorem Started.of_mem_blocks (started : c.Started) {b : Block} (mem : b ∈ c.blocks) :
    b.height.revision = c.host.height.revision ∧
      b.height.height.toNat ≤ c.host.height.height.toNat ∧
      blockTime? b.height = some b.timestamp ∧ b.snapshot = .empty := by
  obtain ⟨d, start, blocks⟩ := started.blocks
  rw [blocks] at mem
  unfold start? at start
  split at start
  · cases start
  · obtain ⟨l, some_l, rfl⟩ := Option.map_eq_some_iff.1 start
    refine of_mem_emptyBlocks some_l ?_ mem
    have le : min c.window c.host.height.height ≤ c.host.height.height := Std.min_le_right
    rw [UInt64.le_iff_toNat_le] at le
    omega

omit [Digest] in
theorem mem_pushBlock {window : UInt64} {l : List Block} {b x : Block}
    (mem : x ∈ pushBlock window l b) : x ∈ l ∨ x = b := by
  unfold pushBlock at mem
  split at mem
  · rcases List.mem_append.1 mem with mem | mem
    · exact .inl (List.mem_of_mem_tail mem)
    · exact .inr (List.mem_singleton.1 mem)
  · rcases List.mem_append.1 mem with mem | mem
    · exact .inl mem
    · exact .inr (List.mem_singleton.1 mem)

end Chain

end Crosschain
