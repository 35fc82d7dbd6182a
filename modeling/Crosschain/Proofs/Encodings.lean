import Crosschain.Channel.End
import Crosschain.Proofs.JsonRoundTrip
import Crosschain.Proofs.Utf8

/-!
# Committed bytes stand for one value

What a chain commits to is the canonical text of a value. Two ends, receipts or snapshots with the
same bytes are equal, two upgrades with the same bytes agree on fields and sequence, and the bytes
of a snapshot are read back as that snapshot.
-/

namespace Crosschain

/-! ### JSON values -/

namespace Json

/-- Values without spelled numbers are known by their bytes. -/
theorem encode_injective {j k : Json} (hj : Plain j) (hk : Plain k) (h : j.encode = k.encode) :
    j = k := by
  have text : render j = render k := Bytes.ofText_injective h
  have read := parse?_render j hj
  rw [text, parse?_render k hk] at read
  exact (Option.some.inj read).symm

theorem decode?_encode {j : Json} (h : Plain j) : decode? j.encode = some j := by
  rw [decode?, encode, Utf8.decode?_ofText, Option.bind_some, parse?_render j h]

theorem plainItems_map {α : Type} {f : α → Json} (h : ∀ a, Plain (f a)) (l : List α) :
    PlainItems (l.map f) := by
  induction l with
  | nil => trivial
  | cons a l ih => exact ⟨h a, ih⟩

theorem plain_list {α : Type} {f : α → Json} (h : ∀ a, Plain (f a)) (l : List α) :
    Plain (list f l) := plainItems_map h l

theorem plain_option {α : Type} {f : α → Json} (h : ∀ a, Plain (f a)) (o : Option α) :
    Plain (option f o) := by
  cases o with
  | none => trivial
  | some a => exact h a

theorem plain_bytes (bs : Bytes) : Plain (bytes bs) :=
  plainItems_map (f := fun b : UInt8 => .nat b.toNat) (fun _ => trivial) bs

theorem word_injective {a b : UInt64} (h : word a = word b) : a = b :=
  UInt64.toNat_inj.1 (Json.nat.inj h)

theorem str_injective {s t : String} (h : str s = str t) : s = t :=
  Option.some.inj (Json.text.inj h)

theorem list_injective {α : Type} {f : α → Json} (hf : ∀ a b, f a = f b → a = b) {l m : List α}
    (h : list f l = list f m) : l = m :=
  (List.map_inj_right fun a b => hf a b).1 (Json.array.inj h)

theorem asBytes?_bytes (bs : Bytes) : asBytes? (bytes bs) = some bs := by
  simp only [asBytes?, bytes, list, asList?]
  induction bs with
  | nil => rfl
  | cons b bs ih =>
    have byte : asByte? (.nat b.toNat) = some b := by
      rw [asByte?, if_pos b.toNat_lt, UInt8.ofNat_toNat]
    rw [List.map_cons, List.mapM_cons, byte, ih]
    rfl

end Json

open Json

/-! ### Names and choices -/

theorem Identifier.plain_toJson {k : IdKind} (i : Identifier k) : Plain i.toJson := trivial

theorem Identifier.toJson_injective {k : IdKind} {a b : Identifier k} (h : a.toJson = b.toJson) :
    a = b := by
  cases a
  cases b
  exact congrArg _ (str_injective h)

theorem Order.toJson_injective {a b : Order} (h : a.toJson = b.toJson) : a = b := by
  cases a <;> cases b <;> first | rfl | exact absurd (str_injective h) (by decide)

theorem ChannelState.toJson_injective {a b : ChannelState} (h : a.toJson = b.toJson) : a = b := by
  have read := ofName?_name a
  rw [str_injective h, ofName?_name b] at read
  exact (Option.some.inj read).symm

theorem ChannelPeer.toJson_injective {a b : ChannelPeer} (h : a.toJson = b.toJson) : a = b := by
  obtain ⟨p, c⟩ := a
  obtain ⟨q, d⟩ := b
  simp only [toJson, obj, List.map_cons, List.map_nil, Json.object.injEq, List.cons.injEq,
    Prod.mk.injEq, true_and, and_true] at h
  obtain ⟨port, channel⟩ := h
  obtain rfl := Identifier.toJson_injective port
  cases c with
  | none =>
    cases d with
    | none => rfl
    | some d => exact absurd channel (by simp [option, Identifier.toJson, str])
  | some c =>
    cases d with
    | none => exact absurd channel (by simp [option, Identifier.toJson, str])
    | some d => rw [Identifier.toJson_injective channel]

/-! ### Ends, upgrades and receipts -/

theorem ChannelPeer.plain_toJson (p : ChannelPeer) : Plain p.toJson :=
  ⟨trivial, plain_option Identifier.plain_toJson p.channel, trivial⟩

theorem ChannelEnd.plain_toJson (e : ChannelEnd) : Plain e.toJson := by
  have ordering : Plain e.ordering.toJson := by
    cases e.ordering <;> trivial
  exact ⟨trivial, ordering, e.peer.plain_toJson, plain_list Identifier.plain_toJson e.hops, trivial,
    trivial, trivial⟩

theorem ChannelEnd.encode_injective {a b : ChannelEnd} (h : a.encode = b.encode) : a = b := by
  have json := Json.encode_injective a.plain_toJson b.plain_toJson h
  obtain ⟨s, o, p, l, v, n⟩ := a
  obtain ⟨s', o', p', l', v', n'⟩ := b
  simp only [toJson, obj, List.map_cons, List.map_nil, Json.object.injEq, List.cons.injEq,
    Prod.mk.injEq, true_and, and_true] at json
  obtain ⟨state, ordering, peer, hops, version, sequence⟩ := json
  rw [ChannelState.toJson_injective state, Order.toJson_injective ordering,
    ChannelPeer.toJson_injective peer,
    list_injective (fun _ _ => Identifier.toJson_injective) hops, str_injective version,
    word_injective sequence]

theorem Height.plain_toJson (h : Height) : Plain h.toJson := ⟨trivial, trivial, trivial⟩

theorem TimeoutHeight.plain_toJson (t : TimeoutHeight) : Plain t.toJson := by
  cases t with
  | never => trivial
  | atHeight h => exact ⟨h.plain_toJson, trivial⟩

theorem UpgradeFields.plain_toJson (f : UpgradeFields) : Plain f.toJson := by
  have ordering : Plain f.ordering.toJson := by
    cases f.ordering <;> trivial
  exact ⟨ordering, plain_list Identifier.plain_toJson f.hops, trivial, trivial⟩

theorem Timestamp.plain_toJson (t : Timestamp) : Plain t.toJson :=
  ⟨plain_option (f := fun i : Instant => .str i.zuluText) (fun _ => trivial) t.time, trivial⟩

theorem Upgrade.plain_toJson (u : Upgrade) : Plain u.toJson :=
  ⟨u.fields.plain_toJson,
    ⟨u.timeout.height.plain_toJson, u.timeout.timestamp.plain_toJson, trivial⟩,
    trivial, trivial⟩

theorem UpgradeFields.toJson_injective {f g : UpgradeFields} (h : f.toJson = g.toJson) :
    f = g := by
  obtain ⟨o, l, v⟩ := f
  obtain ⟨o', l', v'⟩ := g
  simp only [toJson, obj, List.map_cons, List.map_nil, Json.object.injEq, List.cons.injEq,
    Prod.mk.injEq, true_and, and_true] at h
  obtain ⟨ordering, hops, version⟩ := h
  rw [Order.toJson_injective ordering,
    list_injective (fun _ _ => Identifier.toJson_injective) hops, str_injective version]

/-- The bytes of an upgrade say its fields and the last sequence sent before it. -/
theorem Upgrade.of_encode_eq {u v : Upgrade} (h : u.encode = v.encode) :
    u.fields = v.fields ∧ u.latestSend = v.latestSend := by
  have json := Json.encode_injective u.plain_toJson v.plain_toJson h
  simp only [toJson, obj, List.map_cons, List.map_nil, Json.object.injEq, List.cons.injEq,
    Prod.mk.injEq, true_and, and_true] at json
  exact ⟨UpgradeFields.toJson_injective json.1, word_injective json.2.2⟩

theorem ErrorReceipt.encode_injective {a b : ErrorReceipt} (h : a.encode = b.encode) : a = b := by
  have json := Json.encode_injective (j := a.toJson) (k := b.toJson) ⟨trivial, trivial, trivial⟩
    ⟨trivial, trivial, trivial⟩ h
  obtain ⟨n, s⟩ := a
  obtain ⟨n', s'⟩ := b
  simp only [toJson, obj, List.map_cons, List.map_nil, Json.object.injEq, List.cons.injEq,
    Prod.mk.injEq, true_and, and_true] at json
  rw [word_injective json.1, str_injective json.2]

/-! ### Words -/

theorem Word.text_injective {a b : UInt64} (h : Word.text a = Word.text b) : a = b := by
  have digits : Nat.toDigits 10 a.toNat = Nat.toDigits 10 b.toNat := by
    rw [← Nat.toList_repr, ← Nat.toList_repr]
    exact congrArg String.toList h
  have number := congrArg (fun ds => Nat.ofDigitChars 10 ds 0) digits
  simp only [Nat.ofDigitChars_ten_toDigits] at number
  exact UInt64.toNat_inj.1 number

theorem Word.eq_of_append_text {mark : String} {m n : UInt64}
    (h : mark ++ Word.text m = mark ++ Word.text n) : m = n := by
  rw [← String.toList_inj, String.toList_append, String.toList_append, List.append_cancel_left_eq,
    String.toList_inj] at h
  exact Word.text_injective h

theorem Identifier.channel_injective {m n : UInt64} (h : channel m = channel n) : m = n :=
  Word.eq_of_append_text (congrArg Identifier.text h)

theorem Identifier.connection_injective {m n : UInt64} (h : connection m = connection n) : m = n :=
  Word.eq_of_append_text (congrArg Identifier.text h)

theorem Word.byte_eq {a b : UInt64} (k : Nat) (hk : k < 64)
    (h : (a >>> UInt64.ofNat k).toUInt8 = (b >>> UInt64.ofNat k).toUInt8) :
    a.toNat >>> k % 256 = b.toNat >>> k % 256 := by
  have number := congrArg UInt8.toNat h
  have small : k < UInt64.size := Nat.lt_trans hk (by decide)
  simpa [UInt64.toNat_toUInt8, UInt64.toNat_shiftRight, Nat.mod_eq_of_lt hk,
    UInt64.toNat_ofNat_of_lt' small] using number

theorem Word.bytes_injective {a b : UInt64} (h : Word.bytes a = Word.bytes b) : a = b := by
  simp only [Word.bytes, List.cons.injEq, and_true] at h
  obtain ⟨h7, h6, h5, h4, h3, h2, h1, h0⟩ := h
  have e7 := byte_eq 56 (by omega) h7
  have e6 := byte_eq 48 (by omega) h6
  have e5 := byte_eq 40 (by omega) h5
  have e4 := byte_eq 32 (by omega) h4
  have e3 := byte_eq 24 (by omega) h3
  have e2 := byte_eq 16 (by omega) h2
  have e1 := byte_eq 8 (by omega) h1
  have e0 := congrArg UInt8.toNat h0
  rw [UInt64.toNat_toUInt8, UInt64.toNat_toUInt8] at e0
  have ha := a.toNat_lt
  have hb := b.toNat_lt
  apply UInt64.toNat_inj.1
  omega

end Crosschain
