import Crosschain.Host
import Crosschain.Proofs.Encodings

/-!
# What a snapshot says of its host

The bytes of a snapshot are read back as that snapshot. Paths of ends whose names hold no separator
have keys of their own, so the snapshot of a host answers every key with the value the host keeps
under the path, and with nothing where it keeps none.
-/

namespace Crosschain

/-! ### Filling a map from a list -/

section Fill

variable {β : Type} (key : β → String) (val : β → Bytes)

/-- The map with all values of a list put under their keys, in order. -/
def filled (l : List β) (m : Map String Bytes) : Map String Bytes :=
  l.foldl (fun m e => m.insert (key e) (val e)) m

theorem getElem?_filled_of_none (l : List β) (m : Map String Bytes) (k : String)
    (h : ∀ e ∈ l, key e ≠ k) : (filled key val l m)[k]? = m[k]? := by
  induction l generalizing m with
  | nil => rfl
  | cons e l ih =>
    have other : ¬ compare (key e) k = .eq := fun c =>
      h e List.mem_cons_self (Std.compare_eq_iff_eq.1 c)
    rw [filled, List.foldl_cons, ← filled, ih _ fun x hx => h x (List.mem_cons_of_mem e hx),
      Std.ExtTreeMap.getElem?_insert, if_neg other]

theorem getElem?_filled_of_mem (l : List β) (m : Map String Bytes) (k : String) (v : Bytes)
    (there : ∃ e ∈ l, key e = k) (only : ∀ e ∈ l, key e = k → val e = v) :
    (filled key val l m)[k]? = some v := by
  induction l generalizing m with
  | nil =>
    obtain ⟨e, he, -⟩ := there
    cases he
  | cons x l ih =>
    rw [filled, List.foldl_cons, ← filled]
    by_cases later : ∃ e ∈ l, key e = k
    · exact ih _ later fun e he => only e (List.mem_cons_of_mem x he)
    · have here : key x = k := by
        obtain ⟨e, he, same⟩ := there
        rcases List.mem_cons.1 he with rfl | he
        · exact same
        · exact absurd ⟨e, he, same⟩ later
      rw [getElem?_filled_of_none key val l _ k fun e he same => later ⟨e, he, same⟩, here,
        Std.ExtTreeMap.getElem?_insert_self, only x List.mem_cons_self here]

end Fill

/-! ### Snapshots -/

namespace Snapshot

theorem plain_toJson (s : Snapshot) : Json.Plain s.toJson := by
  have members : ∀ l : List (String × Bytes),
      Json.PlainMembers (((l.map fun e => (e.1, Json.bytes e.2))).map fun m => (some m.1, m.2)) := by
    intro l
    induction l with
    | nil => trivial
    | cons e l ih => exact ⟨Json.plain_bytes e.2, ih⟩
  exact members s.entries.toList

theorem ofMembers?_members (l : List (String × Bytes)) (m : Map String Bytes) :
    ofMembers? ((l.map fun e => (e.1, Json.bytes e.2)).map fun e => (some e.1, e.2)) m =
      some (filled Prod.fst Prod.snd l m) := by
  induction l generalizing m with
  | nil => rfl
  | cons e l ih =>
    simp only [List.map_cons, ofMembers?, Json.asBytes?_bytes, Option.bind_some]
    rw [ih]
    rfl

theorem filled_toList (m : Map String Bytes) : filled Prod.fst Prod.snd m.toList ∅ = m := by
  apply Std.ExtTreeMap.ext_getElem?
  intro k
  cases value : m[k]? with
  | some v =>
    apply getElem?_filled_of_mem
    · exact ⟨(k, v), Std.ExtTreeMap.mem_toList_iff_getElem?_eq_some.2 value, rfl⟩
    · intro e he same
      have read := Std.ExtTreeMap.mem_toList_iff_getElem?_eq_some.1 he
      rw [same, value] at read
      exact (Option.some.inj read).symm
  | none =>
    rw [getElem?_filled_of_none]
    · simp
    · intro e he same
      have read := Std.ExtTreeMap.mem_toList_iff_getElem?_eq_some.1 he
      rw [same, value] at read
      cases read

theorem decode?_encode (s : Snapshot) : decode? s.encode = some s := by
  rw [decode?, encode, Json.decode?_encode s.plain_toJson, Option.bind_some, toJson, Json.obj,
    ofJson?, ofMembers?_members, filled_toList]
  rfl

end Snapshot

/-! ### Keys of paths -/

/-- The names of the end hold no separator of paths. -/
def EndId.Clean (e : EndId) : Prop :=
  '/' ∉ e.port.text.toList ∧ '/' ∉ e.channel.text.toList

namespace Path

/-- The names of the end a path is about hold no separator. -/
def Clean : Path → Prop
  | .connection _ => True
  | .channelEnd e | .nextSend e | .nextRecv e | .nextAck e | .upgrade e | .upgradeError e
  | .capability e => e.Clean
  | .commitment s | .acknowledgement s | .receipt s => s.owner.Clean

/-- The part of a path's text that says its kind. -/
def mark : Path → String
  | .connection _ => "connections/"
  | .channelEnd _ => "channelEnds"
  | .nextSend _ => "nextSequenceSend"
  | .nextRecv _ => "nextSequenceRecv"
  | .nextAck _ => "nextSequenceAck"
  | .commitment _ => "commitments"
  | .acknowledgement _ => "acks"
  | .receipt _ => "receipts"
  | .upgrade _ => "channelUpgrades/upgrades"
  | .upgradeError _ => "channelUpgrades/upgradeError"
  | .capability _ => "capabilities"

/-- The part of a path's text that says what it is about. -/
def subject : Path → String
  | .connection id => id.text
  | .channelEnd e | .nextSend e | .nextRecv e | .nextAck e | .upgrade e | .upgradeError e
  | .capability e => ownerText e
  | .commitment s | .acknowledgement s | .receipt s => slotText s

theorem text_eq (p : Path) : p.text = p.mark ++ p.subject := by
  cases p <;> rfl

def marks : List String :=
  ["connections/", "channelEnds", "nextSequenceSend", "nextSequenceRecv", "nextSequenceAck",
    "commitments", "acks", "receipts", "channelUpgrades/upgrades", "channelUpgrades/upgradeError",
    "capabilities"]

theorem mark_mem (p : Path) : p.mark ∈ marks := by
  cases p <;> simp [mark, marks]

theorem mark_eq_of_isPrefixOf :
    ∀ a ∈ marks, ∀ b ∈ marks, a.toList.isPrefixOf b.toList = true → a = b := by decide

theorem mark_eq_of_text_eq {p q : Path} (h : p.text = q.text) : p.mark = q.mark := by
  have chars : p.mark.toList ++ p.subject.toList = q.mark.toList ++ q.subject.toList := by
    rw [← String.toList_append, ← String.toList_append, ← text_eq, ← text_eq, h]
  rcases List.prefix_or_prefix_of_prefix (List.prefix_append p.mark.toList p.subject.toList)
      (chars ▸ List.prefix_append q.mark.toList q.subject.toList) with first | first
  · exact mark_eq_of_isPrefixOf _ p.mark_mem _ q.mark_mem (List.isPrefixOf_iff_prefix.2 first)
  · exact (mark_eq_of_isPrefixOf _ q.mark_mem _ p.mark_mem
      (List.isPrefixOf_iff_prefix.2 first)).symm

theorem eq_of_append_slash {a a' b b' : List Char} (ha : '/' ∉ a) (ha' : '/' ∉ a')
    (h : a ++ '/' :: b = a' ++ '/' :: b') : a = a' ∧ b = b' := by
  induction a generalizing a' with
  | nil =>
    cases a' with
    | nil => exact ⟨rfl, List.tail_eq_of_cons_eq h⟩
    | cons c cs =>
      obtain ⟨rfl, -⟩ := List.cons.inj h
      exact absurd List.mem_cons_self ha'
  | cons c cs ih =>
    cases a' with
    | nil =>
      obtain ⟨rfl, -⟩ := List.cons.inj h
      exact absurd List.mem_cons_self ha
    | cons d ds =>
      obtain ⟨rfl, rest⟩ := List.cons.inj h
      obtain ⟨rfl, tails⟩ := ih (fun m => ha (List.mem_cons_of_mem c m))
        (fun m => ha' (List.mem_cons_of_mem c m)) rest
      exact ⟨rfl, tails⟩

theorem toList_ownerText (e : EndId) :
    (ownerText e).toList = "/ports/".toList ++
      (e.port.text.toList ++ '/' :: ("channels/".toList ++ e.channel.text.toList)) := by
  have middle : "/channels/".toList = '/' :: "channels/".toList := by decide
  simp only [ownerText, String.toList_append, middle, List.append_assoc, List.cons_append]

theorem ownerText_injective {e f : EndId} (he : e.Clean)
    (h : ownerText e = ownerText f) : e = f := by
  have chars := congrArg String.toList h
  rw [toList_ownerText, toList_ownerText, List.append_cancel_left_eq] at chars
  -- Both sides hold the same number of separators, so the names of `f` hold none either.
  have count := congrArg (List.count '/') chars
  have between : "channels/".toList.count '/' = 1 := by decide
  simp only [List.count_append, List.count_cons_self, between, List.count_eq_zero.2 he.1,
    List.count_eq_zero.2 he.2] at count
  have port : '/' ∉ f.port.text.toList := List.count_eq_zero.1 (by omega)
  obtain ⟨ports, rest⟩ := eq_of_append_slash he.1 port chars
  have channels := List.append_cancel_left rest
  obtain ⟨⟨p⟩, ⟨c⟩⟩ := e
  obtain ⟨⟨q⟩, ⟨d⟩⟩ := f
  simp only at ports channels
  rw [String.toList_inj.1 ports, String.toList_inj.1 channels]

theorem slash_notMem_text (w : UInt64) : '/' ∉ (Word.text w).toList := by
  intro h
  rw [Word.text, Nat.toList_repr] at h
  exact absurd (Json.isDigit_of_mem_toDigits _ _ h) (by decide)

theorem toList_slotText (s : Slot) :
    (slotText s).toList = "/ports/".toList ++
      (s.owner.port.text.toList ++ '/' :: ("channels/".toList ++ (s.owner.channel.text.toList ++
        '/' :: ("sequences/".toList ++ (Word.text s.sequence).toList)))) := by
  have last : "/sequences/".toList = '/' :: "sequences/".toList := by decide
  simp only [slotText, String.toList_append, toList_ownerText, last, List.append_assoc,
    List.cons_append]

theorem slotText_injective {s t : Slot} (hs : s.owner.Clean)
    (h : slotText s = slotText t) : s = t := by
  have chars := congrArg String.toList h
  rw [toList_slotText, toList_slotText, List.append_cancel_left_eq] at chars
  have count := congrArg (List.count '/') chars
  have between : "channels/".toList.count '/' = 1 := by decide
  have before : "sequences/".toList.count '/' = 1 := by decide
  simp only [List.count_append, List.count_cons_self, between, before,
    List.count_eq_zero.2 hs.1, List.count_eq_zero.2 hs.2,
    List.count_eq_zero.2 (slash_notMem_text s.sequence),
    List.count_eq_zero.2 (slash_notMem_text t.sequence)] at count
  have port : '/' ∉ t.owner.port.text.toList := List.count_eq_zero.1 (by omega)
  have channel : '/' ∉ t.owner.channel.text.toList := List.count_eq_zero.1 (by omega)
  obtain ⟨ports, rest⟩ := eq_of_append_slash hs.1 port chars
  obtain ⟨channels, last⟩ := eq_of_append_slash hs.2 channel (List.append_cancel_left rest)
  have sequences := List.append_cancel_left last
  obtain ⟨⟨⟨p⟩, ⟨c⟩⟩, n⟩ := s
  obtain ⟨⟨⟨q⟩, ⟨d⟩⟩, m⟩ := t
  simp only at ports channels sequences
  rw [String.toList_inj.1 ports, String.toList_inj.1 channels,
    Word.text_injective (String.toList_inj.1 sequences)]

/-- No other path spells the text of a clean path. -/
theorem text_injective {p q : Path} (hp : p.Clean) (h : p.text = q.text) : p = q := by
  have kind := mark_eq_of_text_eq h
  have rest : p.subject = q.subject := by
    rw [text_eq, text_eq, kind] at h
    have chars := congrArg String.toList h
    rw [String.toList_append, String.toList_append, List.append_cancel_left_eq] at chars
    exact String.toList_inj.1 chars
  cases p <;> cases q <;> simp only [mark, String.reduceEq] at kind
  case connection.connection => exact congrArg (fun t => Path.connection ⟨t⟩) rest
  case commitment.commitment => rw [slotText_injective hp rest]
  case acknowledgement.acknowledgement => rw [slotText_injective hp rest]
  case receipt.receipt => rw [slotText_injective hp rest]
  all_goals rw [ownerText_injective hp rest]

end Path

theorem StorePrefix.key_injective {label : StorePrefix} {p q : Path} (hp : p.Clean)
    (h : label.key p = label.key q) : p = q := by
  have chars := congrArg String.toList h
  simp only [key, String.toList_append, List.append_cancel_left_eq] at chars
  exact Path.text_injective hp (String.toList_inj.1 chars)

/-! ### Snapshots of hosts -/

namespace Host

/-- The value under a path, as the snapshot of the host holds it. -/
def provableAt? (h : Host) : Path → Option Bytes
  | .connection id => h.connections[id]?.map ConnectionEnd.encode
  | .channelEnd e => h.store.ends[e]?.map ChannelEnd.encode
  | .nextSend e => h.store.nextSend[e]?.map Word.bytes
  | .nextRecv e => h.store.nextRecv[e]?.map Word.bytes
  | .nextAck e => h.store.nextAck[e]?.map Word.bytes
  | .commitment s => h.store.commitments[s]?
  | .receipt s => h.store.receipts[s]?.map fun _ => Commitment.receiptMark
  | .acknowledgement s => h.store.acknowledgements[s]?
  | .upgrade e => h.store.upgrades[e]?.map Upgrade.encode
  | .upgradeError e => h.store.errorReceipts[e]?.map ErrorReceipt.encode
  | .capability _ => none

theorem mem_provable_iff {h : Host} {p : Path} {v : Bytes} :
    (p, v) ∈ h.provable ↔ h.provableAt? p = some v := by
  cases p <;>
    simp [provable, provableAt?, Std.ExtTreeMap.mem_toList_iff_getElem?_eq_some]

/-- All paths with a value are clean. -/
def Clean (h : Host) : Prop := ∀ p v, h.provableAt? p = some v → p.Clean

theorem entries_snapshot (h : Host) :
    h.snapshot.entries = filled (fun e => StorePrefix.default.key e.1) Prod.snd h.provable ∅ := by
  have fold : ∀ (l : List (Path × Bytes)) (s : Snapshot),
      (l.foldl (fun s e => s.insert .default e.1 e.2) s).entries =
        filled (fun e => StorePrefix.default.key e.1) Prod.snd l s.entries := by
    intro l
    induction l with
    | nil => intro s; rfl
    | cons e l ih =>
      intro s
      rw [List.foldl_cons, ih]
      rfl
  exact fold h.provable .empty

/-- The snapshot of a host answers the key of a path with what the host keeps under the path, if no
other path that it keeps something under has the key. -/
theorem get?_snapshot_of_key {h : Host} {p : Path}
    (only : ∀ q v, h.provableAt? q = some v →
      StorePrefix.default.key q = StorePrefix.default.key p → q = p) :
    h.snapshot.get? (StorePrefix.default.key p) = h.provableAt? p := by
  have same : ∀ e ∈ h.provable, StorePrefix.default.key e.1 = StorePrefix.default.key p →
      e.1 = p := fun e he => only e.1 e.2 (mem_provable_iff.1 he)
  rw [Snapshot.get?, entries_snapshot]
  cases value : h.provableAt? p with
  | some v =>
    apply getElem?_filled_of_mem
    · exact ⟨(p, v), mem_provable_iff.2 value, rfl⟩
    · intro e he key
      obtain rfl := same e he key
      have read := mem_provable_iff.1 he
      rw [value] at read
      exact (Option.some.inj read).symm
  | none =>
    rw [getElem?_filled_of_none]
    · simp
    · intro e he key
      obtain rfl := same e he key
      have read := mem_provable_iff.1 he
      rw [value] at read
      cases read

theorem get?_snapshot {h : Host} (clean : h.Clean) (p : Path) :
    h.snapshot.get? (StorePrefix.default.key p) = h.provableAt? p :=
  get?_snapshot_of_key fun q v value key => StorePrefix.key_injective (clean q v value) key

theorem get?_snapshot_of_clean {h : Host} {p : Path} (clean : p.Clean) :
    h.snapshot.get? (StorePrefix.default.key p) = h.provableAt? p :=
  get?_snapshot_of_key fun _ _ _ key => (StorePrefix.key_injective clean key.symm).symm

end Host

end Crosschain
