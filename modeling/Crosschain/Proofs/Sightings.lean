import Crosschain.Proofs.Blocks
import Crosschain.Proofs.Committed
import Crosschain.Proofs.Runs

/-!
# What is shown of the other chain was so

Clients know only roots of blocks of the other chain, and no two byte strings that are hashed on
the way have one hash. So whatever a message proves was kept by the other chain at some moment
before, at which that chain was at least as high as the block the proof was taken at.
-/

namespace Crosschain

/-! ### Hosts without separators in names -/

theorem Identifier.slash_notMem_of_ofText {k : IdKind} {s : String} {id : Identifier k}
    (ok : ofText k s = .ok id) : '/' ∉ s.toList := by
  intro slash
  unfold ofText check at ok
  dsimp only at ok
  split at ok
  · cases ok
  · rw [if_pos (by simpa using slash)] at ok
    cases ok

theorem Identifier.slash_notMem_channel (n : UInt64) : '/' ∉ (channel n).text.toList := by
  have letters : '/' ∉ "channel-".toList := by decide
  have digits := Path.slash_notMem_text n
  rw [channel, String.toList_append, List.mem_append]
  exact fun slash => slash.elim letters digits

/-- The paths of channel ends. -/
def Path.OfChannel : Path → Prop
  | .connection _ => False
  | _ => True

theorem Host.lane_ne_empty {h : Host} {p : Path} {v : Bytes} (value : h.provableAt? p = some v) :
    p.Clean ∨ ∃ e, h.store.lane e ≠ .empty ∧ (e.Clean → p.Clean) := by
  have nonempty {e : EndId} {α : Type} {f : Lane → Option α} {x : α}
      (there : f (h.store.lane e) = some x) (none : f .empty = none) :
      h.store.lane e ≠ .empty := by
    intro free
    rw [free, none] at there
    cases there
  cases p with
  | connection id => exact .inl trivial
  | capability e => cases value
  | channelEnd e =>
    obtain ⟨x, there, -⟩ := Option.map_eq_some_iff.1 value
    exact .inr ⟨e, nonempty (f := Lane.channel) there rfl, id⟩
  | nextSend e =>
    obtain ⟨x, there, -⟩ := Option.map_eq_some_iff.1 value
    exact .inr ⟨e, nonempty (f := Lane.nextSend) there rfl, id⟩
  | nextRecv e =>
    obtain ⟨x, there, -⟩ := Option.map_eq_some_iff.1 value
    exact .inr ⟨e, nonempty (f := Lane.nextRecv) there rfl, id⟩
  | nextAck e =>
    obtain ⟨x, there, -⟩ := Option.map_eq_some_iff.1 value
    exact .inr ⟨e, nonempty (f := Lane.nextAck) there rfl, id⟩
  | upgrade e =>
    obtain ⟨x, there, -⟩ := Option.map_eq_some_iff.1 value
    exact .inr ⟨e, nonempty (f := Lane.upgrade) there rfl, id⟩
  | upgradeError e =>
    obtain ⟨x, there, -⟩ := Option.map_eq_some_iff.1 value
    exact .inr ⟨e, nonempty (f := Lane.errorReceipt) there rfl, id⟩
  | commitment s =>
    exact .inr ⟨s.owner, nonempty (f := fun l => l.commitments s.sequence) value rfl, id⟩
  | acknowledgement s =>
    exact .inr ⟨s.owner, nonempty (f := fun l => l.acknowledgements s.sequence) value rfl, id⟩
  | receipt s =>
    obtain ⟨x, there, -⟩ := Option.map_eq_some_iff.1 value
    refine .inr ⟨s.owner, fun free => ?_, id⟩
    have none : h.store.hasReceipt s = false := congrFun (congrArg Lane.receipts free) s.sequence
    simp [ChannelStore.hasReceipt, there] at none

theorem Host.provableAt?_of_empty {h : Host} (store : h.store = .empty) {p : Path}
    (channel : p.OfChannel) : h.provableAt? p = none := by
  cases p with
  | connection id => cases channel
  | _ => simp [provableAt?, store, ChannelStore.empty]

theorem Host.known_of_updateClient {h : Host} {id name : ClientId} {header : Header}
    {client : Client} {height : Height} {cs : ConsensusState}
    (there : (h.updateClient name header).clients[id]? = some client)
    (known : client.consensus[height]? = some cs) :
    (∃ old, h.clients[id]? = some old ∧ old.consensus[height]? = some cs) ∨
      header.height = height ∧ cs = header.consensus := by
  simp only [updateClient, Std.ExtTreeMap.getElem?_insert, Std.compare_eq_iff_eq] at there
  split at there
  next own =>
    subst own
    cases before : h.clients[name]? with
    | none =>
      rw [before] at there
      cases there
      simp only [Client.ofHeader, Std.ExtTreeMap.getElem?_insert, Std.compare_eq_iff_eq] at known
      split at known
      next same => exact .inr ⟨same, (Option.some.inj known).symm⟩
      · simp at known
    | some old =>
      rw [before] at there
      cases there
      simp only [Client.learn, Std.ExtTreeMap.getElem?_insert, Std.compare_eq_iff_eq] at known
      split at known
      next same => exact .inr ⟨same, (Option.some.inj known).symm⟩
      · exact .inl ⟨old, rfl, known⟩
  · exact .inl ⟨client, there, known⟩

namespace Run

variable [Digest] {r : Run} {i : Nat} {s : Side}

theorem clean : (r.host i s).Clean := by
  intro p v value
  obtain clean | ⟨e, taken, clean⟩ := Host.lane_ne_empty value
  · exact clean
  · have orderly := r.orderly i s
    obtain ⟨id, bound⟩ := orderly.port e taken
    obtain ⟨n, -, name⟩ := orderly.channel e taken
    rw [bindings_eq] at bound
    refine clean ⟨Identifier.slash_notMem_of_ofText ((r.started.chain s).ports _ _ bound), ?_⟩
    rw [name]
    exact Identifier.slash_notMem_channel n

/-! ### Heights -/

/-- A chain at a moment is in the revision of a height, and at least as high. -/
structure Reached (r : Run) (i : Nat) (s : Side) (h : Height) : Prop where
  revision : h.revision = (r.host i s).height.revision
  height : h.height.toNat ≤ (r.host i s).height.height.toNat

theorem reached_self : r.Reached i s (r.host i s).height := ⟨rfl, Nat.le_refl _⟩

theorem height_succ : (r.host (i + 1) s).height = (r.host i s).height ∨
    (r.host i s).height.next? = some (r.host (i + 1) s).height := by
  cases action : r.action? i s with
  | none => exact .inl (by rw [host, host, rests action])
  | some a =>
    obtain ⟨rep, -, done⟩ := acts action
    obtain abreast | ⟨b, sealing⟩ | ⟨id, header, -, told⟩ := Chain.perform_onward done
    · exact .inl abreast.height
    · exact .inr sealing.next
    · exact .inl (by rw [host, told]; rfl)

theorem Reached.mono {h : Height} {j : Nat} (reached : r.Reached i s h) (le : i ≤ j) :
    r.Reached j s h := by
  induction j, le using Nat.le_induction with
  | base => exact reached
  | succ k le ih =>
    obtain ⟨revision, height⟩ := ih
    obtain same | next := r.height_succ (i := k) (s := s)
    · exact ⟨by rw [same]; exact revision, by rw [same]; exact height⟩
    · obtain ⟨same, more⟩ := Height.next?_eq_some next
      exact ⟨by rw [same]; exact revision, by rw [more]; exact Nat.le_succ_of_le height⟩

/-! ### Blocks -/

/-- A block tells what its chain kept at a moment. -/
structure Tells (r : Run) (b : Block) (i : Nat) (s : Side) : Prop where
  time : blockTime? b.height = some b.timestamp
  reached : r.Reached i s b.height
  values : ∀ p : Path, p.OfChannel →
    b.snapshot.get? (StorePrefix.default.key p) = (r.host i s).provableAt? p

/-- Each block of a chain tells what the chain kept at some moment before. -/
theorem exists_tells {b : Block} (mem : b ∈ (r.world i s).blocks) : ∃ k ≤ i, r.Tells b k s := by
  induction i with
  | zero =>
    obtain ⟨revision, height, time, snapshot⟩ := (r.started.chain s).of_mem_blocks mem
    refine ⟨0, Nat.le_refl _, time, ⟨revision, height⟩, ?_⟩
    intro p channel
    have none : (r.host 0 s).provableAt? p = none :=
      Host.provableAt?_of_empty (r.started.chain s).store channel
    rw [none, snapshot]
    simp [Snapshot.get?, Snapshot.empty]
  | succ i ih =>
    have earlier (mem : b ∈ (r.world i s).blocks) : ∃ k ≤ i + 1, r.Tells b k s := by
      obtain ⟨k, le, tells⟩ := ih mem
      exact ⟨k, Nat.le_succ_of_le le, tells⟩
    cases action : r.action? i s with
    | none =>
      rw [rests action] at mem
      exact earlier mem
    | some a =>
      obtain ⟨rep, -, done⟩ := acts action
      obtain abreast | ⟨c, sealing⟩ | ⟨id, header, -, told⟩ := Chain.perform_onward done
      · rw [abreast.blocks] at mem
        exact earlier mem
      · rw [sealing.blocks] at mem
        obtain mem | rfl := Chain.mem_pushBlock mem
        · exact earlier mem
        · refine ⟨i + 1, Nat.le_refl _, sealing.time, ?_, ?_⟩
          · rw [sealing.height]
            exact reached_self
          · intro p _
            rw [sealing.snapshot]
            exact Host.get?_snapshot clean p
      · rw [told] at mem
        exact earlier mem

/-- What a client knows of a height is what some block of the other chain says. -/
theorem consensus_genuine {id : ClientId} {client : Client} {height : Height} {cs : ConsensusState}
    (there : (r.host i s).clients[id]? = some client) (known : client.consensus[height]? = some cs) :
    ∃ j ≤ i, ∃ b ∈ (r.world j s.other).blocks, b.height = height ∧ cs = b.header.consensus := by
  induction i generalizing client with
  | zero =>
    rw [host, (r.started.chain s).clients] at there
    simp at there
  | succ i ih =>
    have earlier {client : Client} (there : (r.host i s).clients[id]? = some client)
        (known : client.consensus[height]? = some cs) :
        ∃ j ≤ i + 1, ∃ b ∈ (r.world j s.other).blocks,
          b.height = height ∧ cs = b.header.consensus := by
      obtain ⟨j, le, b, mem, found⟩ := ih there known
      exact ⟨j, Nat.le_succ_of_le le, b, mem, found⟩
    cases action : r.action? i s with
    | none =>
      rw [host, rests action] at there
      exact earlier there known
    | some a =>
      obtain ⟨rep, move, done⟩ := acts action
      obtain abreast | ⟨c, sealing⟩ | ⟨name, header, rfl, told⟩ := Chain.perform_onward done
      · rw [host, abreast.clients] at there
        exact earlier there known
      · rw [host, sealing.clients] at there
        exact earlier there known
      · rw [host, told] at there
        obtain ⟨old, before, known⟩ | ⟨same, rfl⟩ := Host.known_of_updateClient there known
        · exact earlier before known
        · obtain ⟨j, le, b, mem, rfl⟩ := r.genuine i s name header rep move
          exact ⟨j, Nat.le_succ_of_le le, b, mem, same, rfl⟩

/-! ### What a message proves -/

/-- The other chain kept what is claimed at a moment, when it was at least as high as the block of
the claims. -/
structure Saw (r : Run) (i : Nat) (s : Side) (height : Height) (time : Timestamp)
    (claims : List Claimed) : Prop where
  time : blockTime? height = some time
  reached : r.Reached i s.other height
  values : ∀ k ∈ claims, k.path.OfChannel → (r.host i s.other).provableAt? k.path = k.value

/-- What a message proves of the other chain was so at some moment before. -/
theorem exists_saw (free : Digest.InjectiveOn r.Hashed) {a : Action}
    {x : ChannelEnd} {height : Height} {time : Timestamp} {claims : List Claimed}
    (sees : (r.host i s).Sees x height time claims) (action : r.action? i s = some a)
    (brought : ∀ k ∈ claims, k.proof ∈ a.proofs) :
    ∃ j ≤ i, r.Saw j s height time claims := by
  obtain ⟨hop, c, cs, -, connection, ⟨client, there, -, known⟩, rfl, opens⟩ := sees
  obtain ⟨j, le, b, mem, rfl, rfl⟩ := consensus_genuine there known
  obtain ⟨k, le', tells⟩ := exists_tells mem
  refine ⟨k, Nat.le_trans le' le, tells.time, tells.reached, ?_⟩
  intro claim mem_claims channel
  obtain ⟨snapshot, opened, value⟩ := opens claim mem_claims
  unfold StateProof.opened at opened
  split at opened
  · cases opened
  next root =>
  -- The proof has the root of the block, so it is the block's own snapshot.
  have same : claim.proof.bytes = b.snapshot.encode :=
    free _ _ (.proof action (brought claim mem_claims)) (.block mem) (not_not.1 root)
  rw [same, Snapshot.decode?_encode] at opened
  cases opened
  rw [label_eq connection] at value
  rw [← tells.values claim.path channel, value]

/-! ### What was so, lane by lane -/

section Values

variable {height : Height} {time : Timestamp} {claims : List Claimed} {proof : StateProof}

theorem Saw.channel {e : EndId} {x : ChannelEnd} (saw : r.Saw i s height time claims)
    (mem : ⟨proof, .channelEnd e, some x.encode⟩ ∈ claims) :
    (r.lane i s.other e).channel = some x := by
  have value := saw.values _ mem trivial
  obtain ⟨y, there, same⟩ := Option.map_eq_some_iff.1 value
  rw [← ChannelEnd.encode_injective same]
  exact there

theorem Saw.upgrade {e : EndId} {u : Upgrade} (saw : r.Saw i s height time claims)
    (mem : ⟨proof, .upgrade e, some u.encode⟩ ∈ claims) :
    ∃ v, (r.lane i s.other e).upgrade = some v ∧ v.fields = u.fields ∧
      v.latestSend = u.latestSend := by
  have value := saw.values _ mem trivial
  obtain ⟨v, there, same⟩ := Option.map_eq_some_iff.1 value
  exact ⟨v, there, Upgrade.of_encode_eq same⟩

theorem Saw.errorReceipt {e : EndId} {receipt : ErrorReceipt} (saw : r.Saw i s height time claims)
    (mem : ⟨proof, .upgradeError e, some receipt.encode⟩ ∈ claims) :
    (r.lane i s.other e).errorReceipt = some receipt := by
  have value := saw.values _ mem trivial
  obtain ⟨y, there, same⟩ := Option.map_eq_some_iff.1 value
  rw [← ErrorReceipt.encode_injective same]
  exact there

theorem Saw.nextRecv {e : EndId} {n : Sequence} (saw : r.Saw i s height time claims)
    (mem : ⟨proof, .nextRecv e, some (Word.bytes n)⟩ ∈ claims) :
    (r.lane i s.other e).nextRecv = some n := by
  have value := saw.values _ mem trivial
  obtain ⟨m, there, same⟩ := Option.map_eq_some_iff.1 value
  rw [← Word.bytes_injective same]
  exact there

theorem Saw.commitment {slot : Slot} {c : Bytes} (saw : r.Saw i s height time claims)
    (mem : ⟨proof, .commitment slot, some c⟩ ∈ claims) :
    (r.lane i s.other slot.owner).commitments slot.sequence = some c :=
  saw.values _ mem trivial

theorem Saw.noReceipt {slot : Slot} (saw : r.Saw i s height time claims)
    (mem : ⟨proof, .receipt slot, none⟩ ∈ claims) :
    (r.lane i s.other slot.owner).receipts slot.sequence = false := by
  have value := saw.values _ mem trivial
  have absent : (r.host i s.other).store.receipts[slot]? = none := Option.map_eq_none_iff.1 value
  show (r.host i s.other).store.receipts[slot]?.isSome = false
  rw [absent]
  rfl

end Values

end Run

end Crosschain
