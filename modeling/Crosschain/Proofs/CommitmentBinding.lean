import Crosschain.Digest.Sha256
import Crosschain.Proofs.PacketTrail

/-!
# What a packet commitment binds

A commitment holds three words and the hash of the data, so with a hash that is injective on what is
hashed it tells packets apart by data, timeout height and timeout time. One pair of timeouts is not
told apart: no height, and the zero height of the zero revision, which any chain has reached.
-/

namespace Crosschain

/-! ### Timeout heights -/

/-- One of the timeouts is no height and the other one is the zero height. -/
def TimeoutHeight.Clashes (t u : TimeoutHeight) : Prop :=
  t = .never ∧ u = .atHeight ⟨0, 0⟩ ∨ t = .atHeight ⟨0, 0⟩ ∧ u = .never

theorem TimeoutHeight.committed_eq_iff {t u : TimeoutHeight} :
    t.committed = u.committed ↔ t = u ∨ t.Clashes u := by
  cases t with
  | never =>
    cases u with
    | never => simp
    | atHeight b => simp [committed, Clashes, eq_comm]
  | atHeight a =>
    cases u with
    | never => simp [committed, Clashes]
    | atHeight b => simp [committed, Clashes]

theorem Timestamp.ofNanoseconds_injective {m n : UInt64}
    (same : ofNanoseconds m = ofNanoseconds n) : m = n := by
  have parts := congrArg nanoseconds? same
  rw [nanoseconds?_ofNanoseconds, nanoseconds?_ofNanoseconds] at parts
  exact Option.some.inj parts

/-! ### Commitments to packets -/

/-- The byte strings that are hashed for the commitment to a packet. -/
inductive Packet.Hashes [Digest] (p : Packet) : Bytes → Prop
  | data : p.Hashes p.data
  | parts {n : UInt64} (time : p.timeoutTime.nanoseconds? = some n) :
    p.Hashes (Commitment.packetInput p.data p.timeoutHeight n)

/-- Two packets that ask for the same: their data and both their timeouts are equal. -/
def Packet.SameTerms (p q : Packet) : Prop :=
  p.data = q.data ∧ p.timeoutHeight = q.timeoutHeight ∧ p.timeoutTime = q.timeoutTime

section Binding

variable [Digest] {p q : Packet} {m n : UInt64}

theorem Commitment.ofPacket?_of_time (time : p.timeoutTime = .ofNanoseconds m) :
    ofPacket? p = some (Digest.hash (packetInput p.data p.timeoutHeight m)) := by
  rw [ofPacket?, ofParts?, time, Timestamp.nanoseconds?_ofNanoseconds]
  rfl

theorem Packet.hashes_iff {b : Bytes} (time : p.timeoutTime = .ofNanoseconds m) :
    p.Hashes b ↔ b = p.data ∨ b = Commitment.packetInput p.data p.timeoutHeight m := by
  have nanoseconds : p.timeoutTime.nanoseconds? = some m := by
    rw [time, Timestamp.nanoseconds?_ofNanoseconds]
  constructor
  · rintro (_ | time')
    · exact .inl rfl
    · rw [nanoseconds] at time'
      cases time'
      exact .inr rfl
  · rintro (rfl | rfl)
    · exact .data
    · exact .parts nanoseconds

/-- Two packets have one commitment when they have the same data and timeouts, or differ only in
timeout heights that clash. -/
theorem Commitment.ofPacket?_eq_iff (hp : p.timeoutTime = .ofNanoseconds m)
    (hq : q.timeoutTime = .ofNanoseconds n)
    (free : Digest.InjectiveOn fun b => p.Hashes b ∨ q.Hashes b) :
    ofPacket? p = ofPacket? q ↔ p.data = q.data ∧
      (p.timeoutHeight = q.timeoutHeight ∨ p.timeoutHeight.Clashes q.timeoutHeight) ∧
      p.timeoutTime = q.timeoutTime := by
  have parts := (Packet.hashes_iff hp).2 (.inr rfl)
  have parts' := (Packet.hashes_iff hq).2 (.inr rfl)
  rw [ofPacket?_of_time hp, ofPacket?_of_time hq, Option.some.injEq]
  constructor
  · intro same
    -- The input ends in the hash of the data, so the hash is taken apart twice.
    obtain ⟨time, height, hash⟩ :=
      packetInput_injective (free _ _ (.inl parts) (.inr parts') same)
    refine ⟨free _ _ (.inl .data) (.inr .data) hash, TimeoutHeight.committed_eq_iff.1 height, ?_⟩
    rw [hp, hq, time]
  · rintro ⟨data, height, time⟩
    have same : m = n := Timestamp.ofNanoseconds_injective (hp.symm.trans (time.trans hq))
    simp only [packetInput, data, same, TimeoutHeight.committed_eq_iff.2 height]

/-! ### Commitments that are kept -/

namespace Transfer

variable {h : Host} {cap : Capability} {out : Output PacketChange} {stored : Bytes}

theorem ofPacket?_of_acknowledge {m : AcknowledgePacket}
    (kept : h.store.commitments[m.packet.sourceSlot]? = some stored)
    (ok : acknowledge h cap m = .ok out) : Commitment.ofPacket? m.packet = some stored := by
  cases succeeds_of_acknowledge ok with
  | acknowledgedBefore serves peer connection absent => cases absent.symm.trans kept
  | acknowledged outstanding => exact outstanding.commitment_of_kept kept

theorem ofPacket?_of_timeout {m : TimeoutPacket}
    (kept : h.store.commitments[m.packet.sourceSlot]? = some stored)
    (ok : timeout h cap m = .ok out) : Commitment.ofPacket? m.packet = some stored := by
  cases succeeds_of_timeout ok with
  | timedOutBefore channel owned absent => cases absent.symm.trans kept
  | timedOutInOrder outstanding | timedOutShut outstanding | timedOut outstanding =>
    exact outstanding.commitment_of_kept kept

end Transfer

/-- A host that keeps the commitment to a packet takes an acknowledgement or a timeout in its place
only for a packet with the same data and timeouts. -/
def Host.HoldsTo (h : Host) (p q : Packet) : Prop :=
  h.store.commitments[q.sourceSlot]? = Commitment.ofPacket? p → ∀ cap out,
    (∀ ack v, Transfer.acknowledge h cap ⟨q, ack, v⟩ = .ok out → p.SameTerms q) ∧
    (∀ next v, Transfer.timeout h cap ⟨q, next, v⟩ = .ok out → p.SameTerms q)

/-- Packets whose timeout heights do not clash have commitments, which are equal just when their
data and timeouts are, and an acknowledgement or a timeout is taken only for what was sent. -/
theorem Commitment.binds_terms (hp : p.timeoutTime = .ofNanoseconds m)
    (hq : q.timeoutTime = .ofNanoseconds n)
    (apart : ¬ p.timeoutHeight.Clashes q.timeoutHeight)
    (free : Digest.InjectiveOn fun b => p.Hashes b ∨ q.Hashes b) :
    (ofPacket? p).isSome ∧ (ofPacket? q).isSome ∧ (ofPacket? p = ofPacket? q ↔ p.SameTerms q) ∧
      ∀ h : Host, h.HoldsTo p q := by
  have binds : ofPacket? p = ofPacket? q ↔ p.SameTerms q := by
    rw [ofPacket?_eq_iff hp hq free, or_iff_left apart]
    rfl
  refine ⟨by rw [ofPacket?_of_time hp]; rfl, by rw [ofPacket?_of_time hq]; rfl, binds, ?_⟩
  intro h kept cap out
  rw [ofPacket?_of_time hp] at kept
  constructor
  · intro ack v ok
    have taken := Transfer.ofPacket?_of_acknowledge (m := ⟨q, ack, v⟩) kept ok
    exact binds.1 ((ofPacket?_of_time hp).trans taken.symm)
  · intro next v ok
    have taken := Transfer.ofPacket?_of_timeout (m := ⟨q, next, v⟩) kept ok
    exact binds.1 ((ofPacket?_of_time hp).trans taken.symm)

end Binding

/-- Two packets that differ in their timeout height only, with the hash of the chains. -/
theorem Commitment.binds_terms_height :
    let owner : EndId := ⟨Identifier.transferPort, .channel 0⟩
    let p : Packet := ⟨1, owner, owner, [1], .atHeight ⟨0, 5⟩, .ofNanoseconds 7⟩
    let q : Packet := { p with timeoutHeight := .never }
    ofPacket? p ≠ ofPacket? q ∧ ∀ h : Host, h.HoldsTo p q := by
  intro owner p q
  have hp : p.timeoutTime = .ofNanoseconds 7 := rfl
  have hq : q.timeoutTime = .ofNanoseconds 7 := rfl
  have told_apart : ∀ x ∈ [p.data, packetInput p.data p.timeoutHeight 7,
      packetInput q.data q.timeoutHeight 7], ∀ y ∈ [p.data, packetInput p.data p.timeoutHeight 7,
      packetInput q.data q.timeoutHeight 7], Digest.hash x = Digest.hash y → x = y := by
    decide +kernel
  have listed (b : Bytes) (hashed : p.Hashes b ∨ q.Hashes b) : b ∈ [p.data,
      packetInput p.data p.timeoutHeight 7, packetInput q.data q.timeoutHeight 7] := by
    rw [Packet.hashes_iff hp, Packet.hashes_iff hq] at hashed
    obtain (rfl | rfl) | rfl | rfl := hashed <;> simp [q]
  have free : Digest.InjectiveOn fun b => p.Hashes b ∨ q.Hashes b :=
    fun x y hx hy => told_apart x (listed x hx) y (listed y hy)
  have apart : ¬ p.timeoutHeight.Clashes q.timeoutHeight := by simp [TimeoutHeight.Clashes, p, q]
  obtain ⟨-, -, binds, holds⟩ := binds_terms hp hq apart free
  refine ⟨fun same => ?_, holds⟩
  have height := (binds.1 same).2.1
  cases height

end Crosschain
