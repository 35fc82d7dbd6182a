import Crosschain.Proofs.Agreement

/-!
# Partners

An end that was ever open has a partner on the other chain: the end it names, which names it too and
is never gone. No other end that was ever open has the same partner. Until one of the two completes
an upgrade, they describe the same channel, in the fields that the handshake settled.
-/

namespace Crosschain

namespace Run

variable [Digest] {r : Run} {i j k : Nat} {s : Side} {e f d : EndId} {x y z w : ChannelEnd}

/-- What two ends hold of each other at a moment. -/
structure Partners (r : Run) (i : Nat) (s : Side) (e d : EndId) (x y : ChannelEnd) : Prop where
  own : (r.lane i s e).channel = some x
  peer : (r.lane i s.other d).channel = some y
  names : x.peer = .ofEnd d
  back : y.peer = .ofEnd e
  /-- The partner has answered the proposal of the channel, or is past that. -/
  past : y.Joined ∨ y.state = .closed

/-- No upgrade was completed on an end before a moment. -/
def Original (r : Run) (i : Nat) (s : Side) (e : EndId) : Prop := ∀ n, ¬ r.Completed i s e n

variable (free : Digest.InjectiveOn r.Hashed)

include free

theorem Original.fields_eq (original : r.Original i s e) (le : j ≤ i)
    (hw : (r.lane j s e).channel = some w) (joined : w.Joined)
    (hx : (r.lane i s e).channel = some x) : x.fields = w.fields := by
  by_contra changed
  obtain ⟨t, -, lt, a, happens⟩ := exists_completed_of_fields_ne free le hw joined hx changed
  obtain ⟨v, -, -, there, -⟩ := happens.step.completed
  exact original v.upgradeSequence ⟨t, lt, a, v, happens, there, rfl⟩

/-- An end that was open has a partner, which it names for good, and with which it agrees until one
of the two completes an upgrade. -/
theorem exists_partners (le : j ≤ i) (hw : (r.lane j s e).channel = some w)
    (packets : w.state.allowsPackets) :
    ∃ d x y, w.peer = .ofEnd d ∧ r.Partners i s e d x y ∧
      (r.Original i s e → r.Original i s.other d → r.Fits s x.fields y.fields) := by
  obtain ⟨t, le_t, u, opening, opened, d, names, k, le_k, z, there, joined, back, fits⟩ :=
    exists_opening free hw packets
  have joined_u : u.Joined := by
    right
    rw [opened]
    rfl
  have since_t : t ≤ i := Nat.le_trans le_t le
  have since_k : k ≤ i := Nat.le_trans le_k since_t
  obtain ⟨x, hx, peer, -⟩ := exists_joined_later free le hw (.inr packets)
  obtain ⟨y, hy, peer', past⟩ := exists_joined_later free since_k there joined
  refine ⟨d, x, y, names, ⟨hx, hy, peer.trans names, peer'.trans back, past⟩, ?_⟩
  intro original original'
  rw [original.fields_eq free since_t opening joined_u hx,
    original'.fields_eq free since_k there joined hy]
  exact fits

theorem eq_of_partner (hw : (r.lane j s e).channel = some w) (packets : w.state.allowsPackets)
    (names : w.peer = .ofEnd d) (hz : (r.lane k s f).channel = some z)
    (packets' : z.state.allowsPackets) (names' : z.peer = .ofEnd d) : f = e := by
  obtain ⟨d₁, x₁, y₁, named₁, partners₁, -⟩ :=
    exists_partners free (Nat.le_max_left j k) hw packets
  obtain ⟨d₂, x₂, y₂, named₂, partners₂, -⟩ :=
    exists_partners free (Nat.le_max_right j k) hz packets'
  obtain rfl := ChannelPeer.ofEnd_injective (names.symm.trans named₁)
  obtain rfl := ChannelPeer.ofEnd_injective (names'.symm.trans named₂)
  have same := partners₁.peer
  rw [partners₂.peer] at same
  cases same
  exact ChannelPeer.ofEnd_injective (partners₂.back.symm.trans partners₁.back)

/-- An end that was ever open names an end that the other chain stores, that names it and that has
answered the proposal of the channel or is past that; it is the only end ever open that names it;
and until one of the two completes an upgrade, both have the same ordering and version and run over
the two ends of one connection. -/
theorem ever_open_paired (le : j ≤ i) (hw : (r.lane j s e).channel = some w)
    (opened : w.state = .opened) :
    ∃ d x y, w.peer = .ofEnd d ∧ r.Partners i s e d x y ∧
      (∀ k f z, (r.lane k s f).channel = some z → z.state = .opened → z.peer = .ofEnd d → f = e) ∧
      (r.Original i s e → r.Original i s.other d →
        x.ordering = y.ordering ∧ x.version = y.version ∧ ∃ hop peerHop, x.hops = [hop] ∧
          y.hops = [peerHop] ∧ (r.host i s).Links hop peerHop ∧
            (r.host i s.other).Links peerHop hop) := by
  have packets : w.state.allowsPackets := by rw [opened]; rfl
  obtain ⟨d, x, y, names, partners, agree⟩ := exists_partners free le hw packets
  refine ⟨d, x, y, names, partners, ?_, ?_⟩
  · intro k f z hz opened' names'
    exact eq_of_partner free hw packets names hz (by rw [opened']; rfl) names'
  · intro original original'
    obtain ⟨ordering, version, hop, peerHop, own, peer, links⟩ := agree original original'
    exact ⟨ordering, version, hop, peerHop, own, peer, links_iff.2 links, links_back links i⟩

end Run

/-- The end that answered the proposal of a channel, once it is open and later turned ordered. -/
theorem Run.ever_open_paired_upgraded :
    letI : Digest := .plain
    let r := Passage.upgraded "ics20-1" [1] (by decide)
    ∃ d x y, (Passage.opened .unordered "ics20-1").peer = .ofEnd d ∧
      r.Partners 21 .right Passage.owner d x y := by
  let _ : Digest := .plain
  have filled : [1] ≠ ([] : Bytes) := by decide
  obtain ⟨d, x, y, names, partners, -⟩ :=
    ever_open_paired (r := Passage.upgraded "ics20-1" [1] filled) (j := 7) (i := 21) (s := .right)
      (e := Passage.owner) (w := Passage.opened .unordered "ics20-1") (Digest.injectiveOn_plain _)
      (by decide) rfl rfl
  exact ⟨d, x, y, names, partners⟩

end Crosschain
