import Crosschain.Proofs.ChainSteps
import Mathlib.Data.Nat.Init

/-!
# What holds all along a run

At each moment of a run every lane of either chain takes one step, and the packets announced and
handed over so far grow by those of the step. Connections and bound ports stay as they were at the
start, so the two chains agree at all times on which connection is the other end of which.
-/

namespace Crosschain

namespace Run

variable [Digest] (r : Run)

/-! ### Views of a run -/

/-- The lane of an end of a side at a moment. -/
def lane (i : Nat) (s : Side) (e : EndId) : Lane := (r.host i s).store.lane e

/-- The packets an end announced before a moment, the first one first. -/
def announced : Nat → Side → EndId → List Packet
  | 0, _, _ => []
  | i + 1, s, e =>
    announced i s e ++ ((r.events i s).filterMap Event.sent?).filter fun p => p.source = e

/-- The packets for an end that its application was handed before a moment. -/
def delivered (i : Nat) (s : Side) (e : EndId) : List Packet := (r.world i s).delivered e

/-! ### Acting and resting -/

variable {r} {i : Nat} {s : Side} {a : Action} {e : EndId}

theorem rests (none : r.action? i s = none) : r.world (i + 1) s = r.world i s := by
  have step := r.step i
  simp only [action?] at none
  cases move : r.move i with
  | none =>
    rw [move] at step
    exact congrFun step s
  | some m =>
    rw [move] at step none
    obtain ⟨c, -, world⟩ := step
    rw [world]
    simp only [Option.bind_some] at none
    split at none
    · cases none
    next other => exact if_neg (Ne.symm other)

theorem acts (some : r.action? i s = some a) : ∃ rep, r.move i = .some ⟨s, a, rep⟩ ∧
    (r.world i s).perform a = .some (rep, r.world (i + 1) s) := by
  have step := r.step i
  simp only [action?] at some
  cases move : r.move i with
  | none =>
    rw [move] at some
    cases some
  | some m =>
    rw [move] at step some
    obtain ⟨c, done, world⟩ := step
    simp only [Option.bind_some] at some
    split at some
    next same =>
      cases some
      cases same
      refine ⟨m.report, rfl, ?_⟩
      simp only [world, if_true]
      exact done
    · cases some

theorem action?_eq_none_or (r : Run) (i : Nat) (s : Side) :
    r.action? i s = none ∨ r.action? i s.other = none := by
  simp only [action?]
  cases r.move i with
  | none => exact .inl rfl
  | some m =>
    simp only [Option.bind_some]
    by_cases own : m.side = s
    · refine .inr (if_neg ?_)
      rw [own]
      exact s.other_ne.symm
    · exact .inl (if_neg own)

theorem events_of_rests (none : r.action? i s = none) : r.events i s = [] := by
  simp only [action?] at none
  unfold events
  cases move : r.move i with
  | none => rfl
  | some m =>
    rw [move] at none
    simp only [Option.bind_some] at none
    split at none
    · cases none
    next other => exact if_neg other

/-! ### Lanes -/

variable (r i s e)

theorem orderly : (r.world i s).Orderly := by
  induction i with
  | zero =>
    constructor
    all_goals
      intro f taken
      rw [((r.started).chain s).store] at taken
      exact absurd (ChannelStore.lane_empty f) taken
  | succ i ih =>
    cases action : r.action? i s with
    | none =>
      rw [rests action]
      exact ih
    | some a =>
      obtain ⟨rep, -, done⟩ := acts action
      exact ih.perform done

/-- What happens to an end at a moment. -/
structure Happens (a : Action) (d : Deed) : Prop where
  step : LaneStep (r.host i s) a e (r.lane i s e) d (r.lane (i + 1) s e)
  acts : d ≠ .idle → r.action? i s = some a
  announced : r.announced (i + 1) s e = r.announced i s e ++ d.sent?.toList
  delivered : r.delivered (i + 1) s e = r.delivered i s e ++ d.received?.toList
  applied : ∀ m rep, r.move i = some ⟨s, .deliver (.packet m), rep⟩ → m.owner = e →
    rep.outcome = some .applied → a = .deliver (.packet m) ∧ d = m.deed

theorem happens : ∃ a d, r.Happens i s e a d := by
  cases action : r.action? i s with
  | none =>
    have stays := rests action
    refine ⟨.advance, .idle, ?_, fun some => absurd rfl some, ?_, ?_, ?_⟩
    · rw [lane, lane, host, host, stays]
      exact .idle _
    · rw [Run.announced, events_of_rests action]
      rfl
    · rw [Run.delivered, stays]
      exact (List.append_nil _).symm
    · intro m rep move
      simp [action?, move] at action
  | some a =>
    obtain ⟨rep, move, done⟩ := acts action
    obtain ⟨d, step, accounts⟩ := (Chain.perform_stepped (r.orderly i s) done).lane e
    refine ⟨a, d, step, fun _ => action, ?_, accounts.received, ?_⟩
    · rw [Run.announced, ← accounts.sent]
      simp [events, move]
    · intro m rep' move' owner outcome
      rw [move] at move'
      cases move'
      exact ⟨rfl, accounts.applied m rfl owner outcome⟩

variable {r s e}

theorem lane_zero : r.lane 0 s e = .empty := by
  rw [lane, host, ((r.started).chain s).store]
  exact ChannelStore.lane_empty e

theorem delivered_zero : r.delivered 0 s e = [] := by
  unfold delivered Chain.delivered
  cases bound : (r.world 0 s).appOf e.port with
  | error => rfl
  | ok app =>
    have quiet := ((r.started).chain s).quiet _ _ (Chain.appOf_eq_ok.1 bound).2
    simp [Application.received, quiet]

theorem announced_mono {i j : Nat} (le : i ≤ j) : r.announced i s e <+: r.announced j s e := by
  induction j, le using Nat.le_induction with
  | base => exact List.prefix_rfl
  | succ k le ih => exact ih.trans (List.prefix_append _ _)

/-! ### Connections -/

variable (r s)

theorem connections_eq : (r.host i s).connections = (r.host 0 s).connections := by
  induction i with
  | zero => rfl
  | succ i ih =>
    rw [← ih]
    cases action : r.action? i s with
    | none => rw [host, host, rests action]
    | some a =>
      obtain ⟨rep, -, done⟩ := acts action
      exact (Chain.perform_stepped (r.orderly i s) done).connections

theorem bindings_eq : (r.world i s).bindings = (r.world 0 s).bindings := by
  induction i with
  | zero => rfl
  | succ i ih =>
    rw [← ih]
    cases action : r.action? i s with
    | none => rw [rests action]
    | some a =>
      obtain ⟨rep, -, done⟩ := acts action
      exact (Chain.perform_stepped (r.orderly i s) done).bindings

variable {r s i}

theorem links_back {hop peerHop : ConnectionId} (links : (r.host i s).Links hop peerHop) (j : Nat) :
    (r.host j s.other).Links peerHop hop := by
  obtain ⟨c, connection, named⟩ := links
  rw [connections_eq] at connection
  obtain ⟨-, -, y, d, peer, there, back⟩ := (r.started).connection s hop c connection
  rw [named] at peer
  cases peer
  refine ⟨d, ?_, back⟩
  rw [connections_eq]
  exact there

theorem links_iff {hop peerHop : ConnectionId} :
    (r.host i s).Links hop peerHop ↔ (r.host 0 s).Links hop peerHop := by
  unfold Host.Links
  rw [connections_eq]

theorem label_eq {hop : ConnectionId} {c : ConnectionEnd}
    (connection : (r.host i s).connections[hop]? = some c) : c.peer.label = .default := by
  rw [connections_eq] at connection
  exact ((r.started).connection s hop c connection).2.1

/-! ### Fields that describe one channel -/

/-- Fields of an end of a side describe the same channel as fields of an end of the other side. -/
def Fits (r : Run) (s : Side) (f g : UpgradeFields) : Prop := (r.host 0 s).Matches f g

theorem fits_iff {f g : UpgradeFields} : (r.host i s).Matches f g ↔ r.Fits s f g := by
  simp only [Fits, Host.Matches, links_iff]

theorem Fits.symm {f g : UpgradeFields} (fits : r.Fits s f g) : r.Fits s.other g f := by
  obtain ⟨ordering, version, hop, peerHop, own, peer, links⟩ := fits
  exact ⟨ordering.symm, version.symm, peerHop, hop, peer, own, links_back links 0⟩

end Run

end Crosschain
