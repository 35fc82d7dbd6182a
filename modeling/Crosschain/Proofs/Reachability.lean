import Crosschain.Proofs.Refusals

/-!
# What a chain can come to

A chain goes on by actions; a relayed message may be taken with a block after it or without one.
Around its channel layer anything may happen meanwhile: blocks pass, clients hear of headers, true
or not, connections are set and applications registered. What is shown of all such courses holds
whatever the other chains do.
-/

namespace Crosschain

namespace Chain

/-- A chain carries an action out; after a relayed message a block may be missing. -/
def Takes [Digest] (c : Chain) (a : Action) (rep : Report) (c' : Chain) : Prop :=
  c.perform a = some (rep, c') ∨
    ∃ m, a = .deliver m ∧ settle (c.deliver m) DeliveryReceipt.report = some (rep, c')

/-- A chain comes from one state to another by the actions of a history, whatever else happens
around what the channel layer keeps. No action overflows and no port loses its application. -/
inductive Reaches [Digest] (c : Chain) : History → Chain → Prop
  | rest : Reaches c [] c
  | act {l : History} {d d' : Chain} {a : Action} {rep : Report} (before : Reaches c l d)
    (taken : d.Takes a rep d') : Reaches c (l ++ [(a, rep)]) d'
  | arrange {l : History} {d d' : Chain} (before : Reaches c l d)
    (store : d'.host.store = d.host.store)
    (ports : ∀ (port : PortId) (id : ModuleId), d.bindings[port]? = some id →
      ∃ id', d'.bindings[port]? = some id') : Reaches c l d'

variable [Digest] {c c' d : Chain} {a : Action} {rep : Report} {l : History}

omit [Digest] in
theorem exists_of_sealed {ε α : Type} {r : Except (Fault ε) α × Chain} {x : α}
    (done : sealed r = (.ok x, c')) :
    ∃ c₁, r = (.ok x, c₁) ∧ c'.host.store = c₁.host.store := by
  rcases r with ⟨f | y, c₁⟩
  · cases done
  · simp only [sealed] at done
    split at done
    next c₂ more =>
      cases done
      exact ⟨c₁, rfl, store_of_advance? more⟩
    · cases done

namespace Takes

/-- An action leaves the same store with a block after it as without one. -/
theorem exists_performs (taken : c.Takes a rep c') :
    ∃ d, c.Performs a rep d ∧ c'.host.store = d.host.store := by
  obtain done | ⟨m, rfl, done⟩ := taken
  · exact exists_performs_store done
  · exact ⟨c', performs_of_settle done, rfl⟩

theorem stepped (orderly : c.Orderly) (taken : c.Takes a rep c') : Stepped c a rep c' := by
  obtain done | ⟨m, rfl, done⟩ := taken
  · exact perform_stepped orderly done
  · exact (performs_of_settle done).stepped orderly

theorem tidied (registered : c.host.store.Registered) (taken : c.Takes a rep c') :
    c.Tidied rep c' := by
  obtain done | ⟨m, rfl, done⟩ := taken
  · exact perform_tidied registered done
  · exact (performs_of_settle done).tidied registered

end Takes

theorem Leads.reaches (leads : c.Leads l d) : c.Reaches l d := by
  induction leads with
  | rest => exact .rest
  | act before done ih => exact .act ih (.inl done)

namespace Reaches

theorem trans {l' : History} {d' : Chain} (reaches : c.Reaches l d) (onward : d.Reaches l' d') :
    c.Reaches (l ++ l') d' := by
  induction onward with
  | rest => simpa using reaches
  | act before taken ih =>
    rw [← List.append_assoc]
    exact .act ih taken
  | arrange before store ports ih => exact .arrange ih store ports

theorem keeps_orderly (orderly : c.Orderly) (reaches : c.Reaches l d) : d.Orderly := by
  induction reaches with
  | rest => exact orderly
  | act before taken ih => exact ih.stepped (taken.stepped ih)
  | arrange before store ports ih =>
    constructor
    · intro e there
      rw [store] at there
      obtain ⟨id, bound⟩ := ih.port e there
      exact ports _ _ bound
    · intro e there
      rw [store] at there ⊢
      exact ih.channel e there

theorem orderly (start : c.host.store = .empty) (reaches : c.Reaches l d) : d.Orderly :=
  reaches.keeps_orderly (Leads.orderly start .rest)

/-- What the lane of an end that does not exist fulfils, and every step of the lane keeps, it fulfils
in every state. -/
theorem lane_induction {P : Lane → Prop} {e : EndId} (start : c.host.store = .empty)
    (reaches : c.Reaches l d) (empty : P .empty)
    (step : ∀ {h a l l' deed}, LaneStep h a e l deed l' → P l → P l') :
    P (d.host.store.lane e) := by
  induction reaches with
  | rest =>
    rw [start, ChannelStore.lane_empty]
    exact empty
  | act before taken ih =>
    obtain ⟨deed, lane, -⟩ := (taken.stepped (before.orderly start)).lane e
    exact step lane ih
  | arrange before store ports ih =>
    rw [store]
    exact ih

theorem registered (start : c.host.store = .empty) (reaches : c.Reaches l d) :
    d.host.store.Registered := by
  induction reaches with
  | rest => exact Leads.registered start .rest
  | act before taken ih => exact (taken.tidied ih).registered
  | arrange before store ports ih =>
    rw [store]
    exact ih

end Reaches

/-! ### On the way -/

/-- On the way from one state to another, an action of the history took the channel layer from one
store to another as told. -/
def Meets (c : Chain) (l : History) (d : Chain)
    (P : ChannelStore → Action → ChannelStore → Prop) : Prop :=
  ∃ l₁ a rep l₂ d₁ d₂, l = l₁ ++ (a, rep) :: l₂ ∧ c.Reaches l₁ d₁ ∧ d₁.Takes a rep d₂ ∧
    d₂.Reaches l₂ d ∧ P d₁.host.store a d₂.host.store

namespace Meets

variable {P : ChannelStore → Action → ChannelStore → Prop} {d' : Chain} {l' : History}

theorem last (before : c.Reaches l d) (taken : d.Takes a rep d')
    (holds : P d.host.store a d'.host.store) : c.Meets (l ++ [(a, rep)]) d' P :=
  ⟨l, a, rep, [], d, d', rfl, before, taken, .rest, holds⟩

theorem trans (meets : c.Meets l d P) (onward : d.Reaches l' d') : c.Meets (l ++ l') d' P := by
  obtain ⟨l₁, a, rep, l₂, d₁, d₂, rfl, before, taken, after, holds⟩ := meets
  exact ⟨l₁, a, rep, l₂ ++ l', d₁, d₂, by simp, before, taken, after.trans onward, holds⟩

theorem arrange (meets : c.Meets l d P) (store : d'.host.store = d.host.store)
    (ports : ∀ (port : PortId) (id : ModuleId), d.bindings[port]? = some id →
      ∃ id', d'.bindings[port]? = some id') : c.Meets l d' P := by
  have onward := meets.trans (.arrange .rest store ports)
  rwa [List.append_nil] at onward

end Meets

end Chain

end Crosschain
