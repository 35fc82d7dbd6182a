import Crosschain.Proofs.Creation
import Crosschain.Proofs.UpgradeEffects

/-!
# The ends over a connection

For each connection a list of ends is kept. An end is put in the list of its connection when it is
created, and in no other one then or later. But an upgrade can move an end to another connection, and
completing it leaves the lists as they are. So the lists tell of the ends that were created over a
connection; they are right about the ends that run over it but for those that an upgrade moved there
or away.
-/

namespace Crosschain

namespace ChannelStore

/-- An end is kept, and it runs over a connection. -/
def RunsOver (s : ChannelStore) (e : EndId) (hop : ConnectionId) : Prop :=
  ∃ x, s.ends[e]? = some x ∧ hop ∈ x.hops

/-- No list has an end twice, no end is in two lists, and the ends in the lists are those that are
kept. -/
structure Listing (s : ChannelStore) : Prop where
  nodup : ∀ hop, (s.endsOver hop).Nodup
  single : ∀ e hop hop', e ∈ s.endsOver hop → e ∈ s.endsOver hop' → hop = hop'
  keeps_iff : ∀ e, s.Keeps e ↔ ∃ hop, e ∈ s.endsOver hop

variable {s t : ChannelStore} {e f : EndId} {x : ChannelEnd} {hop k : ConnectionId}
  {cap : Capability}

theorem endsOver_congr (listed : t.overConnection = s.overConnection) :
    t.endsOver = s.endsOver := by
  funext hop
  rw [endsOver, endsOver, listed]

theorem RunsOver.keeps (runs : s.RunsOver e hop) : s.Keeps e := by
  obtain ⟨x, there, -⟩ := runs
  exact ⟨x, there⟩

/-! ### A new end -/

theorem Creates.mem_endsOver_iff (creates : s.Creates e x hop cap t) :
    f ∈ t.endsOver k ↔ f ∈ s.endsOver k ∨ f = e ∧ k = hop := by
  rw [creates.endsOver]
  split
  next same => simp [same]
  next other => simp [other]

theorem Creates.runsOver_self (creates : s.Creates e x hop cap t) (hops : x.hops = [hop]) :
    t.RunsOver e k ↔ k = hop := by
  have there : t.ends[e]? = some x := congrArg Lane.channel creates.lane
  simp [RunsOver, there, hops]

namespace Listing

theorem empty : ChannelStore.empty.Listing := by
  have nothing (hop : ConnectionId) : ChannelStore.empty.endsOver hop = [] := by
    simp [endsOver, ChannelStore.empty]
  constructor
  · intro hop
    rw [nothing]
    exact List.nodup_nil
  · intro e hop hop' mem
    rw [nothing] at mem
    cases mem
  · intro e
    simp only [nothing]
    simp [Keeps, ChannelStore.empty]

theorem of_kept (listing : s.Listing) (listed : t.overConnection = s.overConnection)
    (keeps : ∀ e, t.Keeps e ↔ s.Keeps e) : t.Listing := by
  have same := endsOver_congr listed
  constructor
  · rw [same]
    exact listing.nodup
  · rw [same]
    exact listing.single
  · intro e
    rw [keeps, same]
    exact listing.keeps_iff e

theorem of_creates (listing : s.Listing) (creates : s.Creates e x hop cap t)
    (fresh : ¬ s.Keeps e) : t.Listing := by
  -- What is listed is kept, so the new end was in no list.
  have absent (k : ConnectionId) : e ∉ s.endsOver k := fun mem =>
    fresh ((listing.keeps_iff e).2 ⟨k, mem⟩)
  constructor
  · intro k
    rw [creates.endsOver]
    split
    · rw [List.nodup_append]
      refine ⟨listing.nodup hop, by simp, ?_⟩
      rintro f mem _ own rfl
      rw [List.mem_singleton.1 own] at mem
      exact absent hop mem
    · exact listing.nodup k
  · intro f k k' mem mem'
    rw [creates.mem_endsOver_iff] at mem mem'
    obtain mem | ⟨rfl, rfl⟩ := mem
    · obtain mem' | ⟨rfl, -⟩ := mem'
      · exact listing.single f k k' mem mem'
      · exact absurd mem (absent k)
    · obtain mem' | ⟨-, rfl⟩ := mem'
      · exact absurd mem' (absent k')
      · rfl
  · intro f
    rw [creates.keeps_iff, listing.keeps_iff]
    simp only [creates.mem_endsOver_iff]
    constructor
    · rintro (⟨k, mem⟩ | rfl)
      · exact ⟨k, .inl mem⟩
      · exact ⟨hop, .inr ⟨rfl, rfl⟩⟩
    · rintro ⟨k, mem | ⟨rfl, -⟩⟩
      · exact .inl ⟨k, mem⟩
      · exact .inr rfl

end Listing

end ChannelStore

/-! ### Steps -/

theorem LaneStep.hops_eq [Digest] {h : Host} {a : Action} {e : EndId} {l l' : Lane} {d : Deed}
    {x y : ChannelEnd} (step : LaneStep h a e l d l') (before : l.channel = some x)
    (after : l'.channel = some y) :
    y.hops = x.hops ∨ ∃ m, a = .deliver (.upgrade m) ∧ m.owner = e ∧ m.Completes x.state := by
  by_cases completed : d = .completed
  · subst completed
    cases step with
    | confirm _ m z own nextRecv nextAck action owner channel state =>
      obtain rfl : z = x := Option.some.inj (channel.symm.trans before)
      exact .inr ⟨.confirm m, action, owner.symm, state⟩
    | finish _ m z own nextRecv nextAck action owner channel state =>
      obtain rfl : z = x := Option.some.inj (channel.symm.trans before)
      exact .inr ⟨.finish m, action, owner.symm, state⟩
  · obtain ⟨z, there, change⟩ := step.endStep before
    obtain rfl : z = y := Option.some.inj (there.symm.trans after)
    cases change with
    | completed => exact absurd rfl completed
    | _ => exact .inl rfl

namespace Chain

variable [Digest] {c c' d d' : Chain} {a : Action} {rep : Report} {l l' : History} {e : EndId}
  {hop : ConnectionId}

omit [Digest] in
/-- An action creates an end over a connection. -/
def CreatesOver (e : EndId) (hop : ConnectionId) (s : ChannelStore) (_ : Action)
    (t : ChannelStore) : Prop :=
  ¬ s.Keeps e ∧ t.RunsOver e hop

omit [Digest] in
/-- A message that completes an upgrade moves an end to a connection or away from it. -/
def Moves (e : EndId) (hop : ConnectionId) (s : ChannelStore) (a : Action) (t : ChannelStore) :
    Prop :=
  ∃ m x, a = .deliver (.upgrade m) ∧ m.owner = e ∧ s.ends[e]? = some x ∧ m.Completes x.state ∧
    ¬ (t.RunsOver e hop ↔ s.RunsOver e hop)

theorem Takes.runsOver_iff (orderly : c.Orderly) (taken : c.Takes a rep c')
    (there : c.host.store.Keeps e) :
    (c'.host.store.RunsOver e hop ↔ c.host.store.RunsOver e hop) ∨
      Moves e hop c.host.store a c'.host.store := by
  obtain ⟨x, before⟩ := there
  obtain ⟨deed, step, -⟩ := (taken.stepped orderly).lane e
  obtain ⟨y, after, -⟩ := step.endStep before
  obtain same | ⟨m, action, owner, completes⟩ := step.hops_eq before after
  · left
    have before' : c.host.store.ends[e]? = some x := before
    have after' : c'.host.store.ends[e]? = some y := after
    simp [ChannelStore.RunsOver, before', after', same]
  · by_cases stays : c'.host.store.RunsOver e hop ↔ c.host.store.RunsOver e hop
    · exact .inl stays
    · exact .inr ⟨m, x, action, owner, before, completes, stays⟩

omit [Digest] in
theorem Orderly.not_keeps (orderly : c.Orderly) (port : PortId) :
    ¬ c.host.store.Keeps ⟨port, .channel c.host.store.created⟩ := by
  rintro ⟨x, there⟩
  have free : c.host.store.ends[Handshake.freshEnd c.host port]? = none :=
    congrArg Lane.channel (orderly.free port)
  rw [show c.host.store.ends[Handshake.freshEnd c.host port]? = some x from there] at free
  cases free

theorem Takes.mem_endsOver_iff (orderly : c.Orderly) (registered : c.host.store.Registered)
    (taken : c.Takes a rep c') : e ∈ c'.host.store.endsOver hop ↔
      e ∈ c.host.store.endsOver hop ∨ CreatesOver e hop c.host.store a c'.host.store := by
  cases taken.enlists registered with
  | kept created registry listed =>
    have none : ¬ CreatesOver e hop c.host.store a c'.host.store := fun new =>
      new.1 (((taken.stepped orderly).keeps_iff created e).1 new.2.keeps)
    rw [ChannelStore.endsOver_congr listed, or_iff_left none]
  | new port x k cap creates hops =>
    rw [creates.mem_endsOver_iff]
    refine or_congr_right ?_
    constructor
    · rintro ⟨rfl, rfl⟩
      exact ⟨orderly.not_keeps port, (creates.runsOver_self hops).2 rfl⟩
    · rintro ⟨absent, runs⟩
      obtain there | rfl := creates.keeps_iff.1 runs.keeps
      · exact absurd there absent
      · exact ⟨rfl, (creates.runsOver_self hops).1 runs⟩

/-- What is listed stays right about an end and a connection, unless the end is moved. -/
theorem Takes.right (orderly : c.Orderly) (registered : c.host.store.Registered)
    (listing : c.host.store.Listing) (taken : c.Takes a rep c')
    (right : e ∈ c.host.store.endsOver hop ↔ c.host.store.RunsOver e hop) :
    (e ∈ c'.host.store.endsOver hop ↔ c'.host.store.RunsOver e hop) ∨
      Moves e hop c.host.store a c'.host.store := by
  rw [taken.mem_endsOver_iff orderly registered, CreatesOver]
  -- An end that is there is not listed anew; one that is not comes into being with its entry.
  by_cases there : c.host.store.Keeps e
  · refine (taken.runsOver_iff orderly there).imp (fun stays => ?_) id
    rw [stays, right]
    simp [there]
  · have absent : e ∉ c.host.store.endsOver hop := fun mem =>
      there ((listing.keeps_iff e).2 ⟨hop, mem⟩)
    simp [there, absent]

/-! ### All along a history -/

namespace Reaches

theorem listing (start : c.host.store = .empty) (reaches : c.Reaches l d) :
    d.host.store.Listing := by
  induction reaches with
  | rest =>
    rw [start]
    exact .empty
  | act before taken ih =>
    have orderly := before.orderly start
    cases taken.enlists (before.registered start) with
    | kept created registry listed =>
      exact ih.of_kept listed ((taken.stepped orderly).keeps_iff created)
    | new port x hop cap creates => exact ih.of_creates creates (orderly.not_keeps port)
  | arrange before store ports ih =>
    rw [store]
    exact ih

theorem mem_endsOver_of_mem (start : c.host.store = .empty) (reaches : c.Reaches l d)
    (onward : d.Reaches l' d') (mem : e ∈ d.host.store.endsOver hop) :
    e ∈ d'.host.store.endsOver hop := by
  induction onward with
  | rest => exact mem
  | act before taken ih =>
    have reached := reaches.trans before
    exact (taken.mem_endsOver_iff (reached.orderly start) (reached.registered start)).2 (.inl ih)
  | arrange before store ports ih =>
    rw [store]
    exact ih

theorem mem_endsOver_iff (start : c.host.store = .empty) (reaches : c.Reaches l d) :
    e ∈ d.host.store.endsOver hop ↔ c.Meets l d (CreatesOver e hop) := by
  constructor
  · intro mem
    induction reaches with
    | rest =>
      rw [start] at mem
      simp [ChannelStore.endsOver, ChannelStore.empty] at mem
    | act before taken ih =>
      obtain mem | new :=
        (taken.mem_endsOver_iff (before.orderly start) (before.registered start)).1 mem
      · exact (ih mem).trans (.act .rest taken)
      · exact .last before taken new
    | arrange before store ports ih =>
      rw [store] at mem
      exact (ih mem).arrange store ports
  · rintro ⟨l₁, a, rep, l₂, d₁, d₂, rfl, before, taken, after, new⟩
    refine mem_endsOver_of_mem start (.act before taken) after ?_
    exact (taken.mem_endsOver_iff (before.orderly start) (before.registered start)).2 (.inr new)

theorem runsOver_iff (start : c.host.store = .empty) (reaches : c.Reaches l d) (e : EndId)
    (hop : ConnectionId) :
    (e ∈ d.host.store.endsOver hop ↔ d.host.store.RunsOver e hop) ∨
      c.Meets l d (Moves e hop) := by
  induction reaches with
  | rest =>
    rw [start]
    simp [ChannelStore.endsOver, ChannelStore.RunsOver, ChannelStore.empty]
  | act before taken ih =>
    obtain right | moved := ih
    · exact (taken.right (before.orderly start) (before.registered start) (before.listing start)
        right).imp id (.last before taken)
    · exact .inr (moved.trans (.act .rest taken))
  | arrange before store ports ih =>
    rw [store]
    exact ih.imp id (fun moved => moved.arrange store ports)

/-- On a chain that started without channels, whatever the other chains do: each end that is kept is
in the list of one connection, once there, and this is the one it was created over. The lists are
right about an end and a connection, in that the end is in the list of the connection just if it runs
over it, unless a completed upgrade moved the end to the connection or away from it. -/
theorem associated (start : c.host.store = .empty) (reaches : c.Reaches l d) (hop : ConnectionId) :
    (d.host.store.endsOver hop).Nodup ∧ ∀ e,
      (d.host.store.Keeps e ↔ ∃! k, e ∈ d.host.store.endsOver k) ∧
      (e ∈ d.host.store.endsOver hop ↔ c.Meets l d (CreatesOver e hop)) ∧
      ((e ∈ d.host.store.endsOver hop ↔ d.host.store.RunsOver e hop) ∨
        c.Meets l d (Moves e hop)) := by
  have listing := reaches.listing start
  refine ⟨listing.nodup hop, fun e =>
    ⟨?_, reaches.mem_endsOver_iff start, reaches.runsOver_iff start e hop⟩⟩
  rw [listing.keeps_iff]
  constructor
  · rintro ⟨k, mem⟩
    exact ⟨k, mem, fun k' mem' => listing.single e k' k mem' mem⟩
  · rintro ⟨k, mem, -⟩
    exact ⟨k, mem⟩

end Reaches

end Chain

/-- A channel that was upgraded and still runs over its connection is listed there. -/
theorem Chain.Reaches.associated_upgraded :
    letI : Digest := .plain
    let r := Passage.upgraded "ics20-1" [1] (by decide)
    let d := r.world 21 .right
    d.host.store.endsOver Passage.hop = [Passage.owner] ∧
      d.host.store.RunsOver Passage.owner Passage.hop ∧
      (∃! k, Passage.owner ∈ d.host.store.endsOver k) ∧
      (r.world 0 .right).Meets (r.history .right 21) d
        (CreatesOver Passage.owner Passage.hop) := by
  let _ : Digest := .plain
  have filled : [1] ≠ ([] : Bytes) := by decide
  let r := Passage.upgraded "ics20-1" [1] filled
  have listed : (r.world 21 .right).host.store.endsOver Passage.hop = [Passage.owner] := rfl
  have runs : (r.world 21 .right).host.store.RunsOver Passage.owner Passage.hop :=
    ⟨Passage.turned "ics20-1", rfl, List.mem_singleton_self _⟩
  obtain ⟨-, of_end⟩ := associated (r.started.chain .right).store (r.leads .right 21).reaches
    Passage.hop
  obtain ⟨keeps, created, -⟩ := of_end Passage.owner
  refine ⟨listed, runs, keeps.1 runs.keeps, created.1 ?_⟩
  rw [listed]
  exact List.mem_singleton_self _

end Crosschain
