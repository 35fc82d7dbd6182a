import Crosschain.Proofs.Sites

/-!
# Relaying a message

A relayer tells a client of the other chain's newest block and brings a message with that block's
own proofs. If the channel layer takes the message and the application agrees, the message is
carried out, and a new block shows what the chain keeps by then.
-/

namespace Crosschain

/-! ### Heights ahead -/

namespace Height

def later (h : Height) (k : Nat) : Height := ⟨h.revision, h.height + .ofNat k⟩

/-- The times of the next `k` blocks fit 64 bits. -/
def Room (h : Height) (k : Nat) : Prop :=
  genesisNanoseconds.toNat + (h.height.toNat + k) * blockNanoseconds.toNat < UInt64.size

variable {h : Height} {i j k : Nat}

@[simp] theorem later_zero : h.later 0 = h := by
  simp [later]

theorem later_later : (h.later i).later j = h.later (i + j) := by
  simp [later, UInt64.ofNat_add, UInt64.add_assoc]

namespace Room

theorem mono (room : h.Room k) (le : j ≤ k) : h.Room j := by
  have more := Nat.mul_le_mul_right blockNanoseconds.toNat (Nat.add_le_add_left le h.height.toNat)
  exact Nat.lt_of_le_of_lt (Nat.add_le_add_left more _) room

theorem toNat_later (room : h.Room k) : (h.later k).height.toNat = h.height.toNat + k := by
  have pace : 1 ≤ blockNanoseconds.toNat := by decide
  have long := Nat.mul_le_mul_left (h.height.toNat + k) pace
  have fits : h.height.toNat + k < UInt64.size := by
    unfold Room at room
    omega
  have small : (UInt64.ofNat k).toNat = k := UInt64.toNat_ofNat_of_lt' (by omega)
  rw [later, UInt64.toNat_add, small]
  exact Nat.mod_eq_of_lt fits

protected theorem later (room : h.Room (j + k)) : (h.later j).Room k := by
  unfold Room
  rw [(room.mono (Nat.le_add_right j k)).toNat_later, Nat.add_assoc]
  exact room

theorem time (room : h.Room k) : ∃ now, blockTime? (h.later k) = some now := by
  have place := room.toNat_later
  unfold Room at room
  have product : Word.mul? (h.later k).height blockNanoseconds =
      some ((h.later k).height * blockNanoseconds) := by
    rw [Word.mul?, if_pos]
    rw [place]
    omega
  have elapsed := Word.mul?_eq_some product
  have sum : Word.add? genesisNanoseconds ((h.later k).height * blockNanoseconds) =
      some (genesisNanoseconds + (h.later k).height * blockNanoseconds) := by
    rw [Word.add?, if_pos]
    rw [elapsed, place]
    exact room
  refine ⟨.ofNanoseconds (genesisNanoseconds + (h.later k).height * blockNanoseconds), ?_⟩
  rw [blockTime?, product, Option.bind_eq_bind, Option.bind_some, sum]
  rfl

theorem next (room : h.Room (k + 1)) : h.next? = some (h.later 1) := by
  have place := (room.mono (Nat.le_add_left 1 k)).toNat_later
  have sum : Word.add? h.height 1 = some (h.later 1).height := Word.add?_eq_some_iff.2 place
  rw [next?, add?, sum]
  rfl

end Room

end Height

/-- A deadline that a chain at a height has not reached, and will not in the next `k` blocks. -/
def UpgradeTimeout.Ahead (t : UpgradeTimeout) (h : Height) (k : Nat) : Prop :=
  ∀ j ≤ k, ∀ now, blockTime? (h.later j) = some now → t.elapsedAt (h.later j) now = false

theorem UpgradeTimeout.Ahead.at_later {t : UpgradeTimeout} {h : Height} {j k : Nat}
    {now : Timestamp} (ahead : t.Ahead h k) (le : j ≤ k)
    (time : blockTime? (h.later j) = some now) : t.elapsedAt (h.later j) now = false :=
  ahead j le now time

theorem UpgradeTimeout.Ahead.mono {t : UpgradeTimeout} {h : Height} {j k : Nat}
    (ahead : t.Ahead h k) (le : j ≤ k) : t.Ahead h j :=
  fun i below => ahead i (Nat.le_trans below le)

/-! ### Blocks that show a host -/

namespace Block

/-- A block is of the height and the time of a host, and commits to what the host keeps. -/
structure Shows (b : Block) (h : Host) : Prop where
  height : b.height = h.height
  time : blockTime? h.height = some b.timestamp
  snapshot : b.snapshot = h.snapshot

/-- The proofs of any message about what a block commits to. -/
def evidence (b : Block) : Evidence := ⟨b.proof, some b.proof, b.height⟩

/-- A block commits to a value under a path. -/
def Holds (b : Block) (p : Path) (v : Bytes) : Prop :=
  b.snapshot.get? (StorePrefix.default.key p) = some v

theorem Shows.holds {b : Block} {h : Host} {p : Path} {v : Bytes} (shows : b.Shows h)
    (clean : p.Clean) (value : h.provableAt? p = some v) : b.Holds p v := by
  rw [Holds, shows.snapshot, Host.get?_snapshot_of_clean clean, value]

theorem Shows.holds_end {b : Block} {h : Host} {e : EndId} {x : ChannelEnd} (shows : b.Shows h)
    (clean : e.Clean) (there : h.store.ends[e]? = some x) : b.Holds (.channelEnd e) x.encode :=
  shows.holds clean (by rw [Host.provableAt?, there]; rfl)

theorem Shows.holds_upgrade {b : Block} {h : Host} {e : EndId} {u : Upgrade} (shows : b.Shows h)
    (clean : e.Clean) (there : h.store.upgrades[e]? = some u) : b.Holds (.upgrade e) u.encode :=
  shows.holds clean (by rw [Host.provableAt?, there]; rfl)

theorem Shows.holds_receipt {b : Block} {h : Host} {e : EndId} {r : ErrorReceipt}
    (shows : b.Shows h) (clean : e.Clean) (there : h.store.errorReceipts[e]? = some r) :
    b.Holds (.upgradeError e) r.encode :=
  shows.holds clean (by rw [Host.provableAt?, there]; rfl)

end Block

/-- The newest block of a chain, which shows what the chain keeps. -/
structure Chain.Current (c : Chain) (b : Block) : Prop where
  newest : c.latestBlock? = some b
  shows : b.Shows c.host

/-! ### Clients that follow the other chain -/

namespace Host

variable {h : Host} {id : ClientId} {header : Header}

/-- No client is frozen. -/
def Thawed (h : Host) : Prop :=
  ∀ (id : ClientId) (client : Client), h.clients[id]? = some client →
    client.state.frozenHeight = none

@[simp] theorem height_updateClient : (h.updateClient id header).height = h.height := rfl

theorem updated_client (h : Host) (id : ClientId) (header : Header) :
    ∃ client, (h.updateClient id header).clients[id]? = some client ∧
      client.consensus[header.height]? = some header.consensus ∧
      (h.Thawed → client.state.frozenHeight = none) := by
  cases before : h.clients[id]? with
  | none =>
    refine ⟨.ofHeader header, ?_, ?_, fun _ => rfl⟩
    · simp [updateClient, before]
    · simp [Client.ofHeader]
  | some old =>
    refine ⟨old.learn header, ?_, ?_, fun thawed => ?_⟩
    · simp [updateClient, before]
    · simp [Client.learn]
    · have thaw := thawed id old before
      simp only [Client.learn]
      split <;> exact thaw

theorem Thawed.updateClient (thawed : h.Thawed) : (h.updateClient id header).Thawed := by
  intro other client there
  by_cases same : other = id
  · subst same
    obtain ⟨new, found, -, thaw⟩ := h.updated_client other header
    rw [found] at there
    cases there
    exact thaw thawed
  · have apart : ¬ compare id other = .eq := fun c => same (Std.compare_eq_iff_eq.1 c).symm
    simp only [Host.updateClient, Std.ExtTreeMap.getElem?_insert, if_neg apart] at there
    exact thawed other client there

theorem Thawed.knows [Digest] {c : ConnectionEnd} {b : Block} (thawed : h.Thawed) :
    (h.updateClient c.client b.header).Knows c b.height b.header.consensus := by
  obtain ⟨client, there, known, thaw⟩ := h.updated_client c.client b.header
  exact ⟨client, there, thaw thawed, known⟩

end Host

/-! ### Chains that go on -/

theorem Application.refusal_reply {app : Application}
    (agrees : ∀ calls call, (app.policy calls call).refusal = none) (call : Call) :
    (app.reply call).refusal = none := by
  rw [reply]
  split
  · exact agrees _ call
  · rfl

namespace Chain

/-- The application bound to a port refuses nothing. -/
def Willing (c : Chain) (port : PortId) : Prop :=
  ∃ id app, c.appOf port = .ok (id, app) ∧ ∀ calls call, (app.policy calls call).refusal = none

theorem Willing.tell {c : Chain} {port : PortId} {id : ModuleId} {app : Application} {call : Call}
    {q : PortId} (willing : c.Willing q) (bound : c.appOf port = .ok (id, app)) :
    (c.tell id app call).Willing q := by
  obtain ⟨other, its, bound', agrees⟩ := willing
  obtain ⟨binding, there⟩ := appOf_eq_ok.1 bound'
  by_cases same : id = other
  · subst same
    obtain rfl : app = its := Option.some.inj ((appOf_eq_ok.1 bound).2.symm.trans there)
    exact ⟨id, app.after call, appOf_eq_ok.2 ⟨binding, by simp [Chain.tell]⟩, agrees⟩
  · refine ⟨other, its, appOf_eq_ok.2 ⟨binding, ?_⟩, agrees⟩
    simp [Chain.tell, Std.ExtTreeMap.getElem?_insert, same, there]

/-- A chain that went on by one block, with this store by then; its newest block shows it. -/
structure Next (c c' : Chain) (s : ChannelStore) : Prop where
  store : c'.host.store = s
  height : c'.host.height = c.host.height.later 1
  connections : c'.host.connections = c.host.connections
  thawed : c.host.Thawed → c'.host.Thawed
  willing : ∀ port, c.Willing port → c'.Willing port
  current : ∃ b, c'.Current b

theorem latestBlock?_pushBlock {c : Chain} {b : Block} {window : UInt64} {l : List Block}
    (blocks : c.blocks = pushBlock window l b) : c.latestBlock? = some b := by
  rw [latestBlock?, blocks, pushBlock]
  split <;> simp

theorem current_of_advance {c c' : Chain} (more : c.advance? = some c') : ∃ b, c'.Current b := by
  obtain ⟨h, b, -, block, rfl⟩ := advance?_eq_some more
  obtain ⟨now, time, rfl⟩ := Option.map_eq_some_iff.1 block
  refine ⟨⟨h, now, c.host.snapshot⟩, latestBlock?_pushBlock rfl, rfl, time, ?_⟩
  simp only [Host.snapshot, Host.provable]

theorem exists_next_of_advance {c : Chain} (room : c.host.height.Room 1) :
    ∃ c', c.advance? = some c' ∧ c.Next c' c.host.store := by
  obtain ⟨now, time⟩ := room.time
  have more := advance?_of_time room.next time
  exact ⟨_, more, rfl, rfl, rfl, id, fun _ willing => willing, current_of_advance more⟩

variable [Digest]

/-- A client is told of a block, and a message about an upgrade is taken. -/
def Relays (c : Chain) (id : ClientId) (b : Block) (m : UpgradeMessage) (o : Outcome) (c' : Chain) :
    Prop :=
  ∃ d events, c.perform (.updateClient id b.header) = some (⟨some .applied, []⟩, d) ∧
    d.perform (.deliver (.upgrade m)) = some (⟨some o, events⟩, c')

theorem exists_perform_upgrade {c : Chain} {m : UpgradeMessage} {out : Output UpgradeChange}
    {id : ModuleId} {app : Application} (bound : c.appOf m.owner.port = .ok (id, app))
    (step : Upgrading.step c.host m = .ok out)
    (agrees : ∀ call, upgradeCall? m out.result = some call → (app.reply call).refusal = none)
    (room : c.host.height.Room 1) :
    ∃ c' events, c.perform (.deliver (.upgrade m)) =
        some (⟨some (upgradeOutcome out.result.step), events⟩, c') ∧
      c.Next c' (c.host.store.applyUpgrade out.result) := by
  -- The application is told of some steps only.
  cases told : upgradeCall? m out.result with
  | none =>
    obtain ⟨c', more, store, height, connections, thawed, willing, current⟩ :=
      exists_next_of_advance (c := c.mapStore fun s => s.applyUpgrade out.result) room
    exact ⟨c', out.events, Delivers.perform (.upgraded bound step told) more, store, height,
      connections, thawed, willing, current⟩
  | some call =>
    obtain ⟨c', more, store, height, connections, thawed, willing, current⟩ :=
      exists_next_of_advance
        (c := (c.tell id app call).mapStore fun s => s.applyUpgrade out.result) room
    exact ⟨c', out.events, Delivers.perform (.upgradedTold bound step told (agrees call told)) more,
      store, height, connections, thawed, fun port before => willing port (before.tell bound), current⟩

theorem exists_relays {c : Chain} {client : ClientId} {b : Block} {m : UpgradeMessage}
    {out : Output UpgradeChange} {id : ModuleId} {app : Application}
    (bound : c.appOf m.owner.port = .ok (id, app))
    (step : Upgrading.step (c.host.updateClient client b.header) m = .ok out)
    (agrees : ∀ call, upgradeCall? m out.result = some call → (app.reply call).refusal = none)
    (room : c.host.height.Room 1) :
    ∃ c', c.Relays client b m (upgradeOutcome out.result.step) c' ∧
      c.Next c' (c.host.store.applyUpgrade out.result) := by
  let d := c.mapHost fun h => h.updateClient client b.header
  obtain ⟨c', events, done, next⟩ := exists_perform_upgrade (c := d) bound step agrees room
  obtain ⟨store, height, connections, thawed, willing, current⟩ := next
  exact ⟨c', ⟨d, events, rfl, done⟩, store, height, connections,
    fun before => thawed before.updateClient, willing, current⟩

/-- An upgrade is proposed, and a block shows it. -/
def Proposes (c : Chain) (cap : Capability) (m : UpgradeInit) (c' : Chain) : Prop :=
  ∃ d events, c.perform (.proposeUpgrade cap m) = some (⟨some .applied, events⟩, d) ∧
    d.perform .advance = some (⟨some .applied, []⟩, c')

theorem exists_proposes {c : Chain} {cap : Capability} {m : UpgradeInit}
    {out : Output UpgradeChange} (step : Upgrading.propose c.host cap m = .ok out)
    (room : c.host.height.Room 1) :
    ∃ c', c.Proposes cap m c' ∧ c.Next c' (c.host.store.applyUpgrade out.result) := by
  obtain ⟨c', more, store, height, connections, thawed, willing, current⟩ :=
    exists_next_of_advance (c := c.mapStore fun s => s.applyUpgrade out.result) room
  refine ⟨c', ⟨c.mapStore fun s => s.applyUpgrade out.result, out.events, ?_, ?_⟩, store, height,
    connections, thawed, willing, current⟩
  · rw [perform_proposeUpgrade, step, attempted]
  · rw [perform, more, Option.map_some]

end Chain

/-! ### Worlds that go on -/

theorem Side.eq_or_eq_other (r s : Side) : r = s ∨ r = s.other := by
  cases r <;> cases s <;> simp [other]

namespace World

variable {w : World} {s : Side} {c : Chain}

def put (w : World) (s : Side) (c : Chain) : World := fun t => if t = s then c else w t

@[simp] theorem put_self : w.put s c s = c := if_pos rfl

@[simp] theorem put_other : w.put s c s.other = w s.other := if_neg s.other_ne

@[simp] theorem put_back : w.put s.other c s = w s := if_neg s.other_ne.symm

variable [Digest]

/-- A relayer brings a message with the proofs of a block to the chain of a side, which takes it. -/
def Relays (w : World) (s : Side) (id : ClientId) (b : Block) (message : Evidence → UpgradeMessage)
    (w' : World) : Prop :=
  ∃ v events, w.Step (some ⟨s, .updateClient id b.header, some .applied, []⟩) v ∧
    v.Step (some ⟨s, .deliver (.upgrade (message b.evidence)), some .applied, events⟩) w'

/-- A relayer brings a message with the proofs of the newest block of the other chain. -/
def Takes (w : World) (s : Side) (id : ClientId) (message : Evidence → UpgradeMessage)
    (w' : World) : Prop :=
  ∃ b, (w s.other).latestBlock? = some b ∧ w.Relays s id b message w'

/-- An upgrade is proposed on the chain of a side, which adds a block. -/
def Proposes (w : World) (s : Side) (cap : Capability) (m : UpgradeInit) (w' : World) : Prop :=
  ∃ v events, w.Step (some ⟨s, .proposeUpgrade cap m, some .applied, events⟩) v ∧
    v.Step (some ⟨s, .advance, some .applied, []⟩) w'

/-- Each chain is brought a message with the proofs of the block that is the newest one of the other
chain at the start: first the chain of one side, then that of the other. -/
def Round (w : World) (first : Side) (id : Side → ClientId)
    (message : Side → Evidence → UpgradeMessage) (w' : World) : Prop :=
  ∃ (b : Side → Block) (v : World), (∀ s, (w s).latestBlock? = some (b s)) ∧
    w.Relays first (id first) (b first.other) (message first) v ∧
    v.Relays first.other (id first.other) (b first) (message first.other) w'

omit [Digest] in
theorem put_put {c' : Chain} : (w.put s c).put s c' = w.put s c' := by
  funext t
  by_cases same : t = s <;> simp [put, same]

omit [Digest] in
theorem put_both {w' : World} : (w.put s (w' s)).put s.other (w' s.other) = w' := by
  funext t
  cases s <;> cases t <;> rfl

theorem step_put {a : Action} {rep : Report} (done : (w s).perform a = some (rep, c)) :
    w.Step (some ⟨s, a, rep⟩) (w.put s c) := ⟨c, done, rfl⟩

theorem relays_put {id : ClientId} {b : Block} {message : Evidence → UpgradeMessage}
    (relays : (w s).Relays id b (message b.evidence) .applied c) :
    w.Relays s id b message (w.put s c) := by
  obtain ⟨d, events, told, done⟩ := relays
  have after : (w.put s d s).perform (.deliver (.upgrade (message b.evidence))) =
      some (⟨some .applied, events⟩, c) := by
    rw [put_self]
    exact done
  have second := step_put after
  rw [put_put] at second
  exact ⟨w.put s d, events, step_put told, second⟩

theorem takes_put {id : ClientId} {b : Block} {message : Evidence → UpgradeMessage}
    (newest : (w s.other).latestBlock? = some b)
    (relays : (w s).Relays id b (message b.evidence) .applied c) :
    w.Takes s id message (w.put s c) := ⟨b, newest, relays_put relays⟩

theorem round_of_relays {first : Side} {w' : World} {id : Side → ClientId} {b : Side → Block}
    {message : Side → Evidence → UpgradeMessage}
    (newest : ∀ s, (w s).latestBlock? = some (b s))
    (relays : ∀ s, (w s).Relays (id s) (b s.other) (message s (b s.other).evidence) .applied
      (w' s)) : w.Round first id message w' := by
  -- What the first chain does leaves the second one and its block as they were.
  let v := w.put first (w' first)
  have second : (v first.other).Relays (id first.other) (b first)
      (message first.other (b first).evidence) .applied (w' first.other) := by
    have relays := relays first.other
    rw [Side.other_other] at relays
    rw [show v first.other = w first.other from put_other]
    exact relays
  have done := relays_put second
  rw [put_both] at done
  exact ⟨b, v, newest, relays_put (relays first), done⟩

theorem proposes_put {cap : Capability} {m : UpgradeInit} (proposes : (w s).Proposes cap m c) :
    w.Proposes s cap m (w.put s c) := by
  obtain ⟨d, events, done, more⟩ := proposes
  have after : (w.put s d s).perform .advance = some (⟨some .applied, []⟩, c) := by
    rw [put_self]
    exact more
  have second := step_put after
  rw [put_put] at second
  exact ⟨w.put s d, events, step_put done, second⟩

end World

end Crosschain
