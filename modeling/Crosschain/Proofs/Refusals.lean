import Crosschain.Proofs.Histories

/-!
# What is refused leaves no trace

An action that is refused changes nothing but what an application was told, and one that came before
writes nothing and tells nothing. Most actions check first and write last. The exception is the
capability of a new end, which is registered after the end is stored: it is never refused, as the
names that are taken are those of ends with lower numbers.
-/

namespace Crosschain

/-! ### Names of capabilities -/

theorem Path.channel_eq_of_ownerText {e f : EndId} (he : '/' ∉ e.channel.text.toList)
    (hf : '/' ∉ f.channel.text.toList) (h : ownerText e = ownerText f) : e.channel = f.channel := by
  have last (g : EndId) : (ownerText g).toList.reverse = g.channel.text.toList.reverse ++
      '/' :: ("/ports/".toList ++ (g.port.text.toList ++ '/' :: "channels".toList)).reverse := by
    have between : "channels/".toList = "channels".toList ++ ['/'] := by decide
    simp [toList_ownerText, between]
  have backwards := congrArg (fun s : String => s.toList.reverse) h
  simp only [last] at backwards
  obtain ⟨same, -⟩ := eq_of_append_slash (by simpa using he) (by simpa using hf) backwards
  rw [List.reverse_inj, String.toList_inj] at same
  obtain ⟨p, ⟨c⟩⟩ := e
  obtain ⟨q, ⟨d⟩⟩ := f
  exact congrArg Identifier.mk same

theorem CapabilityName.number_eq_of_ofEnd {p q : PortId} {m n : UInt64}
    (h : ofEnd ⟨p, .channel m⟩ = ofEnd ⟨q, .channel n⟩) : m = n := by
  have owners : Path.ownerText ⟨p, .channel m⟩ = Path.ownerText ⟨q, .channel n⟩ := by
    have text : "capabilities" ++ Path.ownerText ⟨p, .channel m⟩ =
      "capabilities" ++ Path.ownerText ⟨q, .channel n⟩ := congrArg CapabilityName.text h
    rwa [← String.toList_inj, String.toList_append, String.toList_append,
      List.append_cancel_left_eq, String.toList_inj] at text
  have channels := @Path.channel_eq_of_ownerText ⟨p, .channel m⟩ ⟨q, .channel n⟩
    (Identifier.slash_notMem_channel m) (Identifier.slash_notMem_channel n) owners
  exact Identifier.channel_injective channels

/-- The names of capabilities that are taken are those of ends that were created. -/
def ChannelStore.Registered (s : ChannelStore) : Prop :=
  ∀ (name : CapabilityName) (index : UInt64), s.registry.owners[name]? = some index →
    ∃ (port : PortId) (n : UInt64), n < s.created ∧ name = .ofEnd ⟨port, .channel n⟩

namespace ChannelStore

variable {s : ChannelStore}

theorem registered_empty : empty.Registered := by
  intro name index taken
  simp [empty, Registry.empty] at taken

theorem Registered.free (registered : s.Registered) (port : PortId) :
    s.registry.owners[CapabilityName.ofEnd ⟨port, .channel s.created⟩]? = none := by
  by_contra taken
  obtain ⟨index, owner⟩ := Option.ne_none_iff_exists'.1 taken
  obtain ⟨q, n, below, name⟩ := registered _ _ owner
  rw [CapabilityName.number_eq_of_ofEnd name] at below
  exact UInt64.lt_irrefl n below

/-- An end under the next free name is stored without a refusal, and the names stay those of ends
that were created. -/
theorem Registered.applyEnd {change : EndChange} {hop : ConnectionId} (registered : s.Registered)
    (hops : change.value.hops = [hop])
    (named : change.isNew = true → ∃ port, change.owner = ⟨port, .channel s.created⟩) :
    (s.applyEnd change).1 = .error .overflow ∨
      (∃ cap, (s.applyEnd change).1 = .ok cap) ∧ (s.applyEnd change).2.Registered := by
  cases new : change.isNew with
  | false =>
    rw [applyEnd_old new hops]
    exact .inr ⟨⟨none, rfl⟩, registered⟩
  | true =>
    obtain ⟨port, owner⟩ := named new
    have hop_ok : change.value.hop = .ok hop := ChannelEnd.hop_eq_ok.2 hops
    have free := registered.free port
    rw [← owner] at free
    simp only [ChannelStore.applyEnd, hop_ok, new, if_true]
    cases count : Word.add? (s.setEnd change.owner change.value).created 1 with
    | none => exact .inl rfl
    | some created =>
      have grows : s.created < created := by
        have sum := Word.add?_eq_some_iff.1 count
        rw [UInt64.lt_iff_toNat_lt, sum]
        exact Nat.lt_succ_self _
      cases index : Word.add? s.registry.nextIndex 1 with
      | none =>
        simp [Registry.create, startCounters, setNextSend, setNextRecv, setNextAck,
          addOverConnection, setEnd, free, index, Fault.map]
      | some next =>
        simp only [Registry.create, startCounters, setNextSend, setNextRecv, setNextAck,
          addOverConnection, setEnd, free, index]
        refine .inr ⟨⟨_, rfl⟩, ?_⟩
        intro name i taken
        simp only [Std.ExtTreeMap.getElem?_insert, Std.compare_eq_iff_eq] at taken
        split at taken
        next same => exact ⟨port, s.created, grows, by rw [← same, owner]⟩
        · obtain ⟨q, n, below, found⟩ := registered name i taken
          exact ⟨q, n, UInt64.lt_trans below grows, found⟩

theorem Registered.of_eq {t : ChannelStore} (registered : s.Registered)
    (registry : t.registry = s.registry) (created : t.created = s.created) : t.Registered := by
  intro name index taken
  rw [registry] at taken
  rw [created]
  exact registered name index taken

theorem registry_applyPacket (s : ChannelStore) (c : PacketChange) :
    (s.applyPacket c).registry = s.registry := by
  rw [applyPacket_eq]

theorem registry_applyUpgrade (s : ChannelStore) (c : UpgradeChange) :
    (s.applyUpgrade c).registry = s.registry := by
  rw [applyUpgrade_eq]

theorem Registered.applyPacket (registered : s.Registered) (c : PacketChange) :
    (s.applyPacket c).Registered :=
  registered.of_eq (registry_applyPacket s c) (created_applyPacket s c)

theorem Registered.applyUpgrade (registered : s.Registered) (c : UpgradeChange) :
    (s.applyUpgrade c).Registered :=
  registered.of_eq (registry_applyUpgrade s c) (created_applyUpgrade s c)

end ChannelStore

theorem Handshake.exists_hop [Digest] {h : Host} {m : HandshakeMessage} {out : Output EndChange}
    (ok : step h m = .ok out) (version : ChannelVersion) :
    ∃ hop, (Chain.settleVersion m out.result version).value.hops = [hop] ∧
      ((Chain.settleVersion m out.result version).isNew = true → ∃ port,
        (Chain.settleVersion m out.result version).owner = ⟨port, .channel h.store.created⟩) := by
  cases step_eq_ok.1 ok with
  | openInit connection hops | openTry named connection hops => exact ⟨_, hops, fun _ => ⟨_, rfl⟩⟩
  | openAck channel state connection hops | openConfirm channel state connection hops =>
    exact ⟨_, hops, fun new => by cases new⟩

/-- A handshake is never refused once its end is stored. -/
theorem ChannelStore.Registered.handshake [Digest] {h : Host} {m : HandshakeMessage}
    {out : Output EndChange} {version : ChannelVersion} {r : Attempt (Option Capability)}
    {t : ChannelStore} (registered : h.store.Registered) (ok : Handshake.step h m = .ok out)
    (stored : h.store.applyEnd (Chain.settleVersion m out.result version) = (r, t)) :
    r = .error .overflow ∨ (∃ cap, r = .ok cap) ∧ t.Registered := by
  obtain ⟨hop, hops, named⟩ := Handshake.exists_hop ok version
  have applied := registered.applyEnd hops named
  rwa [stored] at applied

namespace Chain

/-- Two chains that differ at most in what their applications were told. -/
structure Unchanged (c c' : Chain) : Prop where
  host : c'.host = c.host
  window : c'.window = c.window
  blocks : c'.blocks = c.blocks
  bindings : c'.bindings = c.bindings

theorem Unchanged.refl (c : Chain) : Unchanged c c := ⟨rfl, rfl, rfl, rfl⟩

variable [Digest] {c c' : Chain}

/-- A refusal leaves a chain unchanged, and so does a result that says that the action came before; it
tells nothing then. Otherwise the names of capabilities stay in order. -/
def Tidy {ε α : Type} (c : Chain) (report : α → Report) : Except (Fault ε) α × Chain → Prop
  | (.error (.refused _), c') => c.Unchanged c'
  | (.error .overflow, _) => True
  | (.ok x, c') => c'.host.store.Registered ∧
    ((report x).outcome = some .alreadyApplied → c' = c ∧ (report x).events = [])

omit [Digest] in
theorem Tidy.of_error {ε α : Type} {report : α → Report} {f : Fault ε} (same : c.Unchanged c') :
    c.Tidy report (.error f, c') := by
  cases f with
  | refused e => exact same
  | overflow => exact trivial

omit [Digest] in
theorem Tidy.of_ok {ε α : Type} {report : α → Report} {x : α}
    (registered : c'.host.store.Registered) (new : (report x).outcome ≠ some .alreadyApplied) :
    c.Tidy report ((.ok x, c') : Except (Fault ε) α × Chain) :=
  ⟨registered, fun repeated => absurd repeated new⟩

theorem Delivers.tidy {m : Datagram} {r : Routed DeliveryReceipt}
    (registered : c.host.store.Registered) (delivers : c.Delivers m r) :
    c.Tidy DeliveryReceipt.report r := by
  cases delivers with
  | unrouted | unowned | failed => exact .of_error (.refl c)
  | declined => exact .of_error ⟨rfl, rfl, rfl, rfl⟩
  | unstored bound ok agrees failed =>
    obtain overflow | ⟨⟨cap, stored⟩, -⟩ := registered.handshake ok failed
    · cases overflow
      exact trivial
    · cases stored
  | stored bound ok agrees stored =>
    obtain overflow | ⟨-, registered'⟩ := registered.handshake ok stored
    · cases overflow
    · exact .of_ok registered' (by simp [DeliveryReceipt.report])
  | @upgraded m id app out | @upgradedTold m id app out =>
    refine .of_ok (registered.applyUpgrade _) ?_
    cases step : out.result.step <;> simp [DeliveryReceipt.report, upgradeOutcome]
  | repeated bound owns ok again =>
    exact ⟨registered, fun _ => ⟨rfl, (Transfer.events_of_noOp ok again).2⟩⟩
  | applied => exact .of_ok (registered.applyPacket _) (by simp [DeliveryReceipt.report])
  | answered =>
    exact .of_ok ((registered.applyPacket _).applyPacket _) (by simp [DeliveryReceipt.report])

/-! ### Any action -/

/-- What an action leaves, as seen from its report. -/
structure Tidied (c : Chain) (rep : Report) (c' : Chain) : Prop where
  registered : c'.host.store.Registered
  refused : rep.outcome = none → c.Unchanged c'
  repeated : rep.outcome = some .alreadyApplied →
    c'.host.store = c.host.store ∧ rep.events = []

variable {rep : Report}

theorem Performs.tidied {a : Action} (registered : c.host.store.Registered)
    (performs : c.Performs a rep c') : c.Tidied rep c' := by
  cases performs with
  | relayed delivers reports =>
    have tidy := delivers.tidy registered
    obtain ⟨x, rfl, rfl⟩ | ⟨e, rfl, rfl⟩ := reports
    · obtain ⟨names, same⟩ := tidy
      refine ⟨names, by simp [DeliveryReceipt.report], ?_⟩
      intro repeated
      obtain ⟨rfl, events⟩ := same repeated
      exact ⟨rfl, events⟩
    · refine ⟨?_, fun _ => tidy, by simp⟩
      rw [Unchanged.host tidy]
      exact registered
  | refused => exact ⟨registered, fun _ => .refl c, by simp⟩
  | sent => exact ⟨registered.applyPacket _, by simp, by simp⟩
  | written ok =>
    refine ⟨registered.applyPacket _, by simp, ?_⟩
    intro repeated
    cases Transfer.writeAcknowledgement_eq_ok.1 ok with
    | before => exact ⟨rfl, rfl⟩
    | written => simp [PacketChange.noOp?] at repeated
  | proposed => exact ⟨registered.applyUpgrade _, by simp, by simp⟩
  | closed => exact ⟨registered, by simp, by simp⟩
  | advanced => exact ⟨registered, by simp, by simp⟩
  | heard => exact ⟨registered, by simp, by simp⟩

theorem perform_tidied {a : Action} (registered : c.host.store.Registered)
    (done : c.perform a = some (rep, c')) : c.Tidied rep c' := by
  obtain ⟨d, performs, rfl | ⟨taken, more⟩⟩ := exists_performs done
  · exact performs.tidied registered
  · -- The block that follows leaves the store as the action left it.
    obtain ⟨names, -, repeated⟩ := performs.tidied registered
    have store := store_of_advance? more
    refine ⟨?_, fun none => absurd none taken, ?_⟩
    · rw [store]
      exact names
    · rw [store]
      exact repeated

namespace Leads

variable {l : History} {d : Chain}

/-- On a chain that started without channels, the names of capabilities that are taken are at each
moment those of ends that were created. -/
theorem registered (start : c.host.store = .empty) (leads : c.Leads l d) :
    d.host.store.Registered := by
  induction leads with
  | rest =>
    rw [start]
    exact ChannelStore.registered_empty
  | act before done ih => exact (perform_tidied ih done).registered

/-- On a chain that started without channels, an action that is refused leaves the chain as it was,
and one that is reported to have come before writes nothing and tells nothing: the block that is
added after such a message is all that is new. -/
theorem unchanged_of_refused (start : c.host.store = .empty) (leads : c.Leads l d) :
    (∀ a rep d', d.perform a = some (rep, d') → rep.outcome = none → d.Unchanged d') ∧
    (∀ a rep d', d.perform a = some (rep, d') → rep.outcome = some .alreadyApplied →
      d'.host.store = d.host.store ∧ rep.events = []) ∧
    (∀ m r d', d.deliver m = (.ok r, d') → r.outcome = .alreadyApplied →
      d' = d ∧ r.events = []) := by
  have registered := leads.registered start
  refine ⟨fun a rep d' done => (perform_tidied registered done).refused,
    fun a rep d' done => (perform_tidied registered done).repeated, ?_⟩
  intro m r d' done repeated
  have tidy := (d.delivers m).tidy registered
  rw [done] at tidy
  exact tidy.2 (congrArg some repeated)

end Leads

end Chain

/-- A chain with an open channel refuses to close it for a capability that is not that of the end. -/
theorem Chain.Leads.unchanged_of_refused_direct :
    letI : Digest := .plain
    let r := Passage.direct "ics20-1" [1] (by decide)
    ∃ rep d', (r.world 11 .left).perform (.close ⟨1⟩ ⟨Passage.owner⟩) = some (rep, d') ∧
      rep.outcome = none ∧ (r.world 11 .left).Unchanged d' := by
  let _ : Digest := .plain
  have filled : [1] ≠ ([] : Bytes) := by decide
  let r := Passage.direct "ics20-1" [1] filled
  have done : (r.world 11 .left).perform (.close ⟨1⟩ ⟨Passage.owner⟩) =
      some (⟨none, []⟩, r.world 11 .left) := rfl
  exact ⟨_, _, done, rfl,
    (Leads.unchanged_of_refused (r.started.chain .left).store (r.leads .left 11)).1 _ _ _ done rfl⟩

end Crosschain
