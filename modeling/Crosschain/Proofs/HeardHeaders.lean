import Crosschain.Proofs.Histories
import Crosschain.Proofs.Spared
import Crosschain.Proofs.TimeoutRefusals

/-!
# What a client knows of the other chain

A client is told of headers in any order: old ones after new ones, several of one height, and of
more than one revision. Its latest height is the greatest it was told of, and for each height it
knows what the last header of that height said. So the latest height is always known, and whoever
looks it up to compare a timeout finds it.
-/

namespace Crosschain

/-! ### One client -/

/-- The last of the headers given that is of a height. -/
def Header.lastOf? (given : List Header) (g : Height) : Option Header :=
  given.reverse.find? fun x => x.height = g

namespace Header

variable {given : List Header} {x : Header} {g : Height}

theorem lastOf?_append (given : List Header) (x : Header) (g : Height) :
    lastOf? (given ++ [x]) g = if x.height = g then some x else lastOf? given g := by
  rw [lastOf?, List.reverse_append, List.reverse_singleton, List.singleton_append, List.find?_cons]
  by_cases same : x.height = g <;> simp [same, lastOf?]

theorem isSome_lastOf? : (lastOf? given g).isSome = true ↔ ∃ x ∈ given, x.height = g := by
  simp [lastOf?, List.find?_isSome]

theorem lastOf?_of_last {before after : List Header} (place : given = before ++ x :: after)
    (last : ∀ y ∈ after, y.height ≠ x.height) : lastOf? given x.height = some x := by
  have none : after.reverse.find? (fun y => y.height = x.height) = none := by
    rw [List.find?_eq_none]
    intro y mem
    simpa using last y (List.mem_reverse.1 mem)
  rw [lastOf?, place, List.reverse_append, List.reverse_cons, List.append_assoc, List.find?_append,
    none, Option.none_or]
  simp

end Header

/-- What a client knows that was told of these headers, the first one in front. -/
structure Client.Learnt (k : Client) (given : List Header) : Prop where
  told : ∃ x ∈ given, x.height = k.state.latestHeight
  greatest : ∀ x ∈ given, x.height ≤ k.state.latestHeight
  consensus : ∀ g, k.consensus[g]? = (Header.lastOf? given g).map Header.consensus

namespace Client.Learnt

variable {k : Client} {given : List Header}

theorem ofHeader (x : Header) : (Client.ofHeader x).Learnt [x] where
  told := ⟨x, List.mem_singleton_self x, rfl⟩
  greatest y mem := by
    rw [List.mem_singleton.1 mem]
    exact Std.le_refl _
  consensus g := by
    rw [← List.nil_append [x], Header.lastOf?_append]
    simp only [Client.ofHeader, Std.ExtTreeMap.getElem?_insert, Std.compare_eq_iff_eq]
    split
    · rfl
    · simp [Header.lastOf?]

theorem learn (learnt : k.Learnt given) (x : Header) : (k.learn x).Learnt (given ++ [x]) := by
  have latest : (k.learn x).state.latestHeight =
      if k.state.latestHeight < x.height then x.height else k.state.latestHeight := by
    unfold Client.learn
    split <;> rfl
  refine ⟨?_, ?_, ?_⟩
  · rw [latest]
    split
    · exact ⟨x, by simp, rfl⟩
    · obtain ⟨y, mem, highest⟩ := learnt.told
      exact ⟨y, List.mem_append_left _ mem, highest⟩
  · intro y mem
    rw [latest]
    rcases List.mem_append.1 mem with old | new
    · have below := learnt.greatest y old
      split
      next above => exact Height.le_trans below (Std.le_of_lt above)
      next => exact below
    · rw [List.mem_singleton.1 new]
      split
      next => exact Std.le_refl _
      next notAbove => exact Std.not_lt.1 notAbove
  · intro g
    rw [Header.lastOf?_append]
    simp only [Client.learn, Std.ExtTreeMap.getElem?_insert, Std.compare_eq_iff_eq]
    split
    · rfl
    · exact learnt.consensus g

theorem freeze (learnt : k.Learnt given) : k.freeze.Learnt given :=
  ⟨learnt.told, learnt.greatest, learnt.consensus⟩

theorem exists_latest (learnt : k.Learnt given) :
    ∃ cs, k.consensus[k.state.latestHeight]? = some cs := by
  obtain ⟨x, found⟩ := Option.isSome_iff_exists.1 (Header.isSome_lastOf?.2 learnt.told)
  exact ⟨x.consensus, by rw [learnt.consensus, found, Option.map_some]⟩

end Client.Learnt

/-! ### All clients of a chain -/

/-- The headers among those told that were meant for a client. -/
def givenTo (id : ClientId) (told : List (ClientId × Header)) : List Header :=
  (told.filter fun t => t.1 = id).map Prod.snd

theorem givenTo_append (id : ClientId) (told : List (ClientId × Header)) (t : ClientId × Header) :
    givenTo id (told ++ [t]) = if t.1 = id then givenTo id told ++ [t.2] else givenTo id told := by
  by_cases same : t.1 = id <;> simp [givenTo, same]

/-- The clients of a host have learnt what they were told. -/
structure Host.Heard (h : Host) (told : List (ClientId × Header)) : Prop where
  unknown : ∀ id : ClientId, h.clients[id]? = none → givenTo id told = []
  learnt : ∀ (id : ClientId) (k : Client), h.clients[id]? = some k → k.Learnt (givenTo id told)

namespace Host.Heard

variable {h h' : Host} {told : List (ClientId × Header)}

theorem congr (heard : h.Heard told) (clients : h'.clients = h.clients) : h'.Heard told :=
  ⟨clients ▸ heard.unknown, clients ▸ heard.learnt⟩

theorem insert {told' : List (ClientId × Header)} {id : ClientId} {k : Client}
    (heard : h.Heard told) (clients : h'.clients = h.clients.insert id k)
    (learnt : k.Learnt (givenTo id told'))
    (others : ∀ i, id ≠ i → givenTo i told' = givenTo i told) : h'.Heard told' := by
  have look (i : ClientId) : h'.clients[i]? = if id = i then some k else h.clients[i]? := by
    simp only [clients, Std.ExtTreeMap.getElem?_insert, Std.compare_eq_iff_eq]
  constructor
  · intro i missing
    rw [look] at missing
    split at missing
    · cases missing
    next other => rw [others i other, heard.unknown i missing]
  · intro i k' there
    rw [look] at there
    split at there
    next same =>
      subst same
      rw [← Option.some.inj there]
      exact learnt
    next other =>
      rw [others i other]
      exact heard.learnt i k' there

theorem updateClient (heard : h.Heard told) (id : ClientId) (x : Header) :
    (h.updateClient id x).Heard (told ++ [(id, x)]) := by
  have own : givenTo id (told ++ [(id, x)]) = givenTo id told ++ [x] := by
    rw [givenTo_append, if_pos rfl]
  have others (i : ClientId) (other : id ≠ i) : givenTo i (told ++ [(id, x)]) = givenTo i told := by
    rw [givenTo_append, if_neg other]
  cases known : h.clients[id]? with
  | none =>
    have clients : (h.updateClient id x).clients = h.clients.insert id (.ofHeader x) := by
      simp only [Host.updateClient, known]
    apply heard.insert clients _ others
    rw [own, heard.unknown id known]
    exact .ofHeader x
  | some old =>
    have clients : (h.updateClient id x).clients = h.clients.insert id (old.learn x) := by
      simp only [Host.updateClient, known]
    apply heard.insert clients _ others
    rw [own]
    exact (heard.learnt id old known).learn x

theorem freezeClient (heard : h.Heard told) (id : ClientId) : (h.freezeClient id).Heard told := by
  unfold Host.freezeClient
  split
  next old known => exact heard.insert rfl (heard.learnt id old known).freeze fun _ _ => rfl
  next => exact heard

end Host.Heard

/-! ### Sending over a client -/

/-- A refusal because a client knows nothing of a height. -/
def ChannelError.missesConsensus : ChannelError → Bool
  | .client (.noConsensus _ _) => true
  | _ => false

/-- Every client of a host knows its latest height. -/
def Host.KnowsLatest (h : Host) : Prop :=
  ∀ (id : ClientId) (k : Client), h.clients[id]? = some k →
    ∃ cs, k.consensus[k.state.latestHeight]? = some cs

namespace Host.KnowsLatest

variable {h : Host} {x : ChannelEnd} {m : OutgoingPacket}

theorem consensusState {id : ClientId} {s : ClientState} (known : h.KnowsLatest)
    (there : h.clientState id = .ok s) : ∃ cs, h.consensusState id s.latestHeight = .ok cs := by
  obtain ⟨k, client, rfl⟩ := clientState_eq_ok.1 there
  obtain ⟨cs, stored⟩ := known id k client
  exact ⟨cs, by simp [Host.consensusState, client, stored]⟩

theorem compareWith {id : ClientId} {s : ClientState} (known : h.KnowsLatest)
    (there : h.clientState id = .ok s) :
    Spares ChannelError.missesConsensus (Transfer.compareWith h id s m) := by
  obtain ⟨cs, found⟩ := known.consensusState there
  have asked : Spares ChannelError.missesConsensus
      (Fault.wrap .client (h.consensusState id s.latestHeight)) := by
    rw [found]
    exact .done
  unfold Transfer.compareWith
  split
  · exact .andThen asked fun _ _ => .ensure rfl
  · exact .andThen (.ensure rfl) fun _ _ => .andThen asked fun _ _ => .ensure rfl

theorem ensureNotTimedOut (known : h.KnowsLatest) :
    Spares ChannelError.missesConsensus (Transfer.ensureNotTimedOut h x m) := by
  have state (id : ClientId) :
      Spares ChannelError.missesConsensus (Fault.wrap .client (h.clientState id)) := by
    unfold Host.clientState
    split
    · exact .done
    · exact .refused rfl
  rw [Transfer.ensureNotTimedOut_eq]
  refine .andThen (.oneHop fun _ => rfl) fun hop _ => ?_
  refine .andThen (.connectionAt fun _ => rfl) fun c _ => ?_
  refine .andThen (state c.client) fun s there => .andThen (.ensure rfl) fun _ _ => ?_
  exact known.compareWith (Fault.wrap_eq_ok.1 there)

variable [Digest]

theorem send (known : h.KnowsLatest) (cap : Capability) :
    Spares ChannelError.missesConsensus (Transfer.send h cap m) := by
  unfold Transfer.send
  refine .andThen (.endAt rfl) fun x _ => .andThen (.authenticate fun _ => rfl) fun _ _ => ?_
  refine .andThen (.ensure rfl) fun _ _ => .andThen (.ensure rfl) fun _ _ => ?_
  refine .andThen (.pendingOrderChange rfl) fun _ _ => .andThen (.ensure rfl) fun _ _ => ?_
  refine .andThen (.ensure rfl) fun _ _ => .andThen (.ensure rfl) fun _ _ => ?_
  refine .andThen (.endId rfl) fun _ _ => .andThen known.ensureNotTimedOut fun _ _ => ?_
  refine .andThen (.nextSendOf rfl) fun _ _ => .andThen .checked fun _ _ => ?_
  exact .andThen .checked fun _ _ => .done

theorem chain_send {c : Chain} (known : c.host.KnowsLatest) (cap : Capability) (m : OutgoingPacket) :
    Spares ChannelError.missesConsensus (c.send cap m).1 := by
  unfold Chain.send
  split
  next f refused =>
    rintro e ⟨⟩
    exact known.send cap e refused
  next out sent =>
    dsimp only
    split
    next e missing =>
      have counted : Spares ChannelError.missesConsensus
          (Fault.lift ((c.host.store.applyPacket out.result).nextSendOf m.source)) :=
        .nextSendOf rfl
      exact .refused (counted e (congrArg Fault.lift missing))
    next => exact .done

end Host.KnowsLatest

theorem Host.Heard.knowsLatest {h : Host} {told : List (ClientId × Header)} (heard : h.Heard told) :
    h.KnowsLatest := by
  intro id k there
  exact (heard.learnt id k there).exists_latest

/-! ### What a chain hears -/

namespace Chain

/-- A chain goes on while its clients are told of headers, whatever these say, and may be frozen.
What the clients are told is listed, the first of it in front. -/
inductive Hears (c : Chain) : List (ClientId × Header) → Chain → Prop
  | rest : Hears c [] c
  | hear {told : List (ClientId × Header)} {d : Chain} (before : Hears c told d) (id : ClientId)
    (x : Header) : Hears c (told ++ [(id, x)]) (d.mapHost fun h => h.updateClient id x)
  | freeze {told : List (ClientId × Header)} {d : Chain} (before : Hears c told d) (id : ClientId) :
    Hears c told (d.mapHost fun h => h.freezeClient id)
  | change {told : List (ClientId × Header)} {d d' : Chain} (before : Hears c told d)
    (clients : d'.host.clients = d.host.clients) : Hears c told d'

variable {c d : Chain} {told : List (ClientId × Header)}

theorem Hears.heard (start : c.host.clients = ∅) (hears : c.Hears told d) : d.host.Heard told := by
  induction hears with
  | rest =>
    constructor
    · intro id missing
      rfl
    · intro id k there
      simp [start] at there
  | hear before id x ih => exact ih.updateClient id x
  | freeze before id ih => exact ih.freezeClient id
  | change before clients ih => exact ih.congr clients

/-- Whatever the clients of a chain that had none are told, in whatever order: a client is there
once it was told of a header. Its latest height is then the greatest it was told of, and it knows of
just the heights it was told of, of each what the last header said. So a packet to be sent is never
refused because the latest height of a client is unknown. -/
theorem Hears.clients_exact [Digest] (start : c.host.clients = ∅) (hears : c.Hears told d) :
    (∀ id : ClientId, d.host.clients[id]? = none ↔ givenTo id told = []) ∧
    (∀ (id : ClientId) (k : Client), d.host.clients[id]? = some k →
      (∃ x ∈ givenTo id told, x.height = k.state.latestHeight) ∧
      (∀ x ∈ givenTo id told, x.height ≤ k.state.latestHeight) ∧
      (∀ g, (∃ cs, k.consensus[g]? = some cs) ↔ ∃ x ∈ givenTo id told, x.height = g) ∧
      ∀ before x after, givenTo id told = before ++ x :: after →
        (∀ y ∈ after, y.height ≠ x.height) → k.consensus[x.height]? = some x.consensus) ∧
    ∀ cap m id g, (d.send cap m).1 ≠ .error (.refused (.client (.noConsensus id g))) := by
  have heard := hears.heard start
  refine ⟨?_, ?_, ?_⟩
  · intro id
    refine ⟨heard.unknown id, fun nothing => ?_⟩
    by_contra there
    obtain ⟨k, client⟩ := Option.ne_none_iff_exists'.1 there
    obtain ⟨x, mem, -⟩ := (heard.learnt id k client).told
    rw [nothing] at mem
    cases mem
  · intro id k client
    have learnt := heard.learnt id k client
    refine ⟨learnt.told, learnt.greatest, fun g => ?_, fun before x after place last => ?_⟩
    · rw [← Option.isSome_iff_exists, learnt.consensus, Option.isSome_map, Header.isSome_lastOf?]
    · rw [learnt.consensus, Header.lastOf?_of_last place last, Option.map_some]
  · intro cap m id g refused
    have spared := heard.knowsLatest.chain_send cap m _ refused
    cases spared

/-- A client that heard of two revisions out of order and twice of one height, and was frozen. -/
theorem Hears.clients_exact_mixed :
    let x (g : Height) (root : UInt8) : Header := ⟨g, .unset, ⟨[root]⟩⟩
    let given := [x ⟨1, 5⟩ 1, x ⟨2, 1⟩ 2, x ⟨1, 9⟩ 3, x ⟨1, 5⟩ 4]
    ∃ (c d : Chain) (k : Client), c.host.clients = ∅ ∧
      c.Hears (given.map fun x => (Passage.client, x)) d ∧
      d.host.clients[Passage.client]? = some k ∧ k.state = ⟨⟨2, 1⟩, some ⟨2, 1⟩⟩ ∧
      k.consensus[(⟨1, 5⟩ : Height)]? = some (x ⟨1, 5⟩ 4).consensus ∧
      k.consensus[(⟨1, 9⟩ : Height)]? = some (x ⟨1, 9⟩ 3).consensus := by
  intro x given
  let _ : Digest := .plain
  let c : Chain := ⟨.atHeight ⟨0, 1⟩, 1, [], ∅, ∅⟩
  let told := given.map fun x => (Passage.client, x)
  have started : c.Hears [] c := .rest
  have three := ((started.hear Passage.client (x ⟨1, 5⟩ 1)).hear Passage.client
    (x ⟨2, 1⟩ 2)).hear Passage.client (x ⟨1, 9⟩ 3)
  have hears : c.Hears told _ := (three.freeze Passage.client).hear Passage.client (x ⟨1, 5⟩ 4)
  have meant : givenTo Passage.client told = given := rfl
  obtain ⟨unknown, learnt, -⟩ := hears.clients_exact rfl
  have some_given : givenTo Passage.client told ≠ [] := by
    rw [meant]
    exact List.cons_ne_nil _ _
  obtain ⟨k, there⟩ := Option.ne_none_iff_exists'.1 (mt (unknown Passage.client).1 some_given)
  obtain ⟨-, -, -, last⟩ := learnt Passage.client k there
  refine ⟨c, _, k, rfl, hears, there, ?_, ?_, ?_⟩
  · exact congrArg Client.state (Option.some.inj (there.symm.trans rfl))
  · exact last [x ⟨1, 5⟩ 1, x ⟨2, 1⟩ 2, x ⟨1, 9⟩ 3] (x ⟨1, 5⟩ 4) [] rfl (by simp)
  · exact last [x ⟨1, 5⟩ 1, x ⟨2, 1⟩ 2] (x ⟨1, 9⟩ 3) [x ⟨1, 5⟩ 4] rfl (by simp [x])

/-! ### All along a history -/

theorem Leads.hears [Digest] {l : History} (leads : c.Leads l d) : ∃ told, c.Hears told d := by
  induction leads with
  | rest => exact ⟨[], .rest⟩
  | act before done ih =>
    obtain ⟨told, hears⟩ := ih
    obtain abreast | ⟨b, sealed⟩ | ⟨id, x, -, rfl⟩ := perform_onward done
    · exact ⟨told, hears.change abreast.clients⟩
    · exact ⟨told, hears.change sealed.clients⟩
    · exact ⟨_, hears.hear id x⟩

/-- Whatever a chain that started without clients does, each of its clients knows of its latest
height. -/
theorem Leads.knowsLatest [Digest] {l : History} (start : c.host.clients = ∅)
    (leads : c.Leads l d) : d.host.KnowsLatest := by
  obtain ⟨told, hears⟩ := leads.hears
  exact (hears.heard start).knowsLatest

end Chain

end Crosschain
