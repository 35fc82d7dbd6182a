import Crosschain.Proofs.Attempts

/-!
# Causes that a refusal cannot have

For which causes a handler can be refused is read off its checks, one after the other: a check that
spares a kind of causes leaves it to the rest, and reading what is kept tells of one cause only.
-/

namespace Crosschain

/-- An attempt is not refused for a cause of a kind. -/
def Spares {ε α : Type} (kind : ε → Bool) (r : Except (Fault ε) α) : Prop :=
  ∀ e, r = .error (.refused e) → kind e = false

namespace Spares

section Checks

variable {ε δ α β : Type} {kind : ε → Bool}

theorem done {a : α} : Spares kind (pure a) := by
  intro e failed
  cases failed

theorem refused {e : ε} (other : kind e = false) : Spares kind (.error (.refused e) : Except _ α) := by
  rintro _ ⟨⟩
  exact other

theorem andThen {r : Except (Fault ε) α} {f : α → Except (Fault ε) β} (first : Spares kind r)
    (rest : ∀ a, r = .ok a → Spares kind (f a)) : Spares kind (r >>= f) := by
  cases r with
  | error failure =>
    intro e failed
    obtain rfl : failure = .refused e := Except.error.inj failed
    exact first e rfl
  | ok a => exact rest a rfl

theorem ensure {p : Prop} [Decidable p] {e : ε} (other : kind e = false) :
    Spares kind (Fault.ensure p e) := by
  unfold Fault.ensure
  split
  · exact done
  · exact refused other

theorem wrap {f : δ → ε} {r : Except δ α} (other : ∀ e, r = .error e → kind (f e) = false) :
    Spares kind (Fault.wrap f r) := by
  cases r with
  | error cause => exact refused (other cause rfl)
  | ok a => exact done

theorem checked {o : Option α} : Spares kind (Fault.checked o) := by
  intro e failed
  cases o <;> cases failed

end Checks

/-! ### Reading a store and a host -/

section Reading

variable {kind : ChannelError → Bool} {s : ChannelStore} {h : Host} {e : EndId} {x : ChannelEnd}
  {c : ConnectionEnd}

theorem endAt (other : kind (.noChannel e) = false) : Spares kind (Fault.lift (s.endAt e)) := by
  unfold ChannelStore.endAt
  split
  · exact done
  · exact refused other

theorem nextSendOf (other : kind (.noNextSend e) = false) :
    Spares kind (Fault.lift (s.nextSendOf e)) := by
  unfold ChannelStore.nextSendOf
  split
  · exact done
  · exact refused other

theorem nextRecvOf (other : kind (.noNextRecv e) = false) :
    Spares kind (Fault.lift (s.nextRecvOf e)) := by
  unfold ChannelStore.nextRecvOf
  split
  · exact done
  · exact refused other

theorem nextAckOf (other : kind (.noNextAck e) = false) :
    Spares kind (Fault.lift (s.nextAckOf e)) := by
  unfold ChannelStore.nextAckOf
  split
  · exact done
  · exact refused other

theorem authenticate {cap : Capability} (other : ∀ cause, kind (.wrongCapability e cause) = false) :
    Spares kind (Fault.lift (s.authenticate e cap)) := by
  unfold ChannelStore.authenticate
  cases s.registry.authenticate (.ofEnd e) cap with
  | error cause => exact refused (other cause)
  | ok u => exact done

theorem endId {p : ChannelPeer} (other : kind .peerChannelUnknown = false) :
    Spares kind (Fault.lift p.endId) := by
  unfold ChannelPeer.endId
  split
  · exact done
  · exact refused other

theorem oneHop {hops : List ConnectionId} (other : ∀ n, kind (.hopCount 1 n) = false) :
    Spares kind (Fault.lift (UpgradeFields.oneHop hops)) := by
  unfold UpgradeFields.oneHop
  split
  · exact done
  · exact refused (other _)

theorem connectionAt {id : ConnectionId} (other : ∀ cause, kind (.connection cause) = false) :
    Spares kind (h.connectionAt id) := wrap fun cause _ => other cause

theorem openHop {r : Except ChannelError ConnectionId} (known : Spares kind (Fault.lift r))
    (connection : ∀ cause, kind (.connection cause) = false)
    (shut : ∀ id, kind (.connectionNotOpen id) = false) : Spares kind (h.openHop r) := by
  refine andThen known fun id _ => andThen (connectionAt connection) fun c _ => ?_
  exact andThen (ensure (shut id)) fun _ _ => done

theorem consensusAt {height : Height} (client : ∀ cause, kind (.client cause) = false)
    (frozen : ∀ id, kind (.frozenClient id) = false) : Spares kind (h.consensusAt c height) := by
  refine andThen (wrap fun cause _ => client cause) fun _ _ => ?_
  exact andThen (ensure (frozen _)) fun _ _ => wrap fun cause _ => client cause

theorem pendingOrderChange (other : kind (.noUpgrade e) = false) :
    Spares kind (Upgrading.pendingOrderChange h e x) := by
  unfold Upgrading.pendingOrderChange
  split
  · refine andThen ?_ fun _ _ => done
    unfold ChannelStore.upgradeOf
    split
    · exact done
    · exact refused other
  · exact done

end Reading

end Spares

end Crosschain
