import Crosschain.Bytes

/-!
# The hash of the chains

Commitments, roots and proofs are built with one hash function. The rules of the library hold for
whatever function stands here; what needs two byte strings with one hash to be equal says so.
-/

namespace Crosschain

/-- A hash function on byte strings. -/
class Digest where
  hash : Bytes → Bytes

/-- No two byte strings among those `p` holds for have one hash. -/
def Digest.InjectiveOn [Digest] (p : Bytes → Prop) : Prop :=
  ∀ x y, p x → p y → Digest.hash x = Digest.hash y → x = y

end Crosschain
