import ReplicaPlacement.Proofs.Selection.Optimality

namespace ReplicaPlacement

open Candidate (Ranked ranked_rank)

namespace Constraints

variable {k : Constraints} {fresh : Tracker} {ranked : List Candidate} {required : Nat}
variable {positions : List Nat} {r : Option Selection}

end Constraints

namespace Selector

end Selector

end ReplicaPlacement
