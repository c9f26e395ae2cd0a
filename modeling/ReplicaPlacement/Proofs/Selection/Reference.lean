import ReplicaPlacement.Proofs.Selection.Select

namespace ReplicaPlacement

open Candidate (Ranked ranked_rank)

namespace Constraints

variable {k : Constraints} {fresh : Tracker} {ranked : List Candidate} {required : Nat}

end Constraints

namespace Selector

end Selector

end ReplicaPlacement
