import ReplicaPlacement.Session
import ReplicaPlacement.Data.Occupancy
import ReplicaPlacement.CommandLine.Run
import ReplicaPlacement.Main
import ReplicaPlacement.Proofs.Selection.Optimality
import ReplicaPlacement.Proofs.Selection.Pruning
import ReplicaPlacement.Proofs.Ranking
import ReplicaPlacement.Proofs.Score.NearestEven
import ReplicaPlacement.Proofs.Score.Order
import ReplicaPlacement.Proofs.Tracker.Stepwise
import ReplicaPlacement.Proofs.Tracker.History
import ReplicaPlacement.Proofs.Tracker.Refusal
import ReplicaPlacement.Proofs.Selection.Feasibility
import ReplicaPlacement.Proofs.Search.Matching
import ReplicaPlacement.Proofs.Selection.Rules
import ReplicaPlacement.Proofs.Selection.Kinds
import ReplicaPlacement.Proofs.Selection.Deployment
import ReplicaPlacement.Proofs.Selection.Compatible
import ReplicaPlacement.Proofs.Search.Safety
import ReplicaPlacement.Proofs.Selection.Safety
import ReplicaPlacement.Proofs.Search.Reordering
import ReplicaPlacement.Proofs.Selection.Footprint
import ReplicaPlacement.Proofs.Selection.Undoing
import ReplicaPlacement.Proofs.Search.Thinning
import ReplicaPlacement.Proofs.Selection.Pairs
import ReplicaPlacement.Proofs.Selection.Excluded
import ReplicaPlacement.Proofs.Selection.Enumeration
import ReplicaPlacement.Proofs.Selection.Monotonicity
import ReplicaPlacement.Proofs.Selection.Faults
import ReplicaPlacement.Proofs.Search.Renaming
import ReplicaPlacement.Proofs.Selection.Renaming
import ReplicaPlacement.Proofs.RuleText
import ReplicaPlacement.Proofs.Search.Trace
import ReplicaPlacement.Proofs.Selection.Deselection
import ReplicaPlacement.Proofs.Selection.Trace
import ReplicaPlacement.Proofs.Toml.Grammar
import ReplicaPlacement.Proofs.Toml.Strings
import ReplicaPlacement.Proofs.Toml.Document
import ReplicaPlacement.Proofs.Records
import ReplicaPlacement.Proofs.Configuration
import ReplicaPlacement.Proofs.StableRanking
import ReplicaPlacement.Proofs.Scoring
import ReplicaPlacement.Proofs.Search.Backtracking
import ReplicaPlacement.Proofs.Cluster
