import ReplicaPlacement.Data.Occupancy
import ReplicaPlacement.Json
import ReplicaPlacement.Search

namespace ReplicaPlacement

/-- Any other name than `json` stands for text. -/
inductive Format where
  | text
  | json
  deriving DecidableEq, Repr

def Format.ofName (name : String) : Format := if name = "json" then .json else .text

namespace Selection

def toData (s : Selection) : Data :=
  .record
    [("candidates", .list (s.candidates.map Candidate.toData)), ("score", .number s.score)]

def candidateLine (c : Candidate) : String :=
  "\n  " ++ c.name ++ " on " ++ c.node ++ " (" ++ c.kind.name ++ ", score " ++
    Decimal.twoPlaces c.score ++ ")"

def render (s : Selection) : Format → String
  | .json => Json.pretty 0 s.toData
  | .text =>
    if s.isEmpty then "✓ Replica count already satisfied, nothing to place"
    else
      "✓ Selected " ++ toString s.size ++ " storage pool(s), total score " ++
        Decimal.twoPlaces s.score ++ String.join (s.candidates.map candidateLine)

end Selection

def renderDeselected (node : Option String) : Format → String
  | .json => Json.pretty 0 (.record [("node", Data.ofOption .text node)])
  | .text =>
    match node with
    | some node => "✓ Remove replica from node " ++ node
    | none => "No replica to remove"

end ReplicaPlacement
