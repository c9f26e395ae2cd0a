import ReplicaPlacement.Proofs.Selection.Select

namespace ReplicaPlacement

open Candidate (SameTies rank_eq_iff_sameTies)

namespace Candidate

variable {candidates others : List Candidate}

theorem sameTies_iff_occurring :
    SameTies candidates others ↔ ∀ c ∈ candidates ++ others, c.score.isFinite = true →
      candidates.filter (·.score == c.score) = others.filter (·.score == c.score) := by
  constructor
  · intro ties c _ finite
    exact ties c.score finite
  · intro alike score finite
    by_cases occurs : ∃ c ∈ candidates ++ others, c.score = score
    · obtain ⟨c, member, rfl⟩ := occurs
      exact alike c member finite
    · have absent (c : Candidate) (member : c ∈ candidates ++ others) : c.score ≠ score :=
        fun own => occurs ⟨c, member, own⟩
      rw [filter_eq_nil_of_absent fun c member => absent c (List.mem_append_left _ member),
        filter_eq_nil_of_absent fun c member => absent c (List.mem_append_right _ member)]

instance : Decidable (SameTies candidates others) :=
  decidable_of_iff _ sameTies_iff_occurring.symm

end Candidate

theorem outcome_deselect (used : List Candidate) (fixedNodes : List String) :
    (deselect used fixedNodes).outcome = .ok ((Candidate.rank used).getLast?.map (·.node)) := by
  unfold deselect Candidate.rankReported
  rw [Traced.outcome_bind, Traced.outcome_bind, Traced.outcome_reportAll]
  change Traced.outcome _ = _
  cases (Candidate.rank used).getLast? <;> rfl

/-- Enumerations that list candidates of equal scores in the same order are ranked alike, whatever
is selected from the one is selected from the other, and both give up the same node. -/
theorem answers_of_sameTies {candidates others : List Candidate}
    (ties : SameTies candidates others) :
    Candidate.rank candidates = Candidate.rank others ∧
      (∀ (s : Selector) (filter : PlacementFilter) (resource : Option Resource),
        (s.select filter resource candidates).outcome =
          (s.select filter resource others).outcome) ∧
      ∀ fixedNodes : List String,
        (deselect candidates fixedNodes).outcome = (deselect others fixedNodes).outcome := by
  have ranked_eq := rank_eq_iff_sameTies.mpr ties
  refine ⟨ranked_eq, ?_, ?_⟩
  · intro s filter resource
    rw [Selector.outcome_select, Selector.outcome_select, ranked_eq]
  · intro fixedNodes
    rw [outcome_deselect, outcome_deselect, ranked_eq]

def listedFirst : List Candidate :=
  [{ name := "p", node := "n1", kind := .lvm, score := ⟨0x4014000000000000⟩ },
    { name := "p", node := "n2", kind := .lvm, score := .nan },
    { name := "p", node := "n3", kind := .lvm, score := ⟨0x4014000000000000⟩ },
    { name := "p", node := "n4", kind := .lvm, score := .negZero },
    { name := "p", node := "n5", kind := .lvm, score := .zero }]

def listedAgain : List Candidate :=
  [listedFirst[4], listedFirst[0], listedFirst[3], listedFirst[2], listedFirst[1]]

theorem answers_of_sameTies_zeros :
    let filter : PlacementFilter := { replicaCount := some 3 }
    let s : Selector := { properties := fun _ _ => .ok none, mixing := .standard }
    listedFirst.Perm listedAgain ∧ SameTies listedFirst listedAgain ∧
      Candidate.rank listedFirst = Candidate.rank listedAgain ∧
      (s.select filter none listedFirst).outcome = (s.select filter none listedAgain).outcome ∧
      (s.select filter none listedAgain).outcome =
        .ok (some ⟨[listedFirst[0], listedFirst[2], listedFirst[4]], ⟨0x4024000000000000⟩⟩) ∧
      (deselect listedFirst []).outcome = (deselect listedAgain []).outcome ∧
      (deselect listedAgain []).outcome = .ok (some "n4") := by
  intro filter s
  have ties : SameTies listedFirst listedAgain := by decide +kernel
  obtain ⟨ranked_eq, selected, givenUp⟩ := answers_of_sameTies ties
  exact ⟨by decide +kernel, ties, ranked_eq, selected s filter none, by decide +kernel, givenUp [],
    by decide +kernel⟩

end ReplicaPlacement
