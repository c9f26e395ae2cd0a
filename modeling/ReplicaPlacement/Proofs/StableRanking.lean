import ReplicaPlacement.Proofs.Ranking
import ReplicaPlacement.Proofs.Score.Order

namespace ReplicaPlacement.Candidate

instance : Std.TransCmp compareRank :=
  inferInstanceAs (Std.TransCmp fun a b : Candidate => compareOn (·.score.order) b a)

theorem compareRank_eq_eq_iff {a b : Candidate} : a.compareRank b = .eq ↔ a.score = b.score := by
  unfold compareRank
  rw [Std.compare_eq_iff_eq]
  constructor
  · intro equality
    exact (Score.eq_of_order_eq equality).symm
  · intro equality
    rw [equality]

/-- The finite candidates, numerically descending and `+0.0` before `-0.0`, where those with one
score stand as they stood. -/
structure StablyRanked (candidates ranked : List Candidate) : Prop where
  perm : ranked.Perm (candidates.filter (·.score.isFinite))
  descending : ranked.Pairwise fun a b => b.score ≤ a.score
  zero_first : ranked.Pairwise fun a b => ¬ (a.score = .negZero ∧ b.score = .zero)
  ties_kept : ∀ score, ranked.filter (·.score == score) =
    (candidates.filter (·.score.isFinite)).filter (·.score == score)

variable {candidates ranked : List Candidate}

theorem pairwise_order_iff (finite : ∀ c ∈ ranked, c.score.isFinite = true) :
    (ranked.Pairwise fun a b => b.score.order ≤ a.score.order) ↔
      (ranked.Pairwise fun a b => b.score ≤ a.score) ∧
        ranked.Pairwise fun a b => ¬ (a.score = .negZero ∧ b.score = .zero) := by
  rw [← List.pairwise_and_iff]
  apply List.Pairwise.iff_of_mem
  intro a b first second
  rw [Score.order_le_iff (Score.isNumber_of_isFinite (finite b second))
    (Score.isNumber_of_isFinite (finite a first)), and_comm (a := a.score = .negZero)]

theorem stablyRanked_rank (candidates : List Candidate) :
    StablyRanked candidates (rank candidates) := by
  have order := (pairwise_order_iff (ranked_rank candidates).finite).mp (pairwise_rank candidates)
  exact {
    perm := rank_perm candidates
    descending := order.1
    zero_first := order.2
    ties_kept := filter_rank_eq candidates }

theorem StablyRanked.eq_rank (sorted : StablyRanked candidates ranked) :
    ranked = rank candidates := by
  have finite (c : Candidate) (member : c ∈ ranked) : c.score.isFinite = true :=
    (List.mem_filter.mp (sorted.perm.mem_iff.mp member)).2
  apply eq_of_filter_eq _ (pairwise_rank candidates)
  · intro score
    rw [sorted.ties_kept, filter_rank_eq]
  · exact (pairwise_order_iff finite).mpr ⟨sorted.descending, sorted.zero_first⟩

/-- The ranking is the one list that is stably ranked. Ranking it again changes nothing, nor does
leaving the candidates without a finite score out before. -/
theorem rank_sorts_stably (candidates : List Candidate) :
    Std.TransCmp compareRank ∧ (∀ a b : Candidate, a.compareRank b = .eq ↔ a.score = b.score) ∧
      (∀ ranked, StablyRanked candidates ranked ↔ ranked = rank candidates) ∧
      rank (rank candidates) = rank candidates ∧
      rank (candidates.filter (·.score.isFinite)) = rank candidates := by
  refine ⟨inferInstance, fun a b => compareRank_eq_eq_iff, ?_, ?_, ?_⟩
  · intro ranked
    constructor
    · exact StablyRanked.eq_rank
    · rintro rfl
      exact stablyRanked_rank candidates
  · rw [rank_eq_iff_sameTies]
    intro score finite
    exact filter_rank candidates finite
  · rw [rank_eq_iff_sameTies]
    intro score finite
    rw [← filter_rank_eq, filter_rank candidates finite]

end ReplicaPlacement.Candidate
