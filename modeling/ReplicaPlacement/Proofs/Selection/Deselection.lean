import ReplicaPlacement.Proofs.Selection.Enumeration

namespace ReplicaPlacement

namespace Candidate

def LastOfScore (used : List Candidate) (c : Candidate) : Prop :=
  ∃ earlier later, used = earlier ++ c :: later ∧ ∀ d ∈ later, d.score ≠ c.score

/-- The candidate to give up. Scores that are numerically equal are told apart by the order of
patterns, and so `-0.0` goes before `+0.0`. -/
structure Lowest (used : List Candidate) (c : Candidate) : Prop where
  finite : c.score.isFinite = true
  lowest : ∀ d ∈ used, d.score.isFinite = true → ¬ d.score < c.score
  foremost : ∀ d ∈ used, d.score.isFinite = true → d.score ≤ c.score → c.score ≤ d.score →
    c.score.order ≤ d.score.order
  negZero_first : c.score = .zero → ∀ d ∈ used, d.score ≠ .negZero
  last : LastOfScore used c

variable {used : List Candidate} {c d : Candidate}

theorem lastOfScore_iff :
    LastOfScore used c ↔ (used.filter (·.score == c.score)).getLast? = some c := by
  rw [List.getLast?_filter, List.find?_eq_some_iff_append]
  simp only [beq_self_eq_true, true_and]
  constructor
  · rintro ⟨earlier, later, rfl, differ⟩
    refine ⟨later.reverse, earlier.reverse, by simp, ?_⟩
    simpa using differ
  · rintro ⟨later, earlier, reversed, differ⟩
    refine ⟨earlier.reverse, later.reverse, ?_, ?_⟩
    · simpa using List.reverse_eq_append_iff.mp reversed
    · simpa using differ

theorem order_le_of_getLast? {ranked : List Candidate}
    (sorted : ranked.Pairwise fun a b => b.score.order ≤ a.score.order)
    (final : ranked.getLast? = some c) (member : d ∈ ranked) :
    c.score.order ≤ d.score.order := by
  obtain ⟨before, rfl⟩ := List.getLast?_eq_some_iff.mp final
  rcases List.mem_append.mp member with earlier | own
  · exact (List.pairwise_append.mp sorted).2.2 d earlier c (by simp)
  · rw [List.mem_singleton.mp own]

theorem order_le_of_getLast?_rank (final : (rank used).getLast? = some c) (member : d ∈ used)
    (finite : d.score.isFinite = true) : c.score.order ≤ d.score.order :=
  order_le_of_getLast? (pairwise_rank used) final (mem_rank.mpr ⟨member, finite⟩)

theorem lastOfScore_of_getLast?_rank (final : (rank used).getLast? = some c) :
    LastOfScore used c := by
  have finite := (mem_rank.mp (List.mem_of_getLast? final)).2
  rw [lastOfScore_iff, ← filter_rank used finite]
  obtain ⟨before, ranked_eq⟩ := List.getLast?_eq_some_iff.mp final
  rw [ranked_eq, List.filter_append, List.filter_singleton]
  simp

theorem lowest_of_getLast?_rank (final : (rank used).getLast? = some c) : Lowest used c := by
  have finite := (mem_rank.mp (List.mem_of_getLast? final)).2
  constructor
  case finite => exact finite
  case lowest =>
    intro d member dFinite
    have number := Score.isNumber_of_isFinite finite
    have dNumber := Score.isNumber_of_isFinite dFinite
    rw [Score.lt_iff_level_lt dNumber number, Int.not_lt]
    exact Score.level_le_of_order_le number dNumber
      (order_le_of_getLast?_rank final member dFinite)
  case foremost =>
    intro d member dFinite _ _
    exact order_le_of_getLast?_rank final member dFinite
  case negZero_first =>
    intro zero d member negZero
    have le := order_le_of_getLast?_rank final member (negZero ▸ by decide)
    rw [zero, negZero] at le
    exact absurd le (by decide)
  case last => exact lastOfScore_of_getLast?_rank final

theorem Lowest.mem (lowest : Lowest used c) : c ∈ used := by
  obtain ⟨earlier, later, rfl, -⟩ := lowest.last
  simp

theorem Lowest.order_le (lowest : Lowest used c) (member : d ∈ used)
    (finite : d.score.isFinite = true) : c.score.order ≤ d.score.order := by
  have number := Score.isNumber_of_isFinite lowest.finite
  have dNumber := Score.isNumber_of_isFinite finite
  have notLess := lowest.lowest d member finite
  rw [Score.lt_iff_level_lt dNumber number, Int.not_lt] at notLess
  rcases Int.le_total c.score.order d.score.order with le | ge
  · exact le
  · -- A score before it in the order of patterns can only be numerically equal.
    have level_le := Score.level_le_of_order_le dNumber number ge
    exact lowest.foremost d member finite ((Score.le_iff_level_le dNumber number).mpr level_le)
      ((Score.le_iff_level_le number dNumber).mpr notLess)

theorem Lowest.unique (first : Lowest used c) (second : Lowest used d) : c = d := by
  have below := first.order_le second.mem second.finite
  have above := second.order_le first.mem first.finite
  have score_eq : c.score = d.score := Score.eq_of_order_eq (Int.le_antisymm below above)
  have firstLast := lastOfScore_iff.mp first.last
  have secondLast := lastOfScore_iff.mp second.last
  rw [score_eq, secondLast] at firstLast
  exact (Option.some.inj firstLast).symm

end Candidate

/-- Nothing is given up if no candidate has a finite score. Otherwise exactly one candidate is the
lowest, and its node is given up, whatever nodes are fixed. -/
theorem deselect_gives_up_lowest (used : List Candidate) (fixedNodes : List String) :
    ((deselect used fixedNodes).outcome = .ok none ↔
      ∀ c ∈ used, c.score.isFinite = false) ∧
    ((∃ c ∈ used, c.score.isFinite = true) →
      ∃ c, Candidate.Lowest used c ∧ (∀ d, Candidate.Lowest used d → d = c) ∧
        (deselect used fixedNodes).outcome = .ok (some c.node)) := by
  rw [outcome_deselect]
  constructor
  · rw [Except.ok.injEq, Option.map_eq_none_iff, List.getLast?_eq_none_iff]
    rw [List.eq_nil_iff_forall_not_mem]
    simp [Candidate.mem_rank]
  · rintro ⟨d, member, finite⟩
    have nonempty : Candidate.rank used ≠ [] :=
      List.ne_nil_of_mem (Candidate.mem_rank.mpr ⟨member, finite⟩)
    obtain ⟨c, final⟩ := Option.isSome_iff_exists.mp (List.getLast?_isSome.mpr nonempty)
    have lowest := Candidate.lowest_of_getLast?_rank final
    refine ⟨c, lowest, fun d other => other.unique lowest, ?_⟩
    rw [final]
    rfl

def inService : List Candidate :=
  [{ name := "p", node := "n1", kind := .lvm, score := .negZero },
    { name := "p", node := "n2", kind := .lvm, score := .zero },
    { name := "p", node := "n3", kind := .lvm, score := .negZero },
    { name := "p", node := "n4", kind := .lvm, score := .negInfinity },
    { name := "p", node := "n5", kind := .lvm, score := .negNan }]

theorem deselect_gives_up_lowest_zeros :
    (∃ c, Candidate.Lowest inService c ∧ (deselect inService ["n3"]).outcome = .ok (some c.node) ∧
      c.node = "n3") ∧
    (deselect (inService.drop 3) []).outcome = .ok none := by
  obtain ⟨-, given⟩ := deselect_gives_up_lowest inService ["n3"]
  obtain ⟨none_iff, -⟩ := deselect_gives_up_lowest (inService.drop 3) []
  obtain ⟨c, lowest, -, outcome⟩ := given ⟨inService[0], by simp [inService], by decide⟩
  have victim : (deselect inService ["n3"]).outcome = .ok (some "n3") := by decide +kernel
  rw [outcome, Except.ok.injEq, Option.some.injEq] at victim
  exact ⟨⟨c, lowest, outcome, victim⟩, none_iff.mpr (by decide)⟩

end ReplicaPlacement
