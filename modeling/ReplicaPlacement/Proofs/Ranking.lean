import ReplicaPlacement.Candidate
import Mathlib.Data.List.Perm.Basic

namespace ReplicaPlacement

/-- What stays of a list when some of the items with `P` are left out. -/
inductive LeavesOut {α : Type} (P : α → Prop) : List α → List α → Prop where
  | nil : LeavesOut P [] []
  | keep (a : α) {fewer items : List α} :
      LeavesOut P fewer items → LeavesOut P (a :: fewer) (a :: items)
  | drop {a : α} {fewer items : List α} :
      P a → LeavesOut P fewer items → LeavesOut P fewer (a :: items)

theorem LeavesOut.sublist {α : Type} {P : α → Prop} {fewer items : List α}
    (left : LeavesOut P fewer items) : fewer.Sublist items := by
  induction left with
  | nil => exact .slnil
  | keep a _ induction => exact .cons_cons a induction
  | drop _ _ induction => exact .cons _ induction

theorem LeavesOut.of_sublist {α : Type} {fewer items : List α} (sublist : fewer.Sublist items) :
    LeavesOut (fun _ => True) fewer items := by
  induction sublist with
  | slnil => exact .nil
  | cons _ _ induction => exact .drop trivial induction
  | cons_cons a _ induction => exact .keep a induction

theorem Score.eq_of_order_eq {a b : Score} (equality : a.order = b.order) : a = b := by
  have boundFirst := a.bits.toNat_lt
  have boundSecond := b.bits.toNat_lt
  have patterns : a.bits.toNat = b.bits.toNat := by
    unfold Score.order Score.isNegative at equality
    split at equality <;> split at equality <;> simp_all <;> omega
  cases a
  cases b
  exact congrArg Score.mk (UInt64.toNat_inj.mp patterns)

namespace Candidate

theorem compareRank_eq_gt_iff {c d : Candidate} :
    c.compareRank d = .gt ↔ c.score.order < d.score.order :=
  Std.compare_eq_gt

theorem insertRanked_perm (c : Candidate) (ranked : List Candidate) :
    (insertRanked c ranked).Perm (c :: ranked) := by
  induction ranked with
  | nil => rfl
  | cons d rest induction =>
      unfold insertRanked
      split
      · exact (induction.cons d).trans (.swap c d rest)
      · rfl

theorem pairwise_insertRanked {c : Candidate} {ranked : List Candidate}
    (sorted : ranked.Pairwise fun a b => b.score.order ≤ a.score.order) :
    (insertRanked c ranked).Pairwise fun a b => b.score.order ≤ a.score.order := by
  induction ranked with
  | nil => exact List.pairwise_singleton _ c
  | cons d rest induction =>
      obtain ⟨heads, tails⟩ := List.pairwise_cons.mp sorted
      unfold insertRanked
      split
      next later =>
        have less : c.score.order < d.score.order := compareRank_eq_gt_iff.mp later
        rw [List.pairwise_cons]
        refine ⟨?_, induction tails⟩
        intro other member
        rcases List.mem_cons.mp ((insertRanked_perm c rest).mem_iff.mp member) with rfl | old
        · exact Int.le_of_lt less
        · exact heads other old
      next notLater =>
        have le : d.score.order ≤ c.score.order :=
          Int.not_lt.mp (mt compareRank_eq_gt_iff.mpr notLater)
        rw [List.pairwise_cons]
        refine ⟨?_, sorted⟩
        intro other member
        rcases List.mem_cons.mp member with rfl | old
        · exact le
        · exact Int.le_trans (heads other old) le

theorem rank_perm (candidates : List Candidate) :
    (rank candidates).Perm (candidates.filter (·.score.isFinite)) := by
  induction candidates with
  | nil => rfl
  | cons c rest induction =>
      unfold rank
      by_cases finite : c.score.isFinite = true
      · rw [if_pos finite, List.filter_cons, if_pos finite]
        exact (insertRanked_perm c _).trans (induction.cons c)
      · rw [if_neg finite, List.filter_cons, if_neg finite]
        exact induction

theorem pairwise_rank (candidates : List Candidate) :
    (rank candidates).Pairwise fun a b => b.score.order ≤ a.score.order := by
  induction candidates with
  | nil => exact .nil
  | cons c rest induction =>
      unfold rank
      split
      · exact pairwise_insertRanked induction
      · exact induction

theorem mem_rank {candidates : List Candidate} {c : Candidate} :
    c ∈ rank candidates ↔ c ∈ candidates ∧ c.score.isFinite = true := by
  rw [(rank_perm candidates).mem_iff, List.mem_filter]

variable {f : Candidate → Candidate}

theorem insertRanked_map (scores : ∀ c, (f c).score = c.score) (c : Candidate)
    (ranked : List Candidate) :
    insertRanked (f c) (ranked.map f) = (insertRanked c ranked).map f := by
  induction ranked with
  | nil => rfl
  | cons d rest induction =>
      have compare_eq : (f c).compareRank (f d) = c.compareRank d := by
        unfold compareRank
        rw [scores, scores]
      rw [List.map_cons, insertRanked, insertRanked, compare_eq]
      cases c.compareRank d with
      | gt => exact congrArg (f d :: ·) induction
      | lt => rfl
      | eq => rfl

theorem rank_map (scores : ∀ c, (f c).score = c.score) (candidates : List Candidate) :
    rank (candidates.map f) = (rank candidates).map f := by
  induction candidates with
  | nil => rfl
  | cons c rest induction =>
      rw [List.map_cons, rank, rank, scores, induction]
      split
      · exact insertRanked_map scores c (rank rest)
      · rfl

theorem total_map (scores : ∀ c, (f c).score = c.score) (picks : List Candidate) :
    total (picks.map f) = total picks := by
  unfold total
  rw [List.map_map]
  exact congrArg Score.total (List.map_congr_left fun c _ => scores c)

structure Ranked (candidates : List Candidate) : Prop where
  sorted : candidates.Pairwise fun a b => b.score.order ≤ a.score.order
  finite : ∀ c ∈ candidates, c.score.isFinite = true

theorem ranked_rank (candidates : List Candidate) : Ranked (rank candidates) where
  sorted := pairwise_rank candidates
  finite _ member := (mem_rank.mp member).2

theorem filter_insertRanked (c : Candidate) (ranked : List Candidate) (score : Score) :
    (insertRanked c ranked).filter (·.score == score) =
      (c :: ranked).filter (·.score == score) := by
  induction ranked with
  | nil => rfl
  | cons d rest induction =>
      unfold insertRanked
      split
      next later =>
        -- The candidate is put behind higher scores only, and so behind none of its own.
        have differ : c.score ≠ d.score := by
          intro equality
          have less := compareRank_eq_gt_iff.mp later
          rw [equality] at less
          exact Int.lt_irrefl _ less
        rw [List.filter_cons, induction]
        by_cases own : c.score = score
        · have other : d.score ≠ score := fun equality => differ (own.trans equality.symm)
          simp [own, other]
        · simp [own, List.filter_cons]
      next => rfl

theorem filter_rank_eq (candidates : List Candidate) (score : Score) :
    (rank candidates).filter (·.score == score) =
      (candidates.filter (·.score.isFinite)).filter (·.score == score) := by
  induction candidates with
  | nil => rfl
  | cons c rest induction =>
      unfold rank
      by_cases finite : c.score.isFinite = true
      · rw [if_pos finite, filter_insertRanked, List.filter_cons, List.filter_cons, if_pos finite,
          List.filter_cons, induction]
      · rw [if_neg finite, List.filter_cons, if_neg finite, induction]

theorem filter_rank (candidates : List Candidate) {score : Score} (finite : score.isFinite = true) :
    (rank candidates).filter (·.score == score) = candidates.filter (·.score == score) := by
  rw [filter_rank_eq, List.filter_filter]
  apply List.filter_congr
  intro c _
  by_cases own : c.score = score
  · simp [own, finite]
  · simp [own]

theorem filter_eq_nil_of_absent {candidates : List Candidate} {score : Score}
    (absent : ∀ c ∈ candidates, c.score ≠ score) : candidates.filter (·.score == score) = [] := by
  rw [List.filter_eq_nil_iff]
  intro c member own
  exact absent c member (eq_of_beq own)

theorem mem_iff_of_filter_eq {list others : List Candidate}
    (alike : ∀ score, list.filter (·.score == score) = others.filter (·.score == score))
    (c : Candidate) : c ∈ list ↔ c ∈ others := by
  have members := congrArg (c ∈ ·) (alike c.score)
  simpa using members

theorem order_le_of_mem {c d : Candidate} {rest : List Candidate}
    (sorted : (c :: rest).Pairwise fun a b => b.score.order ≤ a.score.order)
    (member : d ∈ c :: rest) : d.score.order ≤ c.score.order := by
  rcases List.mem_cons.mp member with rfl | later
  · exact Int.le_refl _
  · exact List.rel_of_pairwise_cons sorted later

/-- In the order of scores a list is determined by its candidates of each score. -/
theorem eq_of_filter_eq {list others : List Candidate}
    (sorted : list.Pairwise fun a b => b.score.order ≤ a.score.order)
    (otherSorted : others.Pairwise fun a b => b.score.order ≤ a.score.order)
    (alike : ∀ score, list.filter (·.score == score) = others.filter (·.score == score)) :
    list = others := by
  induction list generalizing others with
  | nil =>
      cases others with
      | nil => rfl
      | cons d others => exact absurd ((mem_iff_of_filter_eq alike d).mpr (by simp)) (by simp)
  | cons c list induction =>
      cases others with
      | nil => exact absurd ((mem_iff_of_filter_eq alike c).mp (by simp)) (by simp)
      | cons d others =>
          -- Each head is among the other list's candidates, so neither scores more.
          have below := order_le_of_mem otherSorted ((mem_iff_of_filter_eq alike c).mp (by simp))
          have above := order_le_of_mem sorted ((mem_iff_of_filter_eq alike d).mpr (by simp))
          have score_eq : c.score = d.score := Score.eq_of_order_eq (Int.le_antisymm below above)
          have heads := alike c.score
          rw [List.filter_cons_of_pos (by simp), List.filter_cons_of_pos (by simp [score_eq]),
            List.cons.injEq] at heads
          obtain ⟨rfl, -⟩ := heads
          have tails (score : Score) :
              list.filter (·.score == score) = others.filter (·.score == score) := by
            have lists := alike score
            rw [List.filter_cons, List.filter_cons] at lists
            split at lists
            · exact List.tail_eq_of_cons_eq lists
            · exact lists
          rw [induction sorted.of_cons otherSorted.of_cons tails]

/-- Both list the candidates of each finite score in the same order. -/
def SameTies (candidates others : List Candidate) : Prop :=
  ∀ score : Score, score.isFinite = true →
    candidates.filter (·.score == score) = others.filter (·.score == score)

theorem rank_eq_iff_sameTies {candidates others : List Candidate} :
    rank candidates = rank others ↔ SameTies candidates others := by
  constructor
  · intro equality score finite
    rw [← filter_rank candidates finite, ← filter_rank others finite, equality]
  · intro ties
    apply eq_of_filter_eq (pairwise_rank candidates) (pairwise_rank others)
    intro score
    by_cases finite : score.isFinite = true
    · rw [filter_rank candidates finite, filter_rank others finite, ties score finite]
    · have absent (list : List Candidate) : (rank list).filter (·.score == score) = [] := by
        apply filter_eq_nil_of_absent
        rintro c member rfl
        exact finite (mem_rank.mp member).2
      rw [absent, absent]

variable {P : Candidate → Prop} {fewer candidates : List Candidate} {c : Candidate}

theorem insertRanked_eq_cons (highest : ∀ d ∈ candidates, d.score.order ≤ c.score.order) :
    insertRanked c candidates = c :: candidates := by
  cases candidates with
  | nil => rfl
  | cons d rest =>
      have notLater : c.compareRank d ≠ .gt :=
        mt compareRank_eq_gt_iff.mp (Int.not_lt.mpr (highest d (by simp)))
      unfold insertRanked
      split
      next later => exact absurd later notLater
      next => rfl

theorem leavesOut_insertRanked (dropped : P c) (left : LeavesOut P fewer candidates) :
    LeavesOut P fewer (insertRanked c candidates) := by
  induction left with
  | nil => exact .drop dropped .nil
  | keep d left induction =>
      unfold insertRanked
      split
      · exact .keep d induction
      · exact .drop dropped (.keep d left)
  | drop other left induction =>
      unfold insertRanked
      split
      · exact .drop other induction
      · exact .drop dropped (.drop other left)

theorem insertRanked_leavesOut (c : Candidate) (left : LeavesOut P fewer candidates)
    (sorted : candidates.Pairwise fun a b => b.score.order ≤ a.score.order) :
    LeavesOut P (insertRanked c fewer) (insertRanked c candidates) := by
  induction left with
  | nil => exact .keep c .nil
  | keep d left induction =>
      unfold insertRanked
      split
      · exact .keep d (induction sorted.of_cons)
      · exact .keep c (.keep d left)
  | @drop d fewer rest dropped left induction =>
      conv => arg 3; unfold insertRanked
      split
      next => exact .drop dropped (induction sorted.of_cons)
      next notLater =>
        -- All that stay come after `d`, so that the candidate is put before them here too.
        have le : d.score.order ≤ c.score.order :=
          Int.not_lt.mp (mt compareRank_eq_gt_iff.mpr notLater)
        have highest (other : Candidate) (member : other ∈ fewer) :
            other.score.order ≤ c.score.order :=
          Int.le_trans (List.rel_of_pairwise_cons sorted (left.sublist.subset member)) le
        rw [insertRanked_eq_cons highest]
        exact .keep c (.drop dropped left)

theorem rank_leavesOut (left : LeavesOut P fewer candidates) :
    LeavesOut P (rank fewer) (rank candidates) := by
  induction left with
  | nil => exact .nil
  | keep c left induction =>
      unfold rank
      split
      · exact insertRanked_leavesOut c induction (pairwise_rank _)
      · exact induction
  | @drop c fewer rest dropped left induction =>
      conv => arg 3; unfold rank
      split
      · exact leavesOut_insertRanked dropped induction
      · exact induction

theorem rank_sublist (sublist : fewer.Sublist candidates) :
    (rank fewer).Sublist (rank candidates) :=
  (rank_leavesOut (.of_sublist sublist)).sublist

end Candidate

end ReplicaPlacement
