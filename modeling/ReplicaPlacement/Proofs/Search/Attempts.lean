import ReplicaPlacement.Proofs.Ranking
import ReplicaPlacement.Proofs.Score.Order
import ReplicaPlacement.Proofs.Search.Complete

namespace ReplicaPlacement

open Candidate (Ranked)

variable {ranked : List Candidate} {positions : List Nat}

theorem isFinite_of_mem_picksAt (order : Ranked ranked) {s : Score}
    (member : s ∈ (picksAt ranked positions).map (·.score)) : s.isFinite = true := by
  obtain ⟨c, pick, rfl⟩ := List.mem_map.mp member
  exact order.finite c (mem_of_mem_picksAt pick)

theorem isNumber_total_picksAt (order : Ranked ranked) (positions : List Nat) :
    (Candidate.total (picksAt ranked positions)).IsNumber :=
  Score.isNumber_total fun _ member => isFinite_of_mem_picksAt order member

theorem order_le_of_le (order : Ranked ranked) {p q : Nat} {c d : Candidate} (le : p ≤ q)
    (first : ranked[p]? = some c) (second : ranked[q]? = some d) :
    d.score.order ≤ c.score.order := by
  rcases Nat.eq_or_lt_of_le le with rfl | less
  · rw [first] at second
    rw [Option.some.inj second]
  · obtain ⟨pBound, first_eq⟩ := List.getElem?_eq_some_iff.mp first
    obtain ⟨qBound, second_eq⟩ := List.getElem?_eq_some_iff.mp second
    have ordered := List.pairwise_iff_getElem.mp order.sorted p q pBound qBound less
    rwa [first_eq, second_eq] at ordered

theorem level_le_of_le (order : Ranked ranked) {p q : Nat} {c d : Candidate} (le : p ≤ q)
    (first : ranked[p]? = some c) (second : ranked[q]? = some d) :
    d.score.level ≤ c.score.level :=
  Score.level_le_of_order_le
    (Score.isNumber_of_isFinite (order.finite d (List.mem_of_getElem? second)))
    (Score.isNumber_of_isFinite (order.finite c (List.mem_of_getElem? first)))
    (order_le_of_le order le first second)

theorem level_total_le_of_forall₂ (order : Ranked ranked) {sooner later : List Nat}
    (ahead : List.Forall₂ (· ≤ ·) sooner later) (inside : ∀ p ∈ later, p < ranked.length) :
    (Candidate.total (picksAt ranked later)).level ≤
      (Candidate.total (picksAt ranked sooner)).level := by
  have levels : List.Forall₂ (fun x y => x.level ≤ y.level)
      ((picksAt ranked later).map (·.score)) ((picksAt ranked sooner).map (·.score)) := by
    induction ahead with
    | nil => exact .nil
    | @cons p q sooner later le _ induction =>
        have upper := inside q (by simp)
        have first := List.getElem?_eq_getElem (Nat.lt_of_le_of_lt le upper)
        have second := List.getElem?_eq_getElem upper
        rw [picksAt_cons first, picksAt_cons second, List.map_cons, List.map_cons]
        exact .cons (level_le_of_le order le first second)
          (induction fun r member => inside r (by simp [member]))
  exact Score.level_total_mono levels (fun _ member => isFinite_of_mem_picksAt order member)
    (fun _ member => isFinite_of_mem_picksAt order member)

theorem picksAt_range' (start count : Nat) :
    picksAt ranked (List.range' start count) = (ranked.drop start).take count := by
  induction count generalizing start with
  | zero => rfl
  | succ count induction =>
      rw [List.range'_succ]
      by_cases inside : start < ranked.length
      · rw [picksAt_cons (List.getElem?_eq_getElem inside), induction,
          List.drop_eq_getElem_cons inside, List.take_succ_cons]
      · have outside := Nat.not_lt.mp inside
        rw [List.drop_eq_nil_of_le outside, List.take_nil, picksAt, List.filterMap_eq_nil_iff]
        intro p member
        rw [List.getElem?_eq_none_iff]
        have lower := (List.mem_range'_1.mp (List.range'_succ ▸ member)).1
        omega

theorem total_picksAt_range' (start count : Nat) :
    Candidate.total (picksAt ranked (List.range' start count)) =
      Constraints.bound count (ranked.drop start) := by
  rw [picksAt_range']
  rfl

theorem isNumber_bound (order : Ranked ranked) (count start : Nat) :
    (Constraints.bound count (ranked.drop start)).IsNumber := by
  rw [← total_picksAt_range']
  exact isNumber_total_picksAt order _

theorem forall₂_range' {start : Nat} (increasing : positions.Pairwise (· < ·))
    (lower : ∀ p ∈ positions, start ≤ p) :
    List.Forall₂ (· ≤ ·) (List.range' start positions.length) positions := by
  rw [List.forall₂_iff_get]
  refine ⟨List.length_range', ?_⟩
  intro i _ bound
  rw [List.get_eq_getElem, List.get_eq_getElem, List.getElem_range', Nat.one_mul]
  exact add_le_getElem_of_increasing increasing lower i bound

namespace Constraints

variable {k : Constraints} {t fresh : Tracker} {count start required : Nat}

theorem Combination.level_total_le (combination : k.Combination t ranked count start positions)
    (order : Ranked ranked) :
    (Candidate.total (picksAt ranked positions)).level ≤
      (bound count (ranked.drop start)).level := by
  rw [← total_picksAt_range', ← combination.length_eq]
  apply level_total_le_of_forall₂ order
  · exact forall₂_range' combination.increasing fun p member => (combination.in_range p member).1
  · exact fun p member => (combination.in_range p member).2

def better (best : Option Selection) (current : Selection) : Option Selection :=
  if Selection.bestScore best < current.score then some current else best

theorem outcome_compete (best : Option Selection) (current : Selection) :
    (compete best current).outcome = .ok (better best current) := by
  unfold compete better
  split <;> rfl

/-- What trying the start positions from `start` on comes to, with `best` found before. -/
inductive Attempted (k : Constraints) (fresh : Tracker) (ranked : List Candidate)
    (required start : Nat) (best : Option Selection) : Option Selection → Prop where
  | kept :
      (∀ s other, start ≤ s → k.FirstCombination fresh ranked required s other →
        (Candidate.total (picksAt ranked other)).level ≤ (Selection.bestScore best).level) →
      Attempted k fresh ranked required start best best
  | improved {s : Nat} {positions : List Nat} :
      start ≤ s → k.FirstCombination fresh ranked required s positions →
      (Selection.bestScore best).level < (Candidate.total (picksAt ranked positions)).level →
      (∀ s' other, start ≤ s' → k.FirstCombination fresh ranked required s' other →
        (Candidate.total (picksAt ranked other)).level ≤
          (Candidate.total (picksAt ranked positions)).level) →
      (∀ s' other, start ≤ s' → s' < s → k.FirstCombination fresh ranked required s' other →
        (Candidate.total (picksAt ranked other)).level <
          (Candidate.total (picksAt ranked positions)).level) →
      Attempted k fresh ranked required start best (some (.ofPicks (picksAt ranked positions)))

variable {best r : Option Selection}

theorem Attempted.of_none
    (none : ∀ other, ¬ k.Combination fresh ranked required start other) :
    Attempted k fresh ranked required start best best := by
  refine .kept fun s other le first => ?_
  exact absurd (first.toCombination.of_later le) (none other)

theorem Attempted.of_bounded
    (bounded : ∀ other, k.FirstCombination fresh ranked required start other →
      (Candidate.total (picksAt ranked other)).level ≤ (Selection.bestScore best).level)
    (later : Attempted k fresh ranked required (start + 1) best r) :
    Attempted k fresh ranked required start best r := by
  cases later with
  | kept least =>
      refine .kept fun s other le isFirst => ?_
      rcases Nat.eq_or_lt_of_le le with rfl | less
      · exact bounded other isFirst
      · exact least s other less isFirst
  | @improved s others above isFirst exceeds greatest earliest =>
      refine .improved (by omega) isFirst exceeds ?_ ?_
      · intro s' other le otherFirst
        rcases Nat.eq_or_lt_of_le le with rfl | less
        · exact (bounded other otherFirst).trans exceeds.le
        · exact greatest s' other less otherFirst
      · intro s' other le before otherFirst
        rcases Nat.eq_or_lt_of_le le with rfl | less
        · exact (bounded other otherFirst).trans_lt exceeds
        · exact earliest s' other less before otherFirst

theorem Attempted.of_improved
    (first : k.FirstCombination fresh ranked required start positions)
    (wins : (Selection.bestScore best).level <
      (Candidate.total (picksAt ranked positions)).level)
    (attempted : Attempted k fresh ranked required start
      (some (.ofPicks (picksAt ranked positions))) r) :
    Attempted k fresh ranked required start best r := by
  cases attempted with
  | kept least =>
      refine .improved (Nat.le_refl _) first wins least ?_
      intro s other le less
      exact absurd less (Nat.not_lt.mpr le)
  | improved above isFirst exceeds greatest earliest =>
      exact .improved above isFirst (wins.trans exceeds) greatest earliest

theorem Attempted.of_next (order : Ranked ranked)
    (number : (Selection.bestScore best).IsNumber)
    (first : k.FirstCombination fresh ranked required start positions)
    (later : Attempted k fresh ranked required (start + 1)
      (better best (.ofPicks (picksAt ranked positions))) r) :
    Attempted k fresh ranked required start best r := by
  have improves := Score.lt_iff_level_lt number (isNumber_total_picksAt order positions)
  by_cases wins : Selection.bestScore best < Candidate.total (picksAt ranked positions)
  · have best_eq : better best (.ofPicks (picksAt ranked positions)) =
        some (.ofPicks (picksAt ranked positions)) := if_pos wins
    rw [best_eq] at later
    apply Attempted.of_improved first (improves.mp wins)
    apply Attempted.of_bounded _ later
    intro other isFirst
    rw [isFirst.unique first]
    exact Int.le_refl _
  · have best_eq : better best (.ofPicks (picksAt ranked positions)) = best := if_neg wins
    rw [best_eq] at later
    apply Attempted.of_bounded _ later
    intro other isFirst
    rw [isFirst.unique first]
    exact not_lt.mp (mt improves.mpr wins)

theorem isNumber_better (order : Ranked ranked) (number : (Selection.bestScore best).IsNumber)
    (positions : List Nat) :
    (Selection.bestScore (better best (.ofPicks (picksAt ranked positions)))).IsNumber := by
  unfold better
  split
  · exact isNumber_total_picksAt order positions
  · exact number

/-- No attempt after the start position beats a score that the bound does not exceed. -/
theorem Attempted.of_cut (order : Ranked ranked) (number : (Selection.bestScore best).IsNumber)
    (bounded : bound required (ranked.drop start) ≤ Selection.bestScore best) :
    Attempted k fresh ranked required start best best := by
  have bounded := (Score.le_iff_level_le (isNumber_bound order _ _) number).mp bounded
  refine .kept fun s other le first => ?_
  exact ((first.toCombination.of_later le).level_total_le order).trans bounded

theorem outcome_search_cons (prune : Bool) (c : Candidate) (rest : List Candidate) (t : Tracker) :
    (k.search prune required start (c :: rest) t best).outcome =
      if rest.length + 1 < required then .ok best
      else
        match (k.restart t).outcome with
        | .error e => .error e
        | .ok restarted =>
          match (k.complete required (c :: rest) restarted).outcome with
          | .error e => .error e
          | .ok (false, _) => .ok best
          | .ok (true, u) =>
            if prune = true ∧ required ≤ rest.length ∧
                bound required rest ≤ Selection.bestScore (better best (.ofPicks u.selection)) then
              .ok (better best (.ofPicks u.selection))
            else
              (k.search prune required (start + 1) rest u
                (better best (.ofPicks u.selection))).outcome := by
  conv_lhs => unfold search
  split
  · rfl
  · rw [Traced.outcome_bind]
    cases (k.restart t).outcome with
    | error e => rfl
    | ok restarted =>
        change (k.complete required (c :: rest) restarted >>= _).outcome = _
        rw [Traced.outcome_bind]
        dsimp only
        cases (k.complete required (c :: rest) restarted).outcome with
        | error e => rfl
        | ok attempt =>
            obtain ⟨found, u⟩ := attempt
            cases found with
            | false => rfl
            | true =>
                change (compete best (.ofPicks u.selection) >>= _).outcome = _
                rw [Traced.outcome_bind, outcome_compete]
                dsimp only [bind, Except.bind]
                simp only [Bool.and_eq_true, decide_eq_true_iff]
                by_cases possible : prune = true ∧ required ≤ rest.length
                · rw [if_pos possible]
                  simp only [possible, true_and]
                  split <;> rfl
                · rw [if_neg possible, if_neg fun cut => possible ⟨cut.1, cut.2.1⟩]

/-- How the search goes on at a candidate: too few are left, the attempt fails, nothing left could
win, or the next start position follows. -/
inductive SearchStep (k : Constraints) (prune : Bool) (required start : Nat) (c : Candidate)
    (rest : List Candidate) (t : Tracker) (best : Option Selection) : Option Selection → Prop where
  | tooFewLeft : rest.length + 1 < required → SearchStep k prune required start c rest t best best
  | failed {restarted u : Tracker} :
      k.reset t = (restarted, none) →
      (k.complete required (c :: rest) restarted).outcome = .ok (false, u) →
      SearchStep k prune required start c rest t best best
  | cutOff {restarted u : Tracker} :
      k.reset t = (restarted, none) →
      (k.complete required (c :: rest) restarted).outcome = .ok (true, u) →
      bound required rest ≤ Selection.bestScore (better best (.ofPicks u.selection)) →
      SearchStep k prune required start c rest t best (better best (.ofPicks u.selection))
  | next {restarted u : Tracker} {r : Option Selection} :
      k.reset t = (restarted, none) →
      (k.complete required (c :: rest) restarted).outcome = .ok (true, u) →
      (k.search prune required (start + 1) rest u (better best (.ofPicks u.selection))).outcome =
        .ok r →
      SearchStep k prune required start c rest t best r

theorem searchStep_of_search {prune : Bool} {c : Candidate} {rest : List Candidate}
    (run : (k.search prune required start (c :: rest) t best).outcome = .ok r) :
    SearchStep k prune required start c rest t best r := by
  rw [outcome_search_cons] at run
  split at run
  next few =>
    rw [← Except.ok.inj run]
    exact .tooFewLeft few
  next =>
    cases restart : (k.restart t).outcome with
    | error e => simp [restart] at run
    | ok restarted =>
        rw [restart] at run
        dsimp only at run
        rw [outcome_restart_eq_ok] at restart
        cases attempt : (k.complete required (c :: rest) restarted).outcome with
        | error e => simp [attempt] at run
        | ok result =>
            obtain ⟨found, u⟩ := result
            rw [attempt] at run
            cases found with
            | false =>
                rw [← Except.ok.inj run]
                exact .failed restart attempt
            | true =>
                dsimp only at run
                split at run
                next cut =>
                  rw [← Except.ok.inj run]
                  exact .cutOff restart attempt cut.2.2
                next => exact .next restart attempt run

theorem completed_of_attempt {restarted : Tracker} {result : Bool × Tracker}
    (restart : k.reset t = (restarted, none))
    (attempt : (k.complete required (ranked.drop start) restarted).outcome = .ok result)
    (positive : 0 < required) : Completed k ranked required start (k.anew []) result := by
  rw [eq_anew_of_reset restart] at attempt
  exact completed_of_complete attempt (sound_anew apart_nil) positive

theorem firstCombination_of_attempt {restarted u : Tracker}
    (restart : k.reset t = (restarted, none))
    (attempt : (k.complete required (ranked.drop start) restarted).outcome = .ok (true, u))
    (positive : 0 < required) :
    ∃ positions, k.FirstCombination (k.anew []) ranked required start positions ∧
      u.selection = picksAt ranked positions := by
  cases completed_of_attempt restart attempt positive with
  | found first extended => exact ⟨_, first, extended⟩

theorem not_combination_of_attempt {restarted u : Tracker}
    (restart : k.reset t = (restarted, none))
    (attempt : (k.complete required (ranked.drop start) restarted).outcome = .ok (false, u))
    (positive : 0 < required) (other : List Nat) :
    ¬ k.Combination (k.anew []) ranked required start other := by
  cases completed_of_attempt restart attempt positive with
  | exhausted absent => exact absent other

theorem attempted_of_search {prune : Bool} (run :
      (k.search prune required start (ranked.drop start) t best).outcome = .ok r)
    (positive : 0 < required) (order : Ranked ranked)
    (number : (Selection.bestScore best).IsNumber) :
    Attempted k (k.anew []) ranked required start best r := by
  induction candidates : ranked.drop start generalizing start t best with
  | nil =>
      have past : ranked.length ≤ start := List.drop_eq_nil_iff.mp candidates
      rw [candidates, search, Traced.outcome_bind_eq_ok] at run
      obtain ⟨-, -, run⟩ := run
      rw [Traced.outcome_pure, Except.ok.injEq] at run
      rw [← run]
      apply Attempted.of_none
      intro other combination
      have inside := combination.add_le_length positive
      omega
  | cons c rest induction =>
      obtain ⟨-, rest_eq⟩ := entry_of_drop_eq_cons candidates
      rw [candidates] at run
      cases searchStep_of_search run with
      | tooFewLeft few =>
          apply Attempted.of_none
          intro other combination
          have inside := combination.add_le_length positive
          have lengths := congrArg List.length candidates
          rw [List.length_drop, List.length_cons] at lengths
          omega
      | failed restart attempt =>
          rw [← candidates] at attempt
          exact .of_none (not_combination_of_attempt restart attempt positive)
      | cutOff restart attempt hopeless =>
          rw [← candidates] at attempt
          obtain ⟨positions, first, picked⟩ := firstCombination_of_attempt restart attempt positive
          rw [picked] at hopeless ⊢
          rw [← rest_eq] at hopeless
          -- No attempt from the next start position on could win, and so none is made.
          exact .of_next order number first
            (.of_cut order (isNumber_better order number _) hopeless)
      | next restart attempt others =>
          rw [← candidates] at attempt
          obtain ⟨positions, first, picked⟩ := firstCombination_of_attempt restart attempt positive
          rw [picked] at others
          exact .of_next order number first
            (induction (rest_eq ▸ others) (isNumber_better order number _) rest_eq)

theorem exists_search (readable : k.Readable) (positive : 0 < required) (prune : Bool)
    (start : Nat) (candidates : List Candidate) (t : Tracker) (best : Option Selection) :
    ∃ r, (k.search prune required start candidates t best).outcome = .ok r := by
  induction candidates generalizing start t best with
  | nil => exact ⟨best, rfl⟩
  | cons c rest induction =>
      have restart : (k.restart t).outcome = .ok (k.anew []) :=
        outcome_restart_eq_ok.mpr (readable.reset_eq t)
      obtain ⟨⟨found, u⟩, attempt⟩ :=
        exists_complete readable (sound_anew apart_nil) positive (c :: rest)
      rw [outcome_search_cons, restart]
      dsimp only
      rw [attempt]
      split
      · exact ⟨best, rfl⟩
      · cases found with
        | false => exact ⟨best, rfl⟩
        | true =>
            dsimp only
            split
            · exact ⟨_, rfl⟩
            · exact induction _ _ _

end Constraints

end ReplicaPlacement
