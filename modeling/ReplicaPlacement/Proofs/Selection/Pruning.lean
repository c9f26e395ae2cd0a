import ReplicaPlacement.Proofs.Selection.Reference
import ReplicaPlacement.Proofs.Selection.Refusals

namespace ReplicaPlacement

open Candidate (Ranked ranked_rank)

namespace Constraints

variable {k : Constraints} {t fresh : Tracker} {ranked candidates : List Candidate}
variable {required start : Nat} {best r : Option Selection}

theorem Attempted.unique {other : Option Selection}
    (first : Attempted k fresh ranked required start best r)
    (second : Attempted k fresh ranked required start best other) : r = other := by
  cases first with
  | kept least =>
      cases second with
      | kept => rfl
      | improved above isFirst exceeds =>
          exact absurd exceeds (not_lt.mpr (least _ _ above isFirst))
  | @improved s positions above isFirst exceeds greatest earliest =>
      cases second with
      | kept least => exact absurd exceeds (not_lt.mpr (least _ _ above isFirst))
      | @improved s' positions' above' isFirst' exceeds' greatest' earliest' =>
          rcases lt_trichotomy s s' with less | rfl | greater
          · have lower := earliest' s positions above less isFirst
            exact absurd lower (not_lt.mpr (greatest s' positions' above' isFirst'))
          · rw [isFirst.unique isFirst']
          · have lower := earliest s' positions' above' greater isFirst'
            exact absurd lower (not_lt.mpr (greatest' s positions above isFirst))

/-- Up to the cut both searches run alike, and the cut ends the one with an answer. -/
theorem outcome_search_true_or (start : Nat) (candidates : List Candidate) (t : Tracker)
    (best : Option Selection) :
    (k.search true required start candidates t best).outcome =
        (k.search false required start candidates t best).outcome ∨
      ∃ r, (k.search true required start candidates t best).outcome = .ok r := by
  induction candidates generalizing start t best with
  | nil => exact .inl rfl
  | cons c rest induction =>
      rw [outcome_search_cons, outcome_search_cons]
      split
      · exact .inl rfl
      · cases (k.restart t).outcome with
        | error e => exact .inl rfl
        | ok restarted =>
            dsimp only
            cases (k.complete required (c :: rest) restarted).outcome with
            | error e => exact .inl rfl
            | ok attempt =>
                obtain ⟨found, u⟩ := attempt
                cases found with
                | false => exact .inl rfl
                | true =>
                    dsimp only
                    simp only [Bool.false_eq_true, false_and, if_false]
                    split
                    · exact .inr ⟨_, rfl⟩
                    · exact induction _ _ _

theorem Combination.exists_joins {count : Nat} {positions : List Nat}
    (combination : k.Combination t ranked count start positions) (positive : 0 < count) :
    ∃ c, k.Joins t.view c := by
  cases positions with
  | nil => exact absurd combination.length_eq positive.ne
  | cons p rest =>
      have entry := List.getElem?_eq_getElem (combination.in_range p (by simp)).2
      have admitted := combination.admitted
      rw [picksAt_cons entry, takeAll?, Option.isSome_bind] at admitted
      obtain ⟨next, taken, -⟩ := (Option.any_eq_true _ _).mp admitted
      exact ⟨_, (take?_eq_some_iff_joins.mp taken).1⟩

theorem outcome_search_true_of_unread {rule : PropertyRule}
    (member : rule ∈ k.filter.sameRules ++ k.filter.differentRules)
    (unread : ∀ node, ¬ Lookup.Answers (k.properties node) rule.key) (positive : 0 < required) :
    (k.search true required start candidates t best).outcome =
      (k.search false required start candidates t best).outcome := by
  cases candidates with
  | nil => rfl
  | cons c rest =>
      rw [outcome_search_cons, outcome_search_cons]
      split
      · rfl
      · cases restart : (k.restart t).outcome with
        | error e => rfl
        | ok restarted =>
            dsimp only
            cases attempt : (k.complete required (c :: rest) restarted).outcome with
            | error e => rfl
            | ok result =>
                obtain ⟨found, u⟩ := result
                cases found with
                | false => rfl
                | true =>
                    rw [outcome_restart_eq_ok] at restart
                    rw [← List.drop_zero (l := c :: rest)] at attempt
                    obtain ⟨positions, first, -⟩ :=
                      firstCombination_of_attempt restart attempt positive
                    obtain ⟨d, joins⟩ := first.toCombination.exists_joins positive
                    exact absurd (joins.answers (sound_anew apart_nil) member) (unread d.node)

theorem outcome_search_true (order : Ranked ranked) (positive : 0 < required)
    (run : (k.search false required 0 ranked t none).outcome = .ok r) :
    (k.search true required 0 ranked t none).outcome = .ok r := by
  rcases outcome_search_true_or 0 ranked t none with same | ⟨other, otherRun⟩
  · rw [same, run]
  · have attempted : Attempted k (k.anew []) ranked required 0 none r :=
      attempted_of_search run positive order Score.isNumber_negInfinity
    have otherAttempted : Attempted k (k.anew []) ranked required 0 none other :=
      attempted_of_search otherRun positive order Score.isNumber_negInfinity
    rw [otherRun, otherAttempted.unique attempted]

theorem outcome_search_true_of_cluster {cluster : Cluster}
    (held : k.properties = cluster.property) (order : Ranked ranked) (positive : 0 < required) :
    (k.search true required 0 ranked t none).outcome =
      (k.search false required 0 ranked t none).outcome := by
  by_cases readable : k.Readable
  · obtain ⟨r, run⟩ := exists_search readable positive false 0 ranked t none
    rw [run, outcome_search_true order positive run]
  · simp only [Readable, not_forall] at readable
    obtain ⟨rule, member, node, unread⟩ := readable
    apply outcome_search_true_of_unread member _ positive
    intro other
    rw [held, Cluster.answers_iff] at unread ⊢
    exact unread

end Constraints

namespace Selector

theorem select_eq_or_search (properties : PropertyAccess) (mixing : MixingPolicy)
    (filter : PlacementFilter) (resource : Option Resource) (candidates : List Candidate) :
    let pruned : Selector := { properties, mixing, prune := true }
    let unpruned : Selector := { properties, mixing, prune := false }
    (pruned.select filter resource candidates).outcome =
        (unpruned.select filter resource candidates).outcome ∨
      ∃ (k : Constraints) (fresh : Tracker) (required : Nat),
        k.properties = properties ∧ 0 < required ∧
        (pruned.select filter resource candidates).outcome =
          (k.search true required 0 (Candidate.rank candidates) fresh none).outcome ∧
        (unpruned.select filter resource candidates).outcome =
          (k.search false required 0 (Candidate.rank candidates) fresh none).outcome := by
  intro pruned unpruned
  -- Nothing before the search asks whether it may be cut.
  have pruned_eq := outcome_select pruned filter resource candidates
  have unpruned_eq := outcome_select unpruned filter resource candidates
  dsimp only [pruned, unpruned, constraints] at pruned_eq unpruned_eq
  cases scan : Occupancy.ofResource? mixing filter resource with
  | error e =>
      rw [scan] at pruned_eq unpruned_eq
      exact .inl (pruned_eq.trans unpruned_eq.symm)
  | ok occupied =>
      rw [scan] at pruned_eq unpruned_eq
      dsimp only at pruned_eq unpruned_eq
      by_cases none : filter.required (occupied.count filter) = 0
      · rw [if_pos none] at pruned_eq unpruned_eq
        exact .inl (pruned_eq.trans unpruned_eq.symm)
      · rw [if_neg none] at pruned_eq unpruned_eq
        cases ready : (Constraints.mk filter occupied properties mixing).fresh with
        | error e =>
            rw [ready] at pruned_eq unpruned_eq
            exact .inl (pruned_eq.trans unpruned_eq.symm)
        | ok fresh =>
            rw [ready] at pruned_eq unpruned_eq
            exact .inr ⟨_, fresh, _, rfl, Nat.pos_of_ne_zero none, pruned_eq, unpruned_eq⟩

/-- The cut changes no selection and no error of a run that it does not spare; on a cluster held in
memory, where a key is denied on all nodes or on none, it changes nothing. -/
theorem select_pruned_eq (properties : PropertyAccess) (mixing : MixingPolicy)
    (filter : PlacementFilter) (resource : Option Resource) (candidates : List Candidate) :
    let pruned : Selector := { properties, mixing, prune := true }
    let unpruned : Selector := { properties, mixing, prune := false }
    (∀ r, (unpruned.select filter resource candidates).outcome = .ok r →
      (pruned.select filter resource candidates).outcome = .ok r) ∧
    (∀ e, (pruned.select filter resource candidates).outcome = .error e →
      (unpruned.select filter resource candidates).outcome = .error e) ∧
    ∀ cluster : Cluster, properties = cluster.property →
      (pruned.select filter resource candidates).outcome =
        (unpruned.select filter resource candidates).outcome := by
  intro pruned unpruned
  have order := ranked_rank candidates
  rcases select_eq_or_search properties mixing filter resource candidates with
    same | ⟨k, fresh, required, held, positive, prunedRun, unprunedRun⟩
  · rw [same]
    exact ⟨fun _ run => run, fun _ run => run, fun _ _ => rfl⟩
  · rw [prunedRun, unprunedRun]
    refine ⟨?_, ?_, ?_⟩
    · intro r run
      exact Constraints.outcome_search_true order positive run
    · intro e run
      rcases Constraints.outcome_search_true_or 0 (Candidate.rank candidates) fresh none with
        same | ⟨r, answered⟩
      · rw [← same, run]
      · rw [answered] at run
        contradiction
    · intro cluster in_memory
      exact Constraints.outcome_search_true_of_cluster (held.trans in_memory) order positive

theorem select_pruned_eq_beside_deployed :
    let granted : PropertyAccess := ({} : Cluster).property
    let refused : PropertyAccess := (({} : Cluster).denyKey "rack").property
    let filter : PlacementFilter := { replicaCount := some 3, differentRules := [⟨"rack", none⟩] }
    (select { properties := granted, mixing := .standard } filter (some deployed) offered).outcome =
        .ok (some ⟨[offered[3], offered[2]], ⟨0x4008000000000000⟩⟩) ∧
      (select { properties := refused, mixing := .standard, prune := false } filter (some deployed)
        offered).outcome = .error (.accessDenied (.property "n1" "rack")) ∧
      (select { properties := refused, mixing := .standard } filter (some deployed)
        offered).outcome =
      (select { properties := refused, mixing := .standard, prune := false } filter (some deployed)
        offered).outcome := by
  intro granted refused filter
  refine ⟨?_, ?_, ?_⟩
  · exact (select_pruned_eq granted .standard filter (some deployed) offered).1 _
      (by decide +kernel)
  · exact (select_pruned_eq refused .standard filter (some deployed) offered).2.1 _
      (by decide +kernel)
  · exact (select_pruned_eq refused .standard filter (some deployed) offered).2.2 _ rfl

/-- An attempt that the cut spares may ask a node that refuses. -/
example :
    let guarded : PropertyAccess := fun node key =>
      if node = "n3" then .error (.property node key) else .ok none
    let filter : PlacementFilter :=
      { additionalReplicaCount := some 1, differentRules := [⟨"rack", none⟩] }
    (select { properties := guarded, mixing := .standard } filter none offered).outcome =
        .ok (some ⟨[offered[0]], offered[0].score⟩) ∧
      (select { properties := guarded, mixing := .standard, prune := false } filter none
        offered).outcome = .error (.accessDenied (.property "n3" "rack")) := by
  decide +kernel

end Selector

end ReplicaPlacement
