import ReplicaPlacement.Proofs.Tracker.History

namespace ReplicaPlacement

theorem exists_failure_of_runAll {σ α ε : Type} {step : σ → α → Except ε σ} {s s' : σ}
    {items : List α} {e : ε} (run : runAll step s items = (s', some e)) :
    ∃ before a after, items = before ++ a :: after ∧ runAll step s before = (s', none) ∧
      step s' a = .error e := by
  induction items generalizing s with
  | nil => simp [runAll] at run
  | cons a rest induction =>
      unfold runAll at run
      cases taken : step s a with
      | error cause =>
          simp only [taken, Prod.mk.injEq, Option.some.injEq] at run
          obtain ⟨rfl, rfl⟩ := run
          exact ⟨[], a, rest, rfl, rfl, taken⟩
      | ok next =>
          obtain ⟨before, b, after, rfl, succeeded, failed⟩ :=
            induction (by simpa [taken] using run)
          exact ⟨a :: before, b, after, rfl, by rw [runAll, taken]; exact succeeded, failed⟩

theorem foldl_changeEntry_before {α : Type} (change : String → α → Option α) {table : NameMap α}
    {before after : List (String × α)} {key : String} {v : α}
    (split : table.toList = before ++ (key, v) :: after) :
    before.foldl (changeEntry change) table =
      table.map fun other w => if other < key then (change other w).getD w else w := by
  have sorted := table.ordered_keys_toList
  have distinct := distinct_keys table
  rw [split, List.pairwise_append, List.pairwise_cons] at sorted
  rw [split, List.pairwise_append] at distinct
  obtain ⟨-, ⟨above, -⟩, below⟩ := sorted
  have before_lt (entry : String × α) (member : entry ∈ before) : entry.1 < key :=
    compareOfLessAndEq_eq_lt.mp (below entry member (key, v) (by simp))
  apply Std.ExtTreeMap.ext_getElem?
  intro other
  rw [Std.ExtTreeMap.getElem?_map]
  -- The table is gone through by its keys, so those before the key are the lesser ones.
  by_cases less : other < key
  · cases held : table[other]? with
    | none =>
        rw [getElem?_foldl_changeEntry_of_not_mem, held, Option.map_none]
        intro w member
        have entry : (other, w) ∈ table.toList := by simp [split, member]
        rw [Std.ExtTreeMap.mem_toList_iff_getElem?_eq_some, held] at entry
        contradiction
    | some w =>
        have member : (other, w) ∈ before := by
          have entry := Std.ExtTreeMap.mem_toList_iff_getElem?_eq_some.mpr held
          rw [split, List.mem_append, List.mem_cons] at entry
          rcases entry with early | own | late
          · exact early
          · rw [(Prod.mk.inj own).1] at less
            exact absurd less (String.lt_irrefl _)
          · have greater := compareOfLessAndEq_eq_lt.mp (above (other, w) late)
            exact absurd less (String.lt_asymm greater)
        rw [getElem?_foldl_changeEntry_of_mem table distinct.1 member held, Option.map_some,
          if_pos less]
  · rw [getElem?_foldl_changeEntry_of_not_mem _ fun w member => less (before_lt _ member)]
    simp only [if_neg less, Option.map_id_fun', id]

namespace Constraints

variable (k : Constraints)

/-- What a look-up on `key` that is refused leaves of taking a candidate in. -/
def interrupted (t : Tracker) (c : Candidate) (key : String) : Tracker :=
  { t with
    same := t.same.map fun other expected =>
      if other < key then expected.or (k.exposed c.node other) else expected }

variable {k} {t t' : Tracker} {c d : Candidate} {key : String} {cause : AccessDenied}

theorem getElem?_same_interrupted (t : Tracker) (c : Candidate) (key other : String) :
    (k.interrupted t c key).same[other]? = t.same[other]?.map fun expected =>
      if other < key then expected.or (k.exposed c.node other) else expected :=
  Std.ExtTreeMap.getElem?_map

theorem interrupted_of_select (admitted : k.admissible t c = .ok true)
    (run : k.select t c = (t', some cause)) :
    ∃ key, t.same[key]? = some none ∧ k.properties c.node key = .error cause ∧
      t' = k.interrupted t c key := by
  have fits := admissible_iff_fits.mp admitted
  unfold select at run
  cases expectations : runAll (k.fixExpectation c.node) t.same t.same.toList with
  | mk same failure =>
      cases failure with
      | some e =>
          simp only [expectations, Prod.mk.injEq, Option.some.injEq] at run
          obtain ⟨rfl, rfl⟩ := run
          obtain ⟨before, ⟨key, expected⟩, after, split, succeeded, failed⟩ :=
            exists_failure_of_runAll expectations
          cases expected with
          | some v => simp [fixExpectation] at failed
          | none =>
              have entry : (key, none) ∈ t.same.toList := by simp [split]
              refine ⟨key, Std.ExtTreeMap.mem_toList_iff_getElem?_eq_some.mp entry, ?_, ?_⟩
              · simp only [fixExpectation] at failed
                cases answer : k.properties c.node key with
                | error e' => simpa [answer, bind, Except.bind] using failed
                | ok v => simp [answer, bind, Except.bind, pure, Except.pure] at failed
              · rw [interrupted, eq_foldl_of_runAll (fun _ _ _ => fixExpectation_eq) succeeded,
                  foldl_changeEntry_before _ split]
                congr 2
                funext other expected
                cases expected <;> rfl
      | none =>
          cases values : runAll (k.takeValue c.node) t.taken t.taken.toList with
          | mk taken failure =>
              cases failure with
              | none => simp [expectations, values] at run
              | some e =>
                  obtain ⟨before, ⟨key, held⟩, after, split, -, failed⟩ :=
                    exists_failure_of_runAll values
                  -- This key was looked up already when the candidate was admitted.
                  have entry : (key, held) ∈ t.taken.toList := by simp [split]
                  have answer : k.properties c.node key = _ :=
                    fits.answers_taken (mem_of_mem_toList entry)
                  simp only [takeValue, answer, bind, Except.bind, pure, Except.pure] at failed
                  split at failed <;> contradiction

theorem fits_interrupted :
    k.Fits (k.interrupted t c key).view d ↔ k.Fits t.view d ∧
      ∀ other < key, t.same[other]? = some none → ∀ value,
        k.properties c.node other = .ok (some value) →
          k.properties d.node other = .ok (some value) := by
  constructor
  · intro fits
    constructor
    · refine { fits with same_met := fun other expected entry => ?_ }
      apply fits.same_met other expected
      change (k.interrupted t c key).same[other]? = _
      change t.same[other]? = _ at entry
      rw [getElem?_same_interrupted, entry, Option.map_some, Option.some_or, ite_self]
    · intro other less unfixed value exposes
      apply fits.same_met other value
      change (k.interrupted t c key).same[other]? = _
      rw [getElem?_same_interrupted, unfixed, Option.map_some, if_pos less, Option.none_or,
        exposed_eq_some_iff.mpr exposes]
  · rintro ⟨fits, agrees⟩
    refine { fits with same_met := fun other expected entry => ?_ }
    change (k.interrupted t c key).same[other]? = _ at entry
    rw [getElem?_same_interrupted, Option.map_eq_some_iff] at entry
    obtain ⟨held, entry, fixed⟩ := entry
    cases held with
    | some v =>
        rw [Option.some_or, ite_self] at fixed
        exact fits.same_met other expected (fixed ▸ entry)
    | none =>
        split at fixed
        next less => exact agrees other less entry expected (exposed_eq_some_iff.mp fixed)
        next => contradiction

theorem interrupted_of_unexposed
    (silent : ∀ other < key, t.same[other]? = some none → ∀ value,
      k.properties c.node other ≠ .ok (some value)) : k.interrupted t c key = t := by
  have same_eq : (k.interrupted t c key).same = t.same := by
    apply Std.ExtTreeMap.ext_getElem?
    intro other
    rw [getElem?_same_interrupted]
    cases entry : t.same[other]? with
    | none => rfl
    | some expected =>
        cases expected with
        | some v => rw [Option.map_some, Option.some_or, ite_self]
        | none =>
            rw [Option.map_some, Option.none_or]
            split
            next less => rw [exposed_eq_none_iff.mpr (silent other less entry)]
            next => rfl
  exact congrArg (fun same => { t with same }) same_eq

/-- An admissible candidate that a refused look-up keeps from being taken in changes nothing but
what is expected on the keys below that of the look-up. The candidates admitted from then on are
those admitted before that agree with it on these keys. -/
theorem select_interrupted (admitted : k.admissible t c = .ok true)
    (run : k.select t c = (t', some cause)) :
    ∃ key, t.same[key]? = some none ∧ k.properties c.node key = .error cause ∧
      t' = k.interrupted t c key ∧ t'.selection = t.selection ∧
      (∀ d, k.admissible t' d = .ok true ↔ k.admissible t d = .ok true ∧
        ∀ other < key, t.same[other]? = some none → ∀ value,
          k.properties c.node other = .ok (some value) →
            k.properties d.node other = .ok (some value)) ∧
      ((∀ other < key, t.same[other]? = some none → ∀ value,
          k.properties c.node other ≠ .ok (some value)) →
        ∀ d, k.admissible t' d = k.admissible t d) := by
  obtain ⟨key, unfixed, refused, rfl⟩ := interrupted_of_select admitted run
  refine ⟨key, unfixed, refused, rfl, rfl, ?_, ?_⟩
  · intro d
    rw [admissible_iff_fits, admissible_iff_fits]
    exact fits_interrupted
  · intro silent d
    rw [interrupted_of_unexposed silent]

def zoneRefused : Constraints where
  filter := { sameRules := [⟨"site", none⟩, ⟨"zone", none⟩] }
  occupied := {}
  properties
    | "n1", "site" => .ok (some "east")
    | "n1", "zone" => .error (.property "n1" "zone")
    | "n2", "site" => .ok (some "west")
    | "n2", "zone" => .ok (some "z2")
    | _, _ => .ok none
  mixing := .standard

theorem admission_lost_by_refusal :
    ∃ fresh t', zoneRefused.fresh = .ok fresh ∧
      zoneRefused.admissible fresh (poolOn "n1") = .ok true ∧
      zoneRefused.select fresh (poolOn "n1") = (t', some (.property "n1" "zone")) ∧
      t'.selection = [] ∧
      zoneRefused.admissible fresh (poolOn "n2") = .ok true ∧
      zoneRefused.admissible t' (poolOn "n2") = .ok false :=
  ⟨zoneRefused.anew [], (zoneRefused.select (zoneRefused.anew []) (poolOn "n1")).1,
    by decide +kernel⟩

theorem select_interrupted_zoneRefused :
    let fresh := zoneRefused.anew []
    let left := (zoneRefused.select fresh (poolOn "n1")).1
    zoneRefused.admissible fresh (poolOn "n1") = .ok true ∧
      zoneRefused.select fresh (poolOn "n1") = (left, some (.property "n1" "zone")) ∧
      ∃ key, fresh.same[key]? = some none ∧
        left = zoneRefused.interrupted fresh (poolOn "n1") key ∧ left.selection = [] ∧
        ∀ d, zoneRefused.admissible left d = .ok true ↔ zoneRefused.admissible fresh d = .ok true ∧
          ∀ other < key, fresh.same[other]? = some none → ∀ value,
            zoneRefused.properties "n1" other = .ok (some value) →
              zoneRefused.properties d.node other = .ok (some value) := by
  intro fresh left
  have admitted : zoneRefused.admissible fresh (poolOn "n1") = .ok true := by decide +kernel
  have run : zoneRefused.select fresh (poolOn "n1") = (left, some (.property "n1" "zone")) := by
    decide +kernel
  obtain ⟨key, unfixed, -, left_eq, picks, admissible_iff, -⟩ := select_interrupted admitted run
  exact ⟨admitted, run, key, unfixed, left_eq, picks, admissible_iff⟩

end Constraints

end ReplicaPlacement
