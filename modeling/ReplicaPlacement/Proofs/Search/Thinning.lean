import ReplicaPlacement.Proofs.Search.Attempts
import Mathlib.Data.Set.List

namespace ReplicaPlacement

def Constraints.Unpicked (k : Constraints) (t : Tracker) (ranked : List Candidate) (count : Nat)
    (P : Candidate → Prop) : Prop :=
  ∀ start positions, k.Combination t ranked count start positions →
    ∀ c ∈ picksAt ranked positions, ¬ P c

/-- Where the candidates that stay stood before; of the others all have `P`. -/
structure Embeds (P : Candidate → Prop) (place : Nat → Nat) (fewer ranked : List Candidate) :
    Prop where
  increasing : StrictMono place
  entry : ∀ i, fewer[i]? = ranked[place i]?
  covers : ∀ p c, ranked[p]? = some c → ¬ P c → ∃ i, place i = p

variable {P : Candidate → Prop} {place : Nat → Nat} {fewer ranked : List Candidate}

theorem LeavesOut.exists_embeds (left : LeavesOut P fewer ranked) :
    ∃ place, Embeds P place fewer ranked := by
  induction left with
  | nil => exact ⟨id, strictMono_id, fun _ => rfl, by simp⟩
  | @keep c fewer ranked _ induction =>
      -- The candidate kept is the first in both lists, and all others come one place later.
      obtain ⟨place, increasing, entry, covers⟩ := induction
      refine ⟨fun i => i.casesOn 0 fun j => place j + 1, ?_, ?_, ?_⟩
      · intro i j less
        cases j with
        | zero => exact absurd less (Nat.not_lt_zero i)
        | succ j =>
            cases i with
            | zero => exact Nat.succ_pos _
            | succ i => exact Nat.succ_lt_succ (increasing (Nat.lt_of_succ_lt_succ less))
      · intro i
        cases i with
        | zero => rfl
        | succ i => exact entry i
      · intro p d at_p stays
        cases p with
        | zero => exact ⟨0, rfl⟩
        | succ p =>
            obtain ⟨i, rfl⟩ := covers p d at_p stays
            exact ⟨i + 1, rfl⟩
  | @drop c fewer ranked dropped _ induction =>
      obtain ⟨place, increasing, entry, covers⟩ := induction
      refine ⟨fun i => place i + 1, fun _ _ less => Nat.succ_lt_succ (increasing less), entry, ?_⟩
      intro p d at_p stays
      cases p with
      | zero =>
          obtain rfl : c = d := Option.some.inj at_p
          exact absurd dropped stays
      | succ p =>
          obtain ⟨i, rfl⟩ := covers p d at_p stays
          exact ⟨i, rfl⟩

theorem lex_map_iff (increasing : StrictMono place) {positions others : List Nat} :
    List.Lex (· < ·) (positions.map place) (others.map place) ↔
      List.Lex (· < ·) positions others := by
  induction positions generalizing others with
  | nil => cases others <;> simp
  | cons p rest induction =>
      cases others with
      | nil => simp
      | cons q others =>
          simp only [List.map_cons, List.cons_lex_cons_iff, increasing.lt_iff_lt,
            increasing.injective.eq_iff, induction]

namespace Embeds

variable {k : Constraints} {t : Tracker} {count s start : Nat} {positions : List Nat}

theorem picksAt_map (embeds : Embeds P place fewer ranked) (positions : List Nat) :
    picksAt ranked (positions.map place) = picksAt fewer positions := by
  rw [picksAt, List.filterMap_map]
  exact List.filterMap_congr fun i _ => (embeds.entry i).symm

theorem lt_length_iff (embeds : Embeds P place fewer ranked) {i : Nat} :
    place i < ranked.length ↔ i < fewer.length := by
  rw [← not_le, ← not_le, ← List.getElem?_eq_none_iff, ← List.getElem?_eq_none_iff, embeds.entry]

theorem exists_start (embeds : Embeds P place fewer ranked) (start : Nat) :
    ∃ s, ∀ i, s ≤ i ↔ start ≤ place i := by
  have reached : ∃ s, start ≤ place s := ⟨start, embeds.increasing.le_apply⟩
  refine ⟨Nat.find reached, fun i => ?_⟩
  constructor
  · intro le
    exact (Nat.find_spec reached).trans (embeds.increasing.monotone le)
  · exact Nat.find_min' reached

theorem combination_iff (embeds : Embeds P place fewer ranked)
    (starts : ∀ i, s ≤ i ↔ start ≤ place i) :
    k.Combination t ranked count start (positions.map place) ↔
      k.Combination t fewer count s positions := by
  have increasing_iff : (positions.map place).Pairwise (· < ·) ↔ positions.Pairwise (· < ·) := by
    simp only [List.pairwise_map, embeds.increasing.lt_iff_lt]
  constructor
  · rintro ⟨length_eq, increasing, in_range, admitted⟩
    refine ⟨by rwa [List.length_map] at length_eq, increasing_iff.mp increasing, ?_, ?_⟩
    · intro p member
      obtain ⟨lower, upper⟩ := in_range (place p) (List.mem_map_of_mem member)
      exact ⟨(starts p).mpr lower, embeds.lt_length_iff.mp upper⟩
    · rwa [embeds.picksAt_map] at admitted
  · rintro ⟨length_eq, increasing, in_range, admitted⟩
    refine ⟨by rwa [List.length_map], increasing_iff.mpr increasing, ?_, ?_⟩
    · intro p member
      obtain ⟨i, inside, rfl⟩ := List.mem_map.mp member
      obtain ⟨lower, upper⟩ := in_range i inside
      exact ⟨(starts i).mp lower, embeds.lt_length_iff.mpr upper⟩
    · rwa [embeds.picksAt_map]

theorem exists_map_eq (embeds : Embeds P place fewer ranked)
    (combination : k.Combination t ranked count start positions)
    (stay : ∀ c ∈ picksAt ranked positions, ¬ P c) :
    ∃ others : List Nat, others.map place = positions := by
  have covered : positions ∈ { l | ∀ p ∈ l, p ∈ Set.range place } := by
    intro p member
    have at_p := List.getElem?_eq_getElem (combination.in_range p member).2
    exact embeds.covers p _ at_p (stay _ (List.mem_filterMap.mpr ⟨p, member, at_p⟩))
  rwa [← Set.range_list_map] at covered

theorem firstCombination_iff (embeds : Embeds P place fewer ranked)
    (unpicked : k.Unpicked t ranked count P) (starts : ∀ i, s ≤ i ↔ start ≤ place i) :
    k.FirstCombination t ranked count start (positions.map place) ↔
      k.FirstCombination t fewer count s positions := by
  constructor
  · intro first
    refine ⟨(embeds.combination_iff starts).mp first.toCombination, fun other combination => ?_⟩
    rcases first.least _ ((embeds.combination_iff starts).mpr combination) with equality | less
    · exact .inl (embeds.increasing.injective.list_map equality)
    · exact .inr ((lex_map_iff embeds.increasing).mp less)
  · intro first
    refine ⟨(embeds.combination_iff starts).mpr first.toCombination, fun other combination => ?_⟩
    obtain ⟨other, rfl⟩ := embeds.exists_map_eq combination (unpicked _ _ combination)
    rcases first.least other ((embeds.combination_iff starts).mp combination) with rfl | less
    · exact .inl rfl
    · exact .inr ((lex_map_iff embeds.increasing).mpr less)

end Embeds

namespace Constraints

variable {k : Constraints} {fresh : Tracker} {required : Nat} {best r : Option Selection}

theorem Attempted.of_embeds (attempted : Attempted k fresh ranked required 0 best r)
    (embeds : Embeds P place fewer ranked)
    (unpicked : k.Unpicked fresh ranked required P) :
    Attempted k fresh fewer required 0 best r := by
  have placed {s : Nat} {other : List Nat}
      (first : k.FirstCombination fresh fewer required s other) :
      k.FirstCombination fresh ranked required (place s) (other.map place) :=
    (embeds.firstCombination_iff unpicked fun _ => embeds.increasing.le_iff_le.symm).mpr first
  cases attempted with
  | kept least =>
      refine .kept fun s other _ first => ?_
      rw [← embeds.picksAt_map]
      exact least (place s) _ (Nat.zero_le _) (placed first)
  | @improved start positions _ isFirst exceeds greatest earliest =>
      obtain ⟨others, rfl⟩ :=
        embeds.exists_map_eq isFirst.toCombination (unpicked _ _ isFirst.toCombination)
      -- The start may be left out itself; the next one that stays has the same first combination.
      obtain ⟨s, starts⟩ := embeds.exists_start start
      rw [embeds.picksAt_map] at exceeds greatest earliest ⊢
      refine .improved (Nat.zero_le s) ((embeds.firstCombination_iff unpicked starts).mp isFirst)
        exceeds ?_ ?_
      · intro s' other _ first
        rw [← embeds.picksAt_map other]
        exact greatest (place s') _ (Nat.zero_le _) (placed first)
      · intro s' other _ less first
        rw [← embeds.picksAt_map other]
        have before : place s' < start := Nat.not_le.mp (mt (starts s').mpr (Nat.not_le.mpr less))
        exact earliest (place s') _ (Nat.zero_le _) before (placed first)

end Constraints

end ReplicaPlacement
