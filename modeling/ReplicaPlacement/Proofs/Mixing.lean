import ReplicaPlacement.ProviderKind
import Mathlib.Data.List.Pairwise

namespace ReplicaPlacement.MixingPolicy

/-- Each kind may stand before those that come after it. -/
def Allows (mixing : MixingPolicy) (kinds : List ProviderKind) : Prop :=
  kinds.Pairwise fun a b => mixing a b = true

variable {mixing : MixingPolicy} {kinds others : List ProviderKind}

theorem Allows.of_append (allowed : mixing.Allows (kinds ++ others)) : mixing.Allows kinds :=
  (List.pairwise_append.mp allowed).1

theorem allows_perm (symmetric : ∀ a b, mixing a b = mixing b a) (permutation : kinds.Perm others) :
    mixing.Allows kinds ↔ mixing.Allows others :=
  permutation.pairwise_iff fun {a b} mixes => (symmetric b a).trans mixes

def Clash (mixing : MixingPolicy) (kinds : List ProviderKind) (i j : Nat) : Prop :=
  i < j ∧ ∃ existing found,
    kinds[i]? = some existing ∧ kinds[j]? = some found ∧ mixing existing found = false

/-- The first kind that clashes with one before it, and the first one that it clashes with. -/
structure FirstClash (mixing : MixingPolicy) (kinds : List ProviderKind) (i j : Nat) : Prop where
  clash : mixing.Clash kinds i j
  least_found : ∀ existing found, mixing.Clash kinds existing found → j ≤ found
  least_existing : ∀ existing, mixing.Clash kinds existing j → i ≤ existing

theorem allows_iff_not_clash :
    mixing.Allows kinds ↔ ∀ i j, ¬ mixing.Clash kinds i j := by
  constructor
  · rintro allowed i j ⟨less, existing, found, first, second, refused⟩
    obtain ⟨iBound, rfl⟩ := List.getElem?_eq_some_iff.mp first
    obtain ⟨jBound, rfl⟩ := List.getElem?_eq_some_iff.mp second
    have mixes := List.pairwise_iff_getElem.mp allowed i j iBound jBound less
    rw [refused] at mixes
    contradiction
  · intro free
    apply List.pairwise_iff_getElem.mpr
    intro i j iBound jBound less
    by_contra refused
    rw [Bool.not_eq_true] at refused
    exact free i j ⟨less, _, _, List.getElem?_eq_getElem iBound, List.getElem?_eq_getElem jBound,
      refused⟩

theorem FirstClash.unique {i j i' j' : Nat} (first : mixing.FirstClash kinds i j)
    (second : mixing.FirstClash kinds i' j') : i = i' ∧ j = j' := by
  obtain rfl : j = j' := Nat.le_antisymm (first.least_found _ _ second.clash)
    (second.least_found _ _ first.clash)
  exact ⟨Nat.le_antisymm (first.least_existing _ second.clash)
    (second.least_existing _ first.clash), rfl⟩

theorem firstClash_of_find? {existing found : ProviderKind} (allowed : mixing.Allows kinds)
    (refusing : (kinds.find? fun kind => !mixing kind found) = some existing)
    (after : List ProviderKind) :
    ∃ i, kinds[i]? = some existing ∧ mixing.FirstClash (kinds ++ found :: after) i kinds.length := by
  obtain ⟨refused, before, between, rfl, accepting⟩ := List.find?_eq_some_iff_append.mp refusing
  have entry : (before ++ existing :: between)[before.length]? = some existing := by simp
  have within : before.length < (before ++ existing :: between).length :=
    (List.getElem?_eq_some_iff.mp entry).1
  refine ⟨before.length, entry, ⟨within, existing, found, ?_, ?_, ?_⟩, ?_, ?_⟩
  · rw [List.getElem?_append_left within, entry]
  · rw [List.getElem?_append_right (Nat.le_refl _), Nat.sub_self]
    rfl
  · simpa using refused
  · rintro i j ⟨less, one, other, first, second, clash⟩
    by_contra shorter
    have inside := Nat.not_le.mp shorter
    rw [List.getElem?_append_left (Nat.lt_trans less inside)] at first
    rw [List.getElem?_append_left inside] at second
    exact allows_iff_not_clash.mp allowed i j ⟨less, one, other, first, second, clash⟩
  · rintro i ⟨less, one, other, first, second, clash⟩
    by_contra shorter
    have inside := Nat.not_le.mp shorter
    rw [List.getElem?_append_right (Nat.le_refl _), Nat.sub_self] at second
    obtain rfl : found = other := Option.some.inj second
    rw [List.getElem?_append_left less, List.getElem?_append_left inside] at first
    have mixes := accepting one (List.mem_of_getElem? first)
    rw [Bool.not_not, clash] at mixes
    contradiction

theorem standard_eq_true_iff {a b : ProviderKind} :
    standard a b = true ↔ a.isDiskless = true ∨ b.isDiskless = true ∨ a.family = b.family := by
  simp [standard, or_assoc]

theorem standard_symmetric (a b : ProviderKind) : standard a b = standard b a := by
  rw [Bool.eq_iff_iff, standard_eq_true_iff, standard_eq_true_iff, eq_comm (a := b.family)]
  exact or_left_comm

theorem standard_allows_of_stored (allowed : standard.Allows (kinds.filter (!·.isDiskless))) :
    standard.Allows kinds := by
  apply (List.pairwise_filter.mp allowed).imp
  intro a b mixes
  by_cases diskless : a.isDiskless = true ∨ b.isDiskless = true
  · rw [standard_eq_true_iff, ← or_assoc]
    exact .inl diskless
  · simp only [not_or, Bool.not_eq_true] at diskless
    exact mixes (by simp [diskless.1]) (by simp [diskless.2])

theorem standard_of_mem (allowed : standard.Allows kinds) {a b : ProviderKind} (first : a ∈ kinds)
    (second : b ∈ kinds) : standard a b = true := by
  have symmetric : Std.Symm fun a b : ProviderKind => standard a b = true :=
    ⟨fun a b mixes => standard_symmetric a b ▸ mixes⟩
  refine List.Pairwise.forall_of_forall ?_ allowed first second
  intro kind _
  exact standard_eq_true_iff.mpr (.inr (.inr rfl))

/-- The stored kinds are of one family, so that two such lists go together as a whole, or as far as
one side is diskless. -/
theorem standard_all_or_diskless (allowed : standard.Allows kinds)
    (othersAllowed : standard.Allows others) :
    (∀ a ∈ kinds, ∀ b ∈ others, standard a b = true) ∨
      ∀ a ∈ kinds, ∀ b ∈ others, standard a b = (a.isDiskless || b.isDiskless) := by
  by_cases related : ∃ a ∈ kinds, ∃ b ∈ others, a.isDiskless = false ∧ b.isDiskless = false ∧
      a.family = b.family
  -- One stored kind on each side joins the families, for all stored kinds of a side have one.
  · obtain ⟨a, first, b, second, aStored, bStored, family_eq⟩ := related
    left
    intro a' first' b' second'
    have own := standard_of_mem allowed first' first
    have other := standard_of_mem othersAllowed second second'
    rw [standard_eq_true_iff] at own other ⊢
    simp only [aStored, bStored, Bool.false_eq_true, false_or] at own other
    rcases own with diskless | own
    · exact .inl diskless
    · rcases other with diskless | other
      · exact .inr (.inl diskless)
      · exact .inr (.inr (own.trans (family_eq.trans other)))
  · right
    intro a first b second
    rw [Bool.eq_iff_iff, standard_eq_true_iff, Bool.or_eq_true]
    constructor
    · rintro (diskless | diskless | family_eq)
      · exact .inl diskless
      · exact .inr diskless
      · by_contra stored
        rw [not_or, Bool.not_eq_true, Bool.not_eq_true] at stored
        exact related ⟨a, first, b, second, stored.1, stored.2, family_eq⟩
    · exact fun diskless => diskless.imp_right .inl

end ReplicaPlacement.MixingPolicy
