import ReplicaPlacement.Proofs.Score.Rounding

namespace ReplicaPlacement.Score

open Float.Model (Format UnpackedFloat)
open Float.Model.UnpackedFloat

def Finite : UnpackedFloat → Prop
  | .zero _ | .finite .. => True
  | _ => False

theorem Normal.place_pos {m : Nat} {e : Int} (normal : Normal m e) (positive : 0 < m) :
    0 < (e + 1074) * 2 ^ 52 + (m : Int) := by
  have := normal.exponent_ge
  omega

theorem place_lt_infinityPlace {m : Nat} {e : Int} (normal : Normal m e) (bound : e ≤ 971) :
    (e + 1074) * 2 ^ 52 + (m : Int) < infinityPlace := by
  have := normal.mantissa_lt
  unfold infinityPlace
  omega

theorem nearestPlace_of_normal {m : Nat} {e : Int} (normal : Normal m e) (positive : 0 < m) :
    (nearestPlace (m * 2 ^ (e + 1074).toNat) : Int) = (e + 1074) * 2 ^ 52 + m := by
  obtain ⟨least, bound, full⟩ := normal
  have width := (Nat.log2_lt positive.ne').mpr bound
  have spacing_eq : spacing (m * 2 ^ (e + 1074).toNat) = (e + 1074).toNat := by
    unfold spacing
    rw [log2_mul_two_pow positive]
    rcases full with full | rfl
    · have := (Nat.le_log2 positive.ne').mpr full
      omega
    · simp
      omega
  have exact : nearestEven (m * 2 ^ (e + 1074).toNat) (e + 1074).toNat = m := by
    have scaled := nearestEven_mul_two_pow m 0 (e + 1074).toNat
    rwa [Nat.zero_add, nearestEven_zero] at scaled
  unfold nearestPlace
  rw [spacing_eq, exact]
  push_cast
  omega

theorem roundedPlace_units {x : UnpackedFloat} (canonical : Canonical x) (finite : Finite x) :
    roundedPlace (units x) = place x := by
  cases x with
  | infinity s => exact finite.elim
  | notANumber => exact finite.elim
  | zero s =>
      change roundedPlace 0 = 0
      decide
  | finite s m e positive =>
      obtain ⟨normal, bound⟩ := canonical
      have below := place_lt_infinityPlace normal bound
      have rounded := roundedPlace_apply s (m * 2 ^ (e + 1074).toNat)
      push_cast at rounded
      rw [units, rounded, nearestPlace_of_normal normal positive]
      exact congrArg s.apply (min_eq_left below.le)

theorem Normal.eq_of_place_eq {m n : Nat} {d e : Int} (first : Normal m d) (second : Normal n e)
    (places : (d + 1074) * 2 ^ 52 + (m : Int) = (e + 1074) * 2 ^ 52 + n) : m = n ∧ d = e := by
  obtain ⟨_, _, _⟩ := first
  obtain ⟨_, _, _⟩ := second
  omega

theorem units_eq_of_place_eq {x y : UnpackedFloat} (first : Canonical x) (second : Canonical y)
    (firstFinite : Finite x) (secondFinite : Finite y) (places : place x = place y) :
    units x = units y := by
  cases x with
  | infinity s => exact firstFinite.elim
  | notANumber => exact firstFinite.elim
  | zero s =>
      cases y with
      | infinity t => exact secondFinite.elim
      | notANumber => exact secondFinite.elim
      | zero t => rfl
      | finite t n e positive =>
          have := second.1.place_pos positive
          cases t <;> simp only [place, Sign.apply] at places <;> omega
  | finite s m d positive =>
      have above := first.1.place_pos positive
      cases y with
      | infinity t => exact secondFinite.elim
      | notANumber => exact secondFinite.elim
      | zero t => cases s <;> simp only [place, Sign.apply] at places <;> omega
      | finite t n e otherPositive =>
          have otherAbove := second.1.place_pos otherPositive
          have signs : s = t := by
            cases s <;> cases t <;> simp only [place, Sign.apply] at places <;> first | rfl | omega
          subst signs
          have magnitudes :
              (d + 1074) * 2 ^ 52 + (m : Int) = (e + 1074) * 2 ^ 52 + n := by
            cases s <;> simp only [place, Sign.apply] at places <;> omega
          obtain ⟨rfl, rfl⟩ := first.1.eq_of_place_eq second.1 magnitudes
          rfl

theorem units_mono {x y : UnpackedFloat} (first : Canonical x) (second : Canonical y)
    (firstFinite : Finite x) (secondFinite : Finite y) (ordered : place x ≤ place y) :
    units x ≤ units y := by
  by_contra reversed
  have rounded := roundedPlace_mono (u := units y) (v := units x) (by omega)
  rw [roundedPlace_units first firstFinite, roundedPlace_units second secondFinite] at rounded
  have equal := units_eq_of_place_eq first second firstFinite secondFinite (by omega)
  omega

theorem compare_place {m n : Nat} {d e : Int} (first : Normal m d) (second : Normal n e) :
    (compare d e).then (compare m n) =
      compare ((d + 1074) * 2 ^ 52 + (m : Int)) ((e + 1074) * 2 ^ 52 + n) := by
  obtain ⟨_, _, _⟩ := first
  obtain ⟨_, _, _⟩ := second
  rcases lt_trichotomy d e with less | rfl | greater
  · have exponents : compare d e = .lt := Std.compare_eq_lt.mpr less
    rw [exponents, eq_comm, Ordering.lt_then, Std.compare_eq_lt]
    omega
  · rw [Std.compare_self, Ordering.eq_then]
    rcases lt_trichotomy m n with less | rfl | greater
    · rw [Std.compare_eq_lt.mpr less, eq_comm, Std.compare_eq_lt]
      omega
    · rw [Std.compare_self, Std.compare_self]
    · rw [Std.compare_eq_gt.mpr greater, eq_comm, Std.compare_eq_gt]
      omega
  · have exponents : compare d e = .gt := Std.compare_eq_gt.mpr greater
    rw [exponents, eq_comm, Ordering.gt_then, Std.compare_eq_gt]
    omega

theorem swap_compare (a b : Int) : (compare a b).swap = compare (-a) (-b) := by
  rcases lt_trichotomy a b with less | rfl | greater
  · rw [Std.compare_eq_lt.mpr less, eq_comm]
    exact Std.compare_eq_gt.mpr (by omega)
  · rw [Std.compare_self, Std.compare_self]
    rfl
  · rw [Std.compare_eq_gt.mpr greater, eq_comm]
    exact Std.compare_eq_lt.mpr (by omega)

theorem compare_eq_compare_place {x y : UnpackedFloat} (first : Canonical x)
    (second : Canonical y) (firstNumber : x ≠ .notANumber) (secondNumber : y ≠ .notANumber) :
    x.compare y = some (compare (place x) (place y)) := by
  have infinity : 0 < infinityPlace := by decide
  have below : ∀ a b : Int, a < b → some Ordering.lt = some (compare a b) :=
    fun a b less => congrArg some (Std.compare_eq_lt.mpr less).symm
  have above : ∀ a b : Int, b < a → some Ordering.gt = some (compare a b) :=
    fun a b greater => congrArg some (Std.compare_eq_gt.mpr greater).symm
  -- Signs apart, each value lies on its side of zero and of infinity.
  cases x with
  | notANumber => exact absurd rfl firstNumber
  | infinity s =>
      cases y with
      | notANumber => exact absurd rfl secondNumber
      | infinity t => cases s <;> cases t <;> decide
      | zero t =>
          cases s
          · exact below _ _ (by simp only [place, Sign.apply]; omega)
          · exact above _ _ (by simp only [place, Sign.apply]; omega)
      | finite t n e positive =>
          have least := second.1.place_pos positive
          have most := place_lt_infinityPlace second.1 second.2
          cases s
          · exact below _ _ (by cases t <;> simp only [place, Sign.apply] <;> omega)
          · exact above _ _ (by cases t <;> simp only [place, Sign.apply] <;> omega)
  | zero s =>
      cases y with
      | notANumber => exact absurd rfl secondNumber
      | infinity t =>
          cases t
          · exact above _ _ (by simp only [place, Sign.apply]; omega)
          · exact below _ _ (by simp only [place, Sign.apply]; omega)
      | zero t => exact congrArg some (Std.compare_self (a := (0 : Int))).symm
      | finite t n e positive =>
          have least := second.1.place_pos positive
          cases t
          · exact above _ _ (by simp only [place, Sign.apply]; omega)
          · exact below _ _ (by simp only [place, Sign.apply]; omega)
  | finite s m d positive =>
      have least := first.1.place_pos positive
      have most := place_lt_infinityPlace first.1 first.2
      cases y with
      | notANumber => exact absurd rfl secondNumber
      | infinity t =>
          cases t
          · have greater : place (.infinity .negative) < place (.finite s m d positive) := by
              cases s <;> simp only [place, Sign.apply] <;> omega
            cases s <;> exact above _ _ greater
          · have less : place (.finite s m d positive) < place (.infinity .positive) := by
              cases s <;> simp only [place, Sign.apply] <;> omega
            cases s <;> exact below _ _ less
      | zero t =>
          cases s
          · exact below _ _ (by simp only [place, Sign.apply]; omega)
          · exact above _ _ (by simp only [place, Sign.apply]; omega)
      | finite t n e otherPositive =>
          have otherLeast := second.1.place_pos otherPositive
          have magnitudes := compare_place first.1 second.1
          cases s <;> cases t
          · refine congrArg some ?_
            rw [magnitudes]
            exact swap_compare _ _
          · exact below _ _ (by simp only [place, Sign.apply]; omega)
          · exact above _ _ (by simp only [place, Sign.apply]; omega)
          · exact congrArg some magnitudes

theorem apply_mul (s : Sign) (m n : Int) : s.apply m * n = s.apply (m * n) := by
  cases s <;> simp [Sign.apply]

theorem decreaseExponent_fst (m : Nat) {d e : Int} (least : -1074 ≤ e) (below : e ≤ d) :
    ((decreaseExponent m d e).1 : Int) * 2 ^ (e + 1074).toNat = m * 2 ^ (d + 1074).toNat := by
  have exponent : (d + 1074).toNat = (d - e).toNat + (e + 1074).toNat := by omega
  simp only [decreaseExponent, Nat.shiftLeft_eq]
  rw [exponent, pow_add]
  push_cast
  ring

theorem place_add_of_finite {x y : UnpackedFloat} (first : Canonical x) (second : Canonical y)
    (firstFinite : Finite x) (secondFinite : Finite y) :
    place (unpack Format.binary64 (pack Format.binary64 (add Format.binary64 x y))) =
      roundedPlace (units x + units y) := by
  cases x with
  | infinity s => exact firstFinite.elim
  | notANumber => exact firstFinite.elim
  | zero s =>
      cases y with
      | infinity t => exact secondFinite.elim
      | notANumber => exact secondFinite.elim
      | zero t => cases s <;> cases t <;> rfl
      | finite t n e positive =>
          change place (unpack _ (pack _ (.finite t n e positive))) = roundedPlace (0 + units _)
          rw [unpack_pack_of_canonical second, Int.zero_add, roundedPlace_units second trivial]
  | finite s m d positive =>
      cases y with
      | infinity t => exact secondFinite.elim
      | notANumber => exact secondFinite.elim
      | zero t =>
          change place (unpack _ (pack _ (.finite s m d positive))) = roundedPlace (units _ + 0)
          rw [unpack_pack_of_canonical first, Int.add_zero, roundedPlace_units first trivial]
      | finite t n e otherPositive =>
          have leastFirst := first.1.exponent_ge
          have leastSecond := second.1.exponent_ge
          have least : -1074 ≤ min d e := by omega
          change place (unpack _ (pack _ (normalize _
            (s.apply (decreaseExponent m d (min d e)).1 +
              t.apply (decreaseExponent n e (min d e)).1)
            (min d e) .positive))) = _
          rw [place_unpack_pack_normalize _ least, Int.add_mul, apply_mul, apply_mul,
            decreaseExponent_fst m least (by omega), decreaseExponent_fst n least (by omega)]
          rfl

theorem add_infinity {y : UnpackedFloat} (s : Sign) (finite : Finite y) :
    add Format.binary64 (.infinity s) y = .infinity s := by
  cases y with
  | infinity t => exact finite.elim
  | notANumber => exact finite.elim
  | zero t => rfl
  | finite t n e positive => rfl

theorem abs_place_le {x : UnpackedFloat} (canonical : Canonical x) :
    -infinityPlace ≤ place x ∧ place x ≤ infinityPlace := by
  have infinity : 0 < infinityPlace := by decide
  cases x with
  | infinity s => exact apply_le_apply infinity.le (Int.le_refl _)
  | notANumber => simp only [place]; omega
  | zero s => simp only [place]; omega
  | finite s m e positive =>
      have least := canonical.1.place_pos positive
      have most := place_lt_infinityPlace canonical.1 canonical.2
      exact apply_le_apply least.le most.le

theorem finite_or_infinity {x : UnpackedFloat} (number : x ≠ .notANumber) :
    Finite x ∨ ∃ s, x = .infinity s := by
  cases x with
  | notANumber => exact absurd rfl number
  | infinity s => exact .inr ⟨s, rfl⟩
  | zero s => exact .inl trivial
  | finite s m e positive => exact .inl trivial

theorem abs_place_lt_of_finite {x : UnpackedFloat} (canonical : Canonical x)
    (finite : Finite x) : -infinityPlace < place x ∧ place x < infinityPlace := by
  have infinity : 0 < infinityPlace := by decide
  cases x with
  | infinity s => exact finite.elim
  | notANumber => exact finite.elim
  | zero s => exact ⟨by simp only [place]; omega, infinity⟩
  | finite s m e positive =>
      have least := canonical.1.place_pos positive
      have most := place_lt_infinityPlace canonical.1 canonical.2
      cases s <;> simp only [place, Sign.apply] <;> omega

def sum (x y : UnpackedFloat) : UnpackedFloat :=
  unpack Format.binary64 (pack Format.binary64 (add Format.binary64 x y))

theorem sum_infinity {y : UnpackedFloat} (s : Sign) (finite : Finite y) :
    sum (.infinity s) y = .infinity s := by
  rw [sum, add_infinity s finite, unpack_pack_infinity]

theorem abs_place_sum_le {x y : UnpackedFloat} (first : Canonical x) (second : Canonical y)
    (number : x ≠ .notANumber) (finite : Finite y) :
    -infinityPlace ≤ place (sum x y) ∧ place (sum x y) ≤ infinityPlace := by
  obtain firstFinite | ⟨s, rfl⟩ := finite_or_infinity number
  · rw [sum, place_add_of_finite first second firstFinite finite]
    exact abs_roundedPlace_le _
  · rw [sum_infinity s finite]
    exact abs_place_le first

theorem place_sum_mono {x₁ x₂ y₁ y₂ : UnpackedFloat}
    (canonical₁ : Canonical x₁) (canonical₂ : Canonical x₂)
    (addend₁ : Canonical y₁) (addend₂ : Canonical y₂)
    (number₁ : x₁ ≠ .notANumber) (number₂ : x₂ ≠ .notANumber)
    (finite₁ : Finite y₁) (finite₂ : Finite y₂)
    (first : place x₁ ≤ place x₂) (second : place y₁ ≤ place y₂) :
    place (sum x₁ y₁) ≤ place (sum x₂ y₂) := by
  have bounds₁ := abs_place_sum_le canonical₁ addend₁ number₁ finite₁
  have bounds₂ := abs_place_sum_le canonical₂ addend₂ number₂ finite₂
  -- An infinite summand keeps the sum at its end of the order; finite ones add their units.
  obtain xFinite₁ | ⟨s, rfl⟩ := finite_or_infinity number₁
  · have inside := abs_place_lt_of_finite canonical₁ xFinite₁
    obtain xFinite₂ | ⟨t, rfl⟩ := finite_or_infinity number₂
    · rw [sum, sum, place_add_of_finite canonical₁ addend₁ xFinite₁ finite₁,
        place_add_of_finite canonical₂ addend₂ xFinite₂ finite₂]
      have units₁ := units_mono canonical₁ canonical₂ xFinite₁ xFinite₂ first
      have units₂ := units_mono addend₁ addend₂ finite₁ finite₂ second
      exact roundedPlace_mono (by omega)
    · rw [sum_infinity t finite₂] at bounds₂ ⊢
      cases t <;> simp only [place, Sign.apply] at * <;> omega
  · rw [sum_infinity s finite₁] at bounds₁ ⊢
    cases s with
    | negative => exact bounds₂.1
    | positive =>
        obtain xFinite₂ | ⟨t, rfl⟩ := finite_or_infinity number₂
        · have inside := abs_place_lt_of_finite canonical₂ xFinite₂
          simp only [place, Sign.apply] at *
          omega
        · rw [sum_infinity t finite₂]
          exact first

end ReplicaPlacement.Score
