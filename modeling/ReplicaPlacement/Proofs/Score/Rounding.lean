import ReplicaPlacement.Proofs.Score.NearestEven
import ReplicaPlacement.Proofs.Score.Packing

namespace ReplicaPlacement.Score

open Float.Model (Format UnpackedFloat)
open Float.Model.UnpackedFloat

/-- Around `n` units the places lie `2 ^ spacing n` units apart. -/
def spacing (n : Nat) : Nat := n.log2 - 52

def nearestPlace (n : Nat) : Nat := spacing n * 2 ^ 52 + nearestEven n (spacing n)

theorem lt_two_pow_spacing (n : Nat) : n < 2 ^ 53 * 2 ^ spacing n := by
  calc
    n < 2 ^ (n.log2 + 1) := Nat.lt_log2_self
    _ ≤ 2 ^ (53 + spacing n) := Nat.pow_le_pow_right (by decide) (by unfold spacing; omega)
    _ = 2 ^ 53 * 2 ^ spacing n := Nat.pow_add ..

theorem two_pow_spacing_le {n : Nat} (spaced : 0 < spacing n) :
    2 ^ 52 * 2 ^ spacing n ≤ n := by
  have nonzero : n ≠ 0 := by
    rintro rfl
    exact Nat.lt_irrefl 0 spaced
  have width : 52 + spacing n = n.log2 := by
    unfold spacing at *
    omega
  rw [← Nat.pow_add, width]
  exact Nat.log2_self_le nonzero

theorem spacing_mono {m n : Nat} (ordered : m ≤ n) : spacing m ≤ spacing n := by
  rcases Nat.eq_zero_or_pos m with rfl | positive
  · exact Nat.zero_le _
  · have logs : m.log2 ≤ n.log2 :=
      (Nat.le_log2 (by omega)).mpr ((Nat.log2_self_le positive.ne').trans ordered)
    unfold spacing
    omega

theorem nearestEven_spacing_le (n : Nat) : nearestEven n (spacing n) ≤ 2 ^ 53 := by
  have quotient : n / 2 ^ spacing n < 2 ^ 53 :=
    (Nat.div_lt_iff_lt_mul (Nat.two_pow_pos _)).mpr (lt_two_pow_spacing n)
  have := nearestEven_le_div n (spacing n)
  omega

theorem le_nearestEven_spacing {n : Nat} (spaced : 0 < spacing n) :
    2 ^ 52 ≤ nearestEven n (spacing n) := by
  have quotient : 2 ^ 52 ≤ n / 2 ^ spacing n :=
    (Nat.le_div_iff_mul_le (Nat.two_pow_pos _)).mpr (two_pow_spacing_le spaced)
  have := div_le_nearestEven n (spacing n)
  omega

theorem nearestPlace_mono {m n : Nat} (ordered : m ≤ n) : nearestPlace m ≤ nearestPlace n := by
  unfold nearestPlace
  rcases Nat.lt_or_eq_of_le (spacing_mono ordered) with wider | equal
  · have first := nearestEven_spacing_le m
    have second := le_nearestEven_spacing (n := n) (by omega)
    omega
  · rw [equal]
    have := nearestEven_mono (spacing n) ordered
    omega

def roundedPlace (u : Int) : Int :=
  if 0 ≤ u then min (nearestPlace u.toNat : Int) infinityPlace
  else -min (nearestPlace (-u).toNat : Int) infinityPlace

theorem roundedPlace_mono {u v : Int} (ordered : u ≤ v) : roundedPlace u ≤ roundedPlace v := by
  have infinity : 0 < infinityPlace := by decide
  unfold roundedPlace
  split
  · rw [if_pos (by omega)]
    have := nearestPlace_mono (m := u.toNat) (n := v.toNat) (by omega)
    omega
  · split
    · omega
    · have := nearestPlace_mono (m := (-v).toNat) (n := (-u).toNat) (by omega)
      omega

theorem abs_roundedPlace_le (u : Int) :
    -infinityPlace ≤ roundedPlace u ∧ roundedPlace u ≤ infinityPlace := by
  have infinity : 0 < infinityPlace := by decide
  unfold roundedPlace
  split <;> omega

theorem roundedPlace_apply (s : Sign) (n : Nat) :
    roundedPlace (s.apply n) = s.apply (min (nearestPlace n) infinityPlace) := by
  cases s with
  | positive => simp [roundedPlace, Sign.apply]
  | negative =>
      rcases Nat.eq_zero_or_pos n with rfl | positive
      · decide
      · have negative : ¬ 0 ≤ Sign.negative.apply (n : Int) := by
          simp only [Sign.apply]
          omega
        rw [roundedPlace, if_neg negative]
        simp [Sign.apply]

theorem log2_mul_two_pow {m : Nat} (positive : 0 < m) (d : Nat) :
    (m * 2 ^ d).log2 = m.log2 + d := by
  have scaled : m * 2 ^ d ≠ 0 := (Nat.mul_pos positive (Nat.two_pow_pos d)).ne'
  apply Nat.le_antisymm
  · apply Nat.le_of_lt_succ
    rw [Nat.log2_lt scaled]
    calc
      m * 2 ^ d < 2 ^ (m.log2 + 1) * 2 ^ d :=
        Nat.mul_lt_mul_of_pos_right Nat.lt_log2_self (Nat.two_pow_pos d)
      _ = 2 ^ (m.log2 + d).succ := by
        rw [← Nat.pow_add]
        congr 1
        omega
  · rw [Nat.le_log2 scaled, Nat.pow_add]
    exact Nat.mul_le_mul_right _ (Nat.log2_self_le positive.ne')

theorem targetExponent_eq {m : Nat} {e : Int} (positive : 0 < m) (least : -1074 ≤ e) :
    Format.binary64.targetExponent (Float.Model.totalExponent m e) =
      (spacing (m * 2 ^ (e + 1074).toNat) : Int) - 1074 := by
  unfold spacing
  rw [log2_mul_two_pow positive]
  change max ((m.log2 : Int) + 1 + e - (1 + 52)) (3 - 2 ^ 10 - (1 + 52)) = _
  omega

def ofShifted (s : Sign) (x : ExtendedMantissa × Int) : UnpackedFloat :=
  if h : x.1.mantissa = 0 then .zero s
  else .finite s x.1.mantissa x.2 (Nat.pos_of_ne_zero h)

theorem roundWithAccuracy_eq_ofShifted (s : Sign) (m : Nat) (e : Int) (a : Accuracy) :
    roundWithAccuracy Format.binary64 s m e a =
      ofShifted s (shiftToTargetExponent Format.binary64
        (shiftToTargetExponent Format.binary64 m e a).1.roundedMantissa
        (shiftToTargetExponent Format.binary64 m e a).2 .exact) :=
  rfl

theorem shiftToTargetExponent_of_fits {r : Nat} {e : Int} (bound : r < 2 ^ 53)
    (least : -1074 ≤ e) :
    shiftToTargetExponent Format.binary64 r e .exact = (⟨r, false, false⟩, e) := by
  have width : r.log2 ≤ 52 := by
    rcases Nat.eq_zero_or_pos r with rfl | positive
    · decide
    · have := (Nat.log2_lt positive.ne').mpr bound
      omega
  have target : Format.binary64.targetExponent (Float.Model.totalExponent r e) ≤ e := by
    change max ((r.log2 : Int) + 1 + e - (1 + 52)) (3 - 2 ^ 10 - (1 + 52)) ≤ e
    omega
  have amount :
      (Format.binary64.targetExponent (Float.Model.totalExponent r e) - e).toNat = 0 := by
    omega
  simp only [shiftToTargetExponent, shiftToExponent, amount]
  exact Prod.ext rfl (by simp)

/-- Rounding up may make the mantissa one bit too long, and then it is a power of two. -/
theorem shiftToTargetExponent_of_grown {e : Int} (least : -1074 ≤ e) :
    shiftToTargetExponent Format.binary64 (2 ^ 53) e .exact =
      (⟨2 ^ 52, false, false⟩, e + 1) := by
  have target : Format.binary64.targetExponent (Float.Model.totalExponent (2 ^ 53) e) = e + 1 := by
    change max (((2 ^ 53 : Nat).log2 : Int) + 1 + e - (1 + 52)) (3 - 2 ^ 10 - (1 + 52)) = e + 1
    rw [Nat.log2_two_pow]
    omega
  have amount :
      (Format.binary64.targetExponent (Float.Model.totalExponent (2 ^ 53) e) - e).toNat = 1 := by
    omega
  simp only [shiftToTargetExponent, shiftToExponent, amount]
  exact Prod.ext rfl (by simp)

theorem place_unpack_pack_ofShifted {s : Sign} {m : Nat} {e : Int} (roundBit stickyBit : Bool)
    (normal : Normal m e) :
    place (unpack Format.binary64 (pack Format.binary64
        (ofShifted s (⟨m, roundBit, stickyBit⟩, e)))) =
      s.apply (min ((e + 1074) * 2 ^ 52 + m) infinityPlace) := by
  unfold ofShifted
  split
  next zero =>
    have mantissa_eq : m = 0 := zero
    have exponent_eq : e = -1074 := normal.full_or_least.resolve_left (by omega)
    rw [unpack_pack_zero, mantissa_eq, exponent_eq]
    cases s <;> rfl
  next => exact place_unpack_pack_of_normal normal

theorem place_unpack_pack_roundWithAccuracy {s : Sign} {m : Nat} {e : Int} (positive : 0 < m)
    (least : -1074 ≤ e) (below : e ≤ (spacing (m * 2 ^ (e + 1074).toNat) : Int) - 1074) :
    place (unpack Format.binary64 (pack Format.binary64
        (roundWithAccuracy Format.binary64 s m e .exact))) =
      s.apply (min (nearestPlace (m * 2 ^ (e + 1074).toNat) : Int) infinityPlace) := by
  generalize units_eq : m * 2 ^ (e + 1074).toNat = n at *
  let t : Int := (spacing n : Int) - 1074
  let d := (t - e).toNat
  have first : shiftToTargetExponent Format.binary64 m e .exact =
      (ExtendedMantissa.ofMantissaAndAccuracy m .exact >>> d, t) := by
    simp only [shiftToTargetExponent, shiftToExponent, targetExponent_eq positive least, units_eq]
    exact Prod.ext rfl (by simp only [t]; omega)
  have rounded : nearestEven m d = nearestEven n (spacing n) := by
    have spacing_eq : spacing n = d + (e + 1074).toNat := by
      simp only [d, t]
      omega
    rw [spacing_eq, ← units_eq]
    exact (nearestEven_mul_two_pow m d (e + 1074).toNat).symm
  have bound := nearestEven_spacing_le n
  rw [roundWithAccuracy_eq_ofShifted, first, roundedMantissa_shiftRight, rounded]
  unfold nearestPlace
  by_cases fits : nearestEven n (spacing n) < 2 ^ 53
  · have normal : Normal (nearestEven n (spacing n)) t := by
      refine ⟨by simp only [t]; omega, fits, ?_⟩
      rcases Nat.eq_zero_or_pos (spacing n) with none | spaced
      · exact .inr (by simp only [t]; omega)
      · exact .inl (le_nearestEven_spacing spaced)
    rw [shiftToTargetExponent_of_fits fits normal.exponent_ge,
      place_unpack_pack_ofShifted _ _ normal]
    apply congrArg s.apply
    simp only [t]
    push_cast
    omega
  · have grown : nearestEven n (spacing n) = 2 ^ 53 := by omega
    have normal : Normal (2 ^ 52) (t + 1) :=
      ⟨by simp only [t]; omega, by decide, .inl (Nat.le_refl _)⟩
    rw [grown, shiftToTargetExponent_of_grown (by simp only [t]; omega),
      place_unpack_pack_ofShifted _ _ normal]
    apply congrArg s.apply
    simp only [t]
    push_cast
    omega

theorem place_unpack_pack_round {s : Sign} {m : Nat} {e : Int} (positive : 0 < m)
    (least : -1074 ≤ e) :
    place (unpack Format.binary64 (pack Format.binary64 (round Format.binary64 s m e))) =
      s.apply (min (nearestPlace (m * 2 ^ (e + 1074).toNat) : Int) infinityPlace) := by
  generalize units_eq : m * 2 ^ (e + 1074).toNat = n
  let d := (e - ((spacing n : Int) - 1074)).toNat
  have round_eq : round Format.binary64 s m e =
      roundWithAccuracy Format.binary64 s (m * 2 ^ d) (e - d) .exact := by
    simp only [UnpackedFloat.round, decreaseExponent, targetExponent_eq positive least, units_eq,
      Nat.shiftLeft_eq]
    rfl
  have scaled : m * 2 ^ d * 2 ^ (e - d + 1074).toNat = n := by
    rw [← units_eq, Nat.mul_assoc, ← Nat.pow_add]
    congr 2
    simp only [d]
    omega
  have shifted : 0 < m * 2 ^ d := Nat.mul_pos positive (Nat.two_pow_pos d)
  rw [round_eq, place_unpack_pack_roundWithAccuracy shifted (by simp only [d]; omega), scaled]
  rw [scaled]
  simp only [d]
  omega

theorem place_unpack_pack_normalize {m e : Int} (zeroSign : Sign) (least : -1074 ≤ e) :
    place (unpack Format.binary64 (pack Format.binary64
        (normalize Format.binary64 m e zeroSign))) =
      roundedPlace (m * 2 ^ (e + 1074).toNat) := by
  unfold UnpackedFloat.normalize
  split
  next negative =>
    have less : m < 0 := Std.compare_eq_lt.mp negative
    have magnitude : m * 2 ^ (e + 1074).toNat =
        Sign.negative.apply ((-m).toNat * 2 ^ (e + 1074).toNat : Nat) := by
      have opposite : m = -((-m).toNat : Int) := by omega
      conv_lhs => rw [opposite]
      simp [Sign.apply]
    rw [place_unpack_pack_round (by omega) least, magnitude, roundedPlace_apply]
  next zero =>
    have equal : m = 0 := Std.compare_eq_iff_eq.mp zero
    rw [unpack_pack_zero, equal, Int.zero_mul]
    rfl
  next positive =>
    have greater : 0 < m := Std.compare_eq_gt.mp positive
    have magnitude : m * 2 ^ (e + 1074).toNat =
        Sign.positive.apply (m.toNat * 2 ^ (e + 1074).toNat : Nat) := by
      have same : m = (m.toNat : Int) := by omega
      conv_lhs => rw [same]
      simp [Sign.apply]
    rw [place_unpack_pack_round (by omega) least, magnitude, roundedPlace_apply]

end ReplicaPlacement.Score
