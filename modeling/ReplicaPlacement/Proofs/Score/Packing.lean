import Mathlib

namespace ReplicaPlacement.Score

open Float.Model (Format UnpackedFloat)
open Float.Model.UnpackedFloat

def infinityPlace : Int := 2047 * 2 ^ 52

/-- The number of a value in their numeric order. The two zeros share the place zero. -/
def place : UnpackedFloat → Int
  | .notANumber => 0
  | .infinity s => s.apply infinityPlace
  | .zero _ => 0
  | .finite s m e _ => s.apply ((e + 1074) * 2 ^ 52 + m)

/-- A finite value in multiples of the smallest positive one. -/
def units : UnpackedFloat → Int
  | .finite s m e _ => s.apply (m * 2 ^ (e + 1074).toNat)
  | _ => 0

/-- Finite values that the format holds, up to overflow: a full mantissa, or the least exponent. -/
structure Normal (m : Nat) (e : Int) : Prop where
  exponent_ge : -1074 ≤ e
  mantissa_lt : m < 2 ^ 53
  full_or_least : 2 ^ 52 ≤ m ∨ e = -1074

def Canonical : UnpackedFloat → Prop
  | .finite _ m e _ => Normal m e ∧ e ≤ 971
  | _ => True

theorem finite_congr {s : Sign} {m n : Nat} {d e : Int} {first : 0 < m} {second : 0 < n}
    (mantissas : m = n) (exponents : d = e) :
    UnpackedFloat.finite s m d first = .finite s n e second := by
  subst mantissas exponents
  rfl

theorem apply_le_apply {s : Sign} {m n : Int} (positive : 0 ≤ m) (ordered : m ≤ n) :
    -n ≤ s.apply m ∧ s.apply m ≤ n := by
  cases s <;> simp only [Sign.apply] <;> omega

@[simp] theorem ofBitVec_toBitVec (s : Sign) : Sign.ofBitVec s.toBitVec = s := by
  cases s <;> rfl

@[simp] theorem unpackSign_packComponents (s : Sign) (e : BitVec 11) (f : BitVec 52) :
    unpackSign (packComponents Format.binary64 s e f) = s.toBitVec := by
  ext i bound
  obtain rfl : i = 0 := by omega
  have signBit : (s.toBitVec ++ e ++ f).getLsbD 63 = s.toBitVec.getLsbD 0 := by
    rw [BitVec.getLsbD_append, BitVec.getLsbD_append]
    rfl
  simp only [unpackSign, packComponents, BitVec.cast_eq, BitVec.getElem_extract, add_zero]
  exact signBit

theorem toNat_one_append (f : BitVec 52) : (1#1 ++ f).toNat = 2 ^ 52 + f.toNat := by
  rw [BitVec.toNat_append, ← Nat.shiftLeft_add_eq_or_of_lt f.isLt]
  simp [Nat.shiftLeft_eq]

theorem unpack_pack_infinity (s : Sign) :
    unpack Format.binary64 (pack Format.binary64 (.infinity s)) = .infinity s := by
  cases s <;> rfl

theorem unpack_pack_zero (s : Sign) :
    unpack Format.binary64 (pack Format.binary64 (.zero s)) = .zero s := by
  cases s <;> rfl

theorem pack_of_overflow {s : Sign} {m : Nat} {e : Int} {positive : 0 < m} (large : 971 < e) :
    pack Format.binary64 (.finite s m e positive) = pack Format.binary64 (.infinity s) := by
  have overflow : 2 ^ 11 ≤ (e + 1023 + 52).toNat + 1 := by omega
  exact if_pos overflow

theorem unpack_pack_of_full {s : Sign} {m : Nat} {e : Int} {positive : 0 < m}
    (exponentBound : -1074 ≤ e ∧ e ≤ 971) (mantissaBound : 2 ^ 52 ≤ m ∧ m < 2 ^ 53) :
    unpack Format.binary64 (pack Format.binary64 (.finite s m e positive)) =
      .finite s m e positive := by
  let biased := BitVec.ofNat 11 (e + 1023 + 52).toNat
  have fits : ¬ 2 ^ 11 ≤ (e + 1023 + 52).toNat + 1 := by omega
  have width : m.log2 + 1 = 53 := by
    have lower := (Nat.le_log2 positive.ne').mpr mantissaBound.1
    have upper := (Nat.log2_lt positive.ne').mpr mantissaBound.2
    omega
  have packed : pack Format.binary64 (.finite s m e positive) =
      packComponents Format.binary64 s biased (BitVec.ofNat 52 m) :=
    (if_neg fits).trans (if_pos width)
  have biased_eq : biased.toNat = (e + 1023 + 52).toNat := by
    rw [BitVec.toNat_ofNat, Nat.mod_eq_of_lt (by omega)]
  have notFull : biased ≠ -1#11 := by
    intro equality
    have values : biased.toNat = 2047 := congrArg BitVec.toNat equality
    omega
  have notZero : biased ≠ 0#11 := by
    intro equality
    have values : biased.toNat = 0 := congrArg BitVec.toNat equality
    omega
  rw [packed]
  simp only [unpack, unpackExponent_packComponents, unpackMantissa_packComponents,
    unpackSign_packComponents, ofBitVec_toBitVec]
  rw [if_neg notFull, if_neg notZero]
  apply finite_congr
  · rw [toNat_one_append, BitVec.toNat_ofNat]
    omega
  · rw [biased_eq]
    change (((e + 1023 + 52).toNat : Nat) : Int) - (1023 + 52) = e
    omega

theorem unpack_pack_of_least {s : Sign} {m : Nat} {positive : 0 < m} (bound : m < 2 ^ 52) :
    unpack Format.binary64 (pack Format.binary64 (.finite s m (-1074) positive)) =
      .finite s m (-1074) positive := by
  have width : ¬ m.log2 + 1 = 53 := by
    have upper := (Nat.log2_lt positive.ne').mpr bound
    omega
  have packed : pack Format.binary64 (.finite s m (-1074) positive) =
      packComponents Format.binary64 s 0#11 (BitVec.ofNat 52 m) :=
    if_neg width
  have fraction_eq : (BitVec.ofNat 52 m).toNat = m := by
    rw [BitVec.toNat_ofNat, Nat.mod_eq_of_lt bound]
  have notZero : BitVec.ofNat 52 m ≠ 0#52 := by
    intro equality
    have values : (BitVec.ofNat 52 m).toNat = 0 := congrArg BitVec.toNat equality
    omega
  rw [packed]
  simp only [unpack, unpackExponent_packComponents, unpackMantissa_packComponents,
    unpackSign_packComponents, ofBitVec_toBitVec]
  rw [if_neg (by decide), if_pos trivial, dif_neg notZero]
  exact finite_congr fraction_eq rfl

theorem unpack_pack_of_canonical {x : UnpackedFloat} (canonical : Canonical x) :
    unpack Format.binary64 (pack Format.binary64 x) = x := by
  cases x with
  | infinity s => exact unpack_pack_infinity s
  | notANumber => rfl
  | zero s => exact unpack_pack_zero s
  | finite s m e positive =>
      obtain ⟨normal, bound⟩ := canonical
      by_cases full : 2 ^ 52 ≤ m
      · exact unpack_pack_of_full ⟨normal.exponent_ge, bound⟩ ⟨full, normal.mantissa_lt⟩
      · obtain rfl := normal.full_or_least.resolve_left full
        exact unpack_pack_of_least (by omega)

theorem place_unpack_pack_of_normal {s : Sign} {m : Nat} {e : Int} {positive : 0 < m}
    (normal : Normal m e) :
    place (unpack Format.binary64 (pack Format.binary64 (.finite s m e positive))) =
      s.apply (min ((e + 1074) * 2 ^ 52 + m) infinityPlace) := by
  have mantissaBound := normal.mantissa_lt
  by_cases bound : e ≤ 971
  · have canonical : Canonical (.finite s m e positive) := ⟨normal, bound⟩
    rw [unpack_pack_of_canonical canonical]
    apply congrArg s.apply
    unfold infinityPlace
    omega
  · rw [pack_of_overflow (by omega), unpack_pack_infinity]
    apply congrArg s.apply
    have full := normal.full_or_least.resolve_right (by omega)
    unfold infinityPlace
    omega

end ReplicaPlacement.Score
