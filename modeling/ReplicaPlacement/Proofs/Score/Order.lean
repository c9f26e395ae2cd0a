import ReplicaPlacement.Score
import ReplicaPlacement.Proofs.Score.Places

namespace ReplicaPlacement.Score

open Float.Model (Format UnpackedFloat)
open Float.Model.UnpackedFloat

theorem unpack_packComponents_ne_notANumber {s : Sign} {e : BitVec 11} {f : BitVec 52}
    (notFull : e ≠ -1#11) :
    unpack Format.binary64 (packComponents Format.binary64 s e f) ≠ .notANumber := by
  simp only [unpack, unpackExponent_packComponents, unpackMantissa_packComponents]
  rw [if_neg notFull]
  split
  · split <;> exact nofun
  · exact nofun

theorem unpack_pack_ne_notANumber {x : UnpackedFloat} (number : x ≠ .notANumber) :
    unpack Format.binary64 (pack Format.binary64 x) ≠ .notANumber := by
  cases x with
  | notANumber => exact absurd rfl number
  | infinity s => simp [unpack_pack_infinity]
  | zero s => simp [unpack_pack_zero]
  | finite s m e positive =>
      by_cases large : 2 ^ 11 ≤ (e + 1023 + 52).toNat + 1
      · have packed : pack Format.binary64 (.finite s m e positive) =
            pack Format.binary64 (.infinity s) := if_pos large
        simp [packed, unpack_pack_infinity]
      · have notFull : BitVec.ofNat 11 (e + 1023 + 52).toNat ≠ -1#11 := by
          intro equality
          have values := congrArg BitVec.toNat equality
          rw [BitVec.toNat_ofNat, Nat.mod_eq_of_lt (by omega)] at values
          simp at values
          omega
        have packed : pack Format.binary64 (.finite s m e positive) =
            if m.log2 + 1 = 53 then
              packComponents Format.binary64 s (BitVec.ofNat 11 (e + 1023 + 52).toNat)
                (BitVec.ofNat 52 m)
            else packComponents Format.binary64 s 0#11 (BitVec.ofNat 52 m) := if_neg large
        rw [packed]
        split
        · exact unpack_packComponents_ne_notANumber notFull
        · exact unpack_packComponents_ne_notANumber (by decide)

theorem ofShifted_ne_notANumber (s : Sign) (x : ExtendedMantissa × Int) :
    ofShifted s x ≠ .notANumber := by
  unfold ofShifted
  split <;> exact nofun

theorem round_ne_notANumber (s : Sign) (m : Nat) (e : Int) :
    round Format.binary64 s m e ≠ .notANumber := by
  simp only [UnpackedFloat.round, roundWithAccuracy_eq_ofShifted]
  exact ofShifted_ne_notANumber _ _

theorem add_ne_notANumber {x y : UnpackedFloat} (first : Finite x) (second : Finite y) :
    add Format.binary64 x y ≠ .notANumber := by
  cases x with
  | infinity s => exact first.elim
  | notANumber => exact first.elim
  | zero s =>
      cases y with
      | infinity t => exact second.elim
      | notANumber => exact second.elim
      | zero t => cases s <;> cases t <;> exact nofun
      | finite t n e positive => exact nofun
  | finite s m d positive =>
      cases y with
      | infinity t => exact second.elim
      | notANumber => exact second.elim
      | zero t => exact nofun
      | finite t n e otherPositive =>
          simp only [add, UnpackedFloat.normalize]
          split
          · exact round_ne_notANumber _ _ _
          · exact nofun
          · exact round_ne_notANumber _ _ _

theorem toNat_unpackExponent (b : BitVec 64) :
    (@unpackExponent Format.binary64 b).toNat = b.toNat / 2 ^ 52 % 2 ^ 11 := by
  simp [unpackExponent, Nat.shiftRight_eq_div_pow]

theorem toNat_unpackMantissa (b : BitVec 64) :
    (@unpackMantissa Format.binary64 b).toNat = b.toNat % 2 ^ 52 := by
  simp [unpackMantissa]

theorem toNat_unpackSign (b : BitVec 64) :
    (@unpackSign Format.binary64 b).toNat = b.toNat / 2 ^ 63 := by
  have bound := b.isLt
  simp [unpackSign, Nat.shiftRight_eq_div_pow]
  omega

def signOf (n : Nat) : Sign := if n < 2 ^ 63 then .positive else .negative

inductive Holds (s : Sign) (e f : Nat) : UnpackedFloat → Prop where
  | infinity : e = 2047 → f = 0 → Holds s e f (.infinity s)
  | notANumber : e = 2047 → f ≠ 0 → Holds s e f .notANumber
  | zero : e = 0 → f = 0 → Holds s e f (.zero s)
  | least (positive : 0 < f) : e = 0 → Holds s e f (.finite s f (-1074) positive)
  | full (positive : 0 < 2 ^ 52 + f) : 0 < e → e < 2047 →
      Holds s e f (.finite s (2 ^ 52 + f) (e - 1075) positive)

theorem holds_unpack (b : BitVec 64) :
    Holds (signOf b.toNat) (b.toNat / 2 ^ 52 % 2 ^ 11) (b.toNat % 2 ^ 52)
      (unpack Format.binary64 b) := by
  have bound := b.isLt
  have signBit : @unpackSign Format.binary64 b = 0#1 ↔ b.toNat < 2 ^ 63 := by
    rw [← BitVec.toNat_inj, toNat_unpackSign, BitVec.toNat_ofNat]
    omega
  have sign_eq : Sign.ofBitVec (@unpackSign Format.binary64 b) = signOf b.toNat := by
    unfold Sign.ofBitVec signOf
    simp only [signBit]
  have fullExponent : @unpackExponent Format.binary64 b = -1#11 ↔
      b.toNat / 2 ^ 52 % 2 ^ 11 = 2047 := by
    rw [← BitVec.toNat_inj, toNat_unpackExponent]
    simp
  have zeroExponent : @unpackExponent Format.binary64 b = 0#11 ↔
      b.toNat / 2 ^ 52 % 2 ^ 11 = 0 := by
    rw [← BitVec.toNat_inj, toNat_unpackExponent]
    simp
  have zeroMantissa : @unpackMantissa Format.binary64 b = 0#52 ↔ b.toNat % 2 ^ 52 = 0 := by
    rw [← BitVec.toNat_inj, toNat_unpackMantissa]
    simp
  unfold unpack
  simp only [sign_eq]
  split
  next infinite =>
    have exponent_eq := fullExponent.mp infinite
    split
    next none => exact .infinity exponent_eq (zeroMantissa.mp none)
    next some => exact .notANumber exponent_eq (mt zeroMantissa.mpr some)
  next notFull =>
    have exponentBound : b.toNat / 2 ^ 52 % 2 ^ 11 ≠ 2047 := mt fullExponent.mpr notFull
    split
    next least =>
      have exponent_eq := zeroExponent.mp least
      split
      next none => exact .zero exponent_eq (zeroMantissa.mp none)
      next some =>
        have positive : 0 < b.toNat % 2 ^ 52 := Nat.pos_of_ne_zero (mt zeroMantissa.mpr some)
        convert Holds.least positive exponent_eq using 2
        · exact toNat_unpackMantissa b
        · rw [toNat_unpackExponent, exponent_eq]
          rfl
    next notLeast =>
      have exponentPositive : b.toNat / 2 ^ 52 % 2 ^ 11 ≠ 0 := mt zeroExponent.mpr notLeast
      have positive : 0 < 2 ^ 52 + b.toNat % 2 ^ 52 := by omega
      convert Holds.full (s := signOf b.toNat) positive (Nat.pos_of_ne_zero exponentPositive)
        (by omega) using 2
      · rw [toNat_one_append, toNat_unpackMantissa]
      · rw [toNat_unpackExponent]
        rfl

namespace Holds

variable {s : Sign} {e f : Nat} {x : UnpackedFloat}

theorem canonical (holds : Holds s e f x) (bound : f < 2 ^ 52) : Canonical x := by
  cases holds with
  | infinity => trivial
  | notANumber => trivial
  | zero => trivial
  | least positive => exact ⟨⟨by omega, by omega, .inr rfl⟩, by omega⟩
  | full positive lower upper => exact ⟨⟨by omega, by omega, .inl (by omega)⟩, by omega⟩

theorem place_eq (holds : Holds s e f x) (number : x ≠ .notANumber) :
    place x = s.apply (e * 2 ^ 52 + f) := by
  cases holds with
  | infinity exponent_eq fraction_eq =>
      subst exponent_eq fraction_eq
      rfl
  | notANumber => exact absurd rfl number
  | zero exponent_eq fraction_eq =>
      subst exponent_eq fraction_eq
      cases s <;> rfl
  | least positive exponent_eq =>
      subst exponent_eq
      apply congrArg s.apply
      omega
  | full positive lower upper =>
      apply congrArg s.apply
      push_cast
      ring

theorem finite_of_ne (holds : Holds s e f x) (notFull : e ≠ 2047) : Finite x := by
  cases holds with
  | infinity exponent_eq => exact absurd exponent_eq notFull
  | notANumber exponent_eq => exact absurd exponent_eq notFull
  | zero => trivial
  | least => trivial
  | full => trivial

end Holds

def unpacked (s : Score) : UnpackedFloat := unpack Format.binary64 s.bits.toBitVec

def IsNumber (s : Score) : Prop := s.unpacked ≠ .notANumber

/-- The place of a score in the numeric order. -/
def level (s : Score) : Int := place s.unpacked

theorem holds_unpacked (s : Score) :
    Holds (signOf s.bits.toNat) s.exponentField s.fraction s.unpacked :=
  holds_unpack s.bits.toBitVec

theorem canonical_unpacked (s : Score) : Canonical s.unpacked :=
  s.holds_unpacked.canonical (Nat.mod_lt _ (by decide))

theorem finite_unpacked {s : Score} (finite : s.isFinite = true) : Finite s.unpacked :=
  s.holds_unpacked.finite_of_ne (by simpa [isFinite] using finite)

theorem isNumber_of_isFinite {s : Score} (finite : s.isFinite = true) : s.IsNumber := by
  intro equality
  have contradiction := finite_unpacked finite
  rw [equality] at contradiction
  exact contradiction

theorem level_eq {s : Score} (number : s.IsNumber) :
    s.level = if s.isNegative then 0x8000000000000000 - (s.bits.toNat : Int) else s.bits.toNat := by
  have bound := s.bits.toNat_lt
  have fields := Nat.div_add_mod s.bits.toNat (2 ^ 52)
  have place_eq := s.holds_unpacked.place_eq number
  unfold level isNegative
  rw [place_eq]
  unfold signOf exponentField fraction
  by_cases negative : s.bits.toNat < 2 ^ 63
  · rw [if_pos negative, if_neg (by simp; omega)]
    simp only [Sign.apply]
    omega
  · rw [if_neg negative, if_pos (by simp; omega)]
    simp only [Sign.apply]
    omega

theorem level_le_of_order_le {a b : Score} (first : a.IsNumber) (second : b.IsNumber)
    (ordered : a.order ≤ b.order) : a.level ≤ b.level := by
  rw [level_eq first, level_eq second]
  unfold order isNegative at *
  have boundFirst := a.bits.toNat_lt
  have boundSecond := b.bits.toNat_lt
  split at ordered <;> split at ordered <;> simp_all <;> omega

theorem zeros_of_level_le {a b : Score} (first : a.IsNumber) (second : b.IsNumber)
    (level_le : a.level ≤ b.level) (after : b.order < a.order) : a = zero ∧ b = negZero := by
  rw [level_eq first, level_eq second] at level_le
  have boundFirst := a.bits.toNat_lt
  have boundSecond := b.bits.toNat_lt
  have patterns : a.bits.toNat = 0 ∧ b.bits.toNat = 0x8000000000000000 := by
    unfold order isNegative at after
    unfold isNegative at level_le
    split at after <;> split at after <;> simp_all <;> omega
  cases a
  cases b
  exact ⟨congrArg mk (UInt64.toNat_inj.mp patterns.1), congrArg mk (UInt64.toNat_inj.mp patterns.2)⟩

theorem unpack_toModel (s : Score) : s.toFloat.toModel.unpack = s.unpacked :=
  unpack_pack_of_canonical s.canonical_unpacked

theorem unpacked_add (a b : Score) : (a + b).unpacked = sum a.unpacked b.unpacked := by
  change (ofFloat (a.toFloat + b.toFloat)).unpacked = _
  change unpack _ (pack _ (add _ a.toFloat.toModel.unpack b.toFloat.toModel.unpack)) = _
  rw [unpack_toModel, unpack_toModel]
  rfl

theorem compare_toModel {a b : Score} (first : a.IsNumber) (second : b.IsNumber) :
    a.toFloat.toModel.unpack.compare b.toFloat.toModel.unpack =
      some (compare a.level b.level) := by
  rw [unpack_toModel, unpack_toModel]
  exact compare_eq_compare_place a.canonical_unpacked b.canonical_unpacked first second

theorem lt_iff_level_lt {a b : Score} (first : a.IsNumber) (second : b.IsNumber) :
    a < b ↔ a.level < b.level := by
  change decide (UnpackedFloat.lt _ _ = true) = true ↔ _
  rw [decide_eq_true_iff, UnpackedFloat.lt, compare_toModel first second]
  rw [← Std.compare_eq_lt]
  simp

theorem le_iff_level_le {a b : Score} (first : a.IsNumber) (second : b.IsNumber) :
    a ≤ b ↔ a.level ≤ b.level := by
  change decide (UnpackedFloat.le _ _ = true) = true ↔ _
  rw [decide_eq_true_iff, UnpackedFloat.le, compare_toModel first second]
  rw [← Std.isLE_compare]
  simp

/-- The total order is the numeric one, except that it has `-0.0` before `+0.0`. -/
theorem order_le_iff {a b : Score} (first : a.IsNumber) (second : b.IsNumber) :
    a.order ≤ b.order ↔ a ≤ b ∧ ¬ (a = zero ∧ b = negZero) := by
  rw [le_iff_level_le first second]
  constructor
  · intro ordered
    refine ⟨level_le_of_order_le first second ordered, ?_⟩
    rintro ⟨rfl, rfl⟩
    exact absurd ordered (by decide)
  · rintro ⟨level_le, apart⟩
    by_contra after
    exact apart (zeros_of_level_le first second level_le (Int.not_le.mp after))

theorem isNumber_add {a b : Score} (number : a.IsNumber) (finite : b.isFinite = true) :
    (a + b).IsNumber := by
  unfold IsNumber
  rw [unpacked_add]
  obtain firstFinite | ⟨s, infinite⟩ := finite_or_infinity number
  · exact unpack_pack_ne_notANumber (add_ne_notANumber firstFinite (finite_unpacked finite))
  · rw [infinite, sum_infinity s (finite_unpacked finite)]
    exact nofun

theorem level_add_mono {a b c d : Score} (first : a.IsNumber) (second : b.IsNumber)
    (firstFinite : c.isFinite = true) (secondFinite : d.isFinite = true)
    (left : a.level ≤ b.level) (right : c.level ≤ d.level) :
    (a + c).level ≤ (b + d).level := by
  unfold level
  rw [unpacked_add, unpacked_add]
  exact place_sum_mono a.canonical_unpacked b.canonical_unpacked c.canonical_unpacked
    d.canonical_unpacked first second (finite_unpacked firstFinite) (finite_unpacked secondFinite)
    left right

theorem isNumber_negZero : negZero.IsNumber :=
  isNumber_of_isFinite (by decide)

theorem isNumber_foldl_add {scores : List Score} {start : Score} (number : start.IsNumber)
    (finite : ∀ s ∈ scores, s.isFinite = true) : (scores.foldl (· + ·) start).IsNumber := by
  induction scores generalizing start with
  | nil => exact number
  | cons s rest induction =>
      apply induction (isNumber_add number (finite s (by simp)))
      intro other member
      exact finite other (by simp [member])

theorem isNumber_total {scores : List Score} (finite : ∀ s ∈ scores, s.isFinite = true) :
    (total scores).IsNumber :=
  isNumber_foldl_add isNumber_negZero finite

theorem level_foldl_add_mono {xs ys : List Score} {a b : Score}
    (pairwise : List.Forall₂ (fun x y => x.level ≤ y.level) xs ys)
    (first : a.IsNumber) (second : b.IsNumber) (start : a.level ≤ b.level)
    (firstFinite : ∀ s ∈ xs, s.isFinite = true) (secondFinite : ∀ s ∈ ys, s.isFinite = true) :
    (xs.foldl (· + ·) a).level ≤ (ys.foldl (· + ·) b).level := by
  induction pairwise generalizing a b with
  | nil => exact start
  | @cons x y xs ys ordered _ induction =>
      have xFinite := firstFinite x (by simp)
      have yFinite := secondFinite y (by simp)
      apply induction (isNumber_add first xFinite) (isNumber_add second yFinite)
        (level_add_mono first second xFinite yFinite start ordered)
      · intro s member
        exact firstFinite s (by simp [member])
      · intro s member
        exact secondFinite s (by simp [member])

theorem level_total_mono {xs ys : List Score}
    (pairwise : List.Forall₂ (fun x y => x.level ≤ y.level) xs ys)
    (firstFinite : ∀ s ∈ xs, s.isFinite = true) (secondFinite : ∀ s ∈ ys, s.isFinite = true) :
    (total xs).level ≤ (total ys).level :=
  level_foldl_add_mono pairwise isNumber_negZero isNumber_negZero (Int.le_refl _)
    firstFinite secondFinite

theorem isNumber_negInfinity : negInfinity.IsNumber := by
  unfold IsNumber unpacked
  exact nofun

theorem negInfinity_lt_of_isFinite {s : Score} (finite : s.isFinite = true) : negInfinity < s := by
  rw [lt_iff_level_lt isNumber_negInfinity (isNumber_of_isFinite finite)]
  exact (abs_place_lt_of_finite s.canonical_unpacked (finite_unpacked finite)).1

end ReplicaPlacement.Score
