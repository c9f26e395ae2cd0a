import Mathlib.Tactic.Ring

namespace ReplicaPlacement.Score

open Float.Model.UnpackedFloat

def nearestEven (n d : Nat) : Nat :=
  if 2 * (n % 2 ^ d) < 2 ^ d then n / 2 ^ d
  else if 2 * (n % 2 ^ d) = 2 ^ d then n / 2 ^ d + n / 2 ^ d % 2
  else n / 2 ^ d + 1

theorem div_le_nearestEven (n d : Nat) : n / 2 ^ d ≤ nearestEven n d := by
  unfold nearestEven
  split
  · exact Nat.le_refl _
  · split <;> omega

theorem nearestEven_le_div (n d : Nat) :
    nearestEven n d ≤ n / 2 ^ d + 1 := by
  unfold nearestEven
  split
  · omega
  · split <;> omega

@[simp] theorem nearestEven_zero (n : Nat) : nearestEven n 0 = n := by
  simp [nearestEven, Nat.mod_one]

theorem nearestEven_mono (d : Nat) {m n : Nat} (ordered : m ≤ n) :
    nearestEven m d ≤ nearestEven n d := by
  have quotients : m / 2 ^ d ≤ n / 2 ^ d := Nat.div_le_div_right ordered
  rcases Nat.lt_or_eq_of_le quotients with less | equal
  · calc
      nearestEven m d ≤ m / 2 ^ d + 1 := nearestEven_le_div m d
      _ ≤ n / 2 ^ d := less
      _ ≤ nearestEven n d := div_le_nearestEven n d
  · have first := Nat.div_add_mod m (2 ^ d)
    have second := Nat.div_add_mod n (2 ^ d)
    rw [equal] at first
    have remainders : m % 2 ^ d ≤ n % 2 ^ d := by omega
    unfold nearestEven
    rw [equal]
    split
    · exact div_le_nearestEven n d
    · split <;> split <;> (try split) <;> omega

theorem nearestEven_mul_two_pow (n d e : Nat) :
    nearestEven (n * 2 ^ e) (d + e) = nearestEven n d := by
  have positive : 0 < 2 ^ e := Nat.two_pow_pos e
  have quotient : n * 2 ^ e / 2 ^ (d + e) = n / 2 ^ d := by
    rw [Nat.pow_add, Nat.mul_div_mul_right _ _ positive]
  have remainder : n * 2 ^ e % 2 ^ (d + e) = n % 2 ^ d * 2 ^ e := by
    rw [Nat.pow_add, Nat.mul_mod_mul_right]
  have scaled : 2 * (n % 2 ^ d * 2 ^ e) = 2 * (n % 2 ^ d) * 2 ^ e := by ring
  unfold nearestEven
  rw [quotient, remainder, scaled, Nat.pow_add]
  simp only [Nat.mul_lt_mul_right positive, Nat.mul_left_inj positive.ne']

/-- `em` stands for `n / 2 ^ d`: what its mantissa and round bit leave over is `rest`, in halves of
`1 / 2 ^ d`, and the sticky bit tells whether that is anything. -/
structure Stands (em : ExtendedMantissa) (n d rest : Nat) : Prop where
  rest_lt : rest < 2 ^ d
  value_eq : 2 * n = (2 * em.mantissa + em.roundBit.toNat) * 2 ^ d + rest
  sticky_iff : em.stickyBit = true ↔ rest ≠ 0

theorem Stands.shiftRightOne {em : ExtendedMantissa} {n d rest : Nat}
    (stands : Stands em n d rest) :
    Stands em.shiftRightOne n (d + 1) (em.roundBit.toNat * 2 ^ d + rest) := by
  have restBound := stands.rest_lt
  have bitBound : em.roundBit.toNat ≤ 1 := Bool.toNat_le _
  have shiftedBit : (em.mantissa % 2 != 0).toNat = em.mantissa % 2 := by
    rcases Nat.mod_two_eq_zero_or_one em.mantissa with even | odd
    · simp [even]
    · simp [odd]
  refine ⟨?_, ?_, ?_⟩
  · have : em.roundBit.toNat * 2 ^ d ≤ 1 * 2 ^ d := Nat.mul_le_mul_right _ bitBound
    rw [Nat.pow_succ]
    omega
  · have halves := Nat.div_add_mod em.mantissa 2
    have doubled : 2 * (em.mantissa / 2) + em.mantissa % 2 = em.mantissa := halves
    simp only [ExtendedMantissa.shiftRightOne, shiftedBit, doubled]
    rw [stands.value_eq, Nat.pow_succ]
    ring
  · have sticky := stands.sticky_iff
    simp only [ExtendedMantissa.shiftRightOne, Bool.or_eq_true, sticky]
    cases em.roundBit <;> simp

theorem exists_stands_shiftRight (n d : Nat) :
    ∃ rest, Stands
      (ExtendedMantissa.ofMantissaAndAccuracy n .exact >>> d) n d rest := by
  induction d with
  | zero =>
      refine ⟨0, ⟨by simp, ?_, ?_⟩⟩
      · change 2 * n = (2 * n + 0) * 2 ^ 0 + 0
        omega
      · change false = true ↔ _
        simp
  | succ d induction =>
      obtain ⟨rest, stands⟩ := induction
      exact ⟨_, stands.shiftRightOne⟩

theorem Stands.roundedMantissa_eq {em : ExtendedMantissa} {n d rest : Nat}
    (stands : Stands em n d rest) : em.roundedMantissa = nearestEven n d := by
  obtain ⟨mantissa, roundBit, stickyBit⟩ := em
  obtain ⟨restBound, value, sticky⟩ := stands
  have positive : 0 < 2 ^ d := Nat.two_pow_pos d
  have split_eq : 2 * n = 2 * (mantissa * 2 ^ d) + (roundBit.toNat * 2 ^ d + rest) := by
    rw [value]
    ring
  have bitBound : roundBit.toNat * 2 ^ d ≤ 1 * 2 ^ d :=
    Nat.mul_le_mul_right _ (Bool.toNat_le _)
  have below : n < (mantissa + 1) * 2 ^ d := by
    rw [Nat.add_mul]
    omega
  have quotient : n / 2 ^ d = mantissa :=
    Nat.div_eq_of_lt_le (by omega) below
  have remainder : 2 * (n % 2 ^ d) = roundBit.toNat * 2 ^ d + rest := by
    have division := Nat.div_add_mod n (2 ^ d)
    rw [quotient, Nat.mul_comm] at division
    omega
  unfold nearestEven
  rw [quotient, remainder]
  cases roundBit <;> cases stickyBit <;>
    simp_all [ExtendedMantissa.roundedMantissa, ExtendedMantissa.accuracy,
      Accuracy.roundToNearestEven]

theorem roundedMantissa_shiftRight (n d : Nat) :
    (ExtendedMantissa.ofMantissaAndAccuracy n .exact >>> d).roundedMantissa =
      nearestEven n d := by
  obtain ⟨rest, stands⟩ := exists_stands_shiftRight n d
  exact stands.roundedMantissa_eq

end ReplicaPlacement.Score
