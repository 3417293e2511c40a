import Mathlib.Tactic.NormNum
import Mathlib.Tactic.Ring
import VoxelGI.Numeric.Decimal

/-! From a single to decimals and back. The magnitude nearest to a decimal depends on the number it
stands for alone, not on how many zeros it is written with; the exact decimal of a magnitude leads
back to it, and so does the shortest one, which is chosen for that. -/
namespace VoxelGI

namespace Single

@[simp] theorem ofMagnitude_magnitude (x : Single) :
    ofMagnitude x.negative x.magnitude = x := by
  obtain ⟨bits⟩ := x
  have small : bits.toNat < 2 ^ 32 := bits.toNat_lt
  have whole : (if negative ⟨bits⟩ then Nat.pow 2 31 else 0) + magnitude ⟨bits⟩ = bits.toNat := by
    simp only [negative, magnitude, decide_eq_true_eq, Nat.pow_eq]
    split <;> omega
  rw [ofMagnitude, whole, UInt32.ofNat_toNat]

theorem roundToEven_mul (num den : Nat) {k : Nat} (pos : 0 < k) :
    roundToEven (num * k) (den * k) = roundToEven num den := by
  have further : den * k < 2 * (num % den * k) ↔ den < 2 * (num % den) := by
    rw [← Nat.mul_assoc, Nat.mul_lt_mul_right pos]
  have halfway : 2 * (num % den * k) = den * k ↔ 2 * (num % den) = den := by
    rw [← Nat.mul_assoc, Nat.mul_left_inj pos.ne']
  simp only [roundToEven, Nat.mul_div_mul_right _ _ pos, Nat.mul_mod_mul_right, further, halfway]

theorem nearest_mul (num den : Nat) {k : Nat} (pos : 0 < k) :
    nearest (num * k) (den * k) = nearest num den := by
  simp only [nearest, Nat.mul_div_mul_right _ _ pos, Nat.mul_right_comm den k,
    roundToEven_mul _ _ pos]

theorem roundToEven_exact (n : Nat) {den : Nat} (pos : 0 < den) :
    roundToEven (n * den) den = n := by
  simp only [roundToEven, Nat.mul_div_cancel _ pos, Nat.mul_mod_left]
  rw [if_neg]
  omega

theorem quanta_small {m : Nat} (small : m < 2 ^ 23) : quanta m = m := if_pos small

theorem quanta_large {m : Nat} (large : 2 ^ 23 ≤ m) :
    quanta m = (2 ^ 23 + m % 2 ^ 23) * 2 ^ (m / 2 ^ 23 - 1) := if_neg (Nat.not_lt.mpr large)

theorem quanta_lt {m : Nat} (finite : m < infiniteMagnitude) :
    quanta m < 2 ^ 24 * 2 ^ 253 := by
  have unit : m % 2 ^ 23 < 2 ^ 23 := Nat.mod_lt _ (Nat.two_pow_pos 23)
  by_cases small : m < 2 ^ 23
  · rw [quanta_small small]
    exact small.trans (by norm_num)
  · rw [quanta_large (Nat.not_lt.mp small)]
    have top : m / 2 ^ 23 - 1 ≤ 253 := by
      simp only [infiniteMagnitude] at finite
      omega
    exact Nat.mul_lt_mul_of_lt_of_le (by omega) (Nat.pow_le_pow_right (by decide) top)
      (Nat.two_pow_pos _)

theorem quanta_pos {m : Nat} (pos : 0 < m) : 0 < quanta m := by
  by_cases small : m < 2 ^ 23
  · rwa [quanta_small small]
  · rw [quanta_large (Nat.not_lt.mp small)]
    positivity

theorem log2_significand {a : Nat} (low : 2 ^ 23 ≤ a) (high : a < 2 ^ 24) (e : Nat) :
    (a * 2 ^ e).log2 = 23 + e := by
  have some_bit : a * 2 ^ e ≠ 0 := by positivity
  rw [Nat.log2_eq_iff some_bit]
  constructor
  · rw [Nat.pow_add]
    exact Nat.mul_le_mul_right _ low
  · rw [Nat.add_right_comm, Nat.pow_add]
    exact Nat.mul_lt_mul_of_pos_right high (Nat.two_pow_pos e)

theorem nearest_quanta {m den : Nat} (finite : m < infiniteMagnitude) (pos : 0 < den) :
    nearest (quanta m * den) den = m := by
  have capped : min m infiniteMagnitude = m := Nat.min_eq_left finite.le
  rw [nearest, Nat.mul_div_cancel _ pos]
  -- Small magnitudes count quanta; the others are 24 significant bits and how far they are shifted.
  by_cases small : m < 2 ^ 23
  · have unshifted : m.log2 - 23 = 0 := by
      rcases Nat.eq_zero_or_pos m with rfl | some_bit
      · rfl
      · exact Nat.sub_eq_zero_of_le ((Nat.log2_lt some_bit.ne').mpr small).le
    rw [quanta_small small, unshifted, Nat.zero_mul, Nat.zero_add, Nat.pow_eq, Nat.pow_zero,
      Nat.mul_one, roundToEven_exact m pos, capped]
  · have large : 2 ^ 23 ≤ m := Nat.not_lt.mp small
    have unit : m % 2 ^ 23 < 2 ^ 23 := Nat.mod_lt _ (Nat.two_pow_pos 23)
    have shift : (quanta m).log2 - 23 = m / 2 ^ 23 - 1 := by
      rw [quanta_large large, log2_significand (by omega) (by omega)]
      omega
    have scaled : quanta m * den =
        (2 ^ 23 + m % 2 ^ 23) * (den * 2 ^ (m / 2 ^ 23 - 1)) := by
      rw [quanta_large large]
      ring
    have whole : (m / 2 ^ 23 - 1) * 2 ^ 23 + (2 ^ 23 + m % 2 ^ 23) = m := by
      have split := Nat.div_add_mod m (2 ^ 23)
      have some_unit : 1 ≤ m / 2 ^ 23 := (Nat.one_le_div_iff (Nat.two_pow_pos 23)).mpr large
      omega
    rw [shift, scaled, Nat.pow_eq, Nat.pow_eq, roundToEven_exact _ (Nat.mul_pos pos (Nat.two_pow_pos _)), whole, capped]

end Single

namespace Decimal

def finer (d : Decimal) (zeros : Nat) : Decimal :=
  ⟨d.coefficient * 10 ^ zeros, d.exponent - zeros⟩

theorem digits_mul_pow {n : Nat} (pos : 0 < n) (zeros : Nat) :
    digits (n * 10 ^ zeros) = digits n ++ List.replicate zeros '0' := by
  induction zeros with
  | zero => simp
  | succ k ih =>
    have appended := Nat.toDigits_append_toDigits (b := 10) (n := n * 10 ^ k) (d := 0)
      (by decide) (by positivity) (by decide)
    rw [Nat.add_zero, Nat.toDigits_zero] at appended
    rw [List.replicate_succ', ← List.append_assoc, ← ih, digits, digits, appended]
    congr 1
    ring

theorem point_finer {d : Decimal} (pos : 0 < d.coefficient) (zeros : Nat) :
    (d.finer zeros).point = d.point := by
  simp only [point, finer, digits_mul_pow pos, List.length_append, List.length_replicate]
  omega

theorem magnitude_eq (d : Decimal) :
    d.magnitude = if d.coefficient = 0 ∨ d.point < -60 then 0
      else if 40 < d.point then Single.infiniteMagnitude
      else Single.nearest (d.coefficient * 10 ^ d.exponent.toNat * 2 ^ 149)
        (10 ^ (-d.exponent).toNat) := by
  unfold magnitude
  split
  · rfl
  · split
    · rfl
    · by_cases up : 0 ≤ d.exponent
      · rw [if_pos up, show (-d.exponent).toNat = 0 by omega]
        rfl
      · rw [if_neg up, show d.exponent.toNat = 0 by omega, Nat.pow_zero, Nat.mul_one]
        rfl

theorem nearest_powers (c up down up' down' : Nat) (same : up + down' = up' + down) :
    Single.nearest (c * 10 ^ up * 2 ^ 149) (10 ^ down)
      = Single.nearest (c * 10 ^ up' * 2 ^ 149) (10 ^ down') := by
  have ten (n : Nat) : 0 < 10 ^ n := Nat.pow_pos (by decide)
  have numerators : c * 10 ^ up * 2 ^ 149 * 10 ^ down' = c * 10 ^ up' * 2 ^ 149 * 10 ^ down :=
    calc c * 10 ^ up * 2 ^ 149 * 10 ^ down'
      _ = c * 10 ^ (up + down') * 2 ^ 149 := by ring
      _ = c * 10 ^ up' * 2 ^ 149 * 10 ^ down := by rw [same]; ring
  rw [← Single.nearest_mul _ _ (ten down'), numerators, Nat.mul_comm (10 ^ down),
    Single.nearest_mul _ _ (ten down)]

theorem magnitude_finer (d : Decimal) (zeros : Nat) : (d.finer zeros).magnitude = d.magnitude := by
  rcases Nat.eq_zero_or_pos d.coefficient with vanishing | pos
  · simp [magnitude, finer, vanishing]
  have same_zero : (d.finer zeros).coefficient = 0 ↔ d.coefficient = 0 := by
    simp [finer]
  have same_quotient := nearest_powers d.coefficient
    (zeros + (d.finer zeros).exponent.toNat) (-(d.finer zeros).exponent).toNat
    d.exponent.toNat (-d.exponent).toNat (by simp only [finer]; omega)
  rw [Nat.pow_add, ← Nat.mul_assoc] at same_quotient
  simp only [magnitude_eq, point_finer pos, same_zero]
  rw [show (d.finer zeros).coefficient = d.coefficient * 10 ^ zeros from rfl, same_quotient]

theorem magnitude_exact {m : Nat} (finite : m < Single.infiniteMagnitude) :
    (exact m).magnitude = m := by
  rcases Nat.eq_zero_or_pos m with rfl | pos
  · rfl
  have coefficient : (exact m).coefficient = Single.quanta m * 5 ^ 149 := rfl
  have some_quantum := Single.quanta_pos pos
  -- The leading digit stands well between the two cuts.
  have low : ¬ (exact m).point < -60 := by
    have long : ¬ (digits (exact m).coefficient).length ≤ 88 := by
      rw [digits, Nat.length_toDigits_le_iff (by decide) (by decide), coefficient, Nat.not_lt]
      calc 10 ^ 88 ≤ 1 * 5 ^ 149 := by norm_num
        _ ≤ Single.quanta m * 5 ^ 149 := Nat.mul_le_mul_right _ some_quantum
    simp only [point, exact] at long ⊢
    omega
  have high : ¬ 40 < (exact m).point := by
    have short : (digits (exact m).coefficient).length ≤ 189 := by
      rw [digits, Nat.length_toDigits_le_iff (by decide) (by decide), coefficient]
      calc Single.quanta m * 5 ^ 149 < 2 ^ 24 * 2 ^ 253 * 5 ^ 149 :=
            Nat.mul_lt_mul_of_pos_right (Single.quanta_lt finite) (by norm_num)
        _ ≤ 10 ^ 189 := by norm_num
    simp only [point, exact] at short ⊢
    omega
  have quotient : Single.quanta m * 5 ^ 149 * 10 ^ 0 * 2 ^ 149
      = Single.quanta m * 10 ^ 149 := by
    rw [Nat.pow_zero, Nat.mul_one, Nat.mul_assoc, ← Nat.mul_pow]
  rw [magnitude_eq, coefficient, if_neg, if_neg high]
  · exact (congrArg (Single.nearest · _) quotient).trans
      (Single.nearest_quanta finite (Nat.pow_pos (by decide)))
  · rw [not_or]
    exact ⟨(Nat.mul_pos some_quantum (Nat.pow_pos (by decide))).ne', low⟩

/-- The shortest decimal of a magnitude leads back to it. -/
theorem magnitude_shortest {m : Nat} (finite : m < Single.infiniteMagnitude) :
    (shortest m).magnitude = m := by
  simp only [shortest]
  cases found : List.find? (fun d => d.magnitude == m)
      ((List.range' 1 9).flatMap (exact m).neighbours) with
  | none => exact magnitude_exact finite
  | some d =>
    have leads_back := List.find?_some found
    exact beq_iff_eq.mp leads_back

theorem shortest_pos {m : Nat} (pos : 0 < m) (finite : m < Single.infiniteMagnitude) :
    0 < (shortest m).coefficient := by
  rw [Nat.pos_iff_ne_zero]
  intro vanishing
  have back := magnitude_shortest finite
  rw [magnitude, if_pos (.inl vanishing)] at back
  omega

end Decimal

end VoxelGI
