import Mathlib.Algebra.Order.Ring.Rat
import Mathlib.Tactic.Linarith
import BifrostApi.Py.Number

/-!
# Rounding to the nearest integer

`roundHalfEven` is at most a half away from its argument (`abs_sub_roundHalfEven`), and an integer closer than
a half is the one it gives (`roundHalfEven_of_near`). Which of two integers a tie goes to is left open; rounding
is monotone whatever it is (`roundRat_mono`). `ofInt` is `float(n)` with the rounding to 53 bits.
-/

namespace Py.Number

theorem abs_sub_roundHalfEven (q : ℚ) : |q - roundHalfEven q| ≤ 1 / 2 := by
  have hlow := Rat.floor_le q
  have hhigh := Rat.lt_floor_add_one q
  rw [Int.cast_add, Int.cast_one] at hhigh
  rw [abs_le, roundHalfEven]
  split
  · exact ⟨by linarith, by linarith⟩
  · split
    · rw [Int.cast_add, Int.cast_one]
      exact ⟨by linarith, by linarith⟩
    · split
      · exact ⟨by linarith, by linarith⟩
      · rw [Int.cast_add, Int.cast_one]
        exact ⟨by linarith, by linarith⟩

theorem roundHalfEven_of_near {q : ℚ} {n : Int} (h : |q - n| < 1 / 2) : roundHalfEven q = n := by
  have hround := abs_sub_roundHalfEven q
  rw [abs_le] at hround
  rw [abs_lt] at h
  -- two integers that are less than one apart
  have hlow : roundHalfEven q < n + 1 := by
    have : (roundHalfEven q : ℚ) < ((n + 1 : Int) : ℚ) := by
      rw [Int.cast_add, Int.cast_one]
      linarith [hround.1, h.2]
    exact Int.cast_lt.1 this
  have hhigh : n < roundHalfEven q + 1 := by
    have : (n : ℚ) < ((roundHalfEven q + 1 : Int) : ℚ) := by
      rw [Int.cast_add, Int.cast_one]
      linarith [hround.2, h.1]
    exact Int.cast_lt.1 this
  omega

theorem roundHalfEven_mono {q r : ℚ} (h : q ≤ r) : roundHalfEven q ≤ roundHalfEven r := by
  by_contra hlt
  have hq := abs_sub_roundHalfEven q
  have hr := abs_sub_roundHalfEven r
  rw [abs_le] at hq hr
  have hstep : (roundHalfEven r : ℚ) + 1 ≤ roundHalfEven q := by
    have : ((roundHalfEven r + 1 : Int) : ℚ) ≤ (roundHalfEven q : ℚ) := Int.cast_le.2 (by omega)
    rwa [Int.cast_add, Int.cast_one] at this
  -- the two are then half away from the same number
  have heq : q = r := le_antisymm h (by linarith [hq.1, hr.2])
  rw [heq] at hstep
  linarith

theorem roundRat_mono {digits : Nat} {q r : ℚ} (h : q ≤ r) : roundRat digits q ≤ roundRat digits r := by
  have hpow : (0 : ℚ) < 10 ^ digits := by positivity
  have hround : roundHalfEven (q * 10 ^ digits) ≤ roundHalfEven (r * 10 ^ digits) :=
    roundHalfEven_mono (mul_le_mul_of_nonneg_right h hpow.le)
  exact div_le_div_of_nonneg_right (Int.cast_le.2 hround) hpow.le

/-! ## Integers as floats -/

/-- `float(n)` of an integer in the range of a float: a multiple of the last of 53 bits. -/
def ofInt (n : Int) : Number :=
  let ulp : ℚ := 2 ^ (n.natAbs.log2 - 52)
  .fin (roundHalfEven (n / ulp) * ulp)

/-- An integer of at most 53 bits is a float. -/
theorem ofInt_of_lt {n : Int} (h : n.natAbs < 2 ^ 53) : ofInt n = .fin n := by
  have hlog : n.natAbs.log2 - 52 = 0 := by
    rcases Nat.eq_zero_or_pos n.natAbs with hzero | hpos
    · rw [hzero]
      rfl
    · have := (Nat.log2_lt (Nat.ne_of_gt hpos)).2 h
      omega
  have hround : roundHalfEven (n : ℚ) = n := roundHalfEven_of_near (by rw [sub_self, abs_zero]; norm_num)
  rw [ofInt]
  simp only [hlog, pow_zero, div_one, mul_one, hround]

end Py.Number
