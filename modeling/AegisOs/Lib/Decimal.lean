/-
# `AegisOs.Lib.Decimal` — decimal arithmetic in a 28-digit context

A finite decimal is carried by the rational number it denotes.  What the
context adds to rational arithmetic is one rounding after every operation:
the exact result is cut to 28 significant digits, a tie going to the even
last digit.  Construction from text and comparison are exact, so they need
no definition of their own here.

`fix` is the rounding, `Fits` says that a value has at most 28 significant
digits, and `fix_eq_self` is the only fact a client needs: a value that fits
is left alone.  `add`, `mul` and `div` are then the exact operations wherever
the exact result fits.
-/
import Mathlib.Data.Int.Log
import Mathlib.Data.Rat.Floor
import Mathlib.Algebra.Order.Floor.Ring
import Mathlib.Tactic.Linarith
import Mathlib.Tactic.Ring
import Mathlib.Tactic.FieldSimp
import Mathlib.Tactic.NormNum

namespace AegisOs.Lib.Decimal

/-- The number of significant digits a result keeps. -/
def prec : ℕ := 28

/-- Nearest integer, ties to the even neighbour. -/
def roundHalfEven (x : ℚ) : ℤ :=
  if x - ⌊x⌋ < 1 / 2 then ⌊x⌋
  else if 1 / 2 < x - ⌊x⌋ then ⌊x⌋ + 1
  else if ⌊x⌋ % 2 = 0 then ⌊x⌋ else ⌊x⌋ + 1

/-- The exponent of the last digit kept of `x`. -/
def quantum (x : ℚ) : ℤ := Int.log 10 |x| + 1 - prec

/-- The rounding every operation ends with. -/
def fix (x : ℚ) : ℚ :=
  if x = 0 then 0 else roundHalfEven (x / 10 ^ quantum x) * 10 ^ quantum x

/-- Sum, rounded. -/
def add (a b : ℚ) : ℚ := fix (a + b)

/-- Product, rounded. -/
def mul (a b : ℚ) : ℚ := fix (a * b)

/-- Quotient, rounded. -/
def div (a b : ℚ) : ℚ := fix (a / b)

/-- `x` is a coefficient of at most 28 digits times a power of ten. -/
def Fits (x : ℚ) : Prop := ∃ c e : ℤ, |c| < 10 ^ prec ∧ x = c * 10 ^ e

/-! ## A value that fits is left alone -/

@[simp] theorem fix_zero : fix 0 = 0 := by simp [fix]

theorem roundHalfEven_intCast (n : ℤ) : roundHalfEven (n : ℚ) = n := by
  simp [roundHalfEven]

/-- All of a fitting value's digits lie at or above its quantum. -/
theorem Fits.quantum_le {c e : ℤ} (hc : |c| < 10 ^ prec) (h0 : ((c : ℚ) * 10 ^ e) ≠ 0) :
    quantum ((c : ℚ) * 10 ^ e) ≤ e := by
  by_contra hlt
  have hpos : 0 < |(c : ℚ) * 10 ^ e| := abs_pos.mpr h0
  have hlog : (10 : ℚ) ^ Int.log 10 |(c : ℚ) * 10 ^ e| ≤ |(c : ℚ) * 10 ^ e| := by
    simpa using Int.zpow_log_le_self (b := 10) (by norm_num) hpos
  have hexp : (prec : ℤ) + e ≤ Int.log 10 |(c : ℚ) * 10 ^ e| := by
    unfold quantum at hlt
    omega
  have hcq : |(c : ℚ)| < (10 : ℚ) ^ prec := by exact_mod_cast hc
  have hup : |(c : ℚ) * 10 ^ e| < (10 : ℚ) ^ ((prec : ℤ) + e) := by
    rw [abs_mul, abs_of_pos (zpow_pos (by norm_num : (0 : ℚ) < 10) e),
      zpow_add₀ (by norm_num : (10 : ℚ) ≠ 0), zpow_natCast]
    exact mul_lt_mul_of_pos_right hcq (zpow_pos (by norm_num) e)
  have hmono : (10 : ℚ) ^ ((prec : ℤ) + e) ≤ 10 ^ Int.log 10 |(c : ℚ) * 10 ^ e| :=
    zpow_le_zpow_right₀ (by norm_num) hexp
  linarith

theorem fix_eq_self {x : ℚ} (h : Fits x) : fix x = x := by
  obtain ⟨c, e, hc, rfl⟩ := h
  by_cases h0 : (c : ℚ) * 10 ^ e = 0
  · rw [h0, fix_zero]
  · have hq := Fits.quantum_le hc h0
    obtain ⟨n, hn⟩ := Int.eq_ofNat_of_zero_le (sub_nonneg.mpr hq)
    have hdiv : (c : ℚ) * 10 ^ e / 10 ^ quantum ((c : ℚ) * 10 ^ e) = ((c * 10 ^ n : ℤ) : ℚ) := by
      rw [mul_div_assoc, ← zpow_sub₀ (by norm_num : (10 : ℚ) ≠ 0), hn]
      push_cast
      rfl
    have hten : (10 : ℚ) ^ quantum ((c : ℚ) * 10 ^ e) ≠ 0 := zpow_ne_zero _ (by norm_num)
    simp only [fix, if_neg h0]
    rw [hdiv, roundHalfEven_intCast, ← hdiv, div_mul_cancel₀ _ hten]

theorem add_eq {a b : ℚ} (h : Fits (a + b)) : add a b = a + b := fix_eq_self h

theorem mul_eq {a b : ℚ} (h : Fits (a * b)) : mul a b = a * b := fix_eq_self h

theorem div_eq {a b : ℚ} (h : Fits (a / b)) : div a b = a / b := fix_eq_self h

/-- An integer of at most 28 digits fits. -/
theorem fits_intCast {n : ℤ} (h : |n| < 10 ^ prec) : Fits (n : ℚ) := ⟨n, 0, h, by simp⟩

/-! ## A result keeps its sign -/

theorem floor_le_roundHalfEven (x : ℚ) : ⌊x⌋ ≤ roundHalfEven x := by
  unfold roundHalfEven
  split_ifs <;> omega

theorem roundHalfEven_le (x : ℚ) : roundHalfEven x ≤ ⌊x⌋ + 1 := by
  unfold roundHalfEven
  split_ifs <;> omega

/-- A rounded value keeps 28 digits, so it is not rounded to 0. -/
theorem one_le_scaled {x : ℚ} (h : 0 < x) : 1 ≤ x / 10 ^ quantum x := by
  have hten : (0 : ℚ) < 10 ^ quantum x := zpow_pos (by norm_num) _
  rw [le_div_iff₀ hten, one_mul]
  have hlog : (10 : ℚ) ^ Int.log 10 |x| ≤ |x| := by
    simpa using Int.zpow_log_le_self (b := 10) (by norm_num) (abs_pos.mpr h.ne')
  rw [abs_of_pos h] at hlog
  have hquantum : quantum x ≤ Int.log 10 x := by
    rw [quantum, abs_of_pos h, prec]
    omega
  exact (zpow_le_zpow_right₀ (by norm_num) hquantum).trans hlog

theorem fix_pos_iff {x : ℚ} : 0 < fix x ↔ 0 < x := by
  have hten : (0 : ℚ) < 10 ^ quantum x := zpow_pos (by norm_num) _
  constructor
  · intro hfix
    by_contra hneg
    rw [not_lt] at hneg
    rcases hneg.eq_or_lt with rfl | hneg
    · simp at hfix
    · have hfloor : ⌊x / 10 ^ quantum x⌋ + 1 ≤ 0 := by
        rw [Int.add_one_le_iff, Int.floor_lt]
        simpa using div_neg_of_neg_of_pos hneg hten
      have hround : ((roundHalfEven (x / 10 ^ quantum x) : ℤ) : ℚ) ≤ 0 := by
        exact_mod_cast (roundHalfEven_le _).trans hfloor
      rw [fix, if_neg hneg.ne] at hfix
      exact absurd hfix (not_lt.mpr (mul_nonpos_of_nonpos_of_nonneg hround hten.le))
  · intro hpos
    have hround : 1 ≤ roundHalfEven (x / 10 ^ quantum x) :=
      (Int.le_floor.mpr (by simpa using one_le_scaled hpos)).trans (floor_le_roundHalfEven _)
    rw [fix, if_neg hpos.ne']
    exact mul_pos (by exact_mod_cast hround) hten

end AegisOs.Lib.Decimal
