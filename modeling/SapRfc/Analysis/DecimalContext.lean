import Mathlib.Algebra.Order.Field.Rat
import Mathlib.Tactic.FieldSimp
import Mathlib.Tactic.Positivity
import SapRfc.Analysis.DecimalDigits

/-!
# The decimal context

What `fix` makes of the value of a number: the coefficient is rounded to `PREC` digits, and stays
as it is where it has no more significant digits than that.
-/

set_option autoImplicit false

namespace SapRfc.Analysis.DecimalContext

open SapRfc.Library SapRfc.Program SapRfc.Program.PyDecimal
open SapRfc.Analysis.DecimalDigits

/-! ## Values -/

/-- A magnitude with a sign. -/
def signed (sign : Bool) (q : ℚ) : ℚ := if sign then -q else q

/-- The value of a number. -/
def Spells (value : PyDecimal) (q : ℚ) : Prop :=
  ∃ sign coeff exp, value = .finite sign coeff exp ∧ signed sign (coeff * 10 ^ exp) = q

@[simp] theorem abs_signed (sign : Bool) (q : ℚ) : |signed sign q| = |q| := by
  cases sign
  · rfl
  · exact abs_neg q

/-! ## Half to even -/

theorem round_half_even_of_dvd {n d : ℕ} (hd : 0 < d) (h : d ∣ n) :
    round_half_even n d = n / d := by
  unfold round_half_even
  rw [Nat.mod_eq_zero_of_dvd h, if_pos (Or.inl (by omega))]

theorem round_half_even_mul (n d : ℕ) {m : ℕ} (hm : 0 < m) :
    round_half_even (n * m) (d * m) = round_half_even n d := by
  unfold round_half_even
  have hmod : n * m % (d * m) = n % d * m := Nat.mul_mod_mul_right m n d
  have hdiv : n * m / (d * m) = n / d := Nat.mul_div_mul_right n d hm
  have hlt : 2 * (n % d * m) < d * m ↔ 2 * (n % d) < d := by
    rw [← Nat.mul_assoc]
    exact Nat.mul_lt_mul_right hm
  have heq : 2 * (n % d * m) = d * m ↔ 2 * (n % d) = d := by
    rw [← Nat.mul_assoc]
    exact Nat.mul_left_inj hm.ne'
  rw [hmod, hdiv]
  simp only [hlt, heq]

theorem le_round_half_even (n d : ℕ) : n / d ≤ round_half_even n d := by
  unfold round_half_even
  split <;> omega

theorem round_half_even_le (n d : ℕ) : round_half_even n d ≤ n / d + 1 := by
  unfold round_half_even
  split <;> omega

/-! ## Significant digits -/

/-- The digits of a coefficient that do not fit, as a power. -/
def excess (coeff : ℕ) : ℕ := 10 ^ ((decimal_digits coeff).length - PREC)

/-- A coefficient, rounded to `PREC` digits. -/
def rounded (coeff : ℕ) : ℕ := round_half_even coeff (excess coeff) * excess coeff

theorem excess_pos (coeff : ℕ) : 0 < excess coeff := Nat.pow_pos (by omega)

theorem length_mul_pow {coeff : ℕ} (k : ℕ) (h : 0 < coeff) :
    (decimal_digits (coeff * 10 ^ k)).length = (decimal_digits coeff).length + k := by
  have hpos : 0 < coeff * 10 ^ k := Nat.mul_pos h (Nat.pow_pos (by omega))
  unfold decimal_digits
  rw [if_neg hpos.ne', if_neg h.ne', Nat.mul_comm, Nat.digits_base_pow_mul (by omega) h]
  simp only [List.length_reverse, List.length_append, List.length_replicate]
  omega

/-- A coefficient has its leading digit. -/
theorem pow_le_of_pos {coeff : ℕ} (h : 0 < coeff) :
    10 ^ ((decimal_digits coeff).length - 1) ≤ coeff := by
  by_cases hone : (decimal_digits coeff).length = 1
  · rw [hone]
    exact h
  · have hpos := decimal_digits_length_pos coeff
    by_contra hlt
    have hle := (decimal_digits_length_le_iff (by omega) coeff).mpr (not_le.mp hlt)
    omega

theorem lt_pow_length (coeff : ℕ) : coeff < 10 ^ (decimal_digits coeff).length :=
  (decimal_digits_length_le_iff (decimal_digits_length_pos coeff) coeff).mp le_rfl

/-- A coefficient that fits is not rounded. -/
theorem rounded_of_fits {coeff : ℕ} (h : coeff < 10 ^ PREC) : rounded coeff = coeff := by
  have hlength := (decimal_digits_length_le_iff (k := PREC) (by decide) coeff).mpr h
  have hexcess : excess coeff = 1 := by
    unfold excess
    rw [Nat.sub_eq_zero_of_le hlength, pow_zero]
  unfold rounded
  rw [hexcess, round_half_even_of_dvd Nat.one_pos (one_dvd _), Nat.div_one, Nat.mul_one]

/-- Zeros at the end do not change how a coefficient is rounded. -/
theorem rounded_mul_pow {coeff : ℕ} (k : ℕ) (h : 0 < coeff) :
    rounded (coeff * 10 ^ k) = rounded coeff * 10 ^ k := by
  have hten : ∀ n, 0 < 10 ^ n := fun n => Nat.pow_pos (by omega)
  have hlength := length_mul_pow k h
  by_cases hfits : (decimal_digits coeff).length ≤ PREC
  · have hrounded := rounded_of_fits ((decimal_digits_length_le_iff (by decide) coeff).mp hfits)
    have hdvd : excess (coeff * 10 ^ k) ∣ coeff * 10 ^ k := by
      unfold excess
      rw [hlength]
      exact Dvd.dvd.mul_left (Nat.pow_dvd_pow 10 (by omega)) coeff
    rw [hrounded]
    unfold rounded
    rw [round_half_even_of_dvd (excess_pos _) hdvd, Nat.div_mul_cancel hdvd]
  · have hexcess : excess (coeff * 10 ^ k) = excess coeff * 10 ^ k := by
      unfold excess
      rw [hlength, ← pow_add]
      congr 1
      omega
    unfold rounded
    rw [hexcess, round_half_even_mul _ _ (hten k), Nat.mul_assoc]

/-- INTERNAL: a rounded coefficient fits, or its digits were all nines. -/
theorem rounded_digits (coeff : ℕ) :
    round_half_even coeff (excess coeff) < 10 ^ PREC ∨
      round_half_even coeff (excess coeff) = 10 ^ PREC := by
  have hdiv : coeff / excess coeff < 10 ^ PREC := by
    apply (Nat.div_lt_iff_lt_mul (excess_pos coeff)).mpr
    unfold excess
    rw [← pow_add]
    exact (lt_pow_length coeff).trans_le (Nat.pow_le_pow_right (by omega) (by omega))
  have hle := round_half_even_le coeff (excess coeff)
  omega

/-- INTERNAL: a rounded coefficient has at most `PREC` significant digits. -/
theorem rounded_significant (coeff : ℕ) : ∃ m j, rounded coeff = m * 10 ^ j ∧ m < 10 ^ PREC := by
  rcases rounded_digits coeff with hlt | heq
  · exact ⟨_, _, rfl, hlt⟩
  · refine ⟨1, PREC + ((decimal_digits coeff).length - PREC), ?_, by decide⟩
    unfold rounded
    rw [heq, Nat.one_mul, pow_add]
    rfl

/-- The coefficients that rounding keeps are those with at most `PREC` significant digits. -/
theorem rounded_eq_iff (coeff : ℕ) :
    rounded coeff = coeff ↔ ∃ m j, coeff = m * 10 ^ j ∧ m < 10 ^ PREC := by
  constructor
  · intro h
    have hsignificant := rounded_significant coeff
    rwa [h] at hsignificant
  · rintro ⟨m, j, rfl, hm⟩
    by_cases hzero : m = 0
    · subst hzero
      rw [Nat.zero_mul]
      exact rounded_of_fits (by decide)
    · rw [rounded_mul_pow j (Nat.pos_of_ne_zero hzero), rounded_of_fits hm]

/-- What is rounded already stays as it is. -/
theorem rounded_rounded (coeff : ℕ) : rounded (rounded coeff) = rounded coeff := by
  exact (rounded_eq_iff _).mpr (rounded_significant coeff)

/-- Rounding keeps the number of digits, or makes it larger. -/
theorem pow_le_rounded {coeff k : ℕ} (h : 10 ^ k ≤ coeff) : 10 ^ k ≤ rounded coeff := by
  have hpos : 0 < coeff := (Nat.pow_pos (by omega)).trans_le h
  have hlength : k < (decimal_digits coeff).length := by
    by_contra hle
    have hlt := (lt_pow_length coeff).trans_le
        (Nat.pow_le_pow_right (n := 10) (by omega) (not_lt.mp hle))
    omega
  have hlead := pow_le_of_pos hpos
  have hexcess : excess coeff ∣ 10 ^ ((decimal_digits coeff).length - 1) :=
    Nat.pow_dvd_pow 10 (Nat.sub_le_sub_left (by decide) _)
  calc
    10 ^ k ≤ 10 ^ ((decimal_digits coeff).length - 1) := Nat.pow_le_pow_right (by omega) (by omega)
    _ = 10 ^ ((decimal_digits coeff).length - 1) / excess coeff * excess coeff :=
      (Nat.div_mul_cancel hexcess).symm
    _ ≤ round_half_even coeff (excess coeff) * excess coeff := by
      apply Nat.mul_le_mul_right
      exact (Nat.div_le_div_right hlead).trans (le_round_half_even _ _)

/-! ## Numbers -/

/-- A number that is not too small is rounded to `PREC` digits, or overflows. -/
theorem fix_spells (sign : Bool) {coeff : ℕ} {exp : ℤ} (hpos : 0 < coeff)
    (hlow : ETINY + PREC ≤ (decimal_digits coeff).length + exp) :
    (∃ e, fix sign coeff exp = .error e ∧ ETOP + PREC ≤ (decimal_digits coeff).length + exp) ∨
      ∃ value, fix sign coeff exp = .ok value ∧ is_signed value = sign ∧
        Spells value (signed sign (rounded coeff * 10 ^ exp)) := by
  have hten : (10 : ℚ) ≠ 0 := by norm_num
  unfold fix
  rw [if_neg hpos.ne']
  simp only []
  by_cases hover : ETOP < (decimal_digits coeff).length + exp - PREC
  · rw [if_pos hover]
    exact .inl ⟨_, rfl, by omega⟩
  rw [if_neg hover, max_eq_left (by omega)]
  by_cases hfits : (decimal_digits coeff).length ≤ PREC
  · have hrounded := rounded_of_fits ((decimal_digits_length_le_iff (by decide) coeff).mp hfits)
    rw [if_neg (by omega), hrounded]
    exact .inr ⟨_, rfl, rfl, sign, coeff, exp, rfl, rfl⟩
  · have hshift : ((decimal_digits coeff).length + exp - PREC - exp).toNat =
        (decimal_digits coeff).length - PREC := by omega
    have hscale : ∀ r : ℕ, (r : ℚ) * 10 ^ ((decimal_digits coeff).length + exp - PREC) =
        (r * excess coeff : ℕ) * 10 ^ exp := by
      intro r
      have hsplit : (decimal_digits coeff).length + exp - PREC =
          (((decimal_digits coeff).length - PREC : ℕ) : ℤ) + exp := by omega
      rw [hsplit, zpow_add₀ hten, zpow_natCast]
      unfold excess
      push_cast
      ring
    rw [if_pos (by omega), hshift]
    split
    · next hcarry =>
      -- the rounded coefficient is the next power of ten
      have hnot := mt (decimal_digits_length_le_iff (k := PREC) (by decide) _).mpr
          (not_le.mpr hcarry)
      have heq := (rounded_digits coeff).resolve_left hnot
      by_cases hcarried : ETOP < (decimal_digits coeff).length + exp - PREC + 1
      · rw [if_pos hcarried]
        exact .inl ⟨_, rfl, by omega⟩
      rw [if_neg hcarried]
      refine .inr ⟨_, rfl, rfl, sign, _, _, rfl, ?_⟩
      have hquot : (round_half_even coeff (10 ^ ((decimal_digits coeff).length - PREC)) / 10 : ℕ) =
          10 ^ (PREC - 1) := by
        show round_half_even coeff (excess coeff) / 10 = _
        rw [heq]
        decide
      have hback : ((10 ^ (PREC - 1) : ℕ) : ℚ) * 10 ^
          ((decimal_digits coeff).length + exp - PREC + 1) =
          (10 ^ PREC : ℕ) * 10 ^ ((decimal_digits coeff).length + exp - PREC) := by
        rw [zpow_add₀ hten, zpow_one]
        have hpow : (10 : ℕ) ^ PREC = 10 ^ (PREC - 1) * 10 := by decide
        rw [hpow]
        push_cast
        ring
      unfold rounded
      rw [hquot, hback, hscale, heq]
    · refine .inr ⟨_, rfl, rfl, sign, _, _, rfl, ?_⟩
      have hvalue := hscale (round_half_even coeff (excess coeff))
      unfold rounded
      rw [← hvalue]
      rfl

/-- A number that is scaled is rounded to `PREC` digits, or overflows. -/
theorem scaleb_spells (sign : Bool) {coeff : ℕ} {exp k : ℤ} (hk : |k| ≤ 2 * (EMAX + PREC))
    (hlow : 0 < coeff → ETINY + PREC ≤ (decimal_digits coeff).length + (exp + k)) :
    (∃ e, (PyDecimal.finite sign coeff exp).scaleb k = .error e ∧ 0 < coeff ∧
      ETOP + PREC ≤ (decimal_digits coeff).length + (exp + k)) ∨
    ∃ value, (PyDecimal.finite sign coeff exp).scaleb k = .ok value ∧ is_signed value = sign ∧
      Spells value (signed sign (rounded coeff * 10 ^ (exp + k))) := by
  unfold scaleb
  simp only [if_neg (not_lt.mpr hk)]
  by_cases hzero : coeff = 0
  · subst hzero
    right
    unfold fix
    rw [if_pos rfl, rounded_of_fits (by decide)]
    refine ⟨_, rfl, rfl, sign, 0, _, rfl, ?_⟩
    rw [Nat.cast_zero, zero_mul, zero_mul]
  · have hpos := Nat.pos_of_ne_zero hzero
    rcases fix_spells sign hpos (hlow hpos) with ⟨e, he, hhigh⟩ | hok
    · exact .inl ⟨e, he, hpos, hhigh⟩
    · exact .inr hok

end SapRfc.Analysis.DecimalContext
