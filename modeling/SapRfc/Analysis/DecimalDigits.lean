import Mathlib.Data.Nat.Digits.Lemmas
import SapRfc.Program.Decimal

/-!
# Digits of a coefficient

What `decimal_digits` and `of_digits` say about each other, and how digits are padded.
-/

set_option autoImplicit false

namespace SapRfc.Analysis.DecimalDigits

open SapRfc.Library SapRfc.Program

/-! ## Reading digits -/

theorem of_digits_append (a b : List ℕ) :
    of_digits (a ++ b) = of_digits a * 10 ^ b.length + of_digits b := by
  have hfold : ∀ (acc : ℕ) (b : List ℕ),
      b.foldl (fun n d => 10 * n + d) acc = acc * 10 ^ b.length + of_digits b := by
    intro acc b
    induction b generalizing acc with
    | nil => simp [of_digits]
    | cons d b ih =>
      have hzero := ih (10 * 0 + d)
      unfold of_digits at ih hzero ⊢
      rw [List.foldl_cons, List.foldl_cons, ih, hzero, List.length_cons, pow_succ]
      ring
  have happend : of_digits (a ++ b) = b.foldl (fun n d => 10 * n + d) (of_digits a) :=
    List.foldl_append
  rw [happend, hfold]

@[simp] theorem of_digits_nil : of_digits [] = 0 := rfl

@[simp] theorem of_digits_singleton (d : ℕ) : of_digits [d] = d := by
  simp [of_digits]

theorem of_digits_cons (d : ℕ) (ds : List ℕ) :
    of_digits (d :: ds) = d * 10 ^ ds.length + of_digits ds := by
  have happend := of_digits_append [d] ds
  rwa [of_digits_singleton] at happend

/-- Leading zeros do not count. -/
@[simp] theorem of_digits_pad (n : ℕ) (ds : List ℕ) :
    of_digits (List.replicate n 0 ++ ds) = of_digits ds := by
  induction n with
  | zero => rfl
  | succ n ih =>
    rw [List.replicate_succ, List.cons_append, of_digits_cons, ih, Nat.zero_mul, Nat.zero_add]

/-! ## Writing digits -/

theorem of_digits_reverse_eq_ofDigits (ds : List ℕ) :
    of_digits ds.reverse = Nat.ofDigits 10 ds := by
  induction ds with
  | nil => rfl
  | cons d ds ih =>
    rw [List.reverse_cons, of_digits_append, ih, of_digits_singleton, Nat.ofDigits_cons]
    simp only [List.length_singleton, pow_one]
    ring

@[simp] theorem of_digits_decimal_digits (coeff : ℕ) :
    of_digits (decimal_digits coeff) = coeff := by
  unfold decimal_digits
  split
  · next hzero => rw [hzero, of_digits_singleton]
  · rw [of_digits_reverse_eq_ofDigits, Nat.ofDigits_digits]

theorem decimal_digits_le (coeff : ℕ) : ∀ d ∈ decimal_digits coeff, d ≤ 9 := by
  intro d hd
  unfold decimal_digits at hd
  split at hd
  · rw [List.mem_singleton.mp hd]
    omega
  · exact Nat.le_of_lt_succ (Nat.digits_lt_base (by omega) (List.mem_reverse.mp hd))

theorem decimal_digits_length_pos (coeff : ℕ) : 0 < (decimal_digits coeff).length := by
  unfold decimal_digits
  split
  · exact Nat.one_pos
  · next hzero =>
    rw [List.length_reverse]
    exact List.length_pos_iff.mpr (Nat.digits_ne_nil_iff_ne_zero.mpr hzero)

/-- The digits of a coefficient are at most `k` where it is below the power. -/
theorem decimal_digits_length_le_iff {k : ℕ} (hk : 0 < k) (coeff : ℕ) :
    (decimal_digits coeff).length ≤ k ↔ coeff < 10 ^ k := by
  unfold decimal_digits
  split
  · next hzero =>
    subst hzero
    exact ⟨fun _ => by positivity, fun _ => hk⟩
  · rw [List.length_reverse]
    exact Nat.digits_length_le_iff (by omega) coeff

/-! ## Digits in a fixed width -/

/-- The digits of a coefficient, padded with zeros to a width. -/
def padded (width coeff : ℕ) : List ℕ :=
  List.replicate (width - (decimal_digits coeff).length) 0 ++ decimal_digits coeff

@[simp] theorem of_digits_padded (width coeff : ℕ) : of_digits (padded width coeff) = coeff := by
  unfold padded
  rw [of_digits_pad, of_digits_decimal_digits]

theorem padded_le (width coeff : ℕ) : ∀ d ∈ padded width coeff, d ≤ 9 := by
  intro d hd
  rcases List.mem_append.mp hd with hd | hd
  · rw [(List.mem_replicate.mp hd).2]
    omega
  · exact decimal_digits_le coeff d hd

theorem length_padded {width coeff : ℕ} (h : (decimal_digits coeff).length ≤ width) :
    (padded width coeff).length = width := by
  unfold padded
  rw [List.length_append, List.length_replicate]
  omega

end SapRfc.Analysis.DecimalDigits
