import Mathlib.Data.Nat.Digits.Defs
import SapRfc.Library.Bytes

/-!
# Packed bits

A byte string and a list of codes of `w` bits are both digits of one number: in base 256, and in
base `2 ^ w`.  The codes are packed with the first one lowest, so a packer only has to keep the
number, and a reader takes a code off as a remainder.
-/

set_option autoImplicit false

namespace SapRfc.Library

open Nat (ofDigits)

/-! ## Bytes, least significant first -/

/-- The bytes are the digits of their number in base 256. -/
theorem ofLE_eq_ofDigits (b : Bytes) : ofLE b = ofDigits 256 (b.map UInt8.toNat) := by
  induction b with
  | nil => rfl
  | cons x xs ih =>
    have hstep : ofLE (x :: xs) = ofLE xs * 256 + x.toNat := by
      simp only [ofLE, ofBE, List.reverse_cons, List.foldl_append, List.foldl_cons, List.foldl_nil]
    rw [hstep, ih, List.map_cons, Nat.ofDigits_cons]
    ring

theorem ofLE_cons (x : UInt8) (xs : Bytes) : ofLE (x :: xs) = x.toNat + 256 * ofLE xs := by
  rw [ofLE_eq_ofDigits, ofLE_eq_ofDigits, List.map_cons, Nat.ofDigits_cons]

theorem ofLE_append (a b : Bytes) : ofLE (a ++ b) = ofLE a + 256 ^ a.length * ofLE b := by
  rw [ofLE_eq_ofDigits, ofLE_eq_ofDigits, ofLE_eq_ofDigits, List.map_append, Nat.ofDigits_append,
    List.length_map]

theorem ofLE_append_zeros (b : Bytes) (n : ℕ) : ofLE (b ++ List.replicate n 0) = ofLE b := by
  rw [ofLE_eq_ofDigits, ofLE_eq_ofDigits, List.map_append, List.map_replicate]
  exact Nat.ofDigits_append_replicate_zero _

theorem ofLE_singleton (n : ℕ) (h : n < 256) : ofLE [UInt8.ofNat n] = n := by
  rw [ofLE_cons, UInt8.toNat_ofNat', Nat.mod_eq_of_lt h]
  rfl

theorem ofLE_toLE {w n : ℕ} (h : n < 256 ^ w) : ofLE (toLE w n) = n := by
  rw [ofLE, toLE, List.reverse_reverse, ofBE_toBE_of_lt h]

/-! ## Codes, the first one lowest -/

/-- A code put above the bits that are there. -/
theorem or_shiftLeft {bits n : ℕ} (code : ℕ) (h : bits < 2 ^ n) :
    bits ||| code <<< n = bits + 2 ^ n * code := by
  rw [Nat.or_comm, ← Nat.shiftLeft_add_eq_or_of_lt h, Nat.shiftLeft_eq]
  ring

/-- What is above bits that fit stays below the next power. -/
theorem or_shiftLeft_lt {bits n code w : ℕ} (h : bits < 2 ^ n) (hcode : code < 2 ^ w) :
    bits ||| code <<< n < 2 ^ (n + w) := by
  rw [or_shiftLeft code h, pow_add]
  have hmul : 2 ^ n * (code + 1) ≤ 2 ^ n * 2 ^ w := Nat.mul_le_mul_left _ hcode
  rw [mul_add, mul_one] at hmul
  omega

/-- The first code is the remainder. -/
theorem ofDigits_cons_mod {w c : ℕ} (cs : List ℕ) (h : c < 2 ^ w) :
    ofDigits (2 ^ w) (c :: cs) % 2 ^ w = c := by
  rw [Nat.ofDigits_cons, Nat.add_mul_mod_self_left, Nat.mod_eq_of_lt h]

/-- The other codes are the quotient. -/
theorem ofDigits_cons_div {w c : ℕ} (cs : List ℕ) (h : c < 2 ^ w) :
    ofDigits (2 ^ w) (c :: cs) / 2 ^ w = ofDigits (2 ^ w) cs := by
  rw [Nat.ofDigits_cons, Nat.add_mul_div_left _ _ (Nat.two_pow_pos w), Nat.div_eq_of_lt h,
    Nat.zero_add]

end SapRfc.Library
