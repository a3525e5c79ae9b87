import Mathlib.Data.List.Basic
import SapRfc.Library.BitPacking

/-!
# Bit strings

A bit string is a number with its least significant bit first, of which the first bits are a
remainder and the others a quotient.  Bytes are bit strings of eight, and a bit string is packed
into bytes with zeros behind it.
-/

set_option autoImplicit false

namespace SapRfc.Library

/-! ## Numbers -/

/-- The number of a bit string. -/
def ofBits : List Bool → ℕ
  | [] => 0
  | b :: bits => b.toNat + 2 * ofBits bits

/-- The first bits of a number. -/
def toBits : ℕ → ℕ → List Bool
  | 0, _ => []
  | n + 1, x => decide (x % 2 = 1) :: toBits n (x / 2)

@[simp] theorem length_toBits (n x : ℕ) : (toBits n x).length = n := by
  induction n generalizing x with
  | zero => rfl
  | succ n ih => rw [toBits, List.length_cons, ih]

theorem ofBits_lt (bits : List Bool) : ofBits bits < 2 ^ bits.length := by
  induction bits with
  | nil => exact Nat.one_pos
  | cons b bits ih =>
    have hb : b.toNat ≤ 1 := Bool.toNat_le b
    rw [ofBits, List.length_cons, pow_succ]
    omega

theorem ofBits_append (a b : List Bool) : ofBits (a ++ b) = ofBits a + 2 ^ a.length * ofBits b := by
  induction a with
  | nil => simp [ofBits]
  | cons x a ih =>
    rw [List.cons_append, ofBits, ofBits, ih, List.length_cons, pow_succ]
    ring

theorem ofBits_replicate_false (n : ℕ) : ofBits (List.replicate n false) = 0 := by
  induction n with
  | zero => rfl
  | succ n ih => rw [List.replicate_succ, ofBits, ih]; rfl

/-- The first bits are a remainder. -/
theorem ofBits_take (n : ℕ) (bits : List Bool) : ofBits (bits.take n) = ofBits bits % 2 ^ n := by
  rcases Nat.lt_or_ge bits.length n with hlt | hle
  · have hfits := Nat.lt_of_lt_of_le (ofBits_lt bits)
      (Nat.pow_le_pow_right Nat.two_pos (Nat.le_of_lt hlt))
    rw [List.take_of_length_le (Nat.le_of_lt hlt), Nat.mod_eq_of_lt hfits]
  · have hsplit := ofBits_append (bits.take n) (bits.drop n)
    have hlt := ofBits_lt (bits.take n)
    rw [List.take_append_drop] at hsplit
    rw [List.length_take_of_le hle] at hsplit hlt
    rw [hsplit, Nat.add_mul_mod_self_left, Nat.mod_eq_of_lt hlt]

/-- The bits behind them are a quotient. -/
theorem ofBits_drop (n : ℕ) (bits : List Bool) : ofBits (bits.drop n) = ofBits bits / 2 ^ n := by
  rcases Nat.lt_or_ge bits.length n with hlt | hle
  · have hfits := Nat.lt_of_lt_of_le (ofBits_lt bits)
      (Nat.pow_le_pow_right Nat.two_pos (Nat.le_of_lt hlt))
    rw [List.drop_of_length_le (Nat.le_of_lt hlt), Nat.div_eq_of_lt hfits]
    rfl
  · have hsplit := ofBits_append (bits.take n) (bits.drop n)
    have hlt := ofBits_lt (bits.take n)
    rw [List.take_append_drop] at hsplit
    rw [List.length_take_of_le hle] at hsplit hlt
    rw [hsplit, Nat.add_mul_div_left _ _ (Nat.two_pow_pos n), Nat.div_eq_of_lt hlt, Nat.zero_add]

theorem ofBits_toBits (n x : ℕ) : ofBits (toBits n x) = x % 2 ^ n := by
  induction n generalizing x with
  | zero => rw [pow_zero, Nat.mod_one]; rfl
  | succ n ih =>
    have hbit : (decide (x % 2 = 1)).toNat = x % 2 := by
      rcases Nat.mod_two_eq_zero_or_one x with h | h <;> rw [h] <;> rfl
    rw [toBits, ofBits, ih, hbit, pow_succ, Nat.mul_comm (2 ^ n), Nat.mod_mul]

/-- Bit strings of one length are known by their numbers. -/
theorem ofBits_injective {a b : List Bool} (hlength : a.length = b.length)
    (h : ofBits a = ofBits b) : a = b := by
  induction a generalizing b with
  | nil => exact (List.length_eq_zero_iff.mp hlength.symm).symm
  | cons x a ih =>
    cases b with
    | nil => cases hlength
    | cons y b =>
      rw [ofBits, ofBits] at h
      have hx : x.toNat ≤ 1 := Bool.toNat_le x
      have hy : y.toNat ≤ 1 := Bool.toNat_le y
      have hfirst : x = y := by
        cases x <;> cases y <;> simp_all <;> omega
      rw [hfirst, ih (Nat.succ.inj hlength) (by omega)]

/-! ## Bytes -/

/-- The bits of a byte string. -/
def bitsOf (data : Bytes) : List Bool := data.flatMap fun x => toBits 8 x.toNat

theorem length_bitsOf (data : Bytes) : (bitsOf data).length = data.length * 8 := by
  induction data with
  | nil => rfl
  | cons x data ih =>
    rw [bitsOf, List.flatMap_cons, List.length_append, length_toBits]
    rw [bitsOf] at ih
    rw [ih, List.length_cons]
    omega

theorem ofBits_bitsOf (data : Bytes) : ofBits (bitsOf data) = ofLE data := by
  induction data with
  | nil => rfl
  | cons x data ih =>
    rw [bitsOf] at ih
    rw [bitsOf, List.flatMap_cons, ofBits_append, ih, ofBits_toBits, length_toBits, ofLE_cons,
      Nat.mod_eq_of_lt x.toNat_lt]
    norm_num

/-- A bit string in bytes, with zeros up to the next byte. -/
def packBits (bits : List Bool) : Bytes := toLE ((bits.length + 7) / 8) (ofBits bits)

/-- The zeros behind a bit string. -/
def padBits (bits : List Bool) : List Bool :=
  List.replicate ((bits.length + 7) / 8 * 8 - bits.length) false

theorem bitsOf_packBits (bits : List Bool) : bitsOf (packBits bits) = bits ++ padBits bits := by
  have hlength : (packBits bits).length = (bits.length + 7) / 8 := length_toLE _ _
  have hfits : ofBits bits < 256 ^ ((bits.length + 7) / 8) := by
    have hpow : 256 ^ ((bits.length + 7) / 8) = 2 ^ (8 * ((bits.length + 7) / 8)) := by
      rw [pow_mul]
      norm_num
    rw [hpow]
    exact Nat.lt_of_lt_of_le (ofBits_lt bits) (Nat.pow_le_pow_right Nat.two_pos (by omega))
  apply ofBits_injective
  · rw [length_bitsOf, hlength, List.length_append, padBits, List.length_replicate]
    omega
  · rw [ofBits_bitsOf, packBits, ofLE_toLE hfits, ofBits_append, padBits, ofBits_replicate_false,
      Nat.mul_zero, Nat.add_zero]

end SapRfc.Library
