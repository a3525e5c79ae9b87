import Mathlib.Algebra.BigOperators.Group.List.Basic
import Mathlib.Data.List.GetD
import SapRfc.Library.BitStrings

/-!
# Canonical prefix codes

A canonical code is known by the lengths of its codes: those of one length are consecutive
numbers, in the order of their symbols, and the first of a length follows the last of the length
before, with a zero behind it.  So the codes are disjoint intervals, one behind the other, of the
numbers of a fixed width.  No code is a prefix of another one, and where the lengths satisfy
Kraft's inequality the codes fit.
-/

set_option autoImplicit false

namespace SapRfc.Library.PrefixCodes

variable (lens : List ℕ)

/-- How many codes have a length.  The length zero is that of a symbol without a code. -/
def lengthCount (l : ℕ) : ℕ := lens.countP fun x => decide (x = l ∧ 0 < l)

/-- The first code of a length. -/
def firstCode : ℕ → ℕ
  | 0 => 0
  | l + 1 => 2 * (firstCode l + lengthCount lens l)

/-- The length of the code of a symbol. -/
def lengthAt (i : ℕ) : ℕ := lens.getD i 0

/-- The code of a symbol. -/
def codeAt (i : ℕ) : ℕ :=
  firstCode lens (lengthAt lens i) + (lens.take i).countP fun x => decide (x = lengthAt lens i)

/-- The bits of a code, with the most significant one first. -/
def codeBits (i : ℕ) : List Bool := (toBits (lengthAt lens i) (codeAt lens i)).reverse

/-- Kraft's sum, in units of the width `m`. -/
def kraft (m : ℕ) : ℕ := (lens.map fun l => if 0 < l ∧ l ≤ m then 2 ^ (m - l) else 0).sum

/-- The codes fit into the width `m`.  A complete code has `2 ^ m` for the sum. -/
structure Fits (m : ℕ) : Prop where
  bounded : ∀ l ∈ lens, l ≤ m
  small : kraft lens m ≤ 2 ^ m

variable {lens}

@[simp] theorem length_codeBits (i : ℕ) : (codeBits lens i).length = lengthAt lens i := by
  rw [codeBits, List.length_reverse, length_toBits]

/-- A symbol with a code is one of the list. -/
theorem lt_length_of_pos {i : ℕ} (h : 0 < lengthAt lens i) : i < lens.length := by
  by_contra hnot
  rw [lengthAt, List.getD_eq_default _ _ (Nat.le_of_not_lt hnot)] at h
  cases h

theorem lengthAt_mem {i : ℕ} (h : 0 < lengthAt lens i) : lengthAt lens i ∈ lens := by
  rw [lengthAt, List.getD_eq_getElem _ _ (lt_length_of_pos h)]
  exact List.getElem_mem _

/-! ## Intervals -/

theorem kraft_succ (m : ℕ) : kraft lens (m + 1) = 2 * kraft lens m + lengthCount lens (m + 1) := by
  unfold kraft lengthCount
  induction lens with
  | nil => rfl
  | cons l lens ih =>
    rw [List.map_cons, List.sum_cons, List.map_cons, List.sum_cons, List.countP_cons, ih]
    rcases Nat.lt_trichotomy l (m + 1) with hlt | rfl | hgt
    · have hne : l ≠ m + 1 := Nat.ne_of_lt hlt
      by_cases hpos : 0 < l
      · have hpow : 2 ^ (m + 1 - l) = 2 * 2 ^ (m - l) := by
          rw [Nat.succ_sub (Nat.le_of_lt_succ hlt), pow_succ, Nat.mul_comm]
        simp only [hpos, Nat.le_of_lt hlt, Nat.le_of_lt_succ hlt, and_self, if_true, hpow, hne,
          false_and, decide_false, Bool.false_eq_true, if_false]
        ring
      · simp only [hpos, false_and, if_false, hne, decide_false, Bool.false_eq_true]
        ring
    · simp
      ring
    · have hle : ¬ l ≤ m + 1 := Nat.not_le_of_lt hgt
      have hle' : ¬ l ≤ m := fun h => hle (Nat.le_succ_of_le h)
      have hne : l ≠ m + 1 := Nat.ne_of_gt hgt
      simp only [hle, hle', and_false, if_false, hne, false_and, decide_false, Bool.false_eq_true]
      ring

/-- The codes up to a length take up what Kraft's sum says. -/
theorem firstCode_add_count (m : ℕ) : firstCode lens m + lengthCount lens m = kraft lens m := by
  induction m with
  | zero =>
    have hcount : lengthCount lens 0 = 0 := by
      unfold lengthCount
      simp
    have hsum : kraft lens 0 = 0 := by
      unfold kraft
      refine List.sum_eq_zero fun x hx => ?_
      obtain ⟨l, -, rfl⟩ := List.mem_map.mp hx
      rw [if_neg (by omega)]
    rw [hcount, hsum]
    rfl
  | succ m ih => rw [firstCode, ih, kraft_succ]

/-- The codes of a length end where those of a later length begin, or before. -/
theorem firstCode_le {l l' m : ℕ} (hlt : l < l') (hle : l' ≤ m) :
    (firstCode lens l + lengthCount lens l) * 2 ^ (m - l) ≤ firstCode lens l' * 2 ^ (m - l') := by
  have hstep : ∀ k, k < m → firstCode lens (k + 1) * 2 ^ (m - (k + 1)) =
      (firstCode lens k + lengthCount lens k) * 2 ^ (m - k) := by
    intro k hk
    have hpow : 2 ^ (m - k) = 2 * 2 ^ (m - (k + 1)) := by
      rw [← Nat.succ_sub_succ m k, Nat.succ_sub hk, pow_succ, Nat.mul_comm]
    rw [firstCode, hpow]
    ring
  induction l', hlt using Nat.le_induction with
  | base => exact Nat.le_of_eq (hstep l hle).symm
  | succ k hk ih =>
    rw [hstep k hle]
    refine Nat.le_trans (ih (Nat.le_of_lt hle)) (Nat.mul_le_mul_right _ ?_)
    exact Nat.le_add_right _ _

/-- INTERNAL: a symbol comes before others of its length, or is the last one. -/
theorem rank_lt {i : ℕ} (h : 0 < lengthAt lens i) :
    (lens.take i).countP (fun x => decide (x = lengthAt lens i)) + 1 ≤
      lengthCount lens (lengthAt lens i) := by
  have hi := lt_length_of_pos h
  have hat : lens[i] = lengthAt lens i := (List.getD_eq_getElem lens 0 hi).symm
  have hsplit : lens = lens.take i ++ lens[i] :: lens.drop (i + 1) := by
    rw [← List.drop_eq_getElem_cons hi, List.take_append_drop]
  have hcount : lengthCount lens (lengthAt lens i) =
      lens.countP fun x => decide (x = lengthAt lens i) := by
    unfold lengthCount
    simp only [h, and_true]
  rw [hcount]
  generalize lengthAt lens i = l at hat ⊢
  conv_rhs => rw [hsplit]
  rw [List.countP_append, List.countP_cons, hat]
  simp

theorem codeAt_lt_count {i : ℕ} (h : 0 < lengthAt lens i) :
    codeAt lens i + 1 ≤ firstCode lens (lengthAt lens i) + lengthCount lens (lengthAt lens i) := by
  unfold codeAt
  rw [Nat.add_assoc]
  exact Nat.add_le_add_left (rank_lt h) _

/-- A code has the bits that its length says. -/
theorem codeAt_lt {m i : ℕ} (hfits : Fits lens m) (h : 0 < lengthAt lens i) :
    codeAt lens i < 2 ^ lengthAt lens i := by
  have hle := hfits.bounded _ (lengthAt_mem h)
  have hend : (firstCode lens (lengthAt lens i) + lengthCount lens (lengthAt lens i)) *
      2 ^ (m - lengthAt lens i) ≤ 2 ^ m := by
    refine Nat.le_trans ?_ hfits.small
    rw [← firstCode_add_count]
    rcases Nat.lt_or_eq_of_le hle with hlt | heq
    · refine Nat.le_trans (firstCode_le hlt (Nat.le_refl m)) ?_
      rw [Nat.sub_self, pow_zero, Nat.mul_one]
      exact Nat.le_add_right _ _
    · rw [heq, Nat.sub_self, pow_zero, Nat.mul_one]
  have hpow : 2 ^ m = 2 ^ lengthAt lens i * 2 ^ (m - lengthAt lens i) := by
    rw [← pow_add, Nat.add_sub_cancel' hle]
  rw [hpow] at hend
  exact Nat.lt_of_lt_of_le (codeAt_lt_count h) (Nat.le_of_mul_le_mul_right hend (Nat.two_pow_pos _))

/-- A symbol that comes first by length, or by its number at one length, has the interval in
front. -/
theorem interval_le {m i j : ℕ} (hi : 0 < lengthAt lens i) (hj : lengthAt lens j ≤ m)
    (h : lengthAt lens i < lengthAt lens j ∨ lengthAt lens i = lengthAt lens j ∧ i < j) :
    (codeAt lens i + 1) * 2 ^ (m - lengthAt lens i) ≤
      codeAt lens j * 2 ^ (m - lengthAt lens j) := by
  rcases h with hlt | ⟨heq, hij⟩
  · calc (codeAt lens i + 1) * 2 ^ (m - lengthAt lens i)
        ≤ (firstCode lens (lengthAt lens i) + lengthCount lens (lengthAt lens i)) *
            2 ^ (m - lengthAt lens i) := Nat.mul_le_mul_right _ (codeAt_lt_count hi)
      _ ≤ firstCode lens (lengthAt lens j) * 2 ^ (m - lengthAt lens j) := firstCode_le hlt hj
      _ ≤ codeAt lens j * 2 ^ (m - lengthAt lens j) :=
          Nat.mul_le_mul_right _ (Nat.le_add_right _ _)
  · rw [heq]
    refine Nat.mul_le_mul_right _ ?_
    have hlen := lt_length_of_pos hi
    have hat : lens[i] = lengthAt lens j := (List.getD_eq_getElem lens 0 hlen).symm.trans heq
    have hbegin : lens.take (i + 1) <+: lens.take j := List.take_prefix_take_left hij
    have hcount := (hbegin.sublist).countP_le (p := fun x => decide (x = lengthAt lens j))
    rw [List.take_add_one, List.getElem?_eq_getElem hlen, hat, List.countP_append] at hcount
    simp at hcount
    unfold codeAt
    rw [heq]
    omega

/-! ## Prefixes -/

/-- What begins with a code is a number in its interval. -/
theorem codeBits_begins {m i : ℕ} (hfits : Fits lens m) (h : 0 < lengthAt lens i) {bits : List Bool}
    (hbegin : codeBits lens i <+: bits) :
    codeAt lens i * 2 ^ (bits.length - lengthAt lens i) ≤ ofBits bits.reverse ∧
      ofBits bits.reverse < (codeAt lens i + 1) * 2 ^ (bits.length - lengthAt lens i) := by
  obtain ⟨rest, rfl⟩ := hbegin
  have hlt := ofBits_lt rest.reverse
  rw [List.length_reverse] at hlt
  rw [List.reverse_append, ofBits_append, codeBits, List.reverse_reverse, ofBits_toBits,
    Nat.mod_eq_of_lt (codeAt_lt hfits h), List.length_append, List.length_reverse, length_toBits,
    List.length_reverse, Nat.add_sub_cancel_left, Nat.mul_comm (2 ^ rest.length), Nat.add_mul]
  omega

/-- No code is a prefix of another one. -/
theorem eq_of_begins {m i j : ℕ} (hfits : Fits lens m) (hi : 0 < lengthAt lens i)
    (hj : 0 < lengthAt lens j) {bits : List Bool} (hbegin : codeBits lens i <+: bits)
    (hbegin' : codeBits lens j <+: bits) : i = j := by
  obtain ⟨hlow, hhigh⟩ := codeBits_begins hfits hi hbegin
  obtain ⟨hlow', hhigh'⟩ := codeBits_begins hfits hj hbegin'
  have hlei := hbegin.length_le
  have hlej := hbegin'.length_le
  rw [length_codeBits] at hlei hlej
  rcases Nat.lt_trichotomy (lengthAt lens i) (lengthAt lens j) with hlt | heq | hgt
  · have hle := interval_le (m := bits.length) hi hlej (.inl hlt)
    omega
  · rcases Nat.lt_trichotomy i j with hij | hij | hij
    · have hle := interval_le (m := bits.length) hi hlej (.inr ⟨heq, hij⟩)
      omega
    · exact hij
    · have hle := interval_le (m := bits.length) hj hlei (.inr ⟨heq.symm, hij⟩)
      omega
  · have hle := interval_le (m := bits.length) hj hlei (.inl hgt)
    omega

end SapRfc.Library.PrefixCodes
