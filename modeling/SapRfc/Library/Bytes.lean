import Mathlib.Data.List.Infix
import Mathlib.Tactic.Linarith
import Mathlib.Tactic.NormNum
import Mathlib.Tactic.Ring

/-!
# Byte strings

Byte strings as lists of `UInt8`, with the two operations every binary reader
needs: fixed-width big-endian numbers, and slices.  A slice `slice b lo hi` is the
half-open range of a scripting language: bounds past the end are cut off silently.
-/

set_option autoImplicit false

namespace SapRfc.Library

/-- A byte string. -/
abbrev Bytes : Type := List UInt8

/-- The `w` low-order base-256 digits of `n`, most significant first. -/
def toBE : ℕ → ℕ → Bytes
  | 0, _ => []
  | w + 1, n => UInt8.ofNat (n / 256 ^ w) :: toBE w n

/-- The number a byte string spells, most significant byte first. -/
def ofBE (b : Bytes) : ℕ :=
  b.foldl (fun acc x => acc * 256 + x.toNat) 0

/-- The `w` low-order base-256 digits of `n`, least significant first. -/
def toLE (w n : ℕ) : Bytes :=
  (toBE w n).reverse

/-- The number a byte string spells, least significant byte first. -/
def ofLE (b : Bytes) : ℕ :=
  ofBE b.reverse

/-- Bytes `lo` (included) to `hi` (excluded), cut off at the end of the string. -/
def slice {α : Type} (b : List α) (lo hi : ℕ) : List α :=
  (b.drop lo).take (hi - lo)

/-- Overwrite `n` bytes from offset `pos` with zeros, keeping the length. -/
def zeroFill (b : Bytes) (pos n : ℕ) : Bytes :=
  b.take pos ++ List.replicate (min n (b.length - pos)) 0 ++ b.drop (pos + n)

@[simp] theorem length_toBE (w n : ℕ) : (toBE w n).length = w := by
  induction w with
  | zero => rfl
  | succ w ih => simp [toBE, ih]

@[simp] theorem length_toLE (w n : ℕ) : (toLE w n).length = w := by
  simp [toLE]

/-- INTERNAL: the two bytes of a short number. -/
theorem toLE_two (n : ℕ) : toLE 2 n = [UInt8.ofNat n, UInt8.ofNat (n / 256)] := by
  simp [toLE, toBE]

/-- INTERNAL: a running big-endian sum shifts its starting value by the number of
digits still to be read. -/
theorem foldl_ofBE (b : Bytes) (acc : ℕ) :
    b.foldl (fun acc x => acc * 256 + x.toNat) acc = acc * 256 ^ b.length + ofBE b := by
  induction b generalizing acc with
  | nil => simp [ofBE]
  | cons x xs ih =>
    have h := ih (acc * 256 + x.toNat)
    have h0 := ih (0 * 256 + x.toNat)
    simp only [List.foldl_cons, List.length_cons, ofBE] at h h0 ⊢
    rw [h, h0, pow_succ]
    ring

/-- INTERNAL: the leading byte carries the highest power. -/
theorem ofBE_cons (x : UInt8) (xs : Bytes) :
    ofBE (x :: xs) = x.toNat * 256 ^ xs.length + ofBE xs := by
  have h := foldl_ofBE xs (0 * 256 + x.toNat)
  simpa [ofBE] using h

@[simp] theorem ofBE_nil : ofBE [] = 0 := rfl

/-- Reading back the digits of `n` gives `n` modulo the width. -/
theorem ofBE_toBE (w n : ℕ) : ofBE (toBE w n) = n % 256 ^ w := by
  induction w with
  | zero => simp [toBE, Nat.mod_one]
  | succ w ih =>
    have hb : (2 : ℕ) ^ 8 = 256 := by norm_num
    have hsplit : n % 256 ^ (w + 1) = n % 256 ^ w + 256 ^ w * (n / 256 ^ w % 256) := by
      rw [pow_succ, Nat.mod_mul]
    rw [toBE, ofBE_cons, ih, length_toBE, UInt8.toNat_ofNat', hb, hsplit]
    ring

/-- Reading back the digits of a number that fits its width gives the number. -/
theorem ofBE_toBE_of_lt {w n : ℕ} (h : n < 256 ^ w) : ofBE (toBE w n) = n := by
  rw [ofBE_toBE, Nat.mod_eq_of_lt h]

@[simp] theorem length_slice {α : Type} (b : List α) (lo hi : ℕ) :
    (slice b lo hi).length = min (hi - lo) (b.length - lo) := by
  simp [slice]

/-- A slice that ends inside a prefix does not see what follows the prefix. -/
theorem slice_append_left {α : Type} (a b : List α) {lo hi : ℕ} (h : hi ≤ a.length) :
    slice (a ++ b) lo hi = slice a lo hi := by
  unfold slice
  by_cases hlo : lo ≤ a.length
  · rw [List.drop_append_of_le_length hlo,
      List.take_append_of_le_length (by simp only [List.length_drop]; omega)]
  · have h0 : hi - lo = 0 := by omega
    simp [h0]

/-- A slice that starts after a prefix is a slice of the rest. -/
theorem slice_append_right {α : Type} (a b : List α) (lo hi : ℕ) :
    slice (a ++ b) (a.length + lo) (a.length + hi) = slice b lo hi := by
  unfold slice
  rw [List.drop_length_add_append, Nat.add_sub_add_left]

/-- A slice from the start is a prefix. -/
theorem slice_zero {α : Type} (b : List α) (hi : ℕ) : slice b 0 hi = b.take hi := by
  simp [slice]

/-- The part of a string between two others. -/
theorem slice_between {α : Type} (a x z : List α) :
    slice (a ++ (x ++ z)) a.length (a.length + x.length) = x := by
  have h := slice_append_right a (x ++ z) 0 x.length
  rw [Nat.add_zero] at h
  rw [h, slice_zero, List.take_left]

/-- INTERNAL: the length of strings of one length, one behind the other. -/
theorem length_flatten_of_width {α : Type} {w : ℕ} {parts : List (List α)}
    (h : ∀ x ∈ parts, x.length = w) : parts.flatten.length = parts.length * w := by
  induction parts with
  | nil => simp
  | cons x parts ih =>
    rw [List.flatten_cons, List.length_append, h x List.mem_cons_self,
      ih fun y hy => h y (List.mem_cons_of_mem _ hy), List.length_cons]
    ring

/-- Strings of one length are cut out of what they are joined to. -/
theorem slices_flatten {α : Type} {w : ℕ} {parts : List (List α)} (h : ∀ x ∈ parts, x.length = w) :
    (List.range parts.length).map (fun i => slice parts.flatten (i * w) ((i + 1) * w)) = parts := by
  induction parts with
  | nil => rfl
  | cons x parts ih =>
    have hx : x.length = w := h x List.mem_cons_self
    have hfirst : slice (x :: parts).flatten (0 * w) ((0 + 1) * w) = x := by
      rw [List.flatten_cons, Nat.zero_mul, Nat.zero_add, Nat.one_mul, slice_zero,
        List.take_left' hx]
    have hrest : ∀ i, slice (x :: parts).flatten ((i + 1) * w) ((i + 1 + 1) * w) =
        slice parts.flatten (i * w) ((i + 1) * w) := by
      intro i
      have hlo : (i + 1) * w = x.length + i * w := by rw [hx]; ring
      have hhi : (i + 1 + 1) * w = x.length + (i + 1) * w := by rw [hx]; ring
      rw [hhi, hlo, List.flatten_cons, slice_append_right, ← hlo]
    rw [List.length_cons, List.range_succ_eq_map, List.map_cons, List.map_map, hfirst]
    refine congrArg (x :: ·) (Eq.trans (List.map_congr_left fun i _ => hrest i) ?_)
    exact ih fun y hy => h y (List.mem_cons_of_mem _ hy)

/-- Slices of one width, one behind the other, join to what they are cut out of. -/
theorem flatten_slices {α : Type} (b : List α) (n w : ℕ) :
    ((List.range n).map fun i => slice b (i * w) ((i + 1) * w)).flatten = b.take (n * w) := by
  induction n with
  | zero => simp
  | succ n ih =>
    have hlast : slice b (n * w) ((n + 1) * w) = (b.drop (n * w)).take w := by
      unfold slice
      rw [Nat.succ_mul, Nat.add_sub_cancel_left]
    rw [List.range_succ, List.map_append, List.flatten_append, ih, List.map_singleton,
      List.flatten_singleton, hlast, Nat.succ_mul, List.take_add]

/-- Strings that differ in a middle part of one length agree outside that part. -/
theorem getElem?_append_middle {α : Type} (a z : List α) {x x' : List α}
    (h : x.length = x'.length) {i : ℕ} (hi : i < a.length ∨ a.length + x.length ≤ i) :
    (a ++ (x ++ z))[i]? = (a ++ (x' ++ z))[i]? := by
  rcases hi with hi | hi
  · rw [List.getElem?_append_left hi, List.getElem?_append_left hi]
  · have hskip : ∀ y : List α, y.length = x.length →
        (a ++ (y ++ z))[i]? = z[i - a.length - x.length]? := by
      intro y hy
      rw [List.getElem?_append_right (by omega), List.getElem?_append_right (by omega), hy]
    rw [hskip x rfl, hskip x' h.symm]

/-- Zero-filling keeps the length. -/
@[simp] theorem length_zeroFill (b : Bytes) (pos n : ℕ) :
    (zeroFill b pos n).length = b.length := by
  simp only [zeroFill, List.length_append, List.length_take, List.length_replicate,
    List.length_drop]
  omega

/-- The byte at `i` after zero-filling: zero inside the range, unchanged outside. -/
theorem getElem?_zeroFill (b : Bytes) (pos n i : ℕ) :
    (zeroFill b pos n)[i]? =
      if pos ≤ i ∧ i < pos + n ∧ i < b.length then some 0 else b[i]? := by
  unfold zeroFill
  by_cases hi : i < b.length
  · by_cases h1 : i < pos
    · rw [List.append_assoc, List.getElem?_append_left (by simp; omega),
        List.getElem?_take_of_lt h1, if_neg (by omega)]
    · by_cases h2 : i < pos + n
      · rw [List.getElem?_append_left (by simp; omega), List.getElem?_append_right (by simp; omega),
          List.getElem?_replicate, if_pos (by simp; omega), if_pos (by omega)]
      · rw [List.getElem?_append_right (by simp; omega), List.getElem?_drop, if_neg (by omega)]
        congr 1
        simp only [List.length_append, List.length_take, List.length_replicate]
        omega
  · have hlen : (b.take pos ++ List.replicate (min n (b.length - pos)) 0 ++
        b.drop (pos + n)).length = b.length := length_zeroFill b pos n
    rw [if_neg (by omega), List.getElem?_eq_none (by omega), List.getElem?_eq_none (by omega)]

end SapRfc.Library
