import Mathlib.Data.List.Forall2
import SapRfc.Library.Bytes

/-!
# Cells of a buffer

A layout puts byte strings into a buffer, each into a cell of its own.  Where the cells are disjoint
and no string is longer than its cell, the order does not matter: every cell holds its string and,
behind it, what was there before, and the rest of the buffer is as it was.
-/

set_option autoImplicit false

namespace SapRfc.Library.Layouts

variable {α : Type}

/-- The items of `raw` in place of those from `start` on. -/
def overwrite (b : List α) (start : ℕ) (raw : List α) : List α :=
  b.take start ++ raw ++ b.drop (start + raw.length)

/-- A cell and what is put there. -/
structure Cell (α : Type) where
  start : ℕ
  width : ℕ
  raw : List α
  fits : raw.length ≤ width

namespace Cell

/-- The offset is in the cell. -/
def Has (c : Cell α) (i : ℕ) : Prop := c.start ≤ i ∧ i < c.start + c.width

/-- No offset is in both. -/
def Apart (c d : Cell α) : Prop := ∀ i, ¬ (c.Has i ∧ d.Has i)

/-- The cell ends inside the buffer. -/
def Inside (c : Cell α) (size : ℕ) : Prop := c.start + c.width ≤ size

end Cell

/-- The strings of the cells, one after the other. -/
def overwriteAll (b : List α) (cells : List (Cell α)) : List α :=
  cells.foldl (fun b c => overwrite b c.start c.raw) b

/-! ## One cell -/

theorem length_overwrite {b : List α} {start : ℕ} {raw : List α}
    (h : start + raw.length ≤ b.length) : (overwrite b start raw).length = b.length := by
  unfold overwrite
  simp only [List.length_append, List.length_take, List.length_drop]
  omega

theorem getElem?_overwrite {b : List α} {start : ℕ} {raw : List α}
    (h : start + raw.length ≤ b.length) (i : ℕ) :
    (overwrite b start raw)[i]? =
      if start ≤ i ∧ i < start + raw.length then raw[i - start]? else b[i]? := by
  have htake : (b.take start).length = start := by
    rw [List.length_take]
    omega
  unfold overwrite
  rw [List.append_assoc]
  by_cases hbefore : i < start
  · rw [List.getElem?_append_left (by omega), List.getElem?_take_of_lt hbefore, if_neg (by omega)]
  · rw [List.getElem?_append_right (by omega), htake]
    by_cases hin : i < start + raw.length
    · rw [List.getElem?_append_left (by omega), if_pos ⟨by omega, hin⟩]
    · rw [List.getElem?_append_right (by omega), List.getElem?_drop, if_neg (by omega)]
      congr 1
      omega

/-- INTERNAL: slices of lists that agree there. -/
theorem slice_eq_of_getElem? {b b' : List α} {lo hi : ℕ}
    (h : ∀ i, lo ≤ i → i < hi → b[i]? = b'[i]?) : slice b lo hi = slice b' lo hi := by
  apply List.ext_getElem?
  intro i
  unfold slice
  by_cases hi' : i < hi - lo
  · rw [List.getElem?_take_of_lt hi', List.getElem?_take_of_lt hi', List.getElem?_drop,
      List.getElem?_drop]
    exact h (lo + i) (by omega) (by omega)
  · rw [List.getElem?_eq_none (by simp; omega), List.getElem?_eq_none (by simp; omega)]

/-- What is apart from the string stays. -/
theorem slice_overwrite_apart {b : List α} {start : ℕ} {raw : List α}
    (h : start + raw.length ≤ b.length) {lo hi : ℕ}
    (hapart : ∀ i, ¬ ((lo ≤ i ∧ i < hi) ∧ start ≤ i ∧ i < start + raw.length)) :
    slice (overwrite b start raw) lo hi = slice b lo hi := by
  apply slice_eq_of_getElem?
  intro i hlo hhi
  rw [getElem?_overwrite h, if_neg fun hin => hapart i ⟨⟨hlo, hhi⟩, hin⟩]

/-- A cell holds its string, and behind it what was there before. -/
theorem slice_overwrite {b : List α} {start width : ℕ} {raw : List α} (hfits : raw.length ≤ width)
    (h : start + width ≤ b.length) :
    slice (overwrite b start raw) start (start + width) =
      raw ++ slice b (start + raw.length) (start + width) := by
  have htake : (b.take start).length = start := by
    rw [List.length_take]
    omega
  have hrest : width - raw.length = start + width - (start + raw.length) := by omega
  unfold overwrite slice
  rw [Nat.add_sub_cancel_left, List.append_assoc, List.drop_left' htake, List.take_append, hrest,
    List.take_of_length_le hfits]

/-! ## All cells -/

theorem length_overwriteAll {b : List α} {cells : List (Cell α)}
    (h : ∀ c ∈ cells, c.Inside b.length) : (overwriteAll b cells).length = b.length := by
  induction cells generalizing b with
  | nil => rfl
  | cons c cells ih =>
    have hc : c.start + c.raw.length ≤ b.length := by
      have hinside := h c List.mem_cons_self
      have hfits := c.fits
      unfold Cell.Inside at hinside
      omega
    have hlength := length_overwrite hc
    show (overwriteAll (overwrite b c.start c.raw) cells).length = b.length
    rw [ih fun d hd => by rw [hlength]; exact h d (List.mem_cons_of_mem _ hd), hlength]

/-- What is apart from all cells stays. -/
theorem slice_overwriteAll_apart {b : List α} {cells : List (Cell α)}
    (h : ∀ c ∈ cells, c.Inside b.length) {lo hi : ℕ}
    (hapart : ∀ c ∈ cells, ∀ i, ¬ ((lo ≤ i ∧ i < hi) ∧ c.Has i)) :
    slice (overwriteAll b cells) lo hi = slice b lo hi := by
  induction cells generalizing b with
  | nil => rfl
  | cons c cells ih =>
    have hfits := c.fits
    have hc : c.start + c.raw.length ≤ b.length := by
      have hinside := h c List.mem_cons_self
      unfold Cell.Inside at hinside
      omega
    have hlength := length_overwrite hc
    show slice (overwriteAll (overwrite b c.start c.raw) cells) lo hi = _
    rw [ih (fun d hd => by rw [hlength]; exact h d (List.mem_cons_of_mem _ hd))
      fun d hd => hapart d (List.mem_cons_of_mem _ hd)]
    apply slice_overwrite_apart hc
    rintro i ⟨hin, hstart, hstop⟩
    exact hapart c List.mem_cons_self i ⟨hin, hstart, by omega⟩

/-- Every cell holds its string, and behind it what was there before. -/
theorem slice_overwriteAll_of_mem {b : List α} {cells : List (Cell α)}
    (h : ∀ c ∈ cells, c.Inside b.length) (hapart : cells.Pairwise Cell.Apart) {c : Cell α}
    (hc : c ∈ cells) :
    slice (overwriteAll b cells) c.start (c.start + c.width) =
      c.raw ++ slice b (c.start + c.raw.length) (c.start + c.width) := by
  induction cells generalizing b with
  | nil => cases hc
  | cons d cells ih =>
    obtain ⟨hd, hrest⟩ := List.pairwise_cons.mp hapart
    have hinside := h d List.mem_cons_self
    have hfits := d.fits
    have hbound : d.start + d.raw.length ≤ b.length := by
      unfold Cell.Inside at hinside
      omega
    have hlength := length_overwrite hbound
    have htail : ∀ e ∈ cells, e.Inside (overwrite b d.start d.raw).length := fun e he => by
      rw [hlength]
      exact h e (List.mem_cons_of_mem _ he)
    show slice (overwriteAll (overwrite b d.start d.raw) cells) _ _ = _
    rcases List.mem_cons.mp hc with rfl | hc
    · -- the cells behind it leave this one alone
      rw [slice_overwriteAll_apart htail fun e he i hboth => hd e he i hboth]
      exact slice_overwrite hfits hinside
    · rw [ih htail hrest hc]
      congr 1
      apply slice_overwrite_apart hbound
      rintro i ⟨hin, hstart, hstop⟩
      exact hd c hc i ⟨⟨hstart, by omega⟩, by omega, hin.2⟩

/-! ## Slots -/

/-- The place of a string in a buffer, and the string for every argument; where the string is not
the argument's own, it is the same for all. -/
structure Slot (β α : Type) where
  start : ℕ
  width : ℕ
  own : Bool
  text : β → List α
  fits : ∀ a, (text a).length ≤ width
  same : own = false → ∀ a a', text a = text a'

namespace Slot

variable {β : Type}

/-- A string that is the same for every argument. -/
def fixed (start : ℕ) (raw : List α) : Slot β α :=
  ⟨start, raw.length, false, fun _ => raw, fun _ => Nat.le_refl _, fun _ _ _ => rfl⟩

/-- An argument's own string. -/
def ofOwn (start width : ℕ) (text : β → List α) (fits : ∀ a, (text a).length ≤ width) : Slot β α :=
  ⟨start, width, true, text, fits, nofun⟩

/-- The cell of an argument. -/
def cell (a : β) (s : Slot β α) : Cell α := ⟨s.start, s.width, s.text a, s.fits a⟩

/-- Each slot is behind the end of those before it. -/
def Ordered (slots : List (Slot β α)) : Prop :=
  (slots.map fun s => (s.start, s.width)).Pairwise fun p q => p.1 + p.2 ≤ q.1

/-- All slots end inside a buffer of that size. -/
def Inside (slots : List (Slot β α)) (size : ℕ) : Prop :=
  ∀ p ∈ slots.map fun s => (s.start, s.width), p.1 + p.2 ≤ size

theorem Inside.cells {slots : List (Slot β α)} {size : ℕ} (h : Inside slots size) (a : β) :
    ∀ c ∈ slots.map (cell a), c.Inside size := by
  intro c hc
  obtain ⟨s, hs, rfl⟩ := List.mem_map.mp hc
  exact h (s.start, s.width) (List.mem_map_of_mem hs)

theorem Ordered.apart {slots : List (Slot β α)} (h : Ordered slots) (a : β) :
    (slots.map (cell a)).Pairwise Cell.Apart := by
  unfold Ordered at h
  rw [List.pairwise_map] at h ⊢
  apply h.imp
  rintro s t hst i ⟨⟨-, hstop⟩, hstart, -⟩
  have hbehind : s.start + s.width ≤ t.start := hst
  have hin : i < s.start + s.width := hstop
  have hin' : t.start ≤ i := hstart
  omega

/-- INTERNAL: buffers that agree there still do when the strings that are put there do. -/
theorem getElem?_overwriteAll_congr {slots : List (Slot β α)} {a a' : β} {i : ℕ}
    (h : ∀ s ∈ slots, s.start ≤ i → i < s.start + s.width → s.text a = s.text a') (b b' : List α)
    (hinside : Inside slots b.length) (hlength : b.length = b'.length) (hb : b[i]? = b'[i]?) :
    (overwriteAll b (slots.map (cell a)))[i]? = (overwriteAll b' (slots.map (cell a')))[i]? := by
  induction slots generalizing b b' with
  | nil => exact hb
  | cons s slots ih =>
    obtain ⟨hs, hslots⟩ := List.forall_mem_cons.mp h
    obtain ⟨hin, hins⟩ := List.forall_mem_cons.mp hinside
    dsimp only at hin
    have hfits := s.fits a
    have hfits' := s.fits a'
    have hput : s.start + (s.text a).length ≤ b.length := by omega
    have hput' : s.start + (s.text a').length ≤ b'.length := by omega
    refine ih hslots (overwrite b s.start (s.text a)) (overwrite b' s.start (s.text a')) ?_ ?_ ?_
    · rw [length_overwrite hput]
      exact hins
    · rw [length_overwrite hput, length_overwrite hput', hlength]
    · rw [getElem?_overwrite hput, getElem?_overwrite hput']
      by_cases hhas : s.start ≤ i ∧ i < s.start + s.width
      · rw [hs hhas.1 hhas.2, hb]
      · rw [if_neg (by omega), if_neg (by omega), hb]

end Slot

/-! ## Slices that are assigned -/

/-- `b[lo:hi] = raw`: the buffer grows or shrinks where the lengths differ. -/
def assign (b : List α) (lo hi : ℕ) (raw : List α) : List α :=
  b.take lo ++ raw ++ b.drop (max lo hi)

/-- Assignments `(lo, hi, raw)`, one after the other. -/
def assignAll (b : List α) (parts : List (ℕ × ℕ × List α)) : List α :=
  parts.foldl (fun b part => assign b part.1 part.2.1 part.2.2) b

/-- A slice that has the length of what is assigned is overwritten. -/
theorem assign_eq_overwrite (b : List α) {lo hi : ℕ} {raw : List α} (h : hi = lo + raw.length) :
    assign b lo hi raw = overwrite b lo raw := by
  unfold assign overwrite
  rw [Nat.max_eq_right (by omega), h]

theorem overwriteAll_append (b : List α) (cells cells' : List (Cell α)) :
    overwriteAll b (cells ++ cells') = overwriteAll (overwriteAll b cells) cells' :=
  List.foldl_append

theorem assignAll_append (b : List α) (parts parts' : List (ℕ × ℕ × List α)) :
    assignAll b (parts ++ parts') = assignAll (assignAll b parts) parts' :=
  List.foldl_append

/-- The assignment that puts a cell's string where it belongs. -/
def Cell.Puts (part : ℕ × ℕ × List α) (c : Cell α) : Prop :=
  part.1 = c.start ∧ part.2.1 = c.start + c.raw.length ∧ part.2.2 = c.raw

theorem assignAll_eq_overwriteAll (b : List α) {parts : List (ℕ × ℕ × List α)}
    {cells : List (Cell α)} (h : List.Forall₂ Cell.Puts parts cells) :
    assignAll b parts = overwriteAll b cells := by
  induction h generalizing b with
  | nil => rfl
  | @cons part c parts cells hput _ ih =>
    obtain ⟨hlo, hhi, hraw⟩ := hput
    show assignAll (assign b part.1 part.2.1 part.2.2) parts =
      overwriteAll (overwrite b c.start c.raw) cells
    rw [hlo, hhi, hraw, assign_eq_overwrite b rfl, ih]

/-- Two strings, the second right behind the first. -/
theorem overwrite_overwrite_behind {b : List α} {start : ℕ} {x y : List α}
    (h : start + x.length ≤ b.length) :
    overwrite (overwrite b start x) (start + x.length) y = overwrite b start (x ++ y) := by
  have htake : (b.take start ++ x).length = start + x.length := by
    rw [List.length_append, List.length_take]
    omega
  unfold overwrite
  rw [List.take_left' htake, ← htake, List.drop_append, htake, List.drop_of_length_le (by omega),
    List.nil_append, Nat.add_sub_cancel_left, List.drop_drop, List.length_append, Nat.add_assoc]
  simp only [List.append_assoc]

end SapRfc.Library.Layouts
