import Mathlib.Data.List.Basic

/-!
# Ring buffers

A ring holds the last elements of a history, each at its index modulo the size of the ring.  A
copy from some elements back takes one element at a time, and may read what it has written.  In
the ring the same copy is a loop over positions, as long as neither end wraps.
-/

set_option autoImplicit false

namespace SapRfc.Library.RingBuffers

variable {α : Type}

/-- The ring is full, and holds the end of the history. -/
structure Holds (ring history : List α) : Prop where
  nonempty : 0 < ring.length
  full : ring.length ≤ history.length
  last : ∀ i, history.length ≤ i + ring.length → i < history.length →
    ring[i % ring.length]? = history[i]?

/-- A copy of `n` elements, one at a time, each from `distance` elements back. -/
def copyBack (distance : ℕ) : ℕ → List α → List α
  | 0, history => history
  | n + 1, history =>
    let copied := copyBack distance n history
    copied ++ copied[copied.length - distance]?.toList

/-- The loop over the positions of a ring. -/
def copyRange (fallback : α) (src dst n : ℕ) (ring : List α) : List α :=
  (List.range n).foldl (fun ring i => ring.set (dst + i) (ring.getD (src + i) fallback)) ring

/-! ## Histories -/

theorem copyBack_succ (distance n : ℕ) (history : List α) :
    copyBack distance (n + 1) history = copyBack distance n history ++
      (copyBack distance n history)[(copyBack distance n history).length - distance]?.toList :=
  rfl

/-- A copy goes on where another ends. -/
theorem copyBack_add (distance m n : ℕ) (history : List α) :
    copyBack distance (m + n) history = copyBack distance n (copyBack distance m history) := by
  induction n with
  | zero => rfl
  | succ n ih => rw [Nat.add_succ, copyBack_succ, copyBack_succ, ih]

/-- A copy keeps what is there. -/
theorem prefix_copyBack (distance n : ℕ) (history : List α) :
    ∃ copied, copyBack distance n history = history ++ copied := by
  induction n with
  | zero => exact ⟨[], (List.append_nil _).symm⟩
  | succ n ih =>
    obtain ⟨copied, hcopied⟩ := ih
    rw [copyBack_succ]
    generalize (copyBack distance n history)[_ - distance]?.toList = x
    exact ⟨copied ++ x, by rw [hcopied, List.append_assoc]⟩

/-- A copy brings nothing new. -/
theorem mem_copyBack {distance n : ℕ} {history : List α} {x : α}
    (h : x ∈ copyBack distance n history) : x ∈ history := by
  induction n with
  | zero => exact h
  | succ n ih =>
    rw [copyBack_succ] at h
    rcases List.mem_append.mp h with hold | hnew
    · exact ih hold
    · exact ih (List.mem_of_getElem? (Option.mem_toList.mp hnew))

/-- A copy of what is mapped is what is copied, mapped. -/
theorem copyBack_map {β : Type} (f : α → β) (distance n : ℕ) (history : List α) :
    (copyBack distance n history).map f = copyBack distance n (history.map f) := by
  induction n with
  | zero => rfl
  | succ n ih =>
    rw [copyBack_succ, copyBack_succ, List.map_append, ← ih, List.length_map, List.getElem?_map]
    cases (copyBack distance n history)[(copyBack distance n history).length - distance]? <;> rfl

/-- INTERNAL: there is an element that far back. -/
theorem toList_back {distance : ℕ} {history : List α} (hpos : 1 ≤ distance)
    (hle : distance ≤ history.length) :
    ∃ x, history[history.length - distance]? = some x :=
  ⟨_, List.getElem?_eq_getElem (by omega)⟩

theorem length_copyBack {distance : ℕ} {history : List α} (hpos : 1 ≤ distance)
    (hle : distance ≤ history.length) (n : ℕ) :
    (copyBack distance n history).length = history.length + n := by
  induction n with
  | zero => rfl
  | succ n ih =>
    obtain ⟨x, hx⟩ := toList_back hpos (Nat.le_trans hle (by rw [ih]; exact Nat.le_add_right _ n))
    rw [copyBack_succ, hx, List.length_append, ih]
    rfl

/-- What a copy does not reach does not matter. -/
theorem copyBack_append {distance : ℕ} {history : List α} (earlier : List α) (hpos : 1 ≤ distance)
    (hle : distance ≤ history.length) (n : ℕ) :
    copyBack distance n (earlier ++ history) = earlier ++ copyBack distance n history := by
  induction n with
  | zero => rfl
  | succ n ih =>
    have hlength := length_copyBack hpos hle n
    have hindex : (earlier ++ copyBack distance n history).length - distance =
        earlier.length + ((copyBack distance n history).length - distance) := by
      rw [List.length_append]
      omega
    rw [copyBack_succ, copyBack_succ, ih, hindex, List.getElem?_append_right (Nat.le_add_right _ _),
      Nat.add_sub_cancel_left, List.append_assoc]

/-- A copy starts with the element that far back. -/
theorem copyBack_first {distance n : ℕ} {history : List α} {x : α} (hpos : 1 ≤ n)
    (hx : history[history.length - distance]? = some x) :
    ∃ rest, copyBack distance n history = history ++ x :: rest := by
  obtain ⟨m, rfl⟩ := Nat.exists_eq_add_of_le hpos
  have hone : copyBack distance 1 history = history ++ [x] := by
    rw [copyBack_succ, copyBack, hx]
    rfl
  obtain ⟨rest, hrest⟩ := prefix_copyBack distance m (history ++ [x])
  refine ⟨rest, ?_⟩
  rw [copyBack_add, hone, hrest, List.append_assoc, List.singleton_append]

/-! ## Rings -/

section Ring

variable {ring history : List α}

/-- INTERNAL: two indices of the ring's last round meet at one position only if they are equal. -/
theorem mod_ne {size i n : ℕ} (hlt : i < n) (hround : n < i + size) : n % size ≠ i % size := by
  intro heq
  have hdvd := Nat.dvd_of_mod_eq_zero (Nat.sub_mod_eq_zero_of_mod_eq heq)
  have hle := Nat.le_of_dvd (Nat.sub_pos_of_lt hlt) hdvd
  omega

/-- The next element goes to the next position. -/
theorem Holds.push (h : Holds ring history) (x : α) :
    Holds (ring.set (history.length % ring.length) x) (history ++ [x]) := by
  have hpos := h.nonempty
  have hfull := h.full
  refine ⟨by rwa [List.length_set], ?_, ?_⟩
  · rw [List.length_set, List.length_append]
    exact Nat.le_add_right_of_le hfull
  · intro i hlo hhi
    rw [List.length_set, List.length_append, List.length_singleton] at hlo
    rw [List.length_append, List.length_singleton] at hhi
    rw [List.length_set]
    rcases Nat.lt_succ_iff_lt_or_eq.mp hhi with hold | rfl
    · rw [List.getElem?_set_ne (mod_ne hold (by omega)), List.getElem?_append_left hold]
      exact h.last i (by omega) hold
    · rw [List.getElem?_set_self (Nat.mod_lt _ hpos), List.getElem?_append_right (Nat.le_refl _),
        Nat.sub_self]
      rfl

theorem copyRange_succ (fallback : α) (src dst n : ℕ) (ring : List α) :
    copyRange fallback src dst (n + 1) ring =
      (copyRange fallback src dst n ring).set (dst + n)
        ((copyRange fallback src dst n ring).getD (src + n) fallback) := by
  unfold copyRange
  rw [List.range_succ, List.foldl_append]
  rfl

@[simp] theorem length_copyRange (fallback : α) (src dst n : ℕ) (ring : List α) :
    (copyRange fallback src dst n ring).length = ring.length := by
  induction n with
  | zero => rfl
  | succ n ih => rw [copyRange_succ, List.length_set, ih]

/-- INTERNAL: a position that does not wrap. -/
theorem add_mod_of_lt {size i n : ℕ} (h : i % size + n < size) : (i + n) % size = i % size + n := by
  rw [← Nat.mod_add_mod, Nat.mod_eq_of_lt h]

/-- A loop over positions that do not wrap is a copy of one element at a time. -/
theorem Holds.copyRange {distance : ℕ} (h : Holds ring history) (hpos : 1 ≤ distance)
    (hle : distance ≤ ring.length) (fallback : α) {n : ℕ}
    (hsrc : (history.length - distance) % ring.length + n ≤ ring.length)
    (hdst : history.length % ring.length + n ≤ ring.length) :
    Holds (copyRange fallback ((history.length - distance) % ring.length)
      (history.length % ring.length) n ring) (copyBack distance n history) := by
  have hback : distance ≤ history.length := Nat.le_trans hle h.full
  induction n with
  | zero => exact h
  | succ n ih =>
    have hcopied := ih (by omega) (by omega)
    have hlength := length_copyBack hpos hback n
    have hto : (copyBack distance n history).length % ring.length =
        history.length % ring.length + n := by
      rw [hlength, add_mod_of_lt (by omega)]
    have hfrom : ((copyBack distance n history).length - distance) % ring.length =
        (history.length - distance) % ring.length + n := by
      have hsub : history.length + n - distance = history.length - distance + n := by omega
      rw [hlength, hsub, add_mod_of_lt (by omega)]
    have hreach : distance ≤ (copyBack distance n history).length := by
      rw [hlength]
      exact Nat.le_add_right_of_le hback
    obtain ⟨x, hx⟩ := toList_back hpos hreach
    have hread := hcopied.last ((copyBack distance n history).length - distance)
      (by rw [length_copyRange]; omega) (by omega)
    rw [length_copyRange, hfrom, hx] at hread
    have hpush := hcopied.push x
    rw [length_copyRange, hto] at hpush
    rw [copyRange_succ, copyBack_succ, hx, List.getD_eq_getElem?_getD, hread]
    exact hpush

/-- What was written last stands in the ring where it does not wrap. -/
theorem Holds.drop_take (h : Holds ring history) {start n : ℕ} (hend : start + n = history.length)
    (hdst : start % ring.length + n ≤ ring.length) :
    (ring.drop (start % ring.length)).take n = history.drop start := by
  refine List.ext_getElem? fun i => ?_
  rw [List.getElem?_take, List.getElem?_drop, List.getElem?_drop]
  split
  next hi =>
    have hlast := h.last (start + i) (by omega) (by omega)
    rwa [add_mod_of_lt (by omega)] at hlast
  next hi =>
    rw [List.getElem?_eq_none (by omega)]

end Ring

end SapRfc.Library.RingBuffers
