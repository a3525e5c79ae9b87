import SapRfc.Program.Invoke

/-!
# Text that comes back

A text that can be encoded in UTF-16LE is decoded to itself, and `_decode_utf16le` takes off
its padding.  ASCII text in single bytes is read by the same function as UTF-16LE when it has
an even number of bytes.
-/

set_option autoImplicit false

namespace SapRfc.Analysis.TextCodecs

open SapRfc.Library SapRfc.Program

/-- A string of the source language: its code points are those of Unicode. -/
def IsText (s : PyStr) : Prop := ∀ c ∈ s, c < 0x110000

/-- No blank and no NUL at the end. -/
def Trimmed (s : PyStr) : Prop := rstrip padding s = s

instance (s : PyStr) : Decidable (IsText s) := inferInstanceAs (Decidable (∀ c ∈ s, c < 0x110000))

instance (s : PyStr) : Decidable (Trimmed s) := inferInstanceAs (Decidable (_ = _))

/-! ## UTF-16LE -/

/-- The code units of a character. -/
def unitsOf (c : ℕ) : List ℕ :=
  if c < 0x10000 then [c] else [0xD800 + (c - 0x10000) / 1024, 0xDC00 + (c - 0x10000) % 1024]

/-- INTERNAL: a unit of two bytes is read back. -/
theorem utf16Units_unit {u : ℕ} (h : u < 0x10000) (rest : Bytes) :
    utf16Units (utf16Unit u ++ rest) = u :: utf16Units rest := by
  have hlow : (UInt8.ofNat u).toNat = u % 256 := UInt8.toNat_ofNat'
  have hhigh : (UInt8.ofNat (u / 256)).toNat = u / 256 % 256 := UInt8.toNat_ofNat'
  have hunit : utf16Unit u = [UInt8.ofNat u, UInt8.ofNat (u / 256)] := by
    simp [utf16Unit, toLE, toBE]
  rw [hunit]
  show ((UInt8.ofNat u).toNat + 256 * (UInt8.ofNat (u / 256)).toNat) :: utf16Units rest = _
  rw [hlow, hhigh, show u % 256 + 256 * (u / 256 % 256) = u by omega]

/-- INTERNAL: the bytes of a character are its units. -/
theorem utf16Units_char {c : ℕ} (h : c < 0x110000) (rest : Bytes) :
    utf16Units ((if c < 0x10000 then utf16Unit c
      else utf16Unit (0xD800 + (c - 0x10000) / 1024) ++
        utf16Unit (0xDC00 + (c - 0x10000) % 1024)) ++ rest) = unitsOf c ++ utf16Units rest := by
  unfold unitsOf
  split
  next hc => exact utf16Units_unit hc rest
  next hc =>
    rw [List.append_assoc, utf16Units_unit (by omega), utf16Units_unit (by omega)]
    rfl

/-- INTERNAL: the two halves of a pair. -/
theorem utf16Chars_pair {u v : ℕ} (hu : 0xD800 ≤ u) (hu' : u < 0xDC00) (hv : 0xDC00 ≤ v)
    (hv' : v < 0xE000) (rest : List ℕ) : utf16Chars (u :: v :: rest) =
      some (0x10000 + (u - 0xD800) * 1024 + (v - 0xDC00)) :: utf16Chars rest := by
  rw [utf16Chars, if_pos ⟨hu', hu, hv, hv'⟩]

/-- INTERNAL: the units of a character are decoded to it. -/
theorem utf16Chars_unitsOf {c : ℕ} (h : c < 0x110000) (hsurrogate : isSurrogate c = false)
    (rest : List ℕ) : utf16Chars (unitsOf c ++ rest) = some c :: utf16Chars rest := by
  unfold isSurrogate at hsurrogate
  rw [decide_eq_false_iff_not] at hsurrogate
  unfold unitsOf
  split
  next hc =>
    cases rest with
    | nil =>
      show [if isSurrogate c then none else some c] = _
      unfold isSurrogate
      rw [if_neg (by simpa using hsurrogate)]
      rfl
    | cons v rest =>
      show (if c < 0xDC00 ∧ 0xD800 ≤ c ∧ 0xDC00 ≤ v ∧ v < 0xE000 then _
        else if isSurrogate c then _ else some c :: utf16Chars (v :: rest)) = _
      unfold isSurrogate
      rw [if_neg (fun hpair => hsurrogate ⟨hpair.2.1, by omega⟩),
        if_neg (by simpa using hsurrogate)]
  next hc =>
    have hback : 0x10000 + (0xD800 + (c - 0x10000) / 1024 - 0xD800) * 1024 +
        (0xDC00 + (c - 0x10000) % 1024 - 0xDC00) = c := by omega
    rw [List.cons_append, List.cons_append, List.nil_append,
      utf16Chars_pair (by omega) (by omega) (by omega) (by omega), hback]

/-- INTERNAL: what was encoded, unit by unit. -/
theorem utf16Units_encode {s : PyStr} (h : IsText s) :
    utf16Units (s.flatMap fun c =>
      if c < 0x10000 then utf16Unit c
      else utf16Unit (0xD800 + (c - 0x10000) / 1024) ++ utf16Unit (0xDC00 + (c - 0x10000) % 1024)) =
      s.flatMap unitsOf := by
  induction s with
  | nil => rfl
  | cons c s ih =>
    rw [List.flatMap_cons, utf16Units_char (h c List.mem_cons_self),
      ih fun d hd => h d (List.mem_cons_of_mem _ hd), List.flatMap_cons]

/-- INTERNAL: and character by character. -/
theorem utf16Chars_units {s : PyStr} (h : IsText s) (hsurrogate : ∀ c ∈ s, isSurrogate c = false) :
    utf16Chars (s.flatMap unitsOf) = s.map some := by
  induction s with
  | nil => rfl
  | cons c s ih =>
    rw [List.flatMap_cons, utf16Chars_unitsOf (h c List.mem_cons_self)
        (hsurrogate c List.mem_cons_self),
      ih (fun d hd => h d (List.mem_cons_of_mem _ hd))
        (fun d hd => hsurrogate d (List.mem_cons_of_mem _ hd)), List.map_cons]

/-- INTERNAL: characters that are all there. -/
theorem mapM_some (s : PyStr) : (s.map some).mapM id = some s := by
  induction s with
  | nil => rfl
  | cons c s ih =>
    rw [List.map_cons, List.mapM_cons, ih]
    rfl

theorem even_length_encode {s : PyStr} {b : Bytes} (h : encodeUtf16le s = .ok b) :
    b.length % 2 = 0 := by
  unfold encodeUtf16le at h
  split at h
  · cases h
  · obtain rfl := Except.ok.inj h
    clear h
    induction s with
    | nil => rfl
    | cons c s ih =>
      rename_i hnone
      rw [List.flatMap_cons, List.length_append]
      have hrest := ih fun hs => hnone (by
        rw [List.any_cons, hs, Bool.or_true])
      split
      · rw [utf16Unit, length_toLE]
        omega
      · rw [List.length_append, utf16Unit, utf16Unit, length_toLE, length_toLE]
        omega

/-- A text comes back from UTF-16LE. -/
theorem decodeUtf16le_encode {s : PyStr} {b : Bytes} (htext : IsText s)
    (h : encodeUtf16le s = .ok b) : decodeUtf16le? b = some s := by
  have heven := even_length_encode h
  unfold encodeUtf16le at h
  split at h
  next => cases h
  next hnone =>
    rw [Bool.not_eq_true, List.any_eq_false] at hnone
    obtain rfl := Except.ok.inj h
    unfold decodeUtf16le?
    rw [if_neg (by omega), utf16Units_encode htext,
      utf16Chars_units htext fun c hc => Bool.eq_false_iff.mpr (hnone c hc), mapM_some]

/-- And from the reader of names and texts, without its padding. -/
theorem decode_utf16le_encode {s : PyStr} {b : Bytes} (htext : IsText s)
    (h : encodeUtf16le s = .ok b) : decode_utf16le b = rstrip padding s := by
  unfold decode_utf16le
  rw [decodeUtf16le_encode htext h]

theorem decode_utf16le_trimmed {s : PyStr} {b : Bytes} (htext : IsText s) (htrimmed : Trimmed s)
    (h : encodeUtf16le s = .ok b) : decode_utf16le b = s :=
  (decode_utf16le_encode htext h).trans htrimmed

/-- Only the empty text is encoded in nothing. -/
theorem encode_ne_nil {s : PyStr} {b : Bytes} (h : encodeUtf16le s = .ok b) (hne : s ≠ []) :
    b ≠ [] := by
  unfold encodeUtf16le at h
  split at h
  · cases h
  · obtain rfl := Except.ok.inj h
    cases s with
    | nil => exact absurd rfl hne
    | cons c s =>
      intro hnil
      rw [List.flatMap_cons, List.append_eq_nil_iff] at hnil
      have hlength := congrArg List.length hnil.1
      split at hlength
      · rw [utf16Unit, length_toLE] at hlength
        cases hlength
      · rw [List.length_append, utf16Unit, length_toLE] at hlength
        exact absurd hlength (by simp)

end SapRfc.Analysis.TextCodecs
