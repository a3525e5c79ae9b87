import SapRfc.Library.Patterns
import SapRfc.Analysis.Dicts
import SapRfc.Program.Basxml
import SapRfc.Program.Leaves

/-!
# Tables written as XML

A document is an element of rows, a row an element of columns, and a column an element of text in
which each character stands for itself, or is written as an entity or a reference.  Escaped text
has no bracket, so the scanner finds the end of a column behind its text; the columns of a row
have other names than the row, so it finds the end of the row behind its last column.  What the
references stand for is not scanned again.
-/

set_option autoImplicit false

namespace SapRfc.Analysis.XmlDocuments

open SapRfc.Library SapRfc.Library.Patterns SapRfc.Program

variable {u : Unicode} {int16 : PyStr → Option ℤ}

/-! ## Numerals -/

/-- A digit, up to `f` and `F`. -/
def IsDigit (c : ℕ) : Prop := 48 ≤ c ∧ c ≤ 57 ∨ 65 ≤ c ∧ c ≤ 70 ∨ 97 ≤ c ∧ c ≤ 102

instance (c : ℕ) : Decidable (IsDigit c) := inferInstanceAs (Decidable (_ ∨ _))

def digit (c : ℕ) : ℕ := if c ≤ 57 then c - 48 else if c ≤ 70 then c - 55 else c - 87

/-- The number that digits spell. -/
def number (base : ℕ) (digits : PyStr) : ℕ := digits.foldl (fun n c => base * n + digit c) 0

/-- Digits of a base, without a zero in front. -/
structure Numeral (base : ℕ) (digits : PyStr) : Prop where
  nonempty : digits ≠ []
  isDigit : ∀ c ∈ digits, IsDigit c ∧ digit c < base
  short : digits = [48] ∨ digits.headD 0 ≠ 48

/-- What `int` returns for numerals. -/
structure ReadsNumerals (u : Unicode) (int16 : PyStr → Option ℤ) : Prop where
  decimal : ∀ digits, Numeral 10 digits → u.int digits = some ((number 10 digits : ℕ) : ℤ)
  hexadecimal : ∀ digits, Numeral 16 digits → int16 digits = some ((number 16 digits : ℕ) : ℤ)

/-- INTERNAL: digits behind a number. -/
theorem le_foldl_digits (base : ℕ) (digits : PyStr) (n : ℕ) :
    n * base ^ digits.length ≤ digits.foldl (fun n c => base * n + digit c) n := by
  induction digits generalizing n with
  | nil => exact Nat.le_of_eq (Nat.mul_one n)
  | cons c digits ih =>
    have hrest := ih (base * n + digit c)
    have hle : n * base ^ (digits.length + 1) ≤ (base * n + digit c) * base ^ digits.length := by
      rw [pow_succ', ← mul_assoc, mul_comm n base]
      exact Nat.mul_le_mul_right _ (Nat.le_add_right _ _)
    exact hle.trans hrest

/-- A numeral of a character is not long. -/
theorem Numeral.length_le {base : ℕ} {digits : PyStr} (h : Numeral base digits) (hbase : 10 ≤ base)
    (hlt : number base digits < 0x110000) : digits.length ≤ 8 := by
  cases digits with
  | nil => exact absurd rfl h.nonempty
  | cons c digits =>
    rcases h.short with hzero | hne
    · rw [hzero]
      exact Nat.succ_le_succ (Nat.zero_le _)
    · by_contra hlong
      have hlength : 8 ≤ digits.length := by
        rw [List.length_cons] at hlong
        omega
      have hdigit : 1 ≤ digit c := by
        have hc := (h.isDigit c List.mem_cons_self).1
        rw [List.headD_cons] at hne
        unfold IsDigit at hc
        unfold digit
        split
        · omega
        · split <;> omega
      have hpow : 10 ^ 8 ≤ base ^ digits.length :=
        (Nat.pow_le_pow_left hbase 8).trans (Nat.pow_le_pow_right (by omega) hlength)
      have hnumber : 1 * base ^ digits.length ≤ number base (c :: digits) := by
        unfold number
        rw [List.foldl_cons, Nat.mul_zero, Nat.zero_add]
        exact (Nat.mul_le_mul_right _ hdigit).trans (le_foldl_digits base digits (digit c))
      omega

/-! ## Escaped text -/

/-- A text in which characters may be written as entities or references. -/
inductive Escaped : PyStr → PyStr → Prop
  | nil : Escaped [] []
  | raw {c : ℕ} {s t : PyStr} (hamp : c ≠ 38) (hopen : c ≠ 60) (h : Escaped s t) :
      Escaped (c :: s) (c :: t)
  | entity {name : PyStr} {c : ℕ} {s t : PyStr} (hname : (name, c) ∈ BASXML_ENTITIES)
      (h : Escaped s t) : Escaped (lit "&" ++ name ++ lit ";" ++ s) (c :: t)
  | decimal {digits s t : PyStr} (hdigits : Numeral 10 digits)
      (hlt : number 10 digits < 0x110000) (h : Escaped s t) :
      Escaped (lit "&#" ++ digits ++ lit ";" ++ s) (number 10 digits :: t)
  | hexadecimal {x : ℕ} {digits s t : PyStr} (hx : [x] = lit "x" ∨ [x] = lit "X")
      (hdigits : Numeral 16 digits) (hlt : number 16 digits < 0x110000) (h : Escaped s t) :
      Escaped (lit "&#" ++ [x] ++ digits ++ lit ";" ++ s) (number 16 digits :: t)

/-- INTERNAL: the end of a reference is found. -/
theorem idxOf_reference {ref : PyStr} (hmem : 59 ∉ ref) (hlength : ref.length ≤ 10) (s : PyStr) :
    ((ref ++ 59 :: s).take 11).idxOf? 59 = some ref.length := by
  obtain ⟨k, hk⟩ : ∃ k, 11 - ref.length = k + 1 := ⟨10 - ref.length, by omega⟩
  rw [List.take_append, List.take_of_length_le (by omega), hk, List.take_succ_cons,
    List.idxOf?_eq_some_iff]
  refine ⟨by rw [List.length_append, List.length_cons]; omega, ?_, ?_⟩
  · rw [List.getElem_append_right (Nat.le_refl _)]
    simp only [Nat.sub_self, List.getElem_cons_zero]
  · intro j hj heq
    rw [List.getElem_append_left hj] at heq
    exact hmem (heq ▸ List.getElem_mem hj)

/-- A reference is resolved. -/
theorem xml_unescape_reference {ref : PyStr} {c : ℕ} (hmem : 59 ∉ ref) (hlength : ref.length ≤ 10)
    (href : xml_reference u int16 ref = some c) (fuel : ℕ) (s : PyStr) :
    xml_unescape u int16 (fuel + 1) (38 :: (ref ++ 59 :: s)) =
      c :: xml_unescape u int16 fuel s := by
  have hdrop : (ref ++ 59 :: s).drop (ref.length + 1) = s := by
    rw [List.drop_append, List.drop_of_length_le (Nat.le_succ _), Nat.add_sub_cancel_left]
    rfl
  rw [xml_unescape, if_neg (not_not.mpr rfl), idxOf_reference hmem hlength]
  dsimp only
  rw [List.take_left, href, hdrop]

/-- INTERNAL: an entity's name is one of five. -/
theorem entity_cases (u : Unicode) (int16 : PyStr → Option ℤ) {name : PyStr} {c : ℕ}
    (h : (name, c) ∈ BASXML_ENTITIES) :
    59 ∉ name ∧ name.length ≤ 10 ∧ xml_reference u int16 name = some c := by
  have hall : ∀ e ∈ BASXML_ENTITIES, 59 ∉ e.1 ∧ e.1.length ≤ 10 ∧ e.1.take 1 ≠ lit "#" ∧
      assocGet BASXML_ENTITIES e.1 = some e.2 := by decide
  obtain ⟨hsemi, hlength, hhash, hget⟩ := hall (name, c) h
  refine ⟨hsemi, hlength, ?_⟩
  unfold xml_reference
  rw [if_neg hhash, hget]

/-- INTERNAL: digits are no delimiters. -/
theorem Numeral.not_mem {base c : ℕ} {digits : PyStr} (h : Numeral base digits)
    (hc : c = 59 ∨ c = 60 ∨ c = 88 ∨ c = 120) : c ∉ digits := by
  intro hmem
  have hdigit := (h.isDigit c hmem).1
  unfold IsDigit at hdigit
  omega

/-- INTERNAL: a reference to a character is the number behind it. -/
theorem bind_number {n : ℕ} (h : n < 0x110000) :
    (some (n : ℤ)).bind (fun code => if 0 ≤ code ∧ code < 0x110000 then some code.toNat else none) =
      some n := by
  rw [Option.bind_some, if_pos ⟨Int.natCast_nonneg n, by omega⟩, Int.toNat_natCast]

section References

variable (h : ReadsNumerals u int16)
include h

theorem xml_reference_decimal {digits : PyStr} (hdigits : Numeral 10 digits)
    (hlt : number 10 digits < 0x110000) :
    xml_reference u int16 (35 :: digits) = some (number 10 digits) := by
  have hhash : (35 :: digits).take 1 = lit "#" := rfl
  have hslice : slice (35 :: digits) 1 2 = digits.take 1 := rfl
  have hkind : ∀ x, x = 88 ∨ x = 120 → digits.take 1 ≠ [x] := by
    intro x hx heq
    have hmem : x ∈ digits.take 1 := by
      rw [heq]
      exact List.mem_singleton_self x
    exact hdigits.not_mem (by omega) (List.mem_of_mem_take hmem)
  unfold xml_reference
  have hneither : ¬ (digits.take 1 = lit "x" ∨ digits.take 1 = lit "X") :=
    not_or.mpr ⟨hkind 120 (.inr rfl), hkind 88 (.inl rfl)⟩
  rw [if_pos hhash, hslice, if_neg hneither]
  show (u.int digits).bind _ = _
  rw [h.decimal digits hdigits]
  exact bind_number hlt

theorem xml_reference_hexadecimal {x : ℕ} {digits : PyStr} (hx : [x] = lit "x" ∨ [x] = lit "X")
    (hdigits : Numeral 16 digits) (hlt : number 16 digits < 0x110000) :
    xml_reference u int16 (35 :: x :: digits) = some (number 16 digits) := by
  have hhash : (35 :: x :: digits).take 1 = lit "#" := rfl
  have hslice : slice (35 :: x :: digits) 1 2 = [x] := rfl
  unfold xml_reference
  rw [if_pos hhash, hslice, if_pos hx]
  show (int16 digits).bind _ = _
  rw [h.hexadecimal digits hdigits]
  exact bind_number hlt

/-- Escaped text is resolved. -/
theorem xml_unescape_escaped {s t : PyStr} (hescaped : Escaped s t) :
    ∀ fuel, s.length ≤ fuel → xml_unescape u int16 fuel s = t := by
  induction hescaped with
  | nil =>
    intro fuel _
    cases fuel <;> rfl
  | raw hamp hopen _ ih =>
    intro fuel hfuel
    rw [List.length_cons] at hfuel
    obtain ⟨fuel, rfl⟩ := Nat.exists_eq_add_of_le' (show 1 ≤ fuel by omega)
    rw [xml_unescape, if_pos hamp, ih fuel (by omega)]
  | @entity name c s t hname _ ih =>
    intro fuel hfuel
    obtain ⟨hsemi, hlength, href⟩ := entity_cases u int16 hname
    have hform : lit "&" ++ name ++ lit ";" ++ s = 38 :: (name ++ 59 :: s) := by
      rw [List.append_assoc, List.append_assoc]
      rfl
    rw [hform] at hfuel ⊢
    simp only [List.length_cons, List.length_append] at hfuel
    obtain ⟨fuel, rfl⟩ := Nat.exists_eq_add_of_le' (show 1 ≤ fuel by omega)
    rw [xml_unescape_reference hsemi hlength href, ih fuel (by omega)]
  | @decimal digits s t hdigits hlt _ ih =>
    intro fuel hfuel
    have hlength := hdigits.length_le (by omega) hlt
    have hform : lit "&#" ++ digits ++ lit ";" ++ s = 38 :: (35 :: digits ++ 59 :: s) := by
      rw [List.append_assoc, List.append_assoc]
      rfl
    have hsemi : 59 ∉ 35 :: digits :=
      List.not_mem_cons_of_ne_of_not_mem (by omega) (hdigits.not_mem (.inl rfl))
    rw [hform] at hfuel ⊢
    simp only [List.length_cons, List.length_append] at hfuel
    obtain ⟨fuel, rfl⟩ := Nat.exists_eq_add_of_le' (show 1 ≤ fuel by omega)
    rw [xml_unescape_reference hsemi (by rw [List.length_cons]; omega)
      (xml_reference_decimal h hdigits hlt), ih fuel (by omega)]
  | @hexadecimal x digits s t hx hdigits hlt _ ih =>
    intro fuel hfuel
    have hlength := hdigits.length_le (by omega) hlt
    have hform : lit "&#" ++ [x] ++ digits ++ lit ";" ++ s =
        38 :: (35 :: x :: digits ++ 59 :: s) := by
      rw [List.append_assoc, List.append_assoc, List.append_assoc]
      rfl
    have hne : 59 ≠ x := by
      rintro rfl
      rcases hx with hx | hx <;> exact absurd hx (by decide)
    have hsemi : 59 ∉ 35 :: x :: digits :=
      List.not_mem_cons_of_ne_of_not_mem (by omega)
        (List.not_mem_cons_of_ne_of_not_mem hne (hdigits.not_mem (.inl rfl)))
    rw [hform] at hfuel ⊢
    simp only [List.length_cons, List.length_append] at hfuel
    obtain ⟨fuel, rfl⟩ := Nat.exists_eq_add_of_le' (show 1 ≤ fuel by omega)
    rw [xml_unescape_reference hsemi (by rw [List.length_cons, List.length_cons]; omega)
      (xml_reference_hexadecimal h hx hdigits hlt), ih fuel (by omega)]

end References

/-- Escaped text has no opening bracket. -/
theorem Escaped.not_mem {s t : PyStr} (h : Escaped s t) : 60 ∉ s := by
  induction h with
  | nil => exact List.not_mem_nil
  | raw hamp hopen _ ih => exact List.not_mem_cons_of_ne_of_not_mem (Ne.symm hopen) ih
  | @entity name c s t hname _ ih =>
    have hall : ∀ e ∈ BASXML_ENTITIES, 60 ∉ e.1 := by decide
    have hopen := hall (name, c) hname
    simp only [List.mem_append, not_or]
    exact ⟨⟨⟨by decide, hopen⟩, by decide⟩, ih⟩
  | @decimal digits s t hdigits _ _ ih =>
    have hopen := hdigits.not_mem (.inr (.inl rfl))
    simp only [List.mem_append, not_or]
    exact ⟨⟨⟨by decide, hopen⟩, by decide⟩, ih⟩
  | @hexadecimal x digits s t hx hdigits _ _ ih =>
    have hopen := hdigits.not_mem (.inr (.inl rfl))
    have hne : 60 ∉ [x] := by
      rcases hx with hx | hx <;> rw [hx] <;> decide
    simp only [List.mem_append, not_or]
    exact ⟨⟨⟨⟨by decide, hne⟩, hopen⟩, by decide⟩, ih⟩

/-! ## Searches -/

section Searches

variable {text before content sub rest : PyStr} {lo hi : ℕ}

/-- A pattern is found behind a text that avoids it. -/
theorem find_spec (htext : text = before ++ (content ++ (sub ++ rest))) (hlo : before.length = lo)
    (havoids : Avoids sub content) (hhi : lo + content.length + sub.length ≤ hi) :
    find text sub lo hi = some (lo + content.length) := by
  have hlength : text.length = lo + (content.length + (sub.length + rest.length)) := by
    rw [htext]
    simp only [List.length_append]
    omega
  have hfound : slice text (lo + content.length) (lo + content.length + sub.length) = sub := by
    have h := slice_between (before ++ content) sub rest
    rwa [List.length_append, hlo, List.append_assoc, ← htext] at h
  unfold find
  rw [List.find?_range_eq_some]
  refine ⟨decide_eq_true ⟨Nat.le_add_right _ _, by omega, hfound⟩,
    List.mem_range.mpr (by omega), ?_⟩
  intro j hj
  rw [Bool.not_eq_true', decide_eq_false_iff_not]
  rintro ⟨hge, -, hslice⟩
  obtain ⟨k, rfl⟩ := Nat.exists_eq_add_of_le hge
  have hk : k < content.length := by omega
  have hdrop : text.drop (lo + k) = content.drop k ++ (sub ++ rest) := by
    rw [htext, ← hlo, List.drop_length_add_append, List.drop_append_of_le_length (Nat.le_of_lt hk)]
  have hbegins : sub <+: content.drop k ++ (sub ++ rest) := by
    rw [← hdrop, List.prefix_iff_eq_take]
    unfold slice at hslice
    rwa [Nat.add_sub_cancel_left, eq_comm] at hslice
  refine havoids _ (List.drop_suffix k content) ?_ _ hbegins
  intro hnil
  have hzero := congrArg List.length hnil
  rw [List.length_drop, List.length_nil] at hzero
  omega

/-- A pattern at the end of a text is the last one. -/
theorem rfind_spec (htext : text = before ++ sub) : rfind text sub = some before.length := by
  have hlength : text.length = before.length + sub.length := by
    rw [htext, List.length_append]
  have hfound : slice text before.length (before.length + sub.length) = sub := by
    have h := slice_between before sub []
    rwa [List.append_nil, ← htext] at h
  have hsplit : List.range (text.length + 1) = List.range before.length ++
      before.length :: List.range' (before.length + 1) sub.length := by
    have h := List.range'_append_1 (s := 0) (m := before.length) (n := sub.length + 1)
    rw [Nat.zero_add, List.range'_succ] at h
    rw [hlength, List.range_eq_range', List.range_eq_range', h, Nat.add_assoc]
  unfold rfind
  rw [List.find?_eq_some_iff_append]
  refine ⟨decide_eq_true ⟨by omega, hfound⟩, (List.range' (before.length + 1) sub.length).reverse,
    (List.range before.length).reverse, ?_, ?_⟩
  · rw [hsplit, List.reverse_append, List.reverse_cons, List.append_assoc, List.singleton_append]
  · intro i hi
    obtain ⟨hge, -⟩ := List.mem_range'_1.mp (List.mem_reverse.mp hi)
    rw [Bool.not_eq_true', decide_eq_false_iff_not]
    rintro ⟨hle, -⟩
    omega

end Searches

/-! ## Elements -/

/-- A name: no brackets, no slash, and nothing in front that makes it a declaration. -/
structure LegalName (name : PyStr) : Prop where
  nonempty : name ≠ []
  opening : 60 ∉ name
  closing : 62 ∉ name
  slash : 47 ∉ name
  start : name.take 1 ∉ [lit "?", lit "!"]

def closingTag (name : PyStr) : PyStr := lit "</" ++ name ++ lit ">"

/-- An element with its content. -/
def element (name content : PyStr) : PyStr :=
  lit "<" ++ name ++ lit ">" ++ content ++ closingTag name

/-- An element without content. -/
def selfClosing (name : PyStr) : PyStr := lit "<" ++ name ++ lit "/>"

section Elements

variable {name content text before rest : PyStr} {stop : ℕ}

theorem length_element (name content : PyStr) :
    (element name content).length = name.length + content.length + name.length + 5 := by
  unfold element closingTag
  simp only [List.length_append]
  have h1 : (lit "<").length = 1 := rfl
  have h2 : (lit ">").length = 1 := rfl
  have h3 : (lit "</").length = 2 := rfl
  omega

theorem length_selfClosing (name : PyStr) : (selfClosing name).length = name.length + 3 := by
  unfold selfClosing
  simp only [List.length_append]
  have h1 : (lit "<").length = 1 := rfl
  have h2 : (lit "/>").length = 2 := rfl
  omega

/-- INTERNAL: what a tag begins with. -/
theorem LegalName.take_not_mem (h : LegalName name) (more : PyStr) :
    (name ++ more).take 1 ∉ [lit "/", lit "?", lit "!"] := by
  obtain ⟨c, tail, rfl⟩ := List.exists_cons_of_ne_nil h.nonempty
  intro hmem
  rcases List.mem_cons.mp hmem with hslash | hstart
  · have hc : c = 47 := (List.cons.inj hslash).1
    exact h.slash (hc ▸ List.mem_cons_self)
  · exact h.start hstart

/-- INTERNAL: the tag that the scanner finds at an opening bracket. -/
theorem find_tag {tag : PyStr} (htext : text = before ++ (lit "<" ++ (tag ++ (lit ">" ++ rest))))
    (htag : 62 ∉ tag) (hstop : before.length + tag.length + 2 ≤ stop) :
    find text (lit "<") before.length stop = some before.length ∧
      find text (lit ">") (before.length + 1) stop = some (before.length + 1 + tag.length) ∧
      slice text (before.length + 1) (before.length + 1 + tag.length) = tag := by
  refine ⟨?_, ?_, ?_⟩
  · have hsplit : text = before ++ ([] ++ (lit "<" ++ (tag ++ (lit ">" ++ rest)))) := htext
    refine find_spec hsplit rfl (avoids_nil _) ?_
    show before.length + 0 + 1 ≤ stop
    omega
  · have hsplit : text = (before ++ lit "<") ++ (tag ++ (lit ">" ++ rest)) := by
      rw [htext, List.append_assoc]
    refine find_spec hsplit (List.length_append) (avoids_of_not_mem htag) ?_
    show before.length + 1 + tag.length + 1 ≤ stop
    omega
  · have h := slice_between (before ++ lit "<") tag (lit ">" ++ rest)
    rw [List.append_assoc, ← htext, List.length_append] at h
    exact h

/-- An element is found, and the scan goes on behind it. -/
theorem elements_paired (hname : LegalName name) (havoids : Avoids (closingTag name) content)
    (htext : text = before ++ (element name content ++ rest))
    (hstop : before.length + (element name content).length ≤ stop) (fuel : ℕ) :
    basxml_elements u text stop (fuel + 1) before.length =
      (name, before.length + 1 + name.length + 1,
        before.length + 1 + name.length + 1 + content.length) ::
        basxml_elements u text stop fuel (before.length + (element name content).length) := by
  rw [length_element] at hstop ⊢
  have htag : text = before ++ (lit "<" ++ (name ++ (lit ">" ++
      (content ++ (closingTag name ++ rest))))) := by
    rw [htext]
    unfold element
    simp only [List.append_assoc]
  have hstop : before.length + name.length + 2 ≤ stop := by omega
  obtain ⟨hopen, hclose, hslice⟩ := find_tag htag hname.closing hstop
  have hsplit : text = (before ++ lit "<" ++ name ++ lit ">") ++
      (content ++ (closingTag name ++ rest)) := by
    rw [htag]
    simp only [List.append_assoc]
  have hlength : (before ++ lit "<" ++ name ++ lit ">").length =
      before.length + 1 + name.length + 1 := by
    simp only [List.length_append]
    rfl
  have hclosing : (closingTag name).length = name.length + 3 := by
    unfold closingTag
    simp only [List.length_append]
    have h2 : (lit "</").length = 2 := rfl
    have h1 : (lit ">").length = 1 := rfl
    omega
  have hend := find_spec hsplit hlength havoids
    (show before.length + 1 + name.length + 1 + content.length + (closingTag name).length ≤ stop by
      omega)
  have hstart := hname.take_not_mem []
  rw [List.append_nil] at hstart
  have hlast : name.getLast? ≠ some 47 := fun h => hname.slash (List.mem_of_getLast? h)
  rw [basxml_elements, if_neg (by omega), hopen]
  dsimp only
  rw [hclose]
  dsimp only
  rw [hslice, if_neg hstart, if_neg hlast]
  have hpaired : find text (lit "</" ++ name ++ lit ">")
      (before.length + 1 + name.length + 1) stop =
      some (before.length + 1 + name.length + 1 + content.length) := hend
  rw [hpaired]
  dsimp only
  have hnext : before.length + 1 + name.length + 1 + content.length + (closingTag name).length =
      before.length + (name.length + content.length + name.length + 5) := by omega
  rw [← hnext]
  rfl

/-- An element without content is found, and the scan goes on behind it. -/
theorem elements_selfClosing (hname : LegalName name) (hstrip : strip u name = name)
    (htext : text = before ++ (selfClosing name ++ rest))
    (hstop : before.length + (selfClosing name).length ≤ stop) (fuel : ℕ) :
    basxml_elements u text stop (fuel + 1) before.length =
      (name, before.length + (selfClosing name).length,
          before.length + (selfClosing name).length) ::
        basxml_elements u text stop fuel (before.length + (selfClosing name).length) := by
  rw [length_selfClosing] at hstop ⊢
  have htag : text = before ++ (lit "<" ++ ((name ++ lit "/") ++ (lit ">" ++ rest))) := by
    rw [htext]
    unfold selfClosing
    simp only [List.append_assoc]
    rfl
  have hlength : (name ++ lit "/").length = name.length + 1 := List.length_append
  have hmem : 62 ∉ name ++ lit "/" := by
    rw [List.mem_append, not_or]
    exact ⟨hname.closing, by decide⟩
  obtain ⟨hopen, hclose, hslice⟩ := find_tag htag hmem
    (show before.length + (name ++ lit "/").length + 2 ≤ stop by omega)
  have hlast : (name ++ lit "/").getLast? = some 47 := List.getLast?_concat
  have hdrop : (name ++ lit "/").dropLast = name := List.dropLast_concat
  rw [basxml_elements, if_neg (by omega), hopen]
  dsimp only
  rw [hclose]
  dsimp only
  rw [hslice, if_neg (hname.take_not_mem _), if_pos hlast, hdrop, hstrip, hlength]
  have hnext : before.length + 1 + (name.length + 1) + 1 = before.length + (name.length + 3) := by
    omega
  rw [hnext]

end Elements

/-- A string that the scanner reads as one element: the name and the content. -/
inductive Element (u : Unicode) : PyStr → PyStr × PyStr → Prop
  | paired {name content : PyStr} (hname : LegalName name)
      (havoids : Avoids (closingTag name) content) :
      Element u (element name content) (name, content)
  | selfClosing {name : PyStr} (hname : LegalName name) (hstrip : strip u name = name) :
      Element u (XmlDocuments.selfClosing name) (name, [])

/-- A place of a text that has a name and a content. -/
def Placed (text : PyStr) (found : PyStr × ℕ × ℕ) (e : PyStr × PyStr) : Prop :=
  found.1 = e.1 ∧ ∃ before rest, text = before ++ (e.2 ++ rest) ∧ found.2.1 = before.length ∧
    found.2.2 = before.length + e.2.length

/-- INTERNAL: one element. -/
theorem Element.scan {part text before rest : PyStr} {e : PyStr × PyStr} {stop : ℕ}
    (h : Element u part e) (htext : text = before ++ (part ++ rest))
    (hstop : before.length + part.length ≤ stop) (fuel : ℕ) :
    part ≠ [] ∧ ∃ found, Placed text found e ∧
      basxml_elements u text stop (fuel + 1) before.length =
        found :: basxml_elements u text stop fuel (before.length + part.length) := by
  cases h with
  | @paired name content hname havoids =>
    refine ⟨List.cons_ne_nil _ _, _, ⟨rfl, before ++ lit "<" ++ name ++ lit ">",
      closingTag name ++ rest, ?_, ?_, ?_⟩, elements_paired hname havoids htext hstop fuel⟩
    · rw [htext]
      unfold element
      simp only [List.append_assoc]
    · simp only [List.length_append]
      rfl
    · simp only [List.length_append]
      rfl
  | @selfClosing name hname hstrip =>
    refine ⟨List.cons_ne_nil _ _, _,
      ⟨rfl, before ++ XmlDocuments.selfClosing name, rest, ?_, ?_, ?_⟩,
      elements_selfClosing hname hstrip htext hstop fuel⟩
    · rw [htext, List.append_assoc]
      rfl
    · exact List.length_append.symm
    · rw [List.length_append]
      rfl

/-- The elements of a text are found one behind the other. -/
theorem elements_flatten {parts : List PyStr} {es : List (PyStr × PyStr)} {text before rest : PyStr}
    {stop : ℕ} (h : List.Forall₂ (Element u) parts es)
    (htext : text = before ++ (parts.flatten ++ rest))
    (hstop : stop = before.length + parts.flatten.length) {fuel : ℕ}
    (hfuel : parts.flatten.length < fuel) :
    List.Forall₂ (Placed text) (basxml_elements u text stop fuel before.length) es := by
  induction h generalizing before fuel with
  | nil =>
    obtain ⟨fuel, rfl⟩ := Nat.exists_eq_add_one_of_ne_zero (Nat.ne_zero_of_lt hfuel)
    have hle : stop ≤ before.length := Nat.le_of_eq hstop
    rw [basxml_elements, if_pos hle]
    exact .nil
  | @cons part e parts es hpart _ ih =>
    obtain ⟨fuel, rfl⟩ := Nat.exists_eq_add_one_of_ne_zero (Nat.ne_zero_of_lt hfuel)
    rw [List.flatten_cons, List.append_assoc] at htext
    rw [List.flatten_cons, List.length_append] at hstop hfuel
    obtain ⟨hne, found, hplaced, hscan⟩ := hpart.scan htext
      (show before.length + part.length ≤ stop by omega) fuel
    have hpos := List.length_pos_of_ne_nil hne
    rw [← List.append_assoc] at htext
    have hrest := ih htext (by rw [List.length_append]; omega)
      (show parts.flatten.length < fuel by omega)
    rw [List.length_append] at hrest
    rw [hscan]
    exact .cons hplaced hrest

/-! ## Rows -/

/-- A column: its text, escaped and in an element, or an element without content. -/
inductive Column (u : Unicode) : PyStr → PyStr × PyStr → Prop
  | paired {name s t : PyStr} (h : Escaped s t) : Column u (element name s) (name, t)
  | selfClosing {name : PyStr} (hstrip : strip u name = name) :
      Column u (XmlDocuments.selfClosing name) (name, [])

/-- A row: its columns in an element. -/
def Row (u : Unicode) (row_name : PyStr) (part : PyStr) (row : List (PyStr × PyStr)) : Prop :=
  ∃ columns, List.Forall₂ (Column u) columns row ∧ part = element row_name columns.flatten

/-- A document: its rows in an element. -/
def Document (u : Unicode) (table_name row_name : PyStr) (doc : PyStr)
    (rows : List (List (PyStr × PyStr))) : Prop :=
  ∃ parts, List.Forall₂ (Row u row_name) parts rows ∧ doc = element table_name parts.flatten

/-- A row of a table: columns with names of their own, other than the row's. -/
structure LegalRow (row_name : PyStr) (row : List (PyStr × PyStr)) : Prop where
  nonempty : row ≠ []
  distinct : (row.map Prod.fst).Nodup
  legal : ∀ e ∈ row, LegalName e.1 ∧ e.1 ≠ row_name

section Rows

variable {row_name : PyStr} {row : List (PyStr × PyStr)} {text : PyStr}

/-- INTERNAL: the scanner reads a column as one element. -/
theorem Column.element {part : PyStr} {e : PyStr × PyStr} (h : Column u part e)
    (hname : LegalName e.1) :
    ∃ content, Element u part (e.1, content) ∧ Escaped content e.2 := by
  cases h with
  | @paired name s t h => exact ⟨s, .paired hname (avoids_of_not_mem h.not_mem), h⟩
  | @selfClosing name hstrip => exact ⟨[], .selfClosing hname hstrip, .nil⟩

/-- INTERNAL: no end of a row begins at the tag of a column. -/
theorem not_closing_of_open {name : PyStr} (hname : LegalName name) (rest : PyStr) :
    ¬ closingTag row_name <+: 60 :: (name ++ rest) := by
  intro h
  have hrest : 47 :: (row_name ++ lit ">") <+: name ++ rest := (List.cons_prefix_cons.mp h).2
  obtain ⟨c, tail, rfl⟩ := List.exists_cons_of_ne_nil hname.nonempty
  exact hname.slash ((List.cons_prefix_cons.mp hrest).1 ▸ List.mem_cons_self)

/-- INTERNAL: no end of a row begins at the end of a column. -/
theorem not_closing_of_closing {name : PyStr} (hname : LegalName name) (hrow : LegalName row_name)
    (hne : name ≠ row_name) (rest : PyStr) :
    ¬ closingTag row_name <+: 60 :: 47 :: (name ++ 62 :: rest) := by
  intro h
  have hrest : row_name ++ [62] <+: name ++ 62 :: rest :=
    (List.cons_prefix_cons.mp (List.cons_prefix_cons.mp h).2).2
  exact hne (eq_of_delimited hrow.closing hname.closing hrest).symm

/-- A column has no end of its row in it. -/
theorem Column.avoids {part : PyStr} {e : PyStr × PyStr} (h : Column u part e)
    (hname : LegalName e.1) (hrow : LegalName row_name) (hne : e.1 ≠ row_name) :
    Avoids (closingTag row_name) part := by
  cases h with
  | @paired name s t h =>
    have hend : Avoids (closingTag row_name) (60 :: 47 :: (name ++ [62])) := by
      refine Avoids.cons (fun rest => ?_) (avoids_of_not_mem ?_)
      · have hfirst := not_closing_of_closing hname hrow hne rest
        rwa [List.cons_append, List.append_assoc, List.singleton_append]
      · simp only [List.mem_cons, List.mem_append, not_or]
        exact ⟨by decide, hname.opening, by decide, List.not_mem_nil⟩
    have hsplit : XmlDocuments.element name s =
        60 :: (name ++ (62 :: s ++ 60 :: 47 :: (name ++ [62]))) := by
      unfold XmlDocuments.element closingTag
      simp only [List.append_assoc]
      rfl
    rw [hsplit]
    refine Avoids.cons (fun rest => ?_) ?_
    · rw [List.append_assoc]
      exact not_closing_of_open hname _
    · refine Avoids.append_of_not_mem (Avoids.append_of_not_mem hend ?_) hname.opening
      exact List.not_mem_cons_of_ne_of_not_mem (by decide) h.not_mem
  | @selfClosing name hstrip =>
    have hsplit : XmlDocuments.selfClosing name = 60 :: (name ++ [47, 62]) := by
      unfold XmlDocuments.selfClosing
      rw [List.append_assoc]
      rfl
    rw [hsplit]
    refine Avoids.cons (fun rest => ?_) (avoids_of_not_mem ?_)
    · rw [List.append_assoc]
      exact not_closing_of_open hname _
    · rw [List.mem_append, not_or]
      exact ⟨hname.opening, by decide⟩

/-- INTERNAL: the columns of a row, as elements. -/
theorem elements_of_columns {columns : List PyStr} (h : List.Forall₂ (Column u) columns row)
    (hlegal : ∀ e ∈ row, LegalName e.1) :
    ∃ es, List.Forall₂ (Element u) columns es ∧
      List.Forall₂ (fun e c : PyStr × PyStr => e.1 = c.1 ∧ Escaped e.2 c.2) es row := by
  induction h with
  | nil => exact ⟨[], .nil, .nil⟩
  | @cons part e columns row hcolumn _ ih =>
    obtain ⟨es, hes, hescaped⟩ := ih fun e he => hlegal e (List.mem_cons_of_mem _ he)
    obtain ⟨content, helement, htext⟩ := hcolumn.element (hlegal e List.mem_cons_self)
    exact ⟨(e.1, content) :: es, .cons helement hes, .cons ⟨rfl, htext⟩ hescaped⟩

/-- INTERNAL: the row's content has no end of the row in it. -/
theorem avoids_columns {columns : List PyStr} (h : List.Forall₂ (Column u) columns row)
    (hrow : LegalName row_name) (hlegal : ∀ e ∈ row, LegalName e.1 ∧ e.1 ≠ row_name) :
    Avoids (closingTag row_name) columns.flatten := by
  refine avoids_flatten fun part hpart => ?_
  induction h with
  | nil => cases hpart
  | @cons part' e columns row hcolumn _ ih =>
    rcases List.mem_cons.mp hpart with rfl | hpart
    · obtain ⟨hname, hne⟩ := hlegal e List.mem_cons_self
      exact hcolumn.avoids hname hrow hne
    · exact ih (fun e he => hlegal e (List.mem_cons_of_mem _ he)) hpart

/-- INTERNAL: a dictionary that is filled with entries of different keys. -/
theorem foldl_assocSet {d : List (PyStr × PyStr)} (h : ((d ++ row).map Prod.fst).Nodup) :
    row.foldl (fun d e => assocSet d e.1 e.2) d = d ++ row := by
  induction row generalizing d with
  | nil => rw [List.foldl_nil, List.append_nil]
  | cons e row ih =>
    have hfresh : ∀ e' ∈ d, e'.1 ≠ e.1 := by
      intro e' he' heq
      rw [List.map_append, List.nodup_append] at h
      exact h.2.2 e'.1 (List.mem_map_of_mem he') e.1 (List.mem_map_of_mem List.mem_cons_self) heq
    rw [List.foldl_cons, Dicts.assocSet_of_fresh e.2 hfresh, ih, List.append_assoc,
      List.singleton_append]
    rwa [List.append_assoc, List.singleton_append]

/-- INTERNAL: the text at a place is resolved. -/
theorem unescape_placed (h : ReadsNumerals u int16) {found : PyStr × ℕ × ℕ} {e : PyStr × PyStr}
    {t : PyStr} (hplaced : Placed text found e) (hescaped : Escaped e.2 t) :
    xml_unescape u int16 (text.length + 1) (slice text found.2.1 found.2.2) = t := by
  obtain ⟨-, before, rest, htext, hlo, hhi⟩ := hplaced
  have hslice : slice text found.2.1 found.2.2 = e.2 := by
    rw [hlo, hhi, htext, slice_between]
  have hlength := congrArg List.length htext
  simp only [List.length_append] at hlength
  rw [hslice]
  exact xml_unescape_escaped h hescaped _ (by omega)

/-- INTERNAL: the dictionary of a row, from the places of its columns. -/
theorem foldl_placed (h : ReadsNumerals u int16) {found : List (PyStr × ℕ × ℕ)}
    {es : List (PyStr × PyStr)} (hfound : List.Forall₂ (Placed text) found es)
    (hescaped : List.Forall₂ (fun e c : PyStr × PyStr => e.1 = c.1 ∧ Escaped e.2 c.2) es row)
    (d : List (PyStr × PyStr)) :
    found.foldl (fun d e => assocSet d e.1
        (xml_unescape u int16 (text.length + 1) (slice text e.2.1 e.2.2))) d =
      row.foldl (fun d e => assocSet d e.1 e.2) d := by
  induction hfound generalizing row d with
  | nil =>
    cases hescaped
    rfl
  | cons hplaced _ ih =>
    cases hescaped with
    | cons he hrest =>
      rw [List.foldl_cons, List.foldl_cons, unescape_placed h hplaced he.2, hplaced.1, he.1]
      exact ih hrest _

/-- A row is read. -/
theorem basxml_row_spec (h : ReadsNumerals u int16) {found : PyStr × ℕ × ℕ} {columns : List PyStr}
    (hplaced : Placed text found (row_name, columns.flatten))
    (hcolumns : List.Forall₂ (Column u) columns row) (hrow : LegalRow row_name row) :
    basxml_row u int16 text found = row := by
  obtain ⟨-, before, rest, htext, hlo, hhi⟩ := hplaced
  obtain ⟨es, hes, hescaped⟩ := elements_of_columns hcolumns fun e he => (hrow.legal e he).1
  have hlength := congrArg List.length htext
  simp only [List.length_append] at hlength
  have hfuel : columns.flatten.length < text.length + 1 := by omega
  have hfound := elements_flatten hes htext hhi hfuel
  have hdict := foldl_placed h hfound hescaped []
  rw [foldl_assocSet (show (([] ++ row).map Prod.fst).Nodup from hrow.distinct),
    List.nil_append, ← hlo] at hdict
  unfold basxml_row
  dsimp only
  rw [hdict, if_neg hrow.nonempty]

end Rows

/-! ## Documents -/

section Documents

variable {table_name row_name : PyStr} {rows : List (List (PyStr × PyStr))} {doc : PyStr}

/-- INTERNAL: the rows of a document, as elements. -/
theorem elements_of_rows {parts : List PyStr} (h : List.Forall₂ (Row u row_name) parts rows)
    (hname : LegalName row_name) (hrows : ∀ row ∈ rows, LegalRow row_name row) :
    ∃ es, List.Forall₂ (Element u) parts es ∧
      List.Forall₂ (fun (e : PyStr × PyStr) row => ∃ columns,
        List.Forall₂ (Column u) columns row ∧ e = (row_name, columns.flatten)) es rows := by
  induction h with
  | nil => exact ⟨[], .nil, .nil⟩
  | @cons part row parts rows hpart _ ih =>
    obtain ⟨es, hes, hcontents⟩ := ih fun row hrow => hrows row (List.mem_cons_of_mem _ hrow)
    obtain ⟨columns, hcolumns, rfl⟩ := hpart
    have havoids := avoids_columns hcolumns hname (hrows row List.mem_cons_self).legal
    exact ⟨(row_name, columns.flatten) :: es, .cons (.paired hname havoids) hes,
      .cons ⟨columns, hcolumns, rfl⟩ hcontents⟩

/-- INTERNAL: the rows at their places. -/
theorem map_placed (h : ReadsNumerals u int16) {found : List (PyStr × ℕ × ℕ)}
    {es : List (PyStr × PyStr)} (hfound : List.Forall₂ (Placed doc) found es)
    (hcontents : List.Forall₂ (fun (e : PyStr × PyStr) row => ∃ columns,
      List.Forall₂ (Column u) columns row ∧ e = (row_name, columns.flatten)) es rows)
    (hrows : ∀ row ∈ rows, LegalRow row_name row) :
    found.map (basxml_row u int16 doc) = rows := by
  induction hfound generalizing rows with
  | nil =>
    cases hcontents
    rfl
  | cons hplaced _ ih =>
    cases hcontents with
    | @cons _ row _ rows hcontent hrest =>
      obtain ⟨columns, hcolumns, rfl⟩ := hcontent
      rw [List.map_cons, basxml_row_spec h hplaced hcolumns (hrows row List.mem_cons_self),
        ih hrest fun row hrow => hrows row (List.mem_cons_of_mem _ hrow)]

/-- INTERNAL: the tag that a document begins with. -/
theorem document_tag (hname : LegalName table_name) (content : PyStr) :
    find (element table_name content) (lit "<") 0 (element table_name content).length = some 0 ∧
      find (element table_name content) (lit ">") 0 (element table_name content).length =
        some (table_name.length + 1) ∧
      slice (element table_name content) 1 (table_name.length + 1) = table_name := by
  have htext : element table_name content = [] ++ (lit "<" ++ (table_name ++ (lit ">" ++
      (content ++ closingTag table_name)))) := by
    unfold element
    simp only [List.append_assoc, List.nil_append]
  have hstop : ([] : PyStr).length + table_name.length + 2 ≤
      (element table_name content).length := by
    rw [length_element, List.length_nil]
    omega
  obtain ⟨hopen, -, hslice⟩ := find_tag htext hname.closing hstop
  refine ⟨hopen, ?_, ?_⟩
  · have hsplit : element table_name content = [] ++ ((lit "<" ++ table_name) ++ (lit ">" ++
        (content ++ closingTag table_name))) := by
      rw [htext, List.append_assoc]
    have hmem : 62 ∉ lit "<" ++ table_name := by
      rw [List.mem_append, not_or]
      exact ⟨by decide, hname.closing⟩
    have hlength : (lit "<" ++ table_name).length = table_name.length + 1 := by
      rw [List.length_append, Nat.add_comm]
      rfl
    have hbehind : 0 + (lit "<" ++ table_name).length + (lit ">").length ≤
        (element table_name content).length := by
      rw [length_element, hlength]
      show 0 + (table_name.length + 1) + 1 ≤ _
      omega
    have hclose := find_spec hsplit rfl (avoids_of_not_mem hmem) hbehind
    rwa [List.length_nil, Nat.zero_add, hlength] at hclose
  · rwa [List.length_nil, Nat.zero_add, Nat.add_comm] at hslice

/-- INTERNAL: a document begins with its element. -/
theorem skip_prologue_document (hname : LegalName table_name) (content : PyStr) (fuel : ℕ) :
    skip_prologue (fuel + 1) (element table_name content) 0 = 0 := by
  have hslice : slice (element table_name content) (0 + 1) (0 + 2) =
      (table_name ++ (lit ">" ++ (content ++ closingTag table_name))).take 1 := by
    have hsplit : element table_name content = 60 :: (table_name ++ (lit ">" ++
        (content ++ closingTag table_name))) := by
      unfold element
      simp only [List.append_assoc]
      rfl
    rw [hsplit]
    rfl
  have hstart := hname.take_not_mem (lit ">" ++ (content ++ closingTag table_name))
  rw [skip_prologue, (document_tag hname content).1]
  dsimp only
  rw [hslice, if_pos fun hmem => hstart (List.mem_cons_of_mem _ hmem)]

/-- INTERNAL: the rows stand between the tags of the table. -/
theorem basxml_body_document (hname : LegalName table_name) (content : PyStr) :
    basxml_body (element table_name content) =
      (table_name.length + 1 + 1, (element table_name content).length -
        (table_name.length + 3)) := by
  obtain ⟨-, hclose, hslice⟩ := document_tag hname content
  have hfirst : decide ((element table_name content).take 1 = lit "<") = true :=
    decide_eq_true rfl
  have hlast : element table_name content =
      (lit "<" ++ table_name ++ lit ">" ++ content) ++ closingTag table_name := rfl
  have hlength : (lit "<" ++ table_name ++ lit ">" ++ content).length =
      (element table_name content).length - (table_name.length + 3) := by
    have hclosing : (closingTag table_name).length = table_name.length + 3 := by
      unfold closingTag
      rw [List.length_append, List.length_append]
      show 2 + table_name.length + 1 = _
      omega
    have hsum := congrArg List.length hlast
    rw [List.length_append, hclosing] at hsum
    omega
  unfold basxml_body
  rw [hfirst, hclose]
  dsimp only
  rw [hslice]
  have hlast_tag : rfind (element table_name content) (lit "</" ++ table_name ++ lit ">") =
      some (lit "<" ++ table_name ++ lit ">" ++ content).length := rfind_spec hlast
  rw [hlast_tag, hlength]

/-- Every text can be escaped. -/
def escape (t : PyStr) : PyStr :=
  t.flatMap fun c => if c = 38 then lit "&amp;" else if c = 60 then lit "&lt;" else [c]

theorem escaped_escape (t : PyStr) : Escaped (escape t) t := by
  induction t with
  | nil => exact .nil
  | cons c t ih =>
    unfold escape at ih ⊢
    rw [List.flatMap_cons]
    split
    next hamp =>
      subst hamp
      exact .entity (show (lit "amp", 38) ∈ BASXML_ENTITIES by decide) ih
    next hamp =>
      split
      next hopen =>
        subst hopen
        exact .entity (show (lit "lt", 60) ∈ BASXML_ENTITIES by decide) ih
      next hopen => exact .raw hamp hopen ih

/-- So every list of rows has a document. -/
theorem exists_document (u : Unicode) (table_name row_name : PyStr)
    (rows : List (List (PyStr × PyStr))) : ∃ doc, Document u table_name row_name doc rows := by
  have hcolumns : ∀ row : List (PyStr × PyStr),
      List.Forall₂ (Column u) (row.map fun e => element e.1 (escape e.2)) row := by
    intro row
    rw [List.forall₂_map_left_iff, List.forall₂_same]
    exact fun e _ => .paired (escaped_escape e.2)
  refine ⟨_, rows.map fun row => element row_name
    (row.map fun e => element e.1 (escape e.2)).flatten, ?_, rfl⟩
  rw [List.forall₂_map_left_iff, List.forall₂_same]
  exact fun row _ => ⟨_, hcolumns row, rfl⟩

/-- XML tables are read as they are written: a document that encodes rows is decoded to these
rows, within the size and the number of rows that the decoder takes. -/
theorem document_round_trip (h : ReadsNumerals u int16) (htable : LegalName table_name)
    (hrow : LegalName row_name) (hrows : ∀ row ∈ rows, LegalRow row_name row)
    (hdoc : Document u table_name row_name doc rows)
    (hutf8 : u.utf8Replace (doc.flatMap utf8_char) = doc)
    (hbytes : (doc.flatMap utf8_char).length ≤ BASXML_MAX_BYTES)
    (hitems : rows.length ≤ BASXML_MAX_ITEMS) (name : PyStr) :
    decode_basxml_table u int16 (doc.flatMap utf8_char) name = .ok rows := by
  obtain ⟨parts, hparts, rfl⟩ := hdoc
  obtain ⟨es, hes, hcontents⟩ := elements_of_rows hparts hrow hrows
  have hmagic : ((element table_name parts.flatten).flatMap utf8_char).take 4 ≠
      BASXML_BINARY_MAGIC := by
    intro heq
    exact absurd (List.cons.inj heq).1 (by decide)
  have hsplit : element table_name parts.flatten = (lit "<" ++ table_name ++ lit ">") ++
      (parts.flatten ++ closingTag table_name) := by
    unfold element
    rw [List.append_assoc]
  have hbefore : (lit "<" ++ table_name ++ lit ">").length = table_name.length + 1 + 1 := by
    rw [List.length_append, List.length_append]
    show 1 + table_name.length + 1 = _
    omega
  have hlength := length_element table_name parts.flatten
  have hstop : (element table_name parts.flatten).length - (table_name.length + 3) =
      (lit "<" ++ table_name ++ lit ">").length + parts.flatten.length := by omega
  have hfound := elements_flatten hes hsplit hstop
    (show parts.flatten.length < (element table_name parts.flatten).length + 1 by omega)
  rw [hbefore] at hfound
  have hskip : skip_prologue (element table_name parts.flatten).length
      (element table_name parts.flatten) 0 = 0 := by
    obtain ⟨fuel, hfuel⟩ := Nat.exists_eq_add_one_of_ne_zero
      (show (element table_name parts.flatten).length ≠ 0 by omega)
    rw [hfuel]
    exact skip_prologue_document htable parts.flatten fuel
  have hcount := hfound.length_eq.trans hcontents.length_eq
  unfold decode_basxml_table
  rw [if_neg hmagic, if_neg (Nat.not_lt.mpr hbytes), hutf8]
  dsimp only
  rw [hskip, List.drop_zero, basxml_body_document htable]
  dsimp only
  rw [hcount, if_neg (Nat.not_lt.mpr hitems), map_placed h hfound hcontents hrows]

end Documents

/-- `int(digits, 16)` of digits. -/
def hexadecimalOf (digits : PyStr) : Option ℤ :=
  if digits ≠ [] ∧ ∀ c ∈ digits, IsDigit c then some ((number 16 digits : ℕ) : ℤ) else none

theorem readsNumerals_ascii : ReadsNumerals asciiTables hexadecimalOf := by
  constructor
  · intro digits h
    have hdecimal : ∀ c ∈ digits, 48 ≤ c ∧ c ≤ 57 := by
      intro c hc
      obtain ⟨hdigit, hlt⟩ := h.isDigit c hc
      unfold IsDigit at hdigit
      unfold digit at hlt
      split at hlt
      · omega
      · split at hlt <;> omega
    have hfold : digits.foldl (fun n c => 10 * n + (c - 48)) 0 = number 10 digits := by
      refine List.foldl_ext _ _ 0 fun n c hc => ?_
      unfold digit
      rw [if_pos (hdecimal c hc).2]
    have hall : digits.all (fun c => 48 ≤ c ∧ c ≤ 57) = true :=
      List.all_eq_true.mpr fun c hc => decide_eq_true (hdecimal c hc)
    show (if digits ≠ [] ∧ digits.all (fun c => 48 ≤ c ∧ c ≤ 57) then _ else _) = _
    rw [if_pos ⟨h.nonempty, hall⟩, hfold]
  · intro digits h
    exact if_pos ⟨h.nonempty, fun c hc => (h.isDigit c hc).1⟩

/-- Text that looks like an end tag, and a column whose name begins with another's. -/
theorem markup_round_trip :
    decode_basxml_table asciiTables hexadecimalOf
        ((lit "<T><r><A>&#65;&#x3c;/A&gt;</A><AB/></r></T>").flatMap utf8_char) (lit "T") =
      .ok [[(lit "A", lit "A</A>"), (lit "AB", [])]] := by
  have hlegal : ∀ name ∈ [lit "T", lit "r", lit "A", lit "AB"], LegalName name := by
    intro name hname
    simp only [List.mem_cons, List.not_mem_nil, or_false] at hname
    rcases hname with rfl | rfl | rfl | rfl
    all_goals constructor <;> decide
  have hdec : Numeral 10 (lit "65") := ⟨by decide, by decide, by decide⟩
  have hhex : Numeral 16 (lit "3c") := ⟨by decide, by decide, by decide⟩
  have hend : Escaped (lit "/A&gt;") (lit "/A>") :=
    .raw (by decide) (by decide) (.raw (by decide) (by decide)
      (.entity (show (lit "gt", 62) ∈ BASXML_ENTITIES by decide) .nil))
  have htext : Escaped (lit "&#65;&#x3c;/A&gt;") (lit "A</A>") :=
    .decimal hdec (by decide) (.hexadecimal (x := 120) (.inl rfl) hhex (by decide) hend)
  have hdoc : Document asciiTables (lit "T") (lit "r")
      (lit "<T><r><A>&#65;&#x3c;/A&gt;</A><AB/></r></T>")
      [[(lit "A", lit "A</A>"), (lit "AB", [])]] :=
    ⟨[_], .cons ⟨[_, _], .cons (.paired htext) (.cons (.selfClosing (by decide)) .nil), rfl⟩ .nil,
      rfl⟩
  refine document_round_trip readsNumerals_ascii (hlegal _ (by decide)) (hlegal _ (by decide)) ?_
    hdoc (by decide) ?_ ?_ _
  · intro row hrow
    obtain rfl := List.mem_singleton.mp hrow
    refine ⟨by decide, by decide, fun e he => ?_⟩
    simp only [List.mem_cons, List.not_mem_nil, or_false] at he
    rcases he with rfl | rfl
    · exact ⟨hlegal _ (by decide), by decide⟩
    · exact ⟨hlegal _ (by decide), by decide⟩
  · show 43 ≤ _
    norm_num [BASXML_MAX_BYTES]
  · show 1 ≤ _
    norm_num [BASXML_MAX_ITEMS]

end SapRfc.Analysis.XmlDocuments
