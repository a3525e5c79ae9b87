import SapRfc.Analysis.RowLayouts
import SapRfc.Program.Leaves

/-!
# Rows that stay in their spans

`_encode_structure` puts the bytes of a field at its offset, whatever their number.  `field_size` is
the number of bytes that a value takes, by the type of its field: only the text types are cut to the
width of the field, and they count characters, not code units.  A row stays in its spans, at every
nesting depth, exactly where no value takes more bytes than the span of its field has.
-/

set_option autoImplicit false

namespace SapRfc.Analysis.SpanBounds

open SapRfc.Library SapRfc.Program RowLayouts

/-! ## Sizes of values -/

/-- The bytes of a text in UTF-16: four for a character beyond the basic plane. -/
def uc_bytes (text : PyStr) : ℕ := (text.map fun c => if c < 0x10000 then 2 else 4).sum

/-- The bytes of a text in UTF-8. -/
def utf8_bytes (text : PyStr) : ℕ := (text.map fun c => (utf8_char c).length).sum

/-- The bytes of a text in a field of fixed width. -/
def text_size (value : PyVal PyLeaf) (field : FieldDesc) (pad : ℕ) : ℕ :=
  match value with
  | .leaf (.str text) => uc_bytes (fixed_text text field pad)
  | _ => 0

/-- The bytes of a value that stands for bytes. -/
def byte_count : PyVal PyLeaf → ℕ
  | .leaf (.bytes b) => b.length
  | .leaf (.int n) => n.toNat
  | .leaf (.bool b) => b.toNat
  | .list items => items.length
  | .dict entries => entries.length
  | _ => 0

/-- The bytes of a string of any length. -/
def string_size : PyVal PyLeaf → ℕ
  | .leaf (.str text) => utf8_bytes text
  | _ => 0

/-- The bytes of a value in a field of a scalar type. -/
def leaf_size (mode : Bool) (field : FieldDesc) (value : PyVal PyLeaf) : ℕ :=
  if field.rfctype ∈ [RFCTYPE_DECF16, RFCTYPE_DECF34] then
    if field.rfctype = RFCTYPE_DECF16 then 8 else 16
  else if field.rfctype ∈ INT_TYPES then int_size field.rfctype
  else if field.rfctype = RFCTYPE_BCD then width mode field
  else if field.rfctype = RFCTYPE_INT1 then 1
  else if field.rfctype = RFCTYPE_FLOAT then 8
  else if field.rfctype = RFCTYPE_CHAR then text_size value field 32
  else if field.rfctype = RFCTYPE_NUM then text_size value field 48
  else if field.rfctype = RFCTYPE_DATE then text_size value field 32
  else if field.rfctype = RFCTYPE_TIME then text_size value field 32
  else if field.rfctype = RFCTYPE_BYTE then byte_count value
  else if field.rfctype = RFCTYPE_STRING then string_size value
  else byte_count value

/-! ## Sizes of encodings -/

theorem length_encodeUtf16le {text : PyStr} {raw : Bytes} (h : encodeUtf16le text = .ok raw) :
    raw.length = uc_bytes text := by
  unfold encodeUtf16le at h
  split at h
  · cases h
  · obtain rfl := Except.ok.inj h
    unfold uc_bytes
    rw [List.length_flatMap]
    congr 1
    apply List.map_congr_left
    intro c _
    split
    · exact length_toLE 2 c
    · rw [List.length_append, utf16Unit, utf16Unit, length_toLE, length_toLE]

theorem length_swap_units (b : Bytes) : (swap_units b).length = b.length := by
  induction b using List.twoStepInduction with
  | nil => rfl
  | singleton a => rfl
  | cons_cons a b rest ih _ =>
    show (b :: a :: swap_units rest).length = _
    simp only [List.length_cons, ih]

theorem length_encode_uc {mode : Bool} {text : PyStr} {raw : Bytes}
    (h : encode_uc mode text = .ok raw) : raw.length = uc_bytes text := by
  unfold encode_uc at h
  cases hle : encodeUtf16le text with
  | error e =>
    rw [hle] at h
    cases mode <;> cases h
  | ok le =>
    rw [hle] at h
    obtain rfl := Except.ok.inj h
    split
    · exact length_encodeUtf16le hle
    · rw [length_swap_units, length_encodeUtf16le hle]

theorem length_encode_uc_fixed {value : PyVal PyLeaf} {field : FieldDesc} {pad : ℕ} {raw : Bytes}
    (h : encode_uc_fixed value field pad = .ok raw) : raw.length = text_size value field pad := by
  unfold encode_uc_fixed at h
  unfold text_size
  split at h
  · exact length_encode_uc h
  · dsimp only at h
    split at h
    · split at h <;> cases h
    · cases h

/-- INTERNAL: the width of a text is a property of the field. -/
theorem text_size_in_mode (mode : Bool) (value : PyVal PyLeaf) (field : FieldDesc) (pad : ℕ) :
    text_size value (in_mode mode field) pad = text_size value field pad := rfl

theorem length_encode_utf8 {value : PyVal PyLeaf} {raw : Bytes} (h : encode_utf8 value = .ok raw) :
    raw.length = string_size value := by
  unfold encode_utf8 at h
  unfold string_size
  split at h
  · split at h
    · cases h
    · obtain rfl := Except.ok.inj h
      exact List.length_flatMap
  · cases h

theorem length_py_bytes {value : PyVal PyLeaf} {raw : Bytes} (h : py_bytes value = .ok raw) :
    raw.length = byte_count value := by
  have hint : ∀ {n : ℤ}, bytes_of_int n = .ok raw → raw.length = n.toNat := by
    intro n hn
    unfold bytes_of_int at hn
    split at hn
    · cases hn
    · split at hn
      · cases hn
      · obtain rfl := Except.ok.inj hn
        exact List.length_replicate
  have hitems : ∀ {items : List (PyVal PyLeaf)}, items.mapM byte_of = .ok raw →
      raw.length = items.length := fun hmap => (Eff.except_mapM_eq_ok.mp hmap).1.symm
  unfold py_bytes at h
  split at h
  · obtain rfl := Except.ok.inj h
    rfl
  · exact hint h
  · next b =>
    have hlength := hint h
    cases b <;> exact hlength
  · cases h
  · exact hitems h
  · have hlength := hitems h
    rw [List.length_map] at hlength
    exact hlength
  · cases h

theorem length_encode_decfloat {value : PyDecimal} {width : ℕ} {raw : Bytes}
    (h : encode_decfloat value width = .ok raw) : raw.length = width := by
  have hreverse : ∀ n, (toBE width n).reverse.length = width := by
    intro n
    rw [List.length_reverse, length_toBE]
  unfold encode_decfloat at h
  split at h
  · cases h
  · dsimp only at h
    split at h
    · obtain rfl := Except.ok.inj h
      exact hreverse _
    · obtain rfl := Except.ok.inj h
      exact hreverse _
    · split at h
      · cases h
      · split at h
        · cases h
        · obtain ⟨coeff, -, hout⟩ := Eff.except_bind_eq_ok.mp h
          obtain rfl := Except.ok.inj hout
          exact hreverse _

theorem length_pack_int {size : ℕ} {n : ℤ} {raw : Bytes} (h : pack_int size n = .ok raw) :
    raw.length = size := by
  unfold pack_int at h
  split at h
  · obtain rfl := Except.ok.inj h
    exact length_toLE _ _
  · cases h

theorem length_encode_bcd {value : PyDecimal} {field : FieldDesc} {raw : Bytes}
    (h : encode_bcd value field = .ok raw) : raw.length = (bcd_width field).toNat := by
  unfold encode_bcd at h
  dsimp only at h
  split at h
  · cases h
  · obtain ⟨scaled, -, h⟩ := Eff.except_bind_eq_ok.mp h
    obtain ⟨unscaled, -, h⟩ := Eff.except_bind_eq_ok.mp h
    obtain ⟨digits, -, h⟩ := Eff.except_bind_eq_ok.mp h
    split at h
    · cases h
    · obtain rfl := Except.ok.inj h
      rw [List.length_map, List.length_range]

/-- INTERNAL: a computation in two steps. -/
theorem bind_eq_ok {α β : Type} {x : Except PyError α} {f : α → Except PyError β} {b : β}
    (h : x.bind f = .ok b) : ∃ a, x = .ok a ∧ f a = .ok b :=
  Eff.except_bind_eq_ok.mp h

theorem length_encode_bcd_value {k : Builtins} {value : PyVal PyLeaf} {field : FieldDesc}
    {raw : Bytes} (h : encode_bcd_value k value field = .ok raw) :
    raw.length = (bcd_width field).toNat := by
  unfold encode_bcd_value at h
  split at h
  · cases h
  · obtain ⟨d, -, hd⟩ := Eff.except_bind_eq_ok.mp h
    exact length_encode_bcd hd

/-- INTERNAL: a result that is given has this length. -/
def Gives (x : Except PyError Bytes) (size : ℕ) : Prop := ∀ raw, x = .ok raw → raw.length = size

/-- INTERNAL: the length of a result by cases. -/
theorem Gives.ite {c : Prop} [Decidable c] {x y : Except PyError Bytes} {m n : ℕ} (hx : Gives x m)
    (hy : Gives y n) : Gives (if c then x else y) (if c then m else n) := by
  split
  · exact hx
  · exact hy

/-- INTERNAL: an error has no length. -/
theorem Gives.unless {c : Prop} [Decidable c] {x : Except PyError Bytes} {e : PyError} {n : ℕ}
    (hx : Gives x n) : Gives (if c then .error e else x) n := by
  split
  · intro raw h
    cases h
  · exact hx

/-- INTERNAL: and neither has the last one. -/
theorem Gives.only {c : Prop} [Decidable c] {x : Except PyError Bytes} {e : PyError} {n : ℕ}
    (hx : Gives x n) : Gives (if c then x else .error e) n := by
  split
  · exact hx
  · intro raw h
    cases h

theorem gives_int1 {u : Unicode} {k : Builtins} (value : PyVal PyLeaf) :
    Gives ((py_int u k value).bind fun iv =>
      if 0 ≤ iv ∧ iv ≤ 0xFF then .ok [UInt8.ofNat iv.toNat]
      else .error (err .value (lit "INT1 out of range: " ++ lit (toString iv)))) 1 := by
  intro raw h
  obtain ⟨n, -, hn⟩ := bind_eq_ok h
  split at hn
  · obtain rfl := Except.ok.inj hn
    rfl
  · cases hn

theorem gives_float {k : Builtins} (value : PyVal PyLeaf) :
    Gives ((py_float k value).map fun bits => toLE 8 bits.toNat) 8 := by
  intro raw h
  cases hbits : py_float k value with
  | error e =>
    rw [hbits] at h
    cases h
  | ok bits =>
    rw [hbits] at h
    obtain rfl := Except.ok.inj h
    exact length_toLE _ _

/-- INTERNAL: a text in its field. -/
theorem gives_text (mode : Bool) (value : PyVal PyLeaf) (field : FieldDesc) (pad : ℕ) :
    Gives (encode_uc_fixed value (in_mode mode field) pad) (text_size value field pad) :=
  fun _ h => (length_encode_uc_fixed h).trans (text_size_in_mode _ _ _ _)

/-- A scalar is encoded in the bytes that its type says. -/
theorem length_encode_leaf {u : Unicode} {k : Builtins} {mode : Bool} {field : FieldDesc}
    {value : PyVal PyLeaf} :
    Gives (encode_leaf u k field.rfctype value (in_mode mode field))
      (leaf_size mode field value) := by
  unfold encode_leaf leaf_size
  -- one after the other, as both definitions have the types
  apply Gives.unless
  apply Gives.ite
  · intro raw h
    obtain ⟨d, -, hd⟩ := bind_eq_ok h
    exact length_encode_decfloat hd
  apply Gives.ite
  · intro raw h
    obtain ⟨n, -, hn⟩ := bind_eq_ok h
    exact length_pack_int hn
  apply Gives.ite
  · exact fun raw h => length_encode_bcd_value h
  apply Gives.ite
  · exact gives_int1 value
  apply Gives.ite
  · exact gives_float value
  apply Gives.ite
  · exact gives_text mode value field 32
  apply Gives.ite
  · exact gives_text mode value field 48
  apply Gives.ite
  · exact gives_text mode value field 32
  apply Gives.ite
  · exact gives_text mode value field 32
  apply Gives.ite
  · exact fun raw h => length_py_bytes h
  apply Gives.ite
  · exact fun raw h => length_encode_utf8 h
  apply Gives.only
  exact fun raw h => length_py_bytes h

/-! ## Rows inside rows -/

/-- The value that is encoded in a field: the one that is given, or the initial one. -/
def value_of (s : Scalars PyLeaf) (field : FieldDesc) (value : PyVal PyLeaf) : PyVal PyLeaf :=
  match s.lookup_name field.name value with
  | .ok (some given) => given
  | _ => s.default_field_value field.rfctype

/-- The rows of a value that stands for a table. -/
def rows_of (s : Scalars PyLeaf) (value : PyVal PyLeaf) : List (PyVal PyLeaf) :=
  match s.items_of value with
  | .ok rows => rows
  | .error _ => []

/-- A layout that stands in another one, at any depth. -/
inductive Within : TypeDesc → TypeDesc → Prop where
  | here (type_desc : TypeDesc) : Within type_desc type_desc
  | field {type_desc inner deep : TypeDesc} {f : FieldDesc} (hf : f ∈ type_desc.fields)
      (hnested : f.rfctype ∈ [RFCTYPE_STRUCTURE, RFCTYPE_TABLE]) (hinner : f.type_desc = some inner)
      (hdeep : Within inner deep) : Within type_desc deep

/-- A row that is encoded with another one, at any depth. -/
inductive Reaches (s : Scalars PyLeaf) :
    TypeDesc → PyVal PyLeaf → TypeDesc → PyVal PyLeaf → Prop where
  | here (type_desc : TypeDesc) (value : PyVal PyLeaf) : Reaches s type_desc value type_desc value
  | nested {type_desc inner deep : TypeDesc} {value last : PyVal PyLeaf} {f : FieldDesc}
      (hf : f ∈ type_desc.fields) (htype : f.rfctype = RFCTYPE_STRUCTURE)
      (hinner : f.type_desc = some inner)
      (hdeep : Reaches s inner (value_of s f value) deep last) : Reaches s type_desc value deep last
  | row {type_desc inner deep : TypeDesc} {value row last : PyVal PyLeaf} {f : FieldDesc}
      (hf : f ∈ type_desc.fields) (htype : f.rfctype = RFCTYPE_TABLE)
      (hinner : f.type_desc = some inner) (hrow : row ∈ rows_of s (value_of s f value))
      (hdeep : Reaches s inner row deep last) : Reaches s type_desc value deep last

/-- The spans are disjoint and inside, at every depth. -/
def WellSpanned (mode : Bool) (type_desc : TypeDesc) : Prop :=
  ∀ deep, Within type_desc deep → Spanned mode deep

/-- The bytes of a value in a field. -/
def field_size (s : Scalars PyLeaf) (mode : Bool) (field : FieldDesc) (value : PyVal PyLeaf) : ℕ :=
  if field.rfctype = RFCTYPE_STRUCTURE then
    match field.type_desc with
    | none => 0
    | some inner => (inner.row_size mode).toNat
  else if field.rfctype = RFCTYPE_TABLE then
    match field.type_desc with
    | none => 0
    | some inner => (rows_of s value).length * (inner.row_size mode).toNat
  else leaf_size mode field value

/-- No value of the row takes more bytes than its span has. -/
def RowFits (s : Scalars PyLeaf) (mode : Bool) (type_desc : TypeDesc) (value : PyVal PyLeaf) :
    Prop :=
  ∀ f ∈ type_desc.fields, field_size s mode f (value_of s f value) ≤ width mode f

/-- The buffer has the size of the structure, and the bytes of each field are in its span. -/
def StaysIn (u : Unicode) (s : Scalars PyLeaf) (mode : Bool) (type_desc : TypeDesc)
    (value : PyVal PyLeaf) (out : Bytes) : Prop :=
  (out.length : ℤ) = type_desc.row_size mode ∧
    ∀ f ∈ type_desc.fields, ∀ raw, s.encode_child u mode f value = .ok (some raw) →
      raw.length ≤ width mode f ∧
        span_of mode f out = raw ++ List.replicate (width mode f - raw.length) 0

/-! ## One row -/

section Encoded

variable {u : Unicode} {k : Builtins} {mode : Bool}

/-- INTERNAL: a field whose bytes are there. -/
theorem encode_given_of_child {f : FieldDesc} {value : PyVal PyLeaf} {raw : Bytes}
    (h : (leafScalars u k).encode_child u mode f value = .ok (some raw)) :
    encode_given u (leafScalars u k) mode f (value_of (leafScalars u k) f value) = .ok raw := by
  rw [encode_child_eq] at h
  obtain ⟨given, hgiven, h⟩ := bind_eq_ok h
  have hvalue : value_of (leafScalars u k) f value =
      given.getD ((leafScalars u k).default_field_value f.rfctype) := by
    unfold value_of
    rw [hgiven]
    cases given <;> rfl
  rw [hvalue]
  split at h
  · cases h
  · cases hraw : encode_given u (leafScalars u k) mode f
        (given.getD ((leafScalars u k).default_field_value f.rfctype)) with
    | error e =>
      rw [hraw] at h
      cases h
    | ok bytes =>
      rw [hraw] at h
      rw [Option.some.inj (Except.ok.inj h)]

/-- INTERNAL: a field that is left out has no layout. -/
theorem skipped_of_child {f : FieldDesc} {value : PyVal PyLeaf}
    (h : (leafScalars u k).encode_child u mode f value = .ok none) :
    f.rfctype ∈ [RFCTYPE_STRUCTURE, RFCTYPE_TABLE] ∧ f.type_desc = none := by
  rw [encode_child_eq] at h
  obtain ⟨given, -, h⟩ := bind_eq_ok h
  split at h
  · next hskip => exact ⟨hskip.2.1, Option.isNone_iff_eq_none.mp hskip.2.2⟩
  · cases hraw : encode_given u (leafScalars u k) mode f
        (given.getD ((leafScalars u k).default_field_value f.rfctype)) with
    | error e =>
      rw [hraw] at h
      cases h
    | ok bytes =>
      rw [hraw] at h
      cases h

/-- INTERNAL: every field of a row that is encoded is encoded. -/
theorem child_of_structure {type_desc : TypeDesc} {value : PyVal PyLeaf} {out : Bytes}
    (h : (leafScalars u k).encode_structure u mode type_desc value = .ok out) {f : FieldDesc}
    (hf : f ∈ type_desc.fields) :
    ∃ raw, (leafScalars u k).encode_child u mode f value = .ok raw := by
  obtain ⟨-, raws, hraws, -⟩ := encode_structure_eq_ok.mp h
  obtain ⟨hlength, hall⟩ := forall_of_mapM hraws
  obtain ⟨raw, hmem⟩ := exists_zip_of_mem hlength hf
  exact ⟨raw, hall _ hmem⟩

/-- INTERNAL: a structure in a row. -/
theorem structure_of_child {f : FieldDesc} {inner : TypeDesc} {value : PyVal PyLeaf}
    {raw : Option Bytes} (htype : f.rfctype = RFCTYPE_STRUCTURE) (hinner : f.type_desc = some inner)
    (h : (leafScalars u k).encode_child u mode f value = .ok raw) :
    ∃ bytes, raw = some bytes ∧
      (leafScalars u k).encode_structure u mode inner (value_of (leafScalars u k) f value) =
        .ok bytes := by
  cases raw with
  | none =>
    have hnone := (skipped_of_child h).2
    rw [hinner] at hnone
    cases hnone
  | some bytes =>
    have hgiven := encode_given_of_child h
    unfold encode_given at hgiven
    rw [if_pos htype, hinner] at hgiven
    exact ⟨bytes, rfl, hgiven⟩

/-- INTERNAL: a table in a row. -/
theorem rows_of_child {f : FieldDesc} {inner : TypeDesc} {value : PyVal PyLeaf}
    {raw : Option Bytes} (htype : f.rfctype = RFCTYPE_TABLE) (hinner : f.type_desc = some inner)
    (h : (leafScalars u k).encode_child u mode f value = .ok raw) :
    ∃ raws, raw = some raws.flatten ∧
      ((rows_of (leafScalars u k) (value_of (leafScalars u k) f value)).mapM
        fun row => (leafScalars u k).encode_structure u mode inner row) = .ok raws := by
  have hnot : ¬ f.rfctype = RFCTYPE_STRUCTURE := by
    rw [htype]
    decide
  cases raw with
  | none =>
    have hnone := (skipped_of_child h).2
    rw [hinner] at hnone
    cases hnone
  | some bytes =>
    have hgiven := encode_given_of_child h
    unfold encode_given at hgiven
    rw [if_neg hnot, if_pos htype, hinner] at hgiven
    obtain ⟨rows, hrows, hgiven⟩ := Eff.except_bind_eq_ok.mp hgiven
    obtain ⟨raws, hraws, hgiven⟩ := Eff.except_bind_eq_ok.mp hgiven
    refine ⟨raws, congrArg some (Except.ok.inj hgiven).symm, ?_⟩
    unfold rows_of
    rw [hrows]
    exact hraws

/-- INTERNAL: a row that is encoded with another one is encoded. -/
theorem encoded_of_reaches {type_desc deep : TypeDesc} {value last : PyVal PyLeaf}
    (h : Reaches (leafScalars u k) type_desc value deep last) {out : Bytes}
    (hout : (leafScalars u k).encode_structure u mode type_desc value = .ok out) :
    ∃ raw, (leafScalars u k).encode_structure u mode deep last = .ok raw := by
  induction h generalizing out with
  | here => exact ⟨out, hout⟩
  | nested hf htype hinner _ ih =>
    obtain ⟨raw, hraw⟩ := child_of_structure hout hf
    obtain ⟨bytes, -, hbytes⟩ := structure_of_child htype hinner hraw
    exact ih hbytes
  | row hf htype hinner hrow _ ih =>
    obtain ⟨raw, hraw⟩ := child_of_structure hout hf
    obtain ⟨raws, -, hraws⟩ := rows_of_child htype hinner hraw
    obtain ⟨i, hi, rfl⟩ := List.getElem_of_mem hrow
    obtain ⟨hlength, hall⟩ := Eff.except_mapM_eq_ok.mp hraws
    exact ih (hall i hi (hlength ▸ hi))

/-- INTERNAL: layouts in each other. -/
theorem within_trans {type_desc deep deeper : TypeDesc} (h : Within type_desc deep)
    (hdeeper : Within deep deeper) : Within type_desc deeper := by
  induction h with
  | here => exact hdeeper
  | field hf hnested hinner _ ih => exact .field hf hnested hinner (ih hdeeper)

/-- INTERNAL: rows in each other. -/
theorem reaches_trans {s : Scalars PyLeaf} {type_desc deep deeper : TypeDesc}
    {value last lower : PyVal PyLeaf} (h : Reaches s type_desc value deep last)
    (hlower : Reaches s deep last deeper lower) : Reaches s type_desc value deeper lower := by
  induction h with
  | here => exact hlower
  | nested hf htype hinner _ ih => exact .nested hf htype hinner (ih hlower)
  | row hf htype hinner hrow _ ih => exact .row hf htype hinner hrow (ih hlower)

theorem within_of_reaches {type_desc deep : TypeDesc} {value last : PyVal PyLeaf}
    {s : Scalars PyLeaf} (h : Reaches s type_desc value deep last) : Within type_desc deep := by
  induction h with
  | here => exact .here _
  | nested hf htype hinner _ ih => exact .field hf (by simp [htype]) hinner ih
  | row hf htype hinner _ _ ih => exact .field hf (by simp [htype]) hinner ih

/-- INTERNAL: a field takes the bytes that its value says, if the rows in it have their size. -/
theorem length_of_child {f : FieldDesc} {value : PyVal PyLeaf} {raw : Bytes}
    (h : (leafScalars u k).encode_child u mode f value = .ok (some raw))
    (hstructure : ∀ inner, f.rfctype = RFCTYPE_STRUCTURE → f.type_desc = some inner →
      ∀ out, (leafScalars u k).encode_structure u mode inner
        (value_of (leafScalars u k) f value) = .ok out → out.length = (inner.row_size mode).toNat)
    (htable : ∀ inner, f.rfctype = RFCTYPE_TABLE → f.type_desc = some inner →
      ∀ row ∈ rows_of (leafScalars u k) (value_of (leafScalars u k) f value),
        ∀ out, (leafScalars u k).encode_structure u mode inner row = .ok out →
          out.length = (inner.row_size mode).toNat) :
    raw.length = field_size (leafScalars u k) mode f (value_of (leafScalars u k) f value) := by
  have hgiven := encode_given_of_child h
  unfold field_size
  by_cases htype : f.rfctype = RFCTYPE_STRUCTURE
  · rw [if_pos htype]
    cases hinner : f.type_desc with
    | none =>
      unfold encode_given at hgiven
      rw [if_pos htype, hinner] at hgiven
      cases hgiven
    | some inner =>
      obtain ⟨bytes, hbytes, hencoded⟩ := structure_of_child htype hinner h
      rw [Option.some.inj hbytes]
      exact hstructure inner htype hinner bytes hencoded
  · rw [if_neg htype]
    by_cases htype' : f.rfctype = RFCTYPE_TABLE
    · rw [if_pos htype']
      cases hinner : f.type_desc with
      | none =>
        unfold encode_given at hgiven
        rw [if_neg htype, if_pos htype', hinner] at hgiven
        cases hgiven
      | some inner =>
        obtain ⟨raws, hraws, hencoded⟩ := rows_of_child htype' hinner h
        obtain ⟨hlength, hall⟩ := Eff.except_mapM_eq_ok.mp hencoded
        have hwidth : ∀ x ∈ raws, x.length = (inner.row_size mode).toNat := by
          intro x hx
          obtain ⟨i, hi, rfl⟩ := List.getElem_of_mem hx
          have hi' := hlength.symm ▸ hi
          exact htable inner htype' hinner _ (List.getElem_mem hi') _ (hall i hi' hi)
        rw [Option.some.inj hraws, length_flatten_of_width hwidth, hlength]
    · unfold encode_given at hgiven
      rw [if_neg htype, if_neg htype'] at hgiven
      rw [if_neg htype']
      exact length_encode_leaf _ hgiven

/-! ## All rows -/

/-- INTERNAL: a layout in another one is smaller. -/
theorem sizeOf_inner {type_desc inner : TypeDesc} {f : FieldDesc} (hf : f ∈ type_desc.fields)
    (hinner : f.type_desc = some inner) : sizeOf inner < sizeOf type_desc := by
  obtain ⟨name, fields, nuc_size, uc_size⟩ := type_desc
  have hmem := List.sizeOf_lt_of_mem hf
  obtain ⟨fname, rfctype, nuc_length, nuc_offset, uc_length, uc_offset, decimals, unicode_mode,
    ftype_desc, direction, optional, default_value, param_text⟩ := f
  dsimp only at hinner
  subst hinner
  simp only [FieldDesc.mk.sizeOf_spec, Option.some.sizeOf_spec] at hmem
  simp only [TypeDesc.mk.sizeOf_spec]
  omega

/-- INTERNAL: fields that fit leave the size as it is, and each span holds the bytes of its
field. -/
theorem staysIn_of_lengths {type_desc : TypeDesc} (h : Spanned mode type_desc)
    {value : PyVal PyLeaf} {out : Bytes}
    (hout : (leafScalars u k).encode_structure u mode type_desc value = .ok out)
    (hlengths : ∀ f ∈ type_desc.fields, ∀ raw,
      (leafScalars u k).encode_child u mode f value = .ok (some raw) → raw.length ≤ width mode f) :
    StaysIn u (leafScalars u k) mode type_desc value out := by
  obtain ⟨-, raws, hraws, rfl⟩ := encode_structure_eq_ok.mp hout
  obtain ⟨hlength, hall⟩ := forall_of_mapM hraws
  have hfits : ∀ p ∈ type_desc.fields.zip raws, (p.2.getD []).length ≤ width mode p.1 := by
    rintro ⟨f, raw⟩ hp
    have hraw := hall _ hp
    cases raw with
    | none => exact Nat.zero_le _
    | some raw => exact hlengths f (List.of_mem_zip hp).1 raw hraw
  obtain ⟨hsize, hspans⟩ := laid_spans h hlength hfits
  refine ⟨?_, fun f hf raw hraw => ⟨hlengths f hf raw hraw, ?_⟩⟩
  · have hpositive := h.size
    rw [hsize]
    omega
  · obtain ⟨raw', hmem⟩ := exists_zip_of_mem hlength hf
    have hsame := hall _ hmem
    have hspan := hspans _ hmem
    dsimp only at hsame hspan
    rw [hraw] at hsame
    rw [← Except.ok.inj hsame] at hspan
    exact hspan

/-- INTERNAL: a row whose values fit, at every depth, stays in its spans. -/
theorem staysIn_of_fits {type_desc : TypeDesc} (h : WellSpanned mode type_desc)
    {value : PyVal PyLeaf}
    (hfits : ∀ deep last, Reaches (leafScalars u k) type_desc value deep last →
      RowFits (leafScalars u k) mode deep last) {out : Bytes}
    (hout : (leafScalars u k).encode_structure u mode type_desc value = .ok out) :
    StaysIn u (leafScalars u k) mode type_desc value out := by
  -- by induction on the layout: the rows in it have their size
  induction hn : sizeOf type_desc using Nat.strong_induction_on
    generalizing type_desc value out with
  | _ n ih =>
    subst hn
    have hinner : ∀ f ∈ type_desc.fields, ∀ inner, f.type_desc = some inner →
        f.rfctype ∈ [RFCTYPE_STRUCTURE, RFCTYPE_TABLE] → ∀ row,
        (∀ deep last, Reaches (leafScalars u k) inner row deep last →
          RowFits (leafScalars u k) mode deep last) →
        ∀ raw, (leafScalars u k).encode_structure u mode inner row = .ok raw →
          raw.length = (inner.row_size mode).toNat := by
      intro f hf inner hinner hnested row hrow raw hraw
      have hlength := (ih _ (sizeOf_inner hf hinner)
        (fun deep hdeep => h deep (.field hf hnested hinner hdeep)) hrow hraw rfl).1
      omega
    refine staysIn_of_lengths (h _ (.here _)) hout fun f hf raw hraw => ?_
    have hlength := length_of_child hraw
      (fun inner htype hsome => hinner f hf inner hsome (by simp [htype]) _
        fun deep last hreach => hfits deep last (.nested hf htype hsome hreach))
      (fun inner htype hsome row hrow => hinner f hf inner hsome (by simp [htype]) row
        fun deep last hreach => hfits deep last (.row hf htype hsome hrow hreach))
    rw [hlength]
    exact hfits _ _ (.here _ _) f hf

/-- A row that is encoded stays in its spans, at every depth, exactly where no value takes more
bytes than the span of its field has. -/
theorem stays_in_spans_iff {type_desc : TypeDesc} (h : WellSpanned mode type_desc)
    {value : PyVal PyLeaf} {out : Bytes}
    (hout : (leafScalars u k).encode_structure u mode type_desc value = .ok out) :
    (∀ deep last, Reaches (leafScalars u k) type_desc value deep last →
      ∀ raw, (leafScalars u k).encode_structure u mode deep last = .ok raw →
        StaysIn u (leafScalars u k) mode deep last raw) ↔
    ∀ deep last, Reaches (leafScalars u k) type_desc value deep last →
      RowFits (leafScalars u k) mode deep last := by
  constructor
  · intro hstays deep last hreach f hf
    obtain ⟨raw, hraw⟩ := encoded_of_reaches hreach hout
    obtain ⟨bytes, hbytes⟩ := child_of_structure hraw hf
    have hexact : ∀ inner row, Reaches (leafScalars u k) deep last inner row →
        ∀ raw, (leafScalars u k).encode_structure u mode inner row = .ok raw →
          raw.length = (inner.row_size mode).toNat := by
      intro inner row hrow raw hraw
      have hlength := (hstays inner row (reaches_trans hreach hrow) raw hraw).1
      omega
    cases bytes with
    | none =>
      obtain ⟨hnested, hnone⟩ := skipped_of_child hbytes
      unfold field_size
      rw [hnone]
      rcases List.mem_cons.mp hnested with htype | htype
      · rw [if_pos htype]
        exact Nat.zero_le _
      · have htable := List.mem_singleton.mp htype
        rw [if_neg (by rw [htable]; decide), if_pos htable]
        exact Nat.zero_le _
    | some bytes =>
      have hlength := length_of_child hbytes
        (fun inner htype hsome => hexact inner _ (.nested hf htype hsome (.here _ _)))
        (fun inner htype hsome row hrow => hexact inner row (.row hf htype hsome hrow (.here _ _)))
      rw [← hlength]
      exact ((hstays deep last hreach raw hraw).2 f hf bytes hbytes).1
  · intro hfits deep last hreach raw hraw
    exact staysIn_of_fits (fun deeper hdeeper =>
      h deeper (within_trans (within_of_reaches hreach) hdeeper))
      (fun deeper lower hlower => hfits deeper lower (reaches_trans hreach hlower)) hraw

end Encoded

/-! ## Two fields of bytes -/

/-- A field of a scalar type, at the same place in both layouts. -/
def leaf_field (name : PyStr) (rfctype : ℕ) (offset length : ℤ) (decimals : ℤ) : FieldDesc where
  name := name
  rfctype := rfctype
  nuc_length := length
  nuc_offset := offset
  uc_length := length
  uc_offset := offset
  decimals := decimals

/-- INTERNAL: two fields, one behind the other. -/
theorem spanned_pair {mode : Bool} {type_desc : TypeDesc} {f g : FieldDesc}
    (hfields : type_desc.fields = [f, g]) (hfirst : 0 ≤ (f.span mode).1 ∧ 0 ≤ (f.span mode).2)
    (hbehind : (f.span mode).1 + (f.span mode).2 ≤ (g.span mode).1) (hsecond : 0 ≤ (g.span mode).2)
    (hend : (g.span mode).1 + (g.span mode).2 ≤ type_desc.row_size mode) :
    Spanned mode type_desc := by
  have hmem : ∀ h ∈ type_desc.fields, h = f ∨ h = g := by
    rw [hfields]
    exact fun h hh => (List.mem_cons.mp hh).imp_right List.mem_singleton.mp
  refine ⟨by omega, ?_, ?_, ?_, ?_⟩
  · intro h hh
    rcases hmem h hh with rfl | rfl <;> omega
  · intro h hh
    rcases hmem h hh with rfl | rfl <;> omega
  · intro h hh
    rcases hmem h hh with rfl | rfl <;> omega
  · rw [hfields]
    refine List.Pairwise.cons (fun h hh i hboth => ?_) (List.pairwise_singleton _ _)
    obtain rfl := List.mem_singleton.mp hh
    have hhi := hboth.1.2
    have hlo := hboth.2.1
    omega

/-- A row of two byte fields. -/
def byte_pair : TypeDesc where
  name := lit "PAIR"
  fields := [leaf_field (lit "HEAD") RFCTYPE_BYTE 0 2 0, leaf_field (lit "TAIL") RFCTYPE_BYTE 2 2 0]
  nuc_size := 4
  uc_size := 4

theorem spanned_byte_pair : WellSpanned true byte_pair := by
  have hhere : Spanned true byte_pair :=
    spanned_pair rfl (by decide) (by decide) (by decide) (by decide)
  intro deep hdeep
  cases hdeep with
  | here => exact hhere
  | field hf hnested hinner hdeep =>
    rcases List.mem_cons.mp hf with rfl | hf
    · cases hinner
    · obtain rfl := List.mem_singleton.mp hf
      cases hinner

/-- INTERNAL: no row stands in a row of byte fields. -/
theorem reaches_byte_pair {s : Scalars PyLeaf} {value last : PyVal PyLeaf} {deep : TypeDesc}
    (h : Reaches s byte_pair value deep last) : deep = byte_pair ∧ last = value := by
  have hleaf : ∀ f ∈ byte_pair.fields, f.type_desc = none := by decide
  cases h with
  | here => exact ⟨rfl, rfl⟩
  | nested hf htype hinner _ =>
    rw [hleaf _ hf] at hinner
    cases hinner
  | row hf htype hinner _ _ =>
    rw [hleaf _ hf] at hinner
    cases hinner

/-- A row of byte fields. -/
def byte_row (entries : List (PyStr × Bytes)) : PyVal PyLeaf :=
  .dict (entries.map fun e => (e.1, .leaf (.bytes e.2)))

/-- Two bytes in each of the fields stay there. -/
theorem stays_in_spans_pair :
    StaysIn asciiTables (leafScalars asciiTables strictBuiltins) true byte_pair
      (byte_row [(lit "HEAD", [1, 2]), (lit "TAIL", [3, 4])]) [1, 2, 3, 4] := by
  have hout : (leafScalars asciiTables strictBuiltins).encode_structure asciiTables true byte_pair
      (byte_row [(lit "HEAD", [1, 2]), (lit "TAIL", [3, 4])]) = .ok [1, 2, 3, 4] := by
    decide +kernel
  refine (stays_in_spans_iff spanned_byte_pair hout).mpr ?_ _ _ (.here _ _) _ hout
  intro deep last hreach
  obtain ⟨rfl, rfl⟩ := reaches_byte_pair hreach
  unfold RowFits
  decide

/-- A third byte in the last field makes the row longer, and a third byte in the first field is put
into the last one. -/
theorem third_byte_leaves_span :
    WellSpanned true byte_pair ∧
      (leafScalars asciiTables strictBuiltins).encode_structure asciiTables true byte_pair
        (byte_row [(lit "TAIL", [1, 2, 3])]) = .ok [0, 0, 1, 2, 3] ∧
      ([0, 0, 1, 2, 3].length : ℤ) ≠ byte_pair.row_size true ∧
      (leafScalars asciiTables strictBuiltins).encode_structure asciiTables true byte_pair
        (byte_row [(lit "HEAD", [1, 2, 3])]) = .ok [1, 2, 3, 0] :=
  ⟨spanned_byte_pair, by decide +kernel, by decide, by decide +kernel⟩

end SapRfc.Analysis.SpanBounds
