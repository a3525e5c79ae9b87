import SapRfc.Analysis.StructureRoundTrips

/-!
# Partial rows that are completed

A field that a caller leaves out is encoded as the default of its type, so that it is read back as
the initial value of the type.  The default of a decimal floating-point number is the empty string,
which is no number: a row in which one is missing is not encoded.  Every other row is, and what is
supplied is read back as if nothing was missing.
-/

set_option autoImplicit false

namespace SapRfc.Analysis.CompletedRows

open SapRfc.Library SapRfc.Program SapRfc.Program.PyDecimal
open RowLayouts SpanBounds FieldValues StructureRoundTrips DecimalContext PackedDecimals

/-! ## Partial rows -/

/-- No layout has a table in it, at any depth. -/
def NoTables (type_desc : TypeDesc) : Prop :=
  ∀ deep, Within type_desc deep → ∀ f ∈ deep.fields, f.rfctype ≠ RFCTYPE_TABLE

/-- The row of a structure in a row.  A structure that is not supplied is one of which no field is
supplied. -/
def inner_row (entries : List (PyStr × PyVal PyLeaf)) (f : FieldDesc) : PyVal PyLeaf :=
  (assocGet entries f.name).getD (.dict [])

/-- Every value that is supplied fits its field, at every depth. -/
inductive Supplied (u : Unicode) (k : Builtins) (mode : Bool) : TypeDesc → PyVal PyLeaf → Prop where
  | row {type_desc : TypeDesc} {entries : List (PyStr × PyVal PyLeaf)}
      (scalar : ∀ f ∈ type_desc.fields, f.rfctype ≠ RFCTYPE_STRUCTURE →
        ∀ value, assocGet entries f.name = some value → Fits u k mode f value)
      (nested : ∀ f ∈ type_desc.fields, f.rfctype = RFCTYPE_STRUCTURE →
        ∀ inner, f.type_desc = some inner →
          ∀ value, assocGet entries f.name = some value → Supplied u k mode inner value) :
      Supplied u k mode type_desc (.dict entries)

/-- Every decimal floating-point number is supplied, at every depth, and no packed number that is
supplied gets longer than its field when it is rounded. -/
inductive Completable (k : Builtins) (mode : Bool) : TypeDesc → PyVal PyLeaf → Prop where
  | row {type_desc : TypeDesc} {entries : List (PyStr × PyVal PyLeaf)}
      (decfloat : ∀ f ∈ type_desc.fields, f.rfctype ∈ [RFCTYPE_DECF16, RFCTYPE_DECF34] →
        (assocGet entries f.name).isSome = true)
      (short : ∀ f ∈ type_desc.fields, ∀ value, assocGet entries f.name = some value →
        StaysShort k mode f value)
      (nested : ∀ f ∈ type_desc.fields, f.rfctype = RFCTYPE_STRUCTURE →
        ∀ inner, f.type_desc = some inner → Completable k mode inner (inner_row entries f)) :
      Completable k mode type_desc (.dict entries)

/-- The second row supplies every field, and those that the first one supplies with the same
values. -/
inductive Fills : TypeDesc → PyVal PyLeaf → PyVal PyLeaf → Prop where
  | row {type_desc : TypeDesc} {part full : List (PyStr × PyVal PyLeaf)}
      (all : ∀ f ∈ type_desc.fields, (assocGet full f.name).isSome = true)
      (scalar : ∀ f ∈ type_desc.fields, f.rfctype ≠ RFCTYPE_STRUCTURE →
        ∀ value, assocGet part f.name = some value → assocGet full f.name = some value)
      (nested : ∀ f ∈ type_desc.fields, f.rfctype = RFCTYPE_STRUCTURE →
        ∀ inner, f.type_desc = some inner → Fills inner (inner_row part f) (inner_row full f)) :
      Fills type_desc (.dict part) (.dict full)

/-! ## What is read back -/

/-- Every field that the row does not supply is read back as the initial value of its type. -/
inductive Initialised (mode : Bool) : TypeDesc → PyVal PyLeaf → PyVal PyLeaf → Prop where
  | row {type_desc : TypeDesc} {part entries : List (PyStr × PyVal PyLeaf)}
      (back : FieldDesc → PyVal PyLeaf)
      (shown : ∀ f, Shown type_desc.fields f → assocGet entries f.name = some (back f))
      (missing : ∀ f, Shown type_desc.fields f → f.rfctype ≠ RFCTYPE_STRUCTURE →
        assocGet part f.name = none → back f = .leaf (initial_value mode f))
      (nested : ∀ f, Shown type_desc.fields f → f.rfctype = RFCTYPE_STRUCTURE →
        ∀ inner, f.type_desc = some inner → Initialised mode inner (inner_row part f) (back f)) :
      Initialised mode type_desc (.dict part) (.dict entries)

/-- Every field that the row supplies is read back as the same value from both. -/
inductive Agree : TypeDesc → PyVal PyLeaf → PyVal PyLeaf → PyVal PyLeaf → Prop where
  | row {type_desc : TypeDesc} {part entries entries' : List (PyStr × PyVal PyLeaf)}
      (back back' : FieldDesc → PyVal PyLeaf)
      (shown : ∀ f, Shown type_desc.fields f →
        assocGet entries f.name = some (back f) ∧ assocGet entries' f.name = some (back' f))
      (supplied : ∀ f, Shown type_desc.fields f → f.rfctype ≠ RFCTYPE_STRUCTURE →
        (assocGet part f.name).isSome = true → back f = back' f)
      (nested : ∀ f, Shown type_desc.fields f → f.rfctype = RFCTYPE_STRUCTURE →
        ∀ inner, f.type_desc = some inner → Agree inner (inner_row part f) (back f) (back' f)) :
      Agree type_desc (.dict part) (.dict entries) (.dict entries')

/-- The row is encoded in the size of its layout.  It is read back with initial values for what it
does not supply, and with the values that any complete row with the same values is read back with
for the rest. -/
def Completes (u : Unicode) (k : Builtins) (mode : Bool) (type_desc : TypeDesc)
    (part : PyVal PyLeaf) : Prop :=
  ∃ raw back, (leafScalars u k).encode_structure u mode type_desc part = .ok raw ∧
    (raw.length : ℤ) = type_desc.row_size mode ∧
    (leafScalars u k).decode_structure u mode type_desc raw = .ok back ∧
    Initialised mode type_desc part back ∧
    ∀ full, Supplied u k mode type_desc full → Fills type_desc part full →
      ∀ raw', (leafScalars u k).encode_structure u mode type_desc full = .ok raw' →
        ∃ back', (leafScalars u k).decode_structure u mode type_desc raw' = .ok back' ∧
          Agree type_desc part back back'

section Rows

variable {u : Unicode} {k : Builtins} {mode : Bool}

/-- What a row is read back as, scalar by scalar. -/
inductive Decoded (u : Unicode) (k : Builtins) (mode : Bool) :
    TypeDesc → PyVal PyLeaf → PyVal PyLeaf → Prop where
  | row {type_desc : TypeDesc} {entries : List (PyStr × PyVal PyLeaf)}
      (back : FieldDesc → PyVal PyLeaf)
      (scalar : ∀ f ∈ type_desc.fields, f.rfctype ≠ RFCTYPE_STRUCTURE →
        ∃ a, back f = .leaf a ∧ ReadsBack u k mode f ((assocGet entries f.name).getD
          ((leafScalars u k).default_field_value f.rfctype)) a)
      (nested : ∀ f ∈ type_desc.fields, f.rfctype = RFCTYPE_STRUCTURE →
        ∀ inner, f.type_desc = some inner → Decoded u k mode inner (inner_row entries f) (back f)) :
      Decoded u k mode type_desc (.dict entries)
        (.dict (entered [] (type_desc.fields.map fun f => (f.name, back f))))

/-- INTERNAL: a field that is no structure is a scalar. -/
theorem fixed_of_no_table {type_desc : TypeDesc} (h : Described mode type_desc)
    (htables : NoTables type_desc) {f : FieldDesc} (hf : f ∈ type_desc.fields)
    (htype : f.rfctype ≠ RFCTYPE_STRUCTURE) : f.rfctype ∈ FIXED_TYPES := by
  refine fixed_of_not_nested h hf fun hnested => ?_
  rcases List.mem_cons.mp hnested with hstructure | htable
  · exact htype hstructure
  · exact htables _ (.here _) f hf (List.mem_singleton.mp htable)

/-- INTERNAL: the layouts in a layout have no tables. -/
theorem no_tables_inner {type_desc inner : TypeDesc} (h : NoTables type_desc) {f : FieldDesc}
    (hf : f ∈ type_desc.fields) (htype : f.rfctype = RFCTYPE_STRUCTURE)
    (hinner : f.type_desc = some inner) : NoTables inner :=
  fun deep hdeep => h deep (.field hf (by simp [htype]) hinner hdeep)

/-- INTERNAL: the layouts in a layout are described. -/
theorem described_structure {type_desc inner : TypeDesc} (h : Described mode type_desc)
    {f : FieldDesc} (hf : f ∈ type_desc.fields) (htype : f.rfctype = RFCTYPE_STRUCTURE)
    (hinner : f.type_desc = some inner) : Described mode inner :=
  described_inner h hf (by simp [htype]) hinner

/-- INTERNAL: the values of the rows in a row fit. -/
theorem supplied_inner {type_desc inner : TypeDesc} {entries : List (PyStr × PyVal PyLeaf)}
    (h : Supplied u k mode type_desc (.dict entries)) {f : FieldDesc} (hf : f ∈ type_desc.fields)
    (htype : f.rfctype = RFCTYPE_STRUCTURE) (hinner : f.type_desc = some inner) :
    Supplied u k mode inner (inner_row entries f) := by
  cases h with
  | row scalar nested =>
    unfold inner_row
    cases hget : assocGet entries f.name with
    | none => exact .row (fun _ _ _ _ h => by cases h) fun _ _ _ _ _ _ h => by cases h
    | some value => exact nested f hf htype inner hinner value hget

/-! ## Rows that are encoded -/

/-- INTERNAL: a field that is missing is no decimal floating-point number. -/
theorem not_decfloat_of_missing {fields : List FieldDesc} {entries : List (PyStr × PyVal PyLeaf)}
    (hdecfloat : ∀ f ∈ fields, f.rfctype ∈ [RFCTYPE_DECF16, RFCTYPE_DECF34] →
      (assocGet entries f.name).isSome = true)
    {f : FieldDesc} (hf : f ∈ fields) (hget : assocGet entries f.name = none) :
    f.rfctype ∉ [RFCTYPE_DECF16, RFCTYPE_DECF34] := by
  intro hmem
  have hsome := hdecfloat f hf hmem
  rw [hget] at hsome
  cases hsome

/-- INTERNAL: a scalar of a row that can be completed is read back, supplied or not. -/
theorem scalar_reads_back {type_desc : TypeDesc} (h : Described mode type_desc)
    (htables : NoTables type_desc) {entries : List (PyStr × PyVal PyLeaf)}
    (hpart : Supplied u k mode type_desc (.dict entries))
    (hcompletable : Completable k mode type_desc (.dict entries)) {f : FieldDesc}
    (hf : f ∈ type_desc.fields) (htype : f.rfctype ≠ RFCTYPE_STRUCTURE) :
    ∃ a, ReadsBack u k mode f ((assocGet entries f.name).getD
      ((leafScalars u k).default_field_value f.rfctype)) a := by
  have hrow := h _ (.here _)
  have hfixed := fixed_of_no_table h htables hf htype
  cases hpart with
  | row scalar _ =>
    cases hcompletable with
    | row decfloat short _ =>
      cases hget : assocGet entries f.name with
      | none =>
        exact ⟨_, initial_reads_back hfixed (not_decfloat_of_missing decfloat hf hget)
          (hrow.right f hf) (hrow.length f hf)⟩
      | some value =>
        exact reads_back_of_fits hfixed (hrow.right f hf) (scalar f hf htype value hget)
          (short f hf value hget)

/-- INTERNAL: a row that can be completed is read back, scalar by scalar. -/
theorem decoded_of_completable {type_desc : TypeDesc} (h : Described mode type_desc)
    (htables : NoTables type_desc) {part : PyVal PyLeaf} (hpart : Supplied u k mode type_desc part)
    (hcompletable : Completable k mode type_desc part) :
    ∃ back, RowReadsBack u (leafScalars u k) mode type_desc part back ∧
      Decoded u k mode type_desc part back := by
  -- by induction on the layout: the rows in it are read back
  induction hn : sizeOf type_desc using Nat.strong_induction_on generalizing type_desc part with
  | _ n ih =>
    subst hn
    have hrow := h _ (.here _)
    cases hcompletable with
    | @row _ entries decfloat short nested =>
      have hcompletable := Completable.row decfloat short nested
      have hfield : ∀ f, ∃ back, f ∈ type_desc.fields →
          FieldReadsBack u (leafScalars u k) mode f (.dict entries) back ∧
            (f.rfctype ≠ RFCTYPE_STRUCTURE → ∃ a, back = .leaf a ∧
              ReadsBack u k mode f ((assocGet entries f.name).getD
                ((leafScalars u k).default_field_value f.rfctype)) a) ∧
            (f.rfctype = RFCTYPE_STRUCTURE → ∀ inner, f.type_desc = some inner →
              Decoded u k mode inner (inner_row entries f) back) := by
        intro f
        by_cases hf : f ∈ type_desc.fields
        · have hgiven : (leafScalars u k).lookup_name f.name (.dict entries) =
              .ok (assocGet entries f.name) := rfl
          by_cases htype : f.rfctype = RFCTYPE_STRUCTURE
          · obtain ⟨inner, hinner⟩ := hrow.resolved f hf (by simp [htype])
            obtain ⟨back, hback, hdecoded⟩ := ih _ (sizeOf_inner hf hinner)
              (described_structure h hf htype hinner) (no_tables_inner htables hf htype hinner)
              (supplied_inner hpart hf htype hinner) (nested f hf htype inner hinner) rfl
            refine ⟨back, fun _ => ⟨structure_field_reads_back hgiven htype hinner
              (hrow.nested f hf inner htype hinner) ?_, fun hnot => absurd htype hnot, ?_⟩⟩
            · rw [htype]
              exact hback
            · intro _ inner' hinner'
              obtain rfl := Option.some.inj (hinner.symm.trans hinner')
              exact hdecoded
          · have hfixed := fixed_of_no_table h htables hf htype
            obtain ⟨a, hreads⟩ := scalar_reads_back h htables hpart hcompletable hf htype
            obtain ⟨raw, hraw, hlength, hback⟩ := hreads
            exact ⟨.leaf a, fun _ => ⟨leaf_field_reads_back hgiven
              (not_nested_of_fixed _ hfixed) hraw
              hlength hback, fun _ => ⟨a, rfl, raw, hraw, hlength, hback⟩,
              fun hstructure => absurd hstructure htype⟩⟩
        · exact ⟨.dict [], fun hmem => absurd hmem hf⟩
      choose back hback using hfield
      exact ⟨_, row_round hrow.toSpanned back fun f hf => (hback f hf).1,
        .row back (fun f hf => (hback f hf).2.1) fun f hf => (hback f hf).2.2⟩

/-- What is not supplied is read back as initial. -/
theorem initialised_of_decoded {type_desc : TypeDesc} {part back : PyVal PyLeaf}
    (hdecoded : Decoded u k mode type_desc part back) (h : Described mode type_desc)
    (htables : NoTables type_desc) (hcompletable : Completable k mode type_desc part) :
    Initialised mode type_desc part back := by
  induction hdecoded with
  | @row type_desc entries back scalar _ ih =>
    have hrow := h _ (.here _)
    cases hcompletable with
    | row decfloat short nested =>
      refine .row back (fun f hf => assocGet_entered hf back) ?_ ?_
      · intro f hshown htype hget
        have hf := mem_of_shown hshown
        obtain ⟨a, ha, hreads⟩ := scalar f hf htype
        have hinitial := initial_reads_back (u := u) (k := k) (fixed_of_no_table h htables hf htype)
          (not_decfloat_of_missing decfloat hf hget) (hrow.right f hf) (hrow.length f hf)
        rw [hget] at hreads
        rw [ha, reads_back_unique hreads hinitial]
      · intro f hshown htype inner hinner
        have hf := mem_of_shown hshown
        exact ih f hf htype inner hinner (described_structure h hf htype hinner)
          (no_tables_inner htables hf htype hinner) (nested f hf htype inner hinner)

/-- What is supplied is read back as it is from a row that supplies more. -/
theorem agree_of_decoded {type_desc : TypeDesc} {part back full back' : PyVal PyLeaf}
    (hdecoded : Decoded u k mode type_desc part back)
    (hdecoded' : Decoded u k mode type_desc full back') (hfills : Fills type_desc part full) :
    Agree type_desc part back back' := by
  induction hdecoded generalizing full back' with
  | @row type_desc entries back scalar _ ih =>
    cases hdecoded' with
    | @row _ entries' back' scalar' nested' =>
      cases hfills with
      | row _ same inner_fills =>
        refine .row back back'
          (fun f hf => ⟨assocGet_entered hf back, assocGet_entered hf back'⟩) ?_ ?_
        · intro f hshown htype hsome
          have hf := mem_of_shown hshown
          obtain ⟨value, hget⟩ := Option.isSome_iff_exists.mp hsome
          obtain ⟨a, ha, hreads⟩ := scalar f hf htype
          obtain ⟨a', ha', hreads'⟩ := scalar' f hf htype
          rw [hget] at hreads
          rw [same f hf htype value hget] at hreads'
          rw [ha, ha', reads_back_unique hreads hreads']
        · intro f hshown htype inner hinner
          have hf := mem_of_shown hshown
          exact ih f hf htype inner hinner (nested' f hf htype inner hinner)
            (inner_fills f hf htype inner hinner)

/-! ## Rows that are not -/

/-- INTERNAL: a scalar of a row that is encoded is encoded. -/
theorem leaf_of_child {f : FieldDesc} (hfixed : f.rfctype ∈ FIXED_TYPES)
    {entries : List (PyStr × PyVal PyLeaf)} {raw : Option Bytes}
    (h : (leafScalars u k).encode_child u mode f (.dict entries) = .ok raw) :
    ∃ bytes, encode_leaf u k f.rfctype ((assocGet entries f.name).getD
      ((leafScalars u k).default_field_value f.rfctype)) (in_mode mode f) = .ok bytes := by
  have hnested := not_nested_of_fixed _ hfixed
  have hgiven : (leafScalars u k).lookup_name f.name (.dict entries) =
      .ok (assocGet entries f.name) := rfl
  rw [encode_child_of_given hgiven (.inl hnested)] at h
  simp only [List.mem_cons, List.not_mem_nil, or_false, not_or] at hnested
  unfold encode_given at h
  rw [if_neg hnested.1, if_neg hnested.2] at h
  cases hraw : encode_leaf u k f.rfctype ((assocGet entries f.name).getD
      ((leafScalars u k).default_field_value f.rfctype)) (in_mode mode f) with
  | ok bytes => exact ⟨bytes, rfl⟩
  | error e =>
    have hencode : (leafScalars u k).encode f.rfctype ((assocGet entries f.name).getD
        ((leafScalars u k).default_field_value f.rfctype)) (in_mode mode f) = .error e := hraw
    rw [hencode] at h
    cases h

/-- INTERNAL: the row of a structure that is encoded. -/
theorem value_of_structure {f : FieldDesc} (htype : f.rfctype = RFCTYPE_STRUCTURE)
    (entries : List (PyStr × PyVal PyLeaf)) :
    value_of (leafScalars u k) f (.dict entries) = inner_row entries f := by
  have hgiven : (leafScalars u k).lookup_name f.name (.dict entries) =
      .ok (assocGet entries f.name) := rfl
  unfold value_of inner_row
  rw [hgiven]
  cases assocGet entries f.name with
  | none =>
    rw [htype]
    rfl
  | some value => rfl

/-- A row that is encoded can be completed. -/
theorem completable_of_encoded {type_desc : TypeDesc} (h : Described mode type_desc)
    (htables : NoTables type_desc) {part : PyVal PyLeaf} (hpart : Supplied u k mode type_desc part)
    {out : Bytes} (hout : (leafScalars u k).encode_structure u mode type_desc part = .ok out) :
    Completable k mode type_desc part := by
  -- by induction on the layout: the rows in it can be completed
  induction hn : sizeOf type_desc using Nat.strong_induction_on generalizing type_desc part out with
  | _ n ih =>
    subst hn
    have hrow := h _ (.here _)
    cases hpart with
    | @row _ entries scalar nested =>
      have hpart := Supplied.row scalar nested
      refine .row ?_ ?_ ?_
      · intro f hf htype
        by_contra hmissing
        have hnone : assocGet entries f.name = none := Option.not_isSome_iff_eq_none.mp hmissing
        have hfixed : f.rfctype ∈ FIXED_TYPES := by
          rcases List.mem_cons.mp htype with heq | hmem
          · rw [heq]
            decide
          · rw [List.mem_singleton.mp hmem]
            decide
        obtain ⟨raw, hraw⟩ := child_of_structure hout hf
        obtain ⟨bytes, hbytes⟩ := leaf_of_child hfixed hraw
        obtain ⟨e, he⟩ := default_decfloat_rejected htype
        rw [hnone, Option.getD_none, he] at hbytes
        cases hbytes
      · intro f hf value hget htype d n hvalue hn
        by_contra hlarge
        have hfixed : f.rfctype ∈ FIXED_TYPES := by
          rw [htype]
          decide
        obtain ⟨raw, hraw⟩ := child_of_structure hout hf
        obtain ⟨bytes, hbytes⟩ := leaf_of_child hfixed hraw
        obtain ⟨e, he⟩ :=
          bcd_rejected (u := u) htype (hrow.right f hf) hvalue hn (not_lt.mp hlarge)
        rw [hget, Option.getD_some, he] at hbytes
        cases hbytes
      · intro f hf htype inner hinner
        obtain ⟨raw, hraw⟩ := child_of_structure hout hf
        obtain ⟨bytes, -, hbytes⟩ := structure_of_child htype hinner hraw
        rw [value_of_structure htype] at hbytes
        exact ih _ (sizeOf_inner hf hinner) (described_structure h hf htype hinner)
          (no_tables_inner htables hf htype hinner)
            (supplied_inner hpart hf htype hinner) hbytes rfl

/-- A row is completed exactly where no decimal floating-point number is missing, at any depth, and
no packed number that is supplied gets longer than its field when it is rounded. -/
theorem completes_iff {type_desc : TypeDesc} (h : Described mode type_desc)
    (htables : NoTables type_desc) {part : PyVal PyLeaf}
    (hpart : Supplied u k mode type_desc part) :
    Completes u k mode type_desc part ↔ Completable k mode type_desc part := by
  constructor
  · rintro ⟨raw, back, hraw, -⟩
    exact completable_of_encoded h htables hpart hraw
  · intro hcompletable
    obtain ⟨back, ⟨raw, hraw, hlength, hback⟩, hdecoded⟩ :=
      decoded_of_completable h htables hpart hcompletable
    have hsize := (h _ (.here _)).size
    refine ⟨raw, back, hraw, by omega, hback,
      initialised_of_decoded hdecoded h htables hcompletable, ?_⟩
    intro full hfull hfills raw' hraw'
    obtain ⟨back', ⟨out, hout, -, hback'⟩, hdecoded'⟩ := decoded_of_completable h htables hfull
      (completable_of_encoded h htables hfull hraw')
    obtain rfl := Except.ok.inj (hraw'.symm.trans hout)
    exact ⟨back', hback', agree_of_decoded hdecoded hdecoded' hfills⟩

end Rows

/-! ## A row that is completed, and one that is not -/

/-- INTERNAL: a layout of scalars has no tables. -/
theorem no_tables_flat {type_desc : TypeDesc} (hflat : ∀ f ∈ type_desc.fields, f.type_desc = none)
    (hkind : ∀ f ∈ type_desc.fields, f.rfctype ∈ FIXED_TYPES) : NoTables type_desc := by
  intro deep hdeep f hf htable
  obtain rfl := within_flat hflat hdeep
  have hnested := not_nested_of_fixed _ (hkind f hf)
  rw [htable] at hnested
  exact hnested (by decide)

/-- INTERNAL: a number that fits its field. -/
theorem fits_packed {u : Unicode} {k : Builtins} {mode : Bool} {f : FieldDesc}
    (htype : f.rfctype = RFCTYPE_BCD) {d : PyDecimal} {n : ℤ}
    (hspells : Spells d (n * 10 ^ (-f.decimals))) (hn : n.natAbs < 10 ^ (2 * width mode f - 1)) :
    Fits u k mode f (.leaf (.decimal d)) := by
  constructor
  case bcd => exact fun _ => ⟨d, ⟨nofun, rfl⟩, n, hspells, hn⟩
  all_goals
    intro hother
    rw [htype] at hother
    exact absurd hother (by decide)

/-- INTERNAL: a number whose digits are not rounded away. -/
theorem short_packed {k : Builtins} {mode : Bool} {f : FieldDesc} {d : PyDecimal} {n : ℤ}
    (hspells : Spells d (n * 10 ^ (-f.decimals)))
    (hn : rounded n.natAbs < 10 ^ (2 * width mode f - 1)) :
    StaysShort k mode f (.leaf (.decimal d)) := by
  rintro - _ m ⟨-, hvalue⟩ hm
  obtain rfl := Except.ok.inj hvalue
  have hne : (10 : ℚ) ^ (-f.decimals) ≠ 0 := zpow_ne_zero _ (by norm_num)
  have hsame := mul_right_cancel₀ hne (spells_unique hspells hm)
  rw [← Int.cast_injective hsame]
  exact hn

/-- INTERNAL: an order has no tables. -/
theorem no_tables_order : NoTables order_layout := by
  intro deep hdeep
  rcases within_order hdeep with rfl | rfl
  · decide
  · decide

/-- An order without its key, and with an item of which the text is missing. -/
def short_order : PyVal PyLeaf :=
  .dict [(lit "ITEM", .dict [(lit "PRICE", .leaf (.decimal (.finite true 15 (-1))))])]

/-- INTERNAL: the price of the item. -/
theorem price_spelled :
    Spells (.finite true 15 (-1)) (((-15 : ℤ) : ℚ) * 10 ^ (-(1 : ℤ))) := by
  refine ⟨true, 15, -1, rfl, ?_⟩
  unfold signed
  norm_num

/-- INTERNAL: the price fits its field. -/
theorem supplied_short_order :
    Supplied asciiTables strictBuiltins true order_layout short_order := by
  refine .row ?_ ?_
  · intro f hf htype value hvalue
    rcases List.mem_cons.mp hf with rfl | hf
    · cases hvalue
    · obtain rfl := List.mem_singleton.mp hf
      exact absurd rfl htype
  · intro f hf htype inner hinner value hvalue
    rcases List.mem_cons.mp hf with rfl | hf
    · cases htype
    · obtain rfl := List.mem_singleton.mp hf
      cases hinner
      obtain rfl := Option.some.inj hvalue
      refine .row ?_ ?_
      · intro f hf _ value hvalue
        rcases List.mem_cons.mp hf with rfl | hf
        · cases hvalue
        · obtain rfl := List.mem_singleton.mp hf
          obtain rfl := Option.some.inj hvalue
          exact fits_packed rfl price_spelled (by decide)
      · intro f hf htype
        rcases List.mem_cons.mp hf with rfl | hf
        · cases htype
        · obtain rfl := List.mem_singleton.mp hf
          cases htype

/-- An order of which the key and, in the structure, the text are missing. -/
theorem completes_short_order :
    Completes asciiTables strictBuiltins true order_layout short_order := by
  refine (completes_iff described_order no_tables_order supplied_short_order).mpr (.row ?_ ?_ ?_)
  · intro f hf htype
    rcases List.mem_cons.mp hf with rfl | hf
    · exact absurd htype (by decide)
    · obtain rfl := List.mem_singleton.mp hf
      exact absurd htype (by decide)
  · intro f hf value _ htype
    rcases List.mem_cons.mp hf with rfl | hf
    · cases htype
    · obtain rfl := List.mem_singleton.mp hf
      cases htype
  · intro f hf htype inner hinner
    rcases List.mem_cons.mp hf with rfl | hf
    · cases htype
    · obtain rfl := List.mem_singleton.mp hf
      cases hinner
      refine .row ?_ ?_ ?_
      · intro f hf htype
        rcases List.mem_cons.mp hf with rfl | hf
        · exact absurd htype (by decide)
        · obtain rfl := List.mem_singleton.mp hf
          exact absurd htype (by decide)
      · intro f hf value hvalue
        rcases List.mem_cons.mp hf with rfl | hf
        · cases hvalue
        · obtain rfl := List.mem_singleton.mp hf
          obtain rfl := Option.some.inj hvalue
          exact short_packed price_spelled (by decide +kernel)
      · intro f hf htype
        rcases List.mem_cons.mp hf with rfl | hf
        · cases htype
        · obtain rfl := List.mem_singleton.mp hf
          cases htype

/-- A row of one decimal floating-point number, which is not supplied. -/
theorem missing_decfloat_not_completed :
    Described true (lone_field RFCTYPE_DECF16 8 0) ∧ NoTables (lone_field RFCTYPE_DECF16 8 0) ∧
      Supplied asciiTables strictBuiltins true (lone_field RFCTYPE_DECF16 8 0) (.dict []) ∧
      ¬ ∃ out, (leafScalars asciiTables strictBuiltins).encode_structure asciiTables true
        (lone_field RFCTYPE_DECF16 8 0) (.dict []) = .ok out := by
  refine ⟨described_lone_field (by decide) (by decide) (by decide),
    no_tables_flat (by decide) (by decide), .row ?_ ?_, ?_⟩
  · intro f _ _ value hvalue
    cases hvalue
  · intro f _ _ inner _ value hvalue
    cases hvalue
  · rintro ⟨out, hout⟩
    cases hout

end SapRfc.Analysis.CompletedRows
