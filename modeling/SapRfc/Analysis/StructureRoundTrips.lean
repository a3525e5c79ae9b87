import SapRfc.Analysis.FieldValues

/-!
# Structures and tables that come back

A layout is described where the span of every field has the width of its type, at every nesting
depth.  A complete row of such a layout, whose scalars are in the form of their types, is decoded to
the same dict, and a list of such rows is decoded to the same list.
-/

set_option autoImplicit false

namespace SapRfc.Analysis.StructureRoundTrips

open SapRfc.Library SapRfc.Program Dicts RowLayouts SpanBounds FieldValues

/-! ## Layouts -/

/-- The spans of the fields are disjoint, inside, and of the width of their types. -/
structure RowDescribed (mode : Bool) (type_desc : TypeDesc) : Prop extends
    Spanned mode type_desc where
  kind : ∀ f ∈ type_desc.fields,
    f.rfctype ∈ FIXED_TYPES ∨ f.rfctype ∈ [RFCTYPE_STRUCTURE, RFCTYPE_TABLE]
  right : ∀ f ∈ type_desc.fields, RightWidth mode f
  resolved : ∀ f ∈ type_desc.fields, f.rfctype ∈ [RFCTYPE_STRUCTURE, RFCTYPE_TABLE] →
    ∃ inner, f.type_desc = some inner
  nested : ∀ f ∈ type_desc.fields, ∀ inner, f.rfctype = RFCTYPE_STRUCTURE →
    f.type_desc = some inner → (f.span mode).2 = inner.row_size mode
  rows : ∀ f ∈ type_desc.fields, ∀ inner, f.rfctype = RFCTYPE_TABLE →
    f.type_desc = some inner → 0 < inner.row_size mode

/-- The layouts are described, at every depth. -/
def Described (mode : Bool) (type_desc : TypeDesc) : Prop :=
  ∀ deep, Within type_desc deep → RowDescribed mode deep

/-- No two fields of a layout have one name, at every depth. -/
def DistinctNames (type_desc : TypeDesc) : Prop :=
  ∀ deep, Within type_desc deep → (deep.fields.map FieldDesc.name).Nodup

theorem described_inner {mode : Bool} {type_desc inner : TypeDesc} (h : Described mode type_desc)
    {f : FieldDesc} (hf : f ∈ type_desc.fields)
    (hnested : f.rfctype ∈ [RFCTYPE_STRUCTURE, RFCTYPE_TABLE]) (hinner : f.type_desc = some inner) :
    Described mode inner :=
  fun deep hdeep => h deep (.field hf hnested hinner hdeep)

/-- INTERNAL: a scalar type is none of the others. -/
theorem not_nested_of_fixed : ∀ t ∈ FIXED_TYPES, t ∉ [RFCTYPE_STRUCTURE, RFCTYPE_TABLE] := by
  decide

/-- INTERNAL: a field of a scalar type. -/
theorem fixed_of_not_nested {mode : Bool} {type_desc : TypeDesc} (h : Described mode type_desc)
    {f : FieldDesc} (hf : f ∈ type_desc.fields)
    (hnested : f.rfctype ∉ [RFCTYPE_STRUCTURE, RFCTYPE_TABLE]) : f.rfctype ∈ FIXED_TYPES :=
  ((h _ (.here _)).kind f hf).resolve_right hnested

/-! ## Values -/

/-- A dict that has a value for each field and for nothing else, in which every scalar has the form
of its type and the rows of every table fill its span. -/
inductive Complete (mode : Bool) : TypeDesc → PyVal PyLeaf → Prop where
  | row {type_desc : TypeDesc} {entries : List (PyStr × PyVal PyLeaf)}
      (keys : ∀ key, (assocGet entries key).isSome = true ↔
        key ∈ type_desc.fields.map FieldDesc.name)
      (scalar : ∀ f ∈ type_desc.fields, f.rfctype ∉ [RFCTYPE_STRUCTURE, RFCTYPE_TABLE] →
        ∀ value, assocGet entries f.name = some value → ∃ a, value = .leaf a ∧ Exact mode f a)
      (nested : ∀ f ∈ type_desc.fields, f.rfctype = RFCTYPE_STRUCTURE →
        ∀ inner, f.type_desc = some inner →
          ∀ value, assocGet entries f.name = some value → Complete mode inner value)
      (table : ∀ f ∈ type_desc.fields, f.rfctype = RFCTYPE_TABLE →
        ∀ inner, f.type_desc = some inner → ∀ value, assocGet entries f.name = some value →
          ∃ rows, value = .list rows ∧ (rows.length : ℤ) * inner.row_size mode = (f.span mode).2)
      (rows : ∀ f ∈ type_desc.fields, f.rfctype = RFCTYPE_TABLE →
        ∀ inner, f.type_desc = some inner → ∀ rows, assocGet entries f.name = some (.list rows) →
          ∀ row ∈ rows, Complete mode inner row) :
      Complete mode type_desc (.dict entries)

/-- `a == b` of the source language: dicts have the same keys, in any order, with the same
values. -/
inductive Same : PyVal PyLeaf → PyVal PyLeaf → Prop where
  | leaf (a : PyLeaf) : Same (.leaf a) (.leaf a)
  | list {xs ys : List (PyVal PyLeaf)} (length : xs.length = ys.length)
      (items : ∀ p ∈ xs.zip ys, Same p.1 p.2) : Same (.list xs) (.list ys)
  | dict {d e : List (PyStr × PyVal PyLeaf)}
      (keys : ∀ key, (assocGet d key).isSome = (assocGet e key).isSome)
      (values : ∀ key a b, assocGet d key = some a → assocGet e key = some b → Same a b) :
      Same (.dict d) (.dict e)

/-! ## Round trips -/

section RoundTrips

variable {u : Unicode} {k : Builtins} {mode : Bool}

/-- INTERNAL: rows that come back are the same list. -/
theorem same_rows {inner : TypeDesc} {rows : List (PyVal PyLeaf)}
    (h : ∀ row ∈ rows, ∃ back, RowReadsBack u (leafScalars u k) mode inner row back ∧
      Same back row) :
    ∃ backs, List.Forall₂ (RowReadsBack u (leafScalars u k) mode inner) rows backs ∧
      Same (.list backs) (.list rows) := by
  induction rows with
  | nil => exact ⟨[], .nil, .list rfl nofun⟩
  | cons row rows ih =>
    obtain ⟨back, hback, hsame⟩ := h row List.mem_cons_self
    obtain ⟨backs, hbacks, hsames⟩ := ih fun r hr => h r (List.mem_cons_of_mem _ hr)
    cases hsames with
    | list hlength hitems =>
      refine ⟨back :: backs, .cons hback hbacks, .list (congrArg (· + 1) hlength) ?_⟩
      rw [List.zip_cons_cons]
      exact List.forall_mem_cons.mpr ⟨hsame, hitems⟩

/-- INTERNAL: a field of a complete row comes back, if the rows in it do. -/
theorem field_comes_back {type_desc : TypeDesc} (h : Described mode type_desc)
    {entries : List (PyStr × PyVal PyLeaf)} (hvalue : Complete mode type_desc (.dict entries))
    (hinner : ∀ f ∈ type_desc.fields, ∀ inner, f.type_desc = some inner →
      f.rfctype ∈ [RFCTYPE_STRUCTURE, RFCTYPE_TABLE] → ∀ row, Complete mode inner row →
        ∃ back, RowReadsBack u (leafScalars u k) mode inner row back ∧ Same back row)
    {f : FieldDesc} (hf : f ∈ type_desc.fields) :
    ∃ back value, assocGet entries f.name = some value ∧
      FieldReadsBack u (leafScalars u k) mode f (.dict entries) back ∧ Same back value := by
  have hrow := h _ (.here _)
  cases hvalue with
  | row keys scalar nested table rows =>
    obtain ⟨value, hget⟩ := Option.isSome_iff_exists.mp
      ((keys f.name).mpr (List.mem_map_of_mem hf))
    have hgiven : (leafScalars u k).lookup_name f.name (.dict entries) = .ok (some value) :=
      congrArg Except.ok hget
    by_cases hnested : f.rfctype ∈ [RFCTYPE_STRUCTURE, RFCTYPE_TABLE]
    · obtain ⟨inner, hsome⟩ := hrow.resolved f hf hnested
      rcases List.mem_cons.mp hnested with htype | htype
      · obtain ⟨back, hback, hsame⟩ := hinner f hf inner hsome hnested value
          (nested f hf htype inner hsome value hget)
        exact ⟨back, value, hget, structure_field_reads_back hgiven htype hsome
          (hrow.nested f hf inner htype hsome) hback, hsame⟩
      · have htable := List.mem_singleton.mp htype
        obtain ⟨items, rfl, hfill⟩ := table f hf htable inner hsome value hget
        obtain ⟨backs, hbacks, hsame⟩ := same_rows fun row hmem =>
          hinner f hf inner hsome hnested row (rows f hf htable inner hsome items hget row hmem)
        exact ⟨.list backs, .list items, hget, table_field_reads_back hgiven htable hsome
          (hrow.rows f hf inner htable hsome) rfl hfill hbacks, hsame⟩
    · obtain ⟨a, rfl, hexact⟩ := scalar f hf hnested value hget
      obtain ⟨raw, hraw, hlength, hback⟩ :=
        exact_reads_back (fixed_of_not_nested h hf hnested) (hrow.right f hf) hexact
      exact ⟨.leaf a, .leaf a, hget,
        leaf_field_reads_back hgiven hnested hraw hlength hback, .leaf a⟩

/-- A complete row comes back as the same dict. -/
theorem row_comes_back {type_desc : TypeDesc} (h : Described mode type_desc)
    (hnames : DistinctNames type_desc) {value : PyVal PyLeaf}
    (hvalue : Complete mode type_desc value) :
    ∃ back, RowReadsBack u (leafScalars u k) mode type_desc value back ∧ Same back value := by
  -- by induction on the layout: the rows in it come back
  induction hn : sizeOf type_desc using Nat.strong_induction_on generalizing type_desc value with
  | _ n ih =>
    subst hn
    have hinner : ∀ f ∈ type_desc.fields, ∀ inner, f.type_desc = some inner →
        f.rfctype ∈ [RFCTYPE_STRUCTURE, RFCTYPE_TABLE] → ∀ row, Complete mode inner row →
        ∃ back, RowReadsBack u (leafScalars u k) mode inner row back ∧ Same back row := by
      intro f hf inner hsome hnested row hrow
      exact ih _ (sizeOf_inner hf hsome) (described_inner h hf hnested hsome)
        (fun deep hdeep => hnames deep (.field hf hnested hsome hdeep)) hrow rfl
    cases hvalue with
    | @row _ entries keys scalar nested table rows =>
      have hcomplete := Complete.row keys scalar nested table rows
      have hfield : ∀ f, ∃ back, f ∈ type_desc.fields → ∃ value,
          assocGet entries f.name = some value ∧
            FieldReadsBack u (leafScalars u k) mode f (.dict entries) back ∧ Same back value := by
        intro f
        by_cases hf : f ∈ type_desc.fields
        · obtain ⟨back, hback⟩ := field_comes_back h hcomplete hinner hf
          exact ⟨back, fun _ => hback⟩
        · exact ⟨.dict [], fun hmem => absurd hmem hf⟩
      choose back hback using hfield
      have hround := row_round (h _ (.here _)).toSpanned back fun f hf =>
        (hback f hf).elim fun _ hvalue => hvalue.2.1
      have hshown : ∀ f ∈ type_desc.fields, assocGet (entered []
          (type_desc.fields.map fun f => (f.name, back f))) f.name = some (back f) :=
        fun f hf => assocGet_entered (shown_of_nodup (hnames _ (.here _)) hf) back
      refine ⟨_, hround, .dict (fun key => ?_) fun key a b ha hb => ?_⟩
      · by_cases hkey : key ∈ type_desc.fields.map FieldDesc.name
        · rw [(keys key).mpr hkey]
          obtain ⟨f, hf, rfl⟩ := List.mem_map.mp hkey
          rw [hshown f hf]
          rfl
        · rw [assocGet_entered_none hkey, Bool.eq_false_iff.mpr fun hsome =>
            hkey ((keys key).mp hsome)]
          rfl
      · have hkey := (keys key).mp (by rw [hb]; rfl)
        obtain ⟨f, hf, rfl⟩ := List.mem_map.mp hkey
        obtain ⟨value, hget, -, hsame⟩ := hback f hf
        rw [hshown f hf] at ha
        rw [hget] at hb
        rw [← Option.some.inj ha, ← Option.some.inj hb]
        exact hsame

/-- INTERNAL: rows of the declared width, counted or not. -/
theorem decode_counted {α : Type} {name : PyStr} {dec_row : Bytes → Except PyError α} {w : ℕ}
    (hw : 0 < w) {raws : List Bytes} (h : ∀ raw ∈ raws, raw.length = w) {row_count : Option ℕ}
    (hcount : row_count = none ∨ row_count = some raws.length) :
    table_rows u name w dec_row raws.flatten row_count = raws.mapM dec_row := by
  rcases hcount with rfl | rfl
  · exact TableRows.table_rows_declared hw h
  · cases raws with
    | nil => rfl
    | cons raw raws => exact TableRows.table_rows_counted hw le_rfl (List.cons_ne_nil _ _) h

/-- A structure and a table of complete rows come back: the structure as the same dict, and the
table, counted or not, as the same list. -/
theorem structures_come_back {type_desc : TypeDesc} (h : Described mode type_desc)
    (hnames : DistinctNames type_desc) :
    (∀ value, Complete mode type_desc value →
      ∃ out back, (leafScalars u k).encode_structure u mode type_desc value = .ok out ∧
        (leafScalars u k).decode_structure u mode type_desc out = .ok back ∧ Same back value) ∧
    ∀ rows, (∀ row ∈ rows, Complete mode type_desc row) → 0 < type_desc.row_size mode →
      ∀ field : FieldDesc, field.type_desc = some type_desc → field.unicode_mode = mode →
        ∀ row_count, row_count = none ∨ row_count = some rows.length →
          ∃ out back,
            (leafScalars u k).encode_value u RFCTYPE_TABLE (.list rows) field = .ok out ∧
            (leafScalars u k).decode_value u RFCTYPE_TABLE out field row_count = .ok back ∧
              Same back (.list rows) := by
  constructor
  · intro value hvalue
    obtain ⟨back, ⟨out, hout, -, hback⟩, hsame⟩ := row_comes_back (u := u) (k := k) h hnames hvalue
    exact ⟨out, back, hout, hback, hsame⟩
  · intro rows hrows hsize field hinner hmode row_count hcount
    subst hmode
    obtain ⟨backs, hbacks, hsame⟩ :=
      same_rows fun row hrow => row_comes_back (u := u) (k := k) h hnames (hrows row hrow)
    obtain ⟨raws, hraws, hlength, hlengths, hdecoded⟩ := rows_read_back hbacks
    obtain ⟨w, hw⟩ := Int.eq_ofNat_of_zero_le hsize.le
    rw [hw, Int.toNat_natCast] at hlengths
    refine ⟨raws.flatten, .list backs, ?_, ?_, hsame⟩
    · unfold Scalars.encode_value
      rw [if_neg (by decide), if_pos rfl, hinner]
      show ((rows.mapM fun row => _) >>= fun raws => Except.ok raws.flatten) = _
      rw [hraws]
      rfl
    · unfold Scalars.decode_value
      rw [if_neg (by decide), if_pos rfl, hinner]
      dsimp only
      rw [hw, decode_counted (by omega) hlengths (hlength ▸ hcount), hdecoded]
      rfl

end RoundTrips

/-! ## Rows that are read, and rows that are not -/

/-- INTERNAL: a layout without other layouts in it. -/
theorem within_flat {type_desc deep : TypeDesc}
    (hflat : ∀ f ∈ type_desc.fields, f.type_desc = none) (h : Within type_desc deep) :
    deep = type_desc := by
  cases h with
  | here => rfl
  | field hf _ hinner _ =>
    rw [hflat _ hf] at hinner
    cases hinner

/-- A layout of scalars that is described. -/
theorem described_flat {mode : Bool} {type_desc : TypeDesc} (h : Spanned mode type_desc)
    (hflat : ∀ f ∈ type_desc.fields, f.type_desc = none)
    (hkind : ∀ f ∈ type_desc.fields, f.rfctype ∈ FIXED_TYPES)
    (hright : ∀ f ∈ type_desc.fields, RightWidth mode f) : Described mode type_desc := by
  intro deep hdeep
  obtain rfl := within_flat hflat hdeep
  refine ⟨h, fun f hf => .inl (hkind f hf), hright, ?_, ?_, ?_⟩
  · intro f hf hnested
    exact absurd hnested (not_nested_of_fixed _ (hkind f hf))
  · intro f hf inner _ hinner
    rw [hflat f hf] at hinner
    cases hinner
  · intro f hf inner _ hinner
    rw [hflat f hf] at hinner
    cases hinner

/-- A layout of one scalar. -/
def lone_field (rfctype : ℕ) (length decimals : ℤ) : TypeDesc where
  name := lit "LONE"
  fields := [leaf_field (lit "FIELD") rfctype 0 length decimals]
  nuc_size := length
  uc_size := length

theorem described_lone_field {rfctype : ℕ} {length decimals : ℤ} (hlength : 0 ≤ length)
    (hkind : rfctype ∈ FIXED_TYPES)
    (hright : RightWidth true (leaf_field (lit "FIELD") rfctype 0 length decimals)) :
    Described true (lone_field rfctype length decimals) := by
  have hfield : ∀ f ∈ (lone_field rfctype length decimals).fields,
      f = leaf_field (lit "FIELD") rfctype 0 length decimals := fun f hf => List.mem_singleton.mp hf
  apply described_flat
  · refine ⟨hlength, ?_, ?_, ?_, List.pairwise_singleton _ _⟩
    · intro f hf
      rw [hfield f hf]
      exact le_refl 0
    · intro f hf
      rw [hfield f hf]
      exact hlength
    · intro f hf
      rw [hfield f hf]
      exact (zero_add length).le
  · intro f hf
    rw [hfield f hf]
    rfl
  · intro f hf
    rw [hfield f hf]
    exact hkind
  · intro f hf
    rw [hfield f hf]
    exact hright

/-- A row of one scalar. -/
def lone_row (a : PyLeaf) : PyVal PyLeaf := .dict [(lit "FIELD", .leaf a)]

/-- INTERNAL: the keys of a dict. -/
theorem isSome_assocGet_iff {d : List (PyStr × PyVal PyLeaf)} {key : PyStr} :
    (assocGet d key).isSome = true ↔ key ∈ d.map Prod.fst := by
  rw [Option.isSome_iff_ne_none, ne_eq, assocGet_eq_none, List.mem_map]
  push Not
  rfl

/-- INTERNAL: a complete row of scalars. -/
theorem complete_flat {mode : Bool} {type_desc : TypeDesc}
    {entries : List (PyStr × PyVal PyLeaf)}
    (hflat : ∀ f ∈ type_desc.fields, f.type_desc = none)
    (hkeys : (entries.map Prod.fst).Perm (type_desc.fields.map FieldDesc.name))
    (hscalar : ∀ f ∈ type_desc.fields, ∀ value, assocGet entries f.name = some value →
      ∃ a, value = .leaf a ∧ Exact mode f a) : Complete mode type_desc (.dict entries) := by
  refine .row (fun key => isSome_assocGet_iff.trans hkeys.mem_iff) (fun f hf _ => hscalar f hf)
    ?_ ?_ ?_
  all_goals
    intro f hf _ inner hinner
    rw [hflat f hf] at hinner
    cases hinner

/-- INTERNAL: bytes of the width of their field. -/
theorem exact_bytes {mode : Bool} {f : FieldDesc} (htype : f.rfctype = RFCTYPE_BYTE) {b : Bytes}
    (hlength : b.length = width mode f) : Exact mode f (.bytes b) := by
  constructor
  case byte => exact fun _ => ⟨b, rfl, hlength⟩
  all_goals
    intro hother
    rw [htype] at hother
    exact absurd hother (by decide)

/-- INTERNAL: a text without blanks at its end. -/
theorem exact_char {mode : Bool} {f : FieldDesc} (htype : f.rfctype = RFCTYPE_CHAR) {s : PyStr}
    (hplain : Plain s) (hlength : (s.length : ℤ) ≤ char_count f) (hblanks : rstrip [32] s = s) :
    Exact mode f (.str s) := by
  constructor
  case char => exact fun _ => ⟨s, rfl, hplain, hlength, hblanks⟩
  all_goals
    intro hother
    rw [htype] at hother
    exact absurd hother (by decide)

/-- INTERNAL: a number with the decimals of its field. -/
theorem exact_packed {mode : Bool} {f : FieldDesc} (htype : f.rfctype = RFCTYPE_BCD) (sign : Bool)
    {coeff : ℕ} {exp : ℤ} (hexp : exp = -f.decimals) (hwidth : coeff < 10 ^ (2 * width mode f - 1))
    (hcoeff : coeff < 10 ^ PyDecimal.PREC) : Exact mode f (.decimal (.finite sign coeff exp)) := by
  constructor
  case bcd => exact fun _ => ⟨sign, coeff, by rw [hexp], hwidth, hcoeff⟩
  all_goals
    intro hother
    rw [htype] at hother
    exact absurd hother (by decide)

/-- A text of two characters, and a packed number of two bytes with one decimal. -/
def item_layout : TypeDesc where
  name := lit "ITEM"
  fields := [leaf_field (lit "TEXT") RFCTYPE_CHAR 0 4 0, leaf_field (lit "PRICE") RFCTYPE_BCD 4 2 1]
  nuc_size := 6
  uc_size := 6

/-- Two bytes, and an item behind them. -/
def order_layout : TypeDesc where
  name := lit "ORDER"
  fields := [leaf_field (lit "KEY") RFCTYPE_BYTE 0 2 0,
    { leaf_field (lit "ITEM") RFCTYPE_STRUCTURE 2 6 0 with type_desc := some item_layout }]
  nuc_size := 8
  uc_size := 8

/-- INTERNAL: the fields of an item have no layouts. -/
theorem flat_item : ∀ f ∈ item_layout.fields, f.type_desc = none := by decide

/-- INTERNAL: the layouts in an order. -/
theorem within_order {deep : TypeDesc} (h : Within order_layout deep) :
    deep = order_layout ∨ deep = item_layout := by
  cases h with
  | here => exact .inl rfl
  | field hf _ hinner hdeep =>
    rcases List.mem_cons.mp hf with rfl | hf
    · cases hinner
    · obtain rfl := List.mem_singleton.mp hf
      cases hinner
      exact .inr (within_flat flat_item hdeep)

theorem described_order : Described true order_layout := by
  have hitem : Described true item_layout :=
    described_flat (spanned_pair rfl (by decide) (by decide) (by decide) (by decide)) flat_item
      (by decide) (by decide)
  intro deep hdeep
  rcases within_order hdeep with rfl | rfl
  · refine ⟨spanned_pair rfl (by decide) (by decide) (by decide) (by decide), by decide, by decide,
      ?_, ?_, ?_⟩
    · intro f hf hnested
      rcases List.mem_cons.mp hf with rfl | hf
      · exact absurd hnested (by decide)
      · obtain rfl := List.mem_singleton.mp hf
        exact ⟨_, rfl⟩
    · intro f hf inner _ hinner
      rcases List.mem_cons.mp hf with rfl | hf
      · cases hinner
      · obtain rfl := List.mem_singleton.mp hf
        cases hinner
        rfl
    · intro f hf inner htable
      rcases List.mem_cons.mp hf with rfl | hf
      · cases htable
      · obtain rfl := List.mem_singleton.mp hf
        cases htable
  · exact hitem _ (.here _)

/-- An item: `ab`, for minus one and a half. -/
def item_row : PyVal PyLeaf :=
  .dict [(lit "PRICE", .leaf (.decimal (.finite true 15 (-1)))),
    (lit "TEXT", .leaf (.str (lit "ab")))]

/-- An order, with its fields in another order. -/
def order_row : PyVal PyLeaf :=
  .dict [(lit "ITEM", item_row), (lit "KEY", .leaf (.bytes [1, 2]))]

/-- INTERNAL: every field of the item has a value of its form. -/
theorem complete_item : Complete true item_layout item_row := by
  refine complete_flat flat_item (by decide) ?_
  intro f hf value hvalue
  rcases List.mem_cons.mp hf with rfl | hf
  · obtain rfl := Option.some.inj hvalue
    exact ⟨_, rfl, exact_char rfl (by decide) (by decide) (by decide)⟩
  · obtain rfl := List.mem_singleton.mp hf
    obtain rfl := Option.some.inj hvalue
    exact ⟨_, rfl, exact_packed rfl true rfl (by decide) (by decide)⟩

/-- A text and a packed number in a structure in a structure. -/
theorem structures_come_back_order :
    ∃ out back, (leafScalars asciiTables strictBuiltins).encode_structure asciiTables true
        order_layout order_row = .ok out ∧
      (leafScalars asciiTables strictBuiltins).decode_structure asciiTables true order_layout out =
        .ok back ∧ Same back order_row := by
  have hnames : DistinctNames order_layout := by
    intro deep hdeep
    rcases within_order hdeep with rfl | rfl
    · decide
    · decide
  refine (structures_come_back described_order hnames).1 _ (.row ?_ ?_ ?_ ?_ ?_)
  · have hkeys : [lit "ITEM", lit "KEY"].Perm (order_layout.fields.map FieldDesc.name) := by decide
    exact fun key => isSome_assocGet_iff.trans hkeys.mem_iff
  · intro f hf hscalar value hvalue
    rcases List.mem_cons.mp hf with rfl | hf
    · obtain rfl := Option.some.inj hvalue
      exact ⟨_, rfl, exact_bytes rfl rfl⟩
    · obtain rfl := List.mem_singleton.mp hf
      exact absurd hscalar (by decide)
  · intro f hf htype inner hinner value hvalue
    rcases List.mem_cons.mp hf with rfl | hf
    · cases htype
    · obtain rfl := List.mem_singleton.mp hf
      cases hinner
      obtain rfl := Option.some.inj hvalue
      exact complete_item
  all_goals
    intro f hf htable
    rcases List.mem_cons.mp hf with rfl | hf
    · cases htable
    · obtain rfl := List.mem_singleton.mp hf
      cases htable

/-- A character beyond the basic plane in a NUM field of one character makes the row longer than its
layout, and it is not decoded; half of a surrogate pair in a CHAR field is not encoded; a date of
zeros and blanks is decoded to the empty one. -/
theorem rows_not_come_back :
    Described true (lone_field RFCTYPE_NUM 2 0) ∧ Described true (lone_field RFCTYPE_CHAR 2 0) ∧
      Described true (lone_field RFCTYPE_DATE 16 0) ∧
      (leafScalars asciiTables strictBuiltins).encode_structure asciiTables true
        (lone_field RFCTYPE_NUM 2 0) (lone_row (.str [0x1F600])) = .ok [0x3D, 0xD8, 0, 0xDE] ∧
      (¬ ∃ back, (leafScalars asciiTables strictBuiltins).decode_structure asciiTables true
        (lone_field RFCTYPE_NUM 2 0) [0x3D, 0xD8, 0, 0xDE] = .ok back) ∧
      (¬ ∃ out, (leafScalars asciiTables strictBuiltins).encode_structure asciiTables true
        (lone_field RFCTYPE_CHAR 2 0) (lone_row (.str [0xD800])) = .ok out) ∧
      ((leafScalars asciiTables strictBuiltins).encode_structure asciiTables true
        (lone_field RFCTYPE_DATE 16 0) (lone_row (.str (lit "0000  00")))).bind
          ((leafScalars asciiTables strictBuiltins).decode_structure asciiTables true
            (lone_field RFCTYPE_DATE 16 0)) = .ok (lone_row (.str [])) := by
  refine ⟨described_lone_field (by decide) (by decide) (by decide),
    described_lone_field (by decide) (by decide) (by decide),
    described_lone_field (by decide) (by decide) (by decide), by decide +kernel, ?_, ?_,
    by decide +kernel⟩
  · rintro ⟨back, hback⟩
    cases hback
  · rintro ⟨out, hout⟩
    cases hout

end SapRfc.Analysis.StructureRoundTrips
