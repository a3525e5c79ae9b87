import SapRfc.Analysis.RequestRecords
import SapRfc.Analysis.Replies
import SapRfc.Analysis.TableRows
import SapRfc.Analysis.TextCodecs

/-!
# Round trips of a call

What the client sends for the parameters of a call the server reads back, and what the server
answers the client reads back: each value as it is decoded from its own encoding, and the
rows of a table one by one.
-/

set_option autoImplicit false

namespace SapRfc.Analysis.RoundTrips

open SapRfc.Library SapRfc.Program PairGroups RequestRecords TextCodecs

variable {L : Type} (u : Unicode) (s : Scalars L)

/-- A value as it is decoded from its own encoding. -/
def carried (field : FieldDesc) (value : PyVal L) : Except PyError (PyVal L) :=
  if field.rfctype = RFCTYPE_TABLE then
    match field.type_desc with
    | none => .error (missing_type_desc u field "encode")
    | some type_desc => do
      let rows ← (s.codec u).rows value
      let values ← rows.mapM fun row => do
        let raw ← s.encode_structure u field.unicode_mode type_desc row
        s.decode_structure u field.unicode_mode type_desc raw
      .ok (.list values)
  else do
    let raw ← s.encode_value u field.rfctype value field
    s.decode_value u field.rfctype raw field none

/-- Every row is encoded in the bytes that the layout says. -/
def RowsExact (field : FieldDesc) (value : PyVal L) : Prop :=
  ∀ type_desc, field.type_desc = some type_desc → ∀ rows, (s.codec u).rows value = .ok rows →
    ∀ row ∈ rows, ∀ raw, s.encode_structure u field.unicode_mode type_desc row = .ok raw →
      (raw.length : ℤ) = type_desc.row_size field.unicode_mode

/-- A name that a reader gets back as it is; a table has one that is not empty. -/
structure Readable (field : FieldDesc) : Prop where
  text : IsText field.name
  trimmed : Trimmed field.name
  table : field.rfctype = RFCTYPE_TABLE → field.name ≠ []

/-- The row layout of a table is there and takes some bytes. -/
def Resolved (field : FieldDesc) : Prop :=
  field.rfctype = RFCTYPE_TABLE →
    ∃ type_desc, field.type_desc = some type_desc ∧ 0 < type_desc.row_size field.unicode_mode

variable {u s}

/-- INTERNAL: rows that were encoded are decoded one by one. -/
theorem mapM_encoded {α : Type} {rows : List α} {raws : List Bytes} {β : Type}
    {enc : α → Except PyError Bytes} {dec_row : Bytes → Except PyError β}
    (h : rows.mapM enc = .ok raws) :
    (rows.mapM fun row => do
      let raw ← enc row
      dec_row raw) = raws.mapM dec_row := by
  induction rows generalizing raws with
  | nil =>
    obtain rfl : raws = [] := (Except.ok.inj h).symm
    rfl
  | cons row rows ih =>
    obtain ⟨raw, rest, hraw, hrest, rfl⟩ := Eff.except_mapM_cons_eq_ok.mp h
    rw [List.mapM_cons, List.mapM_cons, hraw, Eff.except_ok_bind, ih hrest]

/-- INTERNAL: each encoded row comes from a row. -/
theorem length_encoded {α : Type} {rows : List α} {raws : List Bytes} {w : ℤ}
    {enc : α → Except PyError Bytes} (h : rows.mapM enc = .ok raws)
    (hexact : ∀ row ∈ rows, ∀ raw, enc row = .ok raw → (raw.length : ℤ) = w) :
    raws.length = rows.length ∧ ∀ raw ∈ raws, (raw.length : ℤ) = w := by
  induction rows generalizing raws with
  | nil =>
    obtain rfl : raws = [] := (Except.ok.inj h).symm
    exact ⟨rfl, nofun⟩
  | cons row rows ih =>
    obtain ⟨raw, rest, hraw, hrest, rfl⟩ := Eff.except_mapM_cons_eq_ok.mp h
    obtain ⟨hlength, hall⟩ := ih hrest fun q hq => hexact q (List.mem_cons_of_mem _ hq)
    refine ⟨congrArg (· + 1) hlength, List.forall_mem_cons.mpr ⟨?_, hall⟩⟩
    exact hexact row List.mem_cons_self raw hraw

/-- INTERNAL: a table is encoded row by row. -/
theorem encode_table_eq_ok {field : FieldDesc} {value : PyVal L} {type_desc : TypeDesc}
    {all_rows : Bytes} (htype : field.type_desc = some type_desc)
    (h : s.encode_value u RFCTYPE_TABLE value field = .ok all_rows) :
    ∃ items, s.items_of value = .ok items ∧ ∃ raws,
      items.mapM (s.encode_structure u field.unicode_mode type_desc) = .ok raws ∧
        raws.flatten = all_rows := by
  have hnot : RFCTYPE_TABLE ≠ RFCTYPE_STRUCTURE := by decide
  unfold Scalars.encode_value at h
  rw [if_neg hnot, if_pos rfl, htype] at h
  obtain ⟨items, hitems, h⟩ := Eff.except_bind_eq_ok.mp h
  obtain ⟨raws, hraws, h⟩ := Eff.except_bind_eq_ok.mp h
  exact ⟨items, hitems, raws, hraws, Except.ok.inj h⟩

/-- The rows of a table behind their encoding, with their number or without. -/
theorem decode_rows {field : FieldDesc} {value : PyVal L} {type_desc : TypeDesc}
    {rows : List (PyVal L)} {raws : List Bytes} (htable : field.rfctype = RFCTYPE_TABLE)
    (htype : field.type_desc = some type_desc)
    (hpositive : 0 < type_desc.row_size field.unicode_mode) (hexact : RowsExact u s field value)
    (hrows : (s.codec u).rows value = .ok rows)
    (hraws : rows.mapM (s.encode_structure u field.unicode_mode type_desc) = .ok raws)
    {row_count : Option ℕ}
    (hcount : row_count = none ∨ (row_count = some raws.length ∧ raws ≠ [])) :
    s.decode_value u field.rfctype raws.flatten field row_count = carried u s field value := by
  obtain ⟨-, hlengths⟩ := length_encoded hraws (hexact type_desc htype rows hrows)
  obtain ⟨w, hw⟩ := Int.eq_ofNat_of_zero_le hpositive.le
  have hwidth : ∀ raw ∈ raws, raw.length = w := fun raw hraw => by
    have := hlengths raw hraw
    omega
  have hdecode : table_rows u field.name (type_desc.row_size field.unicode_mode)
      (s.decode_structure u field.unicode_mode type_desc) raws.flatten row_count =
        raws.mapM (s.decode_structure u field.unicode_mode type_desc) := by
    rcases hcount with rfl | ⟨rfl, hne⟩
    · rw [hw]
      exact TableRows.table_rows_declared (by omega) hwidth
    · exact TableRows.table_rows_counted (by omega) hw.le hne hwidth
  have hstructure : field.rfctype ≠ RFCTYPE_STRUCTURE := by
    rw [htable]
    decide
  unfold Scalars.decode_value carried
  rw [if_neg hstructure, if_pos htable, if_pos htable, htype]
  dsimp only
  rw [hdecode, hrows, Eff.except_ok_bind, mapM_encoded hraws]

/-- INTERNAL: the parameters that are sent are some of the declared ones, in their order. -/
theorem nodup_sent {V : Type} {fields : List FieldDesc}
    (hnames : (fields.map fun f => u.upper f.name).Nodup) {sent : List (Sent V)}
    {value : FieldDesc → Option V}
    (hsent : (sent.map fun c => (c.field, c.value)) =
      fields.filterMap (fun f => (value f).map fun v => (f, v))) :
    (sent.map fun c => c.field.name).Nodup := by
  have hfst := congrArg (List.map Prod.fst) hsent
  rw [List.map_map, map_fst_filterMap] at hfst
  have hsub : (sent.map fun c => c.field).Sublist fields := by
    have hfields : (sent.map fun c => c.field) =
        sent.map (Prod.fst ∘ fun c => (c.field, c.value)) := rfl
    rw [hfields, hfst]
    exact List.filter_sublist
  have hmap := hsub.map FieldDesc.name
  rw [List.map_map] at hmap
  exact hmap.nodup (Dicts.nodup_names u hnames)

/-! ## Rows of three bytes -/

/-- A field of a row: some bytes. -/
def byteField (name : PyStr) (offset length : ℤ) : FieldDesc :=
  ⟨name, RFCTYPE_BYTE, length, offset, length, offset, 0, true, none, 1, false, none, none⟩

/-- Rows of three bytes. -/
def byteRow : TypeDesc :=
  ⟨lit "ROW", [byteField (lit "A") 0 1, byteField (lit "B") 1 2], 3, 3⟩

def byteTable (name : PyStr) (direction : ℕ) : FieldDesc :=
  ⟨name, RFCTYPE_TABLE, 3, 0, 3, 0, 0, true, some byteRow, direction, false, none, none⟩

def byteScalar (name : PyStr) (direction : ℕ) : FieldDesc :=
  ⟨name, RFCTYPE_XSTRING, 0, 0, 0, 0, 0, true, none, direction, false, none, none⟩

def rowOf (a b c : UInt8) : PyVal Bytes :=
  .dict [(lit "A", .leaf [a]), (lit "B", .leaf [b, c])]

/-- INTERNAL: a row takes its three bytes. -/
theorem encode_rowOf (a b c : UInt8) :
    byteScalars.encode_structure asciiTables true byteRow (rowOf a b c) = .ok [a, b, c] := rfl

/-- INTERNAL: a table of such rows. -/
theorem rowsExact_byteTable {name : PyStr} {direction : ℕ} {rows : List (PyVal Bytes)}
    (h : ∀ row ∈ rows, ∃ a b c, row = rowOf a b c) :
    RowsExact asciiTables byteScalars (byteTable name direction) (.list rows) := by
  intro type_desc htype items hitems row hrow raw hraw
  obtain rfl : byteRow = type_desc := Option.some.inj htype
  have hin : row ∈ rows := by
    cases rows with
    | nil =>
      obtain rfl : items = [] := (Except.ok.inj hitems).symm
      cases hrow
    | cons first rest =>
      obtain rfl : first :: rest = items := Except.ok.inj hitems
      exact hrow
  obtain ⟨a, b, c, rfl⟩ := h row hin
  obtain rfl : [a, b, c] = raw := Except.ok.inj ((encode_rowOf a b c).symm.trans hraw)
  rfl

def bytesPlatform : Platform (PyVal Bytes) := byteScalars.platform asciiTables fun _ => []

/-- INTERNAL: a value that is sent is not read as nothing. -/
theorem named_values_ne_nil {γ V : Type} {read : FieldDesc → γ → Except PyError V}
    {es : List (FieldDesc × γ)} {e : FieldDesc × γ} (h : e ∈ es) :
    Dicts.named_values read es ≠ .ok [] := by
  intro hnil
  cases es with
  | nil => cases h
  | cons first es =>
    obtain ⟨_, _, -, -, hcons⟩ := Eff.except_mapM_cons_eq_ok.mp hnil
    cases hcons

/-! ## Requests -/

section Request

variable {typeName : PyError → PyStr}

/-- INTERNAL: the group of a parameter is read under its name, and its payload decodes to what
was sent. -/
theorem sentAs_carried {ids : List (ℕ × PyStr)} {field : FieldDesc} {value : PyVal L} {g : Group}
    (hname : Readable field) (hresolved : Resolved field)
    (hexact : field.rfctype = RFCTYPE_TABLE → RowsExact u s field value)
    (htruth : field.rfctype = RFCTYPE_TABLE → s.truth_of value = true)
    (h : SentAs (s.platform u typeName) ids field value g) :
    g.name = field.name ∧ g.Reads (s.codec u) ∧
      s.decode_value u field.rfctype g.payload field none = carried u s field value := by
  cases h with
  | scalar plain named encodes =>
    refine ⟨rfl, reads_scalarGroup _ (decode_utf16le_trimmed hname.text hname.trimmed named), ?_⟩
    have hencodes : s.encode_value u field.rfctype value field = .ok _ := encodes
    unfold carried
    rw [if_neg plain, hencodes]
    rfl
  | @table type_desc name dm_id info all_row_bytes id row_count rows resolved named numbered packed
      encodes sized =>
    have hread := decode_utf16le_trimmed hname.text hname.trimmed named
    have hne := encode_ne_nil named (hname.table rows)
    refine ⟨rfl, reads_tableGroup (.inl rfl) hne hread dm_id info _, ?_⟩
    obtain ⟨type_desc', htype', hpositive⟩ := hresolved rows
    obtain rfl : type_desc = type_desc' := Option.some.inj (resolved.symm.trans htype')
    have hsized : (s.items_of value).map List.length = .ok row_count := sized
    obtain ⟨items, hitems, raws, hraws, rfl⟩ := encode_table_eq_ok resolved
      (show s.encode_value u RFCTYPE_TABLE value field = .ok all_row_bytes from encodes)
    have hrows : (s.codec u).rows value = .ok items := by
      show (if s.truth_of value = true then s.items_of value else .ok []) = _
      rw [if_pos (htruth rows), hitems]
    rw [hitems] at hsized
    obtain rfl : items.length = row_count := Except.ok.inj hsized
    obtain ⟨hlength, hlengths⟩ := length_encoded hraws (hexact rows type_desc resolved items hrows)
    have hslices := TableRows.row_slices_flatten hlengths
    rw [hlength] at hslices
    show s.decode_value u field.rfctype (List.map (row_slice raws.flatten
      (type_desc.row_size field.unicode_mode)) (List.range items.length)).flatten field none = _
    rw [hslices]
    exact decode_rows rows resolved hpositive (hexact rows) hrows hraws (.inl rfl)

/-- INTERNAL: what the server makes of the pairs of a request. -/
theorem foldlM_request {desc : FunctionDesc}
    (hnames : (desc.parameters.map fun f => u.upper f.name).Nodup) {sent : List (Sent (PyVal L))}
    (hfields : ∀ c ∈ sent, c.field ∈ desc.parameters)
    (hnodup : (sent.map fun c => c.field.name).Nodup)
    (hread : ∀ c ∈ sent, c.group.name = c.field.name ∧
      s.decode_value u c.field.rfctype c.group.payload c.field none =
        carried u s c.field c.value) :
    (sent.map fun c => (c.group.name, c.group.payload)).foldlM
        (fun (request : Values (PyVal L)) (name, raw) =>
          match field_of u desc.parameters name with
          | none => .ok request
          | some field => do
            let value ← (s.codec u).decode field.rfctype raw field none
            .ok (assocSet request field.name value)) [] =
      Dicts.named_values (carried u s) (sent.map fun c => (c.field, c.value)) := by
  have hpairs : (sent.map fun c => (c.group.name, c.group.payload)) =
      (sent.map fun c => (c.field, c.group.payload)).map fun e => (e.1.name, e.2) := by
    rw [List.map_map]
    exact List.map_congr_left fun c hc => Prod.ext (hread c hc).1 rfl
  have hvalues : Dicts.named_values (fun field raw => s.decode_value u field.rfctype raw field none)
      (sent.map fun c => (c.field, c.group.payload)) =
        Dicts.named_values (carried u s) (sent.map fun c => (c.field, c.value)) :=
    Dicts.named_values_congr fun c hc => (hread c hc).2
  rw [hpairs, List.foldlM_map,
    Dicts.foldlM_fields fun field raw => s.decode_value u field.rfctype raw field none, hvalues]
  · cases Dicts.named_values (carried u s) (sent.map fun c => (c.field, c.value)) <;> rfl
  · intro e he result
    obtain ⟨c, hc, rfl⟩ := List.mem_map.mp he
    dsimp only
    rw [Dicts.field_of_mem u hnames (hfields c hc)]
    rfl
  · rw [List.map_map]
    exact hnodup

/-- A parameter that the caller supplies; a table without rows does not count. -/
structure Supplied (u : Unicode) (s : Scalars L) (desc : FunctionDesc)
    (params : Values (PyVal L)) (e : FieldDesc × PyVal L) : Prop where
  declared : e.1 ∈ desc.parameters
  given : ∃ key, (key, e.2) ∈ params ∧ u.upper key = u.upper e.1.name
  filled : e.1.rfctype = RFCTYPE_TABLE → s.truth_of e.2 = true

/-- INTERNAL: what is sent is what is supplied. -/
theorem sentValue_eq_some (typeName : PyError → PyStr) {desc : FunctionDesc}
    {params : Values (PyVal L)}
    (hnames : (desc.parameters.map fun f => u.upper f.name).Nodup)
    (hkeys : (params.map fun e => u.upper e.1).Nodup)
    (hinputs : ∀ e ∈ params, ∃ f ∈ desc.parameters, u.upper f.name = u.upper e.1 ∧
      f.direction ≠ RFC_EXPORT) {field : FieldDesc} {value : PyVal L}
    (hfield : field ∈ desc.parameters) :
    sentValue (s.platform u typeName) (upper_keys u params) field = some value ↔
      Supplied u s desc params (field, value) := by
  have hget := @Dicts.assocGet_upper_keys _ u params hkeys (u.upper field.name) value
  unfold sentValue
  constructor
  · intro h
    split at h
    · cases h
    obtain ⟨hvalue, hfilled⟩ := Option.filter_eq_some_iff.mp h
    refine ⟨hfield, hget.mp hvalue, fun htable => ?_⟩
    rcases of_decide_eq_true hfilled with hplain | htruth
    · exact absurd htable hplain
    · exact htruth
  · rintro ⟨-, ⟨key, hmem, hkey⟩, hfilled⟩
    obtain ⟨f, hf, hupper, hdirection⟩ := hinputs _ hmem
    obtain rfl : f = field := List.inj_on_of_nodup_map hnames hf hfield (hupper.trans hkey)
    rw [if_neg hdirection]
    refine Option.filter_eq_some_iff.mpr ⟨hget.mpr ⟨key, hmem, hkey⟩, decide_eq_true ?_⟩
    by_cases htable : f.rfctype = RFCTYPE_TABLE
    · exact .inr (hfilled htable)
    · exact .inl htable

/-- INTERNAL: the compact block is looked for where nothing was found, and there is none. -/
theorem deserialize_of_pairs {desc : FunctionDesc} {records : List (ℕ × Bytes)}
    {pairs : List (PyStr × Bytes)} {p : Platform (PyVal L)}
    (hfits : ∀ r ∈ records, Records.Fits Tag.TERMINATOR r)
    (hcompact : ∀ r ∈ records, r.1 ≠ Tag.COMPACT_PARAMS)
    {counts : List (PyStr × ℕ)}
    (hreaches : ∃ st, records.foldlM (pair_record p.codec []) PairState.init = .ok st ∧
      Reaches p.codec st pairs counts) :
    deserialize_request p (Records.stream Tag.TERMINATOR records) (some desc) =
      pairs.foldlM (fun (request : Values (PyVal L)) (name, raw) =>
        match field_of p.u desc.parameters name with
        | none => .ok request
        | some field => do
          let value ← p.codec.decode field.rfctype raw field none
          .ok (assocSet request field.name value)) [] := by
  have htags : ∃ tags, parse_tlv_stream (Records.stream Tag.TERMINATOR records) = .ok tags ∧
      tags.get Tag.COMPACT_PARAMS = none := by
    have hwalk := Records.walk_stream (by decide) hfits []
    rw [List.append_nil] at hwalk
    refine ⟨records, ?_, ?_⟩
    · unfold parse_tlv_stream
      rw [hwalk]
    · unfold Tags.get
      rw [Option.map_eq_none_iff, List.find?_eq_none]
      intro r hr
      rw [decide_eq_true_eq]
      exact hcompact r (List.mem_reverse.mp hr)
  obtain ⟨tags, hparse, hnone⟩ := htags
  unfold deserialize_request
  dsimp only
  unfold extract_name_value_pairs
  rw [extract_named_values_of_reaches hfits hreaches, Eff.except_ok_bind, Eff.except_ok_bind]
  dsimp only
  generalize pairs.foldlM (m := Except PyError) _ [] = outcome
  cases outcome with
  | error e => rfl
  | ok found =>
    rw [Eff.except_ok_bind]
    by_cases hfound : found ≠ []
    · rw [if_pos hfound]
    · rw [if_neg hfound, hparse, Eff.except_ok_bind, hnone, not_not.mp hfound]

/-- The server reads each parameter that was supplied, as it is decoded from its own encoding,
and nothing else. -/
def RequestReadBack (u : Unicode) (s : Scalars L) (typeName : PyError → PyStr)
    (desc : FunctionDesc) (params : Values (PyVal L)) (request : Bytes) : Prop :=
  ∃ sent : List (FieldDesc × PyVal L), (sent.map fun e => e.1.name).Nodup ∧
    (∀ e, e ∈ sent ↔ Supplied u s desc params e) ∧
    deserialize_request (s.platform u typeName) request (some desc) =
      Dicts.named_values (carried u s) sent

/-- Request round trip. -/
theorem request_round_trip {func_name : PyStr} {desc : FunctionDesc} {params : Values (PyVal L)}
    {request : Bytes} (hnames : (desc.parameters.map fun f => u.upper f.name).Nodup)
    (hreadable : ∀ f ∈ desc.parameters, Readable f) (hresolved : ∀ f ∈ desc.parameters, Resolved f)
    (hkeys : (params.map fun e => u.upper e.1).Nodup)
    (hinputs : ∀ e ∈ params, ∃ f ∈ desc.parameters, u.upper f.name = u.upper e.1 ∧
      f.direction ≠ RFC_EXPORT)
    (hexact : ∀ e, Supplied u s desc params e → e.1.rfctype = RFCTYPE_TABLE →
      RowsExact u s e.1 e.2)
    (hbuild : build_invoke_request (s.platform u typeName) func_name desc params = .ok request) :
    RequestReadBack u s typeName desc params request := by
  obtain ⟨head, sent, hsent, hsentAs, hhead, hfits, rfl⟩ := build_invoke_request_eq_ok hbuild
  have hmem : ∀ e, e ∈ (sent.map fun c => (c.field, c.value)) ↔ Supplied u s desc params e := by
    intro e
    rw [hsent, List.mem_filterMap]
    constructor
    · rintro ⟨f, hf, hvalue⟩
      obtain ⟨value, hsome, rfl⟩ := Option.map_eq_some_iff.mp hvalue
      exact (sentValue_eq_some typeName hnames hkeys hinputs hf).mp hsome
    · intro he
      have hvalue := (sentValue_eq_some typeName hnames hkeys hinputs he.declared).mpr he
      exact ⟨e.1, he.declared, by rw [show (s.platform u typeName).u = u from rfl, hvalue]; rfl⟩
  have hsupplied : ∀ c ∈ sent, Supplied u s desc params (c.field, c.value) := fun c hc =>
    (hmem _).mp (List.mem_map_of_mem (f := fun c : Sent (PyVal L) => (c.field, c.value)) hc)
  have hread : ∀ c ∈ sent, c.group.name = c.field.name ∧ c.group.Reads (s.codec u) ∧
      s.decode_value u c.field.rfctype c.group.payload c.field none =
        carried u s c.field c.value := fun c hc =>
    have hc' := hsupplied c hc
    sentAs_carried (hreadable _ hc'.declared) (hresolved _ hc'.declared) (hexact _ hc') hc'.filled
      (hsentAs c hc)
  have hnodup : (sent.map fun c => c.field.name).Nodup := nodup_sent hnames hsent
  refine ⟨sent.map fun c => (c.field, c.value), ?_, hmem, ?_⟩
  · rw [List.map_map]
    exact hnodup
  · have hgroups : ∀ g ∈ sent.map Sent.group, g.Reads (s.codec u) := by
      intro g hg
      obtain ⟨c, hc, rfl⟩ := List.mem_map.mp hg
      exact (hread c hc).2.1
    have hpast : ∀ r ∈ head, r.1 ∉ pairTags := fun r hr =>
      (show ∀ tag ∈ headTags, tag ∉ pairTags by decide) r.1 (hhead r hr)
    obtain ⟨st, hrun, hreaches⟩ := run_groups [] hgroups reaches_init
    have hrecords : (head ++ sent.flatMap fun c => c.group.records).foldlM
        (pair_record (s.codec u) []) PairState.init = .ok st := by
      rw [List.foldlM_append, foldlM_other hpast]
      rw [List.flatMap_map] at hrun
      exact hrun
    have hcompact : ∀ r ∈ head ++ sent.flatMap fun c => c.group.records,
        r.1 ≠ Tag.COMPACT_PARAMS := by
      rw [List.forall_mem_append]
      constructor
      · exact fun r hr => (show ∀ tag ∈ headTags, tag ≠ Tag.COMPACT_PARAMS by decide) r.1
          (hhead r hr)
      · intro r hr
        obtain ⟨c, hc, hr⟩ := List.mem_flatMap.mp hr
        intro heq
        have htag := tag_of_sentAs (hsentAs c hc) r hr
        rw [heq] at htag
        exact absurd htag (by decide)
    rw [deserialize_of_pairs (p := s.platform u typeName) hfits hcompact ⟨st, hrecords, hreaches⟩,
      List.nil_append, List.map_map]
    exact foldlM_request hnames (fun c hc => (hsupplied c hc).declared) hnodup
      fun c hc => ⟨(hread c hc).1, (hread c hc).2.2⟩

def mixedDesc : FunctionDesc :=
  ⟨lit "Z_FM", [byteScalar (lit "DATA") RFC_IMPORT, byteTable (lit "ROWS") RFC_TABLES]⟩

def mixedParams : Values (PyVal Bytes) :=
  [(lit "rows", .list [rowOf 1 2 3, rowOf 4 5 6]), (lit "data", .leaf [7, 8])]

def mixedRequest : Bytes :=
  (build_invoke_request bytesPlatform (lit "Z_FM") mixedDesc mixedParams).toOption.getD []

/-- A scalar and a table of two rows. -/
theorem request_round_trip_mixed :
    RequestReadBack asciiTables byteScalars (fun _ => []) mixedDesc mixedParams mixedRequest := by
  have hreadable : ∀ f ∈ mixedDesc.parameters, Readable f := by
    intro f hf
    rcases List.mem_pair.mp hf with rfl | rfl
    · exact ⟨by decide, by decide, by decide⟩
    · exact ⟨by decide, by decide, by decide⟩
  have hresolved : ∀ f ∈ mixedDesc.parameters, Resolved f := by
    intro f hf
    rcases List.mem_pair.mp hf with rfl | rfl
    · exact fun h => absurd h (by decide)
    · exact fun _ => ⟨byteRow, rfl, by decide⟩
  have hinputs : ∀ e ∈ mixedParams, ∃ f ∈ mixedDesc.parameters,
      asciiTables.upper f.name = asciiTables.upper e.1 ∧ f.direction ≠ RFC_EXPORT := by
    intro e he
    rcases List.mem_pair.mp he with rfl | rfl
    · exact ⟨byteTable (lit "ROWS") RFC_TABLES, by simp [mixedDesc], by decide, by decide⟩
    · exact ⟨byteScalar (lit "DATA") RFC_IMPORT, by simp [mixedDesc], by decide, by decide⟩
  have hexact : ∀ e, Supplied asciiTables byteScalars mixedDesc mixedParams e →
      e.1.rfctype = RFCTYPE_TABLE → RowsExact asciiTables byteScalars e.1 e.2 := by
    rintro ⟨field, value⟩ ⟨hfield, ⟨key, hkey, hupper⟩, -⟩ htable
    rcases List.mem_pair.mp hfield with rfl | rfl
    · exact absurd htable (show RFCTYPE_XSTRING ≠ RFCTYPE_TABLE by decide)
    rcases List.mem_pair.mp hkey with heq | heq
    · obtain ⟨-, rfl⟩ := Prod.mk.inj heq
      refine rowsExact_byteTable fun row hrow => ?_
      rcases List.mem_pair.mp hrow with rfl | rfl
      · exact ⟨1, 2, 3, rfl⟩
      · exact ⟨4, 5, 6, rfl⟩
    · obtain ⟨rfl, -⟩ := Prod.mk.inj heq
      exact absurd hupper
        (show asciiTables.upper (lit "data") ≠ asciiTables.upper (lit "ROWS") by decide)
  have hbuild : build_invoke_request bytesPlatform (lit "Z_FM") mixedDesc mixedParams =
      .ok mixedRequest := by
    decide +kernel
  exact request_round_trip (by decide) hreadable hresolved (by decide) hinputs hexact hbuild

def namelessDesc : FunctionDesc := ⟨lit "Z_FM", [byteTable [] RFC_TABLES]⟩

def namelessParams : Values (PyVal Bytes) := [([], .list [rowOf 1 2 3])]

def namelessRequest : Bytes :=
  (build_invoke_request bytesPlatform (lit "Z_FM") namelessDesc namelessParams).toOption.getD []

/-- A table without a name is sent with its rows, and not read. -/
theorem request_without_name_lost :
    build_invoke_request bytesPlatform (lit "Z_FM") namelessDesc namelessParams =
        .ok namelessRequest ∧
      ¬ RequestReadBack asciiTables byteScalars (fun _ => []) namelessDesc namelessParams
        namelessRequest := by
  refine ⟨by decide +kernel, ?_⟩
  rintro ⟨sent, -, hsent, hread⟩
  have hmem : (byteTable [] RFC_TABLES, PyVal.list [rowOf 1 2 3]) ∈ sent :=
    (hsent _).mpr ⟨List.mem_cons_self, ⟨[], List.mem_cons_self, rfl⟩, fun _ => rfl⟩
  have hnothing : deserialize_request (byteScalars.platform asciiTables fun _ => []) namelessRequest
      (some namelessDesc) = .ok [] := by
    rfl
  exact named_values_ne_nil hmem (hread.symm.trans hnothing)

end Request

/-! ## Replies -/

section Reply

variable {V : Type} (p : Platform V)

/-- The value that is answered for a parameter. -/
def answeredValue (upper : Values V) (field : FieldDesc) : Option V :=
  if field.direction ∈ [RFC_EXPORT, RFC_CHANGING, RFC_TABLES] then
    assocGet upper (p.u.upper field.name)
  else none

/-- The group that a parameter is answered as. -/
inductive AnsweredAs (field : FieldDesc) (value : V) : Group → Prop
  | scalar {name encoded : Bytes} (plain : field.rfctype ≠ RFCTYPE_TABLE)
      (named : encodeUtf16le field.name = .ok name)
      (encodes : p.codec.encode field.rfctype value field = .ok encoded) :
      AnsweredAs field value (scalarGroup field.name name encoded)
  | empty {name : Bytes} (rows : field.rfctype = RFCTYPE_TABLE)
      (named : encodeUtf16le field.name = .ok name) (nothing : p.codec.rows value = .ok []) :
      AnsweredAs field value (emptyGroup field.name name)
  | table {type_desc : TypeDesc} {items : List V} {name dm_id info all_rows : Bytes}
      (rows : field.rfctype = RFCTYPE_TABLE) (resolved : field.type_desc = some type_desc)
      (named : encodeUtf16le field.name = .ok name) (given : p.codec.rows value = .ok items)
      (filled : items ≠ [])
      (encodes : p.codec.encode RFCTYPE_TABLE (p.codec.ofRows items) field = .ok all_rows)
      (counted : countOf (Tag.TABLE_INFO, info) = some items.length) :
      AnsweredAs field value (tableGroup Tag.TABLE_CONTENT_ALT field.name name dm_id info
        ((List.range items.length).map (row_slice all_rows
          (if field.unicode_mode then type_desc.uc_size else type_desc.nuc_size))))

variable {p}

/-- INTERNAL: a number that fits four bytes. -/
theorem pack_u32_eq_ok {n : ℤ} {b : Bytes} (h : pack_u32 n = .ok b) :
    b = toBE 4 n.toNat ∧ n.toNat < 256 ^ 4 := by
  unfold pack_u32 at h
  split at h
  · cases h
  · exact ⟨(Except.ok.inj h).symm, by omega⟩

/-- INTERNAL: the number of rows is read back. -/
theorem countOf_info {size count : ℤ} {size_bytes count_bytes : Bytes}
    (hsize : pack_u32 size = .ok size_bytes) (hcount : pack_u32 count = .ok count_bytes)
    (hpositive : 0 < count) :
    countOf (Tag.TABLE_INFO, size_bytes ++ count_bytes) = some count.toNat := by
  obtain ⟨rfl, -⟩ := pack_u32_eq_ok hsize
  obtain ⟨rfl, hfits⟩ := pack_u32_eq_ok hcount
  have hslice : slice (toBE 4 size.toNat ++ toBE 4 count.toNat) 4 8 = toBE 4 count.toNat := by
    unfold slice
    rw [List.drop_left' (length_toBE 4 _)]
    exact List.take_of_length_le (by rw [length_toBE])
  unfold countOf
  dsimp only
  rw [hslice, ofBE_toBE_of_lt hfits, if_pos]
  refine ⟨rfl, ?_, by omega⟩
  rw [List.length_append, length_toBE, length_toBE]

/-- INTERNAL: a table. -/
theorem build_table_records_eq_ok {field : FieldDesc} {value : V} {dm_id : ℕ}
    {part : List (ℕ × Bytes)} (hrows : field.rfctype = RFCTYPE_TABLE)
    (h : build_table_records p field value dm_id = .ok part) :
    ∃ g, AnsweredAs p field value g ∧ part = g.records := by
  unfold build_table_records at h
  cases htype : field.type_desc with
  | none =>
    rw [htype] at h
    cases h
  | some type_desc =>
    rw [htype] at h
    obtain ⟨items, hitems, hbehind⟩ := Eff.except_bind_eq_ok.mp h
    obtain ⟨name, hname, hpart⟩ := Eff.except_bind_eq_ok.mp hbehind
    split at hpart
    next hempty =>
      rw [hempty] at hitems
      exact ⟨_, .empty hrows hname hitems, (Except.ok.inj hpart).symm⟩
    next hfilled =>
      obtain ⟨all_rows, hall, h⟩ := Eff.except_bind_eq_ok.mp hpart
      obtain ⟨id, -, h⟩ := Eff.except_bind_eq_ok.mp h
      obtain ⟨size, hsize, h⟩ := Eff.except_bind_eq_ok.mp h
      obtain ⟨count, hcount, h⟩ := Eff.except_bind_eq_ok.mp h
      have hcounted := countOf_info hsize hcount (by
        have := List.length_pos_iff.mpr hfilled
        omega)
      have hanswered : AnsweredAs p field value
          (tableGroup Tag.TABLE_CONTENT_ALT field.name name id _ _) :=
        .table hrows htype hname hitems hfilled hall hcounted
      refine ⟨_, hanswered, ?_⟩
      rw [← Except.ok.inj h]
      unfold tableGroup
      rw [List.map_map]
      rfl

/-- INTERNAL: all parameters of an answer. -/
theorem outputRecords_groups {upper : Values V} {n : ℕ} {fields : List FieldDesc}
    {records : List (ℕ × Bytes)} (h : Responses.OutputRecords p upper n fields records) :
    ∃ sent : List (Sent V),
      (sent.map fun c => (c.field, c.value)) = fields.filterMap (fun f =>
        (answeredValue p upper f).map fun value => (f, value)) ∧
      (∀ c ∈ sent, AnsweredAs p c.field c.value c.group) ∧
      records = sent.flatMap fun c => c.group.records := by
  induction h with
  | nil n => exact ⟨[], rfl, nofun, rfl⟩
  | @cons n m field rest part records first tail ih =>
    obtain ⟨later, hmap, hsent, rfl⟩ := ih
    have hadd : ∀ (value : V) (g : Group), answeredValue p upper field = some value →
        AnsweredAs p field value g → part = g.records →
          ∃ sent : List (Sent V),
            (sent.map fun c => (c.field, c.value)) = (field :: rest).filterMap (fun f =>
              (answeredValue p upper f).map fun value => (f, value)) ∧
            (∀ c ∈ sent, AnsweredAs p c.field c.value c.group) ∧
            (part ++ later.flatMap fun c => c.group.records) =
              sent.flatMap fun c => c.group.records := by
      rintro value g hvalue hg rfl
      refine ⟨⟨field, value, g⟩ :: later, ?_, List.forall_mem_cons.mpr ⟨hg, hsent⟩, rfl⟩
      rw [List.filterMap_cons, hvalue, List.map_cons, hmap]
      rfl
    cases first with
    | skipped absent =>
      have hnone : answeredValue p upper field = none := by
        unfold answeredValue
        split
        next houtput => exact absent.resolve_left (not_not.mpr houtput)
        next => rfl
      refine ⟨later, ?_, hsent, rfl⟩
      rw [List.filterMap_cons, hnone, hmap]
      rfl
    | @scalar value encoded name output given plain encodes named =>
      exact hadd value _ ((if_pos output).trans given) (.scalar plain named encodes) rfl
    | @table value _ output given rows encodes =>
      obtain ⟨g, hg, hpart⟩ := build_table_records_eq_ok rows encodes
      exact hadd value g ((if_pos output).trans given) hg hpart

end Reply

section Answer

variable {typeName : PyError → PyStr}

/-- INTERNAL: the group of a parameter is read under its name, and its payload decodes to what
was answered. -/
theorem answeredAs_carried {field : FieldDesc} {value : PyVal L} {g : Group}
    (hname : Readable field) (hresolved : Resolved field)
    (hexact : field.rfctype = RFCTYPE_TABLE → RowsExact u s field value)
    (h : AnsweredAs (s.platform u typeName) field value g) :
    g.name = field.name ∧ g.Reads (s.codec u) ∧
      s.decode_value u field.rfctype g.payload field g.count = carried u s field value := by
  cases h with
  | scalar plain named encodes =>
    refine ⟨rfl, reads_scalarGroup _ (decode_utf16le_trimmed hname.text hname.trimmed named), ?_⟩
    have hencodes : s.encode_value u field.rfctype value field = .ok _ := encodes
    unfold carried
    rw [if_neg plain, hencodes]
    rfl
  | @empty name rows named nothing =>
    have hread := decode_utf16le_trimmed hname.text hname.trimmed named
    obtain ⟨type_desc, htype, hpositive⟩ := hresolved rows
    refine ⟨rfl, reads_emptyGroup (encode_ne_nil named (hname.table rows)) hread, ?_⟩
    exact decode_rows rows htype hpositive (hexact rows) nothing rfl (.inl rfl)
  | @table type_desc items name dm_id info all_rows rows resolved named given filled encodes
      counted =>
    have hread := decode_utf16le_trimmed hname.text hname.trimmed named
    have hne := encode_ne_nil named (hname.table rows)
    refine ⟨rfl, reads_tableGroup (.inr rfl) hne hread dm_id info _, ?_⟩
    obtain ⟨type_desc', htype', hpositive⟩ := hresolved rows
    obtain rfl : type_desc = type_desc' := Option.some.inj (resolved.symm.trans htype')
    obtain ⟨items', hitems, raws, hraws, rfl⟩ := encode_table_eq_ok resolved
      (show s.encode_value u RFCTYPE_TABLE (.list items) field = .ok all_rows from encodes)
    obtain rfl : items = items' := Except.ok.inj hitems
    obtain ⟨hlength, hlengths⟩ := length_encoded hraws (hexact rows type_desc resolved items given)
    have hslices := TableRows.row_slices_flatten hlengths
    rw [hlength] at hslices
    have hraws_ne : raws ≠ [] := by
      rintro rfl
      exact filled (List.length_eq_zero_iff.mp hlength.symm)
    show s.decode_value u field.rfctype (List.map (row_slice raws.flatten
      (type_desc.row_size field.unicode_mode)) (List.range items.length)).flatten field
        (countOf (Tag.TABLE_INFO, info)) = _
    rw [hslices, counted, ← hlength]
    exact decode_rows rows resolved hpositive (hexact rows) given hraws (.inr ⟨rfl, hraws_ne⟩)

/-- INTERNAL: what the client makes of the pairs of a reply. -/
theorem decode_result_of_groups (typeName : PyError → PyStr) (dm : List (ℕ × PyStr))
    {desc : FunctionDesc}
    (hnames : (desc.parameters.map fun f => u.upper f.name).Nodup) {sent : List (Sent (PyVal L))}
    (hfields : ∀ c ∈ sent, c.field ∈ desc.parameters ∧ c.field.direction ≠ RFC_IMPORT)
    (hnodup : (sent.map fun c => c.field.name).Nodup)
    (hread : ∀ c ∈ sent, c.group.name = c.field.name ∧ c.group.Reads (s.codec u) ∧
      s.decode_value u c.field.rfctype c.group.payload c.field c.group.count =
        carried u s c.field c.value) {before : List (ℕ × Bytes)}
    (hbefore : ∀ r ∈ before, r.1 ∉ pairTags)
    (hfits : ∀ r ∈ before ++ sent.flatMap fun c => c.group.records,
      Records.Fits Tag.TERMINATOR r) :
    decode_result (s.platform u typeName) (Records.stream Tag.TERMINATOR
        (before ++ sent.flatMap fun c => c.group.records)) desc dm =
      Dicts.named_values (carried u s) (sent.map fun c => (c.field, c.value)) := by
  have hgroups : ∀ g ∈ sent.map Sent.group, g.Reads (s.codec u) := by
    intro g hg
    obtain ⟨c, hc, rfl⟩ := List.mem_map.mp hg
    exact (hread c hc).2.1
  have hgroup_names : (sent.map Sent.group).map Group.name = sent.map fun c => c.field.name := by
    rw [List.map_map]
    exact List.map_congr_left fun c hc => (hread c hc).1
  obtain ⟨st, hrun, hreaches⟩ := run_groups dm hgroups reaches_init
  have hrecords : (before ++ sent.flatMap fun c => c.group.records).foldlM
      (pair_record (s.codec u) dm) PairState.init = .ok st := by
    rw [List.foldlM_append, foldlM_other hbefore]
    rw [List.flatMap_map] at hrun
    exact hrun
  have hcount : ∀ c ∈ sent, assocGet ((sent.map Sent.group).foldl
      (fun counts g => g.counted counts) []) c.field.name = c.group.count := by
    intro c hc
    rw [← (hread c hc).1]
    exact assocGet_counted (hgroup_names ▸ hnodup) (List.mem_map_of_mem hc) rfl
  generalize (sent.map Sent.group).foldl (fun counts g => g.counted counts) [] = counts
    at hcount hreaches
  have hpairs : ([] ++ (sent.map Sent.group).map fun g => (g.name, g.payload)) =
      (sent.map fun c => (c.field, c.group.payload, c.group.count)).map fun e =>
        (e.1.name, e.2.1) := by
    rw [List.nil_append, List.map_map, List.map_map]
    exact List.map_congr_left fun c hc => Prod.ext (hread c hc).1 rfl
  unfold decode_result
  dsimp only
  rw [show (s.platform u typeName).codec = s.codec u from rfl,
    extract_named_values_of_reaches hfits ⟨st, hrecords, hreaches⟩, Eff.except_ok_bind]
  dsimp only
  rw [hpairs, List.foldlM_map, Dicts.foldlM_fields (fun field (x : Bytes × Option ℕ) =>
    s.decode_value u field.rfctype x.1 field x.2)]
  · have hvalues : Dicts.named_values (fun field (x : Bytes × Option ℕ) =>
          s.decode_value u field.rfctype x.1 field x.2)
        (sent.map fun c => (c.field, c.group.payload, c.group.count)) =
          Dicts.named_values (carried u s) (sent.map fun c => (c.field, c.value)) :=
      Dicts.named_values_congr fun c hc => (hread c hc).2.2
    rw [hvalues]
    cases Dicts.named_values (carried u s) (sent.map fun c => (c.field, c.value)) <;> rfl
  · intro e he result
    obtain ⟨c, hc, rfl⟩ := List.mem_map.mp he
    have hfield : field_of u (desc.parameters.filter fun f => decide (f.direction ≠ RFC_IMPORT))
        c.field.name = some c.field := by
      refine Dicts.field_of_mem u (hnames.sublist (List.filter_sublist.map _)) ?_
      exact List.mem_filter.mpr ⟨(hfields c hc).1, decide_eq_true (hfields c hc).2⟩
    dsimp only
    rw [show (s.platform u typeName).u = u from rfl, hfield, hcount c hc]
    rfl
  · rw [List.map_map]
    exact hnodup

/-- A parameter that the handler answers. -/
structure Answered (u : Unicode) (desc : FunctionDesc) (result : Values (PyVal L))
    (e : FieldDesc × PyVal L) : Prop where
  declared : e.1 ∈ desc.parameters
  output : e.1.direction ∈ [RFC_EXPORT, RFC_CHANGING, RFC_TABLES]
  given : ∃ key, (key, e.2) ∈ result ∧ u.upper key = u.upper e.1.name

/-- The client reads each parameter that was answered, as it is decoded from its own encoding,
and nothing else. -/
def ResponseReadBack (u : Unicode) (s : Scalars L) (typeName : PyError → PyStr)
    (desc : FunctionDesc) (result : Values (PyVal L)) (out : Bytes) : Prop :=
  ∀ dm : List (ℕ × PyStr), ∃ sent : List (FieldDesc × PyVal L), (sent.map fun e => e.1.name).Nodup ∧
    (∀ e, e ∈ sent ↔ Answered u desc result e) ∧
    parse_invoke_response (s.platform u typeName) out desc dm =
      Dicts.named_values (carried u s) sent

/-- Response round trip. -/
theorem response_round_trip {desc : FunctionDesc} {result : Values (PyVal L)} {out : Bytes}
    (hnames : (desc.parameters.map fun f => u.upper f.name).Nodup)
    (hreadable : ∀ f ∈ desc.parameters, Readable f) (hresolved : ∀ f ∈ desc.parameters, Resolved f)
    (hkeys : (result.map fun e => u.upper e.1).Nodup)
    (hexact : ∀ e, Answered u desc result e → e.1.rfctype = RFCTYPE_TABLE →
      RowsExact u s e.1 e.2)
    (hbuild : build_response (s.platform u typeName) (some desc) result = .ok out) :
    ResponseReadBack u s typeName desc result out := by
  intro dm
  obtain ⟨records, hrecords, hlengths, rfl⟩ := Responses.build_response_eq_ok.mp hbuild
  have htags := Responses.tag_outputRecords hrecords
  obtain ⟨sent, hsent, hanswered, rfl⟩ := outputRecords_groups hrecords
  have hget := fun key value => @Dicts.assocGet_upper_keys _ u result hkeys key value
  have hmem : ∀ e, e ∈ (sent.map fun c => (c.field, c.value)) ↔ Answered u desc result e := by
    intro e
    rw [hsent, List.mem_filterMap]
    constructor
    · rintro ⟨f, hf, hvalue⟩
      obtain ⟨value, hsome, rfl⟩ := Option.map_eq_some_iff.mp hvalue
      unfold answeredValue at hsome
      split at hsome
      next houtput => exact ⟨hf, houtput, (hget _ _).mp hsome⟩
      next => cases hsome
    · intro he
      refine ⟨e.1, he.declared, ?_⟩
      have hvalue : answeredValue (s.platform u typeName) (upper_keys u result) e.1 = some e.2 :=
        (if_pos he.output).trans ((hget _ _).mpr he.given)
      rw [show (s.platform u typeName).u = u from rfl, hvalue]
      rfl
  have hgiven : ∀ c ∈ sent, Answered u desc result (c.field, c.value) := fun c hc =>
    (hmem _).mp (List.mem_map_of_mem (f := fun c : Sent (PyVal L) => (c.field, c.value)) hc)
  have hread : ∀ c ∈ sent, c.group.name = c.field.name ∧ c.group.Reads (s.codec u) ∧
      s.decode_value u c.field.rfctype c.group.payload c.field c.group.count =
        carried u s c.field c.value := fun c hc =>
    have hc' := hgiven c hc
    answeredAs_carried (hreadable _ hc'.declared) (hresolved _ hc'.declared) (hexact _ hc')
      (hanswered c hc)
  have hnodup : (sent.map fun c => c.field.name).Nodup := nodup_sent hnames hsent
  refine ⟨sent.map fun c => (c.field, c.value), ?_, hmem, ?_⟩
  · rw [List.map_map]
    exact hnodup
  · have hquiet : ∀ r ∈ sent.flatMap fun c => c.group.records, r.1 ∉ Replies.verdictTags :=
      fun r hr => (show ∀ tag ∈ Responses.outputTags, tag ∉ Replies.verdictTags by decide) r.1
        (htags r hr)
    have hpast : ∀ r ∈ [(Tag.RESPONSE_START, []), (Tag.RETURN_CODE, toBE 4 RC_OK)],
        r.1 ∉ pairTags := by
      rw [List.forall_mem_cons, List.forall_mem_singleton]
      exact ⟨show Tag.RESPONSE_START ∉ pairTags by decide,
        show Tag.RETURN_CODE ∉ pairTags by decide⟩
    have hfits : ∀ r ∈ [(Tag.RESPONSE_START, []), (Tag.RETURN_CODE, toBE 4 RC_OK)] ++
        sent.flatMap fun c => c.group.records, Records.Fits Tag.TERMINATOR r := by
      rw [List.cons_append, List.cons_append, List.forall_mem_cons, List.forall_mem_cons]
      refine ⟨Responses.fits_start, Responses.fits_return_code (length_toBE 4 _), fun r hr => ?_⟩
      obtain ⟨htag, hne⟩ := Responses.outputTags_fit r.1 (htags r hr)
      exact ⟨htag, hne, hlengths r hr⟩
    have hdecoded := decode_result_of_groups typeName dm hnames
      (fun c hc => ⟨(hgiven c hc).declared, fun himport => by
        have houtput := (hgiven c hc).output
        rw [himport] at houtput
        exact absurd houtput (by decide)⟩) hnodup hread hpast hfits
    rw [← hdecoded]
    exact Replies.parse_of_accepted hfits (Replies.accepted_result hquiet) desc dm

/-- A scalar, a table of two rows, and an empty one. -/
def answerDesc : FunctionDesc :=
  ⟨lit "Z_FM", [byteTable (lit "NONE") RFC_TABLES, byteScalar (lit "DATA") RFC_EXPORT,
    byteTable (lit "ROWS") RFC_EXPORT]⟩

def answerResult : Values (PyVal Bytes) :=
  [(lit "rows", .list [rowOf 1 2 3, rowOf 4 5 6]), (lit "none", .list []),
    (lit "data", .leaf [7, 8])]

def answerOut : Bytes :=
  (build_response bytesPlatform (some answerDesc) answerResult).toOption.getD []

theorem response_round_trip_mixed :
    ResponseReadBack asciiTables byteScalars (fun _ => []) answerDesc answerResult answerOut := by
  have hreadable : ∀ f ∈ answerDesc.parameters, Readable f := by
    intro f hf
    rcases List.mem_cons.mp hf with rfl | hf
    · exact ⟨by decide, by decide, by decide⟩
    rcases List.mem_pair.mp hf with rfl | rfl
    · exact ⟨by decide, by decide, by decide⟩
    · exact ⟨by decide, by decide, by decide⟩
  have hresolved : ∀ f ∈ answerDesc.parameters, Resolved f := by
    intro f hf
    rcases List.mem_cons.mp hf with rfl | hf
    · exact fun _ => ⟨byteRow, rfl, by decide⟩
    rcases List.mem_pair.mp hf with rfl | rfl
    · exact fun h => absurd h (by decide)
    · exact fun _ => ⟨byteRow, rfl, by decide⟩
  have hvalues : ∀ e ∈ answerResult, e.1 = lit "data" ∨
      ∃ rows, e.2 = .list rows ∧ ∀ row ∈ rows, ∃ a b c, row = rowOf a b c := by
    intro e he
    rcases List.mem_cons.mp he with rfl | he
    · refine .inr ⟨_, rfl, fun row hrow => ?_⟩
      rcases List.mem_pair.mp hrow with rfl | rfl
      · exact ⟨1, 2, 3, rfl⟩
      · exact ⟨4, 5, 6, rfl⟩
    rcases List.mem_pair.mp he with rfl | rfl
    · exact .inr ⟨[], rfl, nofun⟩
    · exact .inl rfl
  have hexact : ∀ e, Answered asciiTables answerDesc answerResult e →
      e.1.rfctype = RFCTYPE_TABLE → RowsExact asciiTables byteScalars e.1 e.2 := by
    rintro ⟨field, value⟩ ⟨hfield, -, key, hkey, hupper⟩ htable
    have hnamed : ∃ name direction, field = byteTable name direction ∧
        asciiTables.upper name ≠ asciiTables.upper (lit "data") := by
      rcases List.mem_cons.mp hfield with rfl | hfield
      · exact ⟨_, _, rfl, by decide⟩
      rcases List.mem_pair.mp hfield with rfl | rfl
      · exact absurd htable (show RFCTYPE_XSTRING ≠ RFCTYPE_TABLE by decide)
      · exact ⟨_, _, rfl, by decide⟩
    obtain ⟨name, direction, rfl, hother⟩ := hnamed
    rcases hvalues _ hkey with hdata | ⟨rows, hlist, hrows⟩
    · have hkey_data : key = lit "data" := hdata
      rw [hkey_data] at hupper
      exact absurd hupper.symm hother
    · obtain rfl : value = .list rows := hlist
      exact rowsExact_byteTable hrows
  have hbuild : build_response bytesPlatform (some answerDesc) answerResult = .ok answerOut := by
    decide +kernel
  exact response_round_trip (by decide) hreadable hresolved (by decide) hexact hbuild

def namelessOut : Bytes :=
  (build_response bytesPlatform (some namelessDesc) namelessParams).toOption.getD []

/-- A table without a name is answered with its rows, and not read. -/
theorem response_without_name_lost :
    build_response bytesPlatform (some namelessDesc) namelessParams = .ok namelessOut ∧
      ¬ ResponseReadBack asciiTables byteScalars (fun _ => []) namelessDesc namelessParams
        namelessOut := by
  refine ⟨by decide +kernel, fun h => ?_⟩
  obtain ⟨sent, -, hsent, hread⟩ := h []
  have hmem : (byteTable [] RFC_TABLES, PyVal.list [rowOf 1 2 3]) ∈ sent :=
    (hsent _).mpr ⟨List.mem_cons_self, by decide, ⟨[], List.mem_cons_self, rfl⟩⟩
  have hnothing : parse_invoke_response (byteScalars.platform asciiTables fun _ => []) namelessOut
      namelessDesc [] = .ok [] := by
    rfl
  exact named_values_ne_nil hmem (hread.symm.trans hnothing)

end Answer

end SapRfc.Analysis.RoundTrips
