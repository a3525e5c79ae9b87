import SapRfc.Analysis.TableForms

/-!
# Rows that are wider than their layout

A table says how many rows it has, and the client measures their width from that.  The server
drops the number and splits the rows at the width of the layout: it decodes what the client
decodes exactly when the two widths split the rows alike.
-/

set_option autoImplicit false

namespace SapRfc.Analysis.RowWidths

open SapRfc.Library SapRfc.Program PairGroups TableForms TableRows

variable {L : Type} {u : Unicode} {s : Scalars L} {typeName : PyError → PyStr}
  {dm : List (ℕ × PyStr)} {rows : List Bytes}

/-- A table with its name, the number of its rows, and its rows one by one or compressed. -/
inductive NamedTable (name : PyStr) (rows : List Bytes) : List (ℕ × Bytes) → Prop
  | table {value info : Bytes} {body : List (ℕ × Bytes)} (some_name : value ≠ [])
      (named : decode_utf16le value = name) (long : 8 ≤ info.length)
      (counted : ofBE (slice info 4 8) = rows.length) (carries : Carries rows body) :
      NamedTable name rows ((Tag.TABLE_NAME, value) :: (Tag.TABLE_INFO, info) :: body)

/-- Records that are passed over. -/
def Quiet (rs : List (ℕ × Bytes)) : Prop := ∀ r ∈ rs, r.1 ∉ pairTags

/-- What is reported of a stream with one table. -/
theorem extract_named_values_table {name : PyStr} {before table after : List (ℕ × Bytes)}
    (htable : NamedTable name rows table) (hrows : rows ≠ []) (hbefore : Quiet before)
    (hafter : Quiet after)
    (hfits : ∀ r ∈ before ++ table ++ after, Records.Fits Tag.TERMINATOR r) :
    extract_named_values (s.codec u) (Records.stream Tag.TERMINATOR (before ++ table ++ after)) dm =
      .ok ⟨[(name, rows.flatten)], [], [(name, rows.length)]⟩ := by
  obtain ⟨some_name, named, long, counted, carries⟩ := htable
  have hfirst : ∀ st : PairState, ∀ value : Bytes, value ≠ [] → decode_utf16le value = name →
      pair_record (s.codec u) dm st (Tag.TABLE_NAME, value) =
        (st.flushed (s.codec u)).map fun pairs => opened st pairs name := by
    rintro st value hne rfl
    exact pair_record_table hne
  obtain ⟨table_rows, table_lz, hpayload, hrun⟩ :=
    run_table (fun st => hfirst st _ some_name named) long counted carries hrows
      PairState.init
  rw [extract_named_values_stream hfits, List.foldlM_append, List.foldlM_append,
    foldlM_other hbefore, Eff.except_ok_bind, hrun]
  show (List.foldlM _ _ after >>= _) = _
  rw [foldlM_other hafter, Eff.except_ok_bind]
  have hread : PairState.payload (s.codec u) ⟨PairState.init.pairs, some name, true, table_rows,
      table_lz, PairState.init.basxml_current, PairState.init.basxml_chunks,
      assocSet PairState.init.row_counts name rows.length⟩ = .ok rows.flatten := hpayload []
  unfold reported PairState.flushed
  dsimp only [opened]
  rw [hread]
  rfl

/-- The same parameter, in another direction. -/
def redirected (field : FieldDesc) (direction : ℕ) : FieldDesc :=
  { field with direction := direction }

/-- INTERNAL: the direction of a table has nothing to do with its rows. -/
theorem decode_redirected (field : FieldDesc) (direction : ℕ) (data : Bytes)
    (row_count : Option ℕ) :
    s.decode_value u RFCTYPE_TABLE data (redirected field direction) row_count =
      s.decode_value u RFCTYPE_TABLE data field row_count := by
  unfold Scalars.decode_value redirected
  cases field.type_desc <;> rfl

/-! ## Both directions -/

/-- What the server makes of a request with one table. -/
theorem deserialize_table {name : PyStr} {before table after : List (ℕ × Bytes)}
    (htable : NamedTable name rows table) (hrows : rows ≠ []) (hbefore : Quiet before)
    (hafter : Quiet after)
    (hfits : ∀ r ∈ before ++ table ++ after, Records.Fits Tag.TERMINATOR r) {desc : FunctionDesc}
    {field : FieldDesc} (hfield : field_of u desc.parameters name = some field) :
    deserialize_request (s.platform u typeName)
        (Records.stream Tag.TERMINATOR (before ++ table ++ after)) (some desc) =
      (s.decode_value u field.rfctype rows.flatten field none).map fun value =>
        [(field.name, value)] := by
  unfold deserialize_request extract_name_value_pairs
  dsimp only
  rw [show (s.platform u typeName).codec = s.codec u from rfl,
    extract_named_values_table htable hrows hbefore hafter hfits, Eff.except_ok_bind,
    Eff.except_ok_bind, List.foldlM_cons]
  dsimp only
  rw [show (s.platform u typeName).u = u from rfl, hfield]
  dsimp only
  rw [show (s.codec u).decode field.rfctype = s.decode_value u field.rfctype from rfl]
  cases s.decode_value u field.rfctype rows.flatten field none with
  | error e => rfl
  | ok value => rfl

/-- What the client makes of a reply with the same table. -/
theorem parse_table {name : PyStr} {before table after : List (ℕ × Bytes)}
    (htable : NamedTable name rows table) (hrows : rows ≠ []) (hbefore : Quiet before)
    (hafter : Quiet after)
    (hfits : ∀ r ∈ before ++ table ++ after, Records.Fits Tag.TERMINATOR r) {desc : FunctionDesc}
    {field : FieldDesc} (hfield : field_of u (Replies.outputs desc) name = some field)
    {result : Values (PyVal L)}
    (hparse : parse_invoke_response (s.platform u typeName)
      (Records.stream Tag.TERMINATOR (before ++ table ++ after)) desc dm = .ok result) :
    ∃ value, s.decode_value u field.rfctype rows.flatten field (some rows.length) = .ok value ∧
      result = [(field.name, value)] := by
  have hdecode := Replies.decode_of_parse hfits hparse
  rw [Replies.decode_result_eq, show (s.platform u typeName).codec = s.codec u from rfl,
    extract_named_values_table htable hrows hbefore hafter hfits, Eff.except_ok_bind] at hdecode
  obtain ⟨mid, hpairs, hdocs⟩ := Eff.except_bind_eq_ok.mp hdecode
  obtain rfl : mid = result := Except.ok.inj hdocs
  rw [List.foldlM_cons] at hpairs
  obtain ⟨next, hnext, hlast⟩ := Eff.except_bind_eq_ok.mp hpairs
  obtain rfl : next = mid := Except.ok.inj hlast
  unfold Dicts.assign at hnext
  rw [show (s.platform u typeName).u = u from rfl, hfield] at hnext
  obtain ⟨value, hvalue, hset⟩ := Eff.except_bind_eq_ok.mp hnext
  have hcount : assocGet [(name, rows.length)] name = some rows.length := by
    rw [Dicts.assocGet_cons, if_pos rfl]
  unfold Replies.readPair at hvalue
  dsimp only at hvalue
  rw [hcount] at hvalue
  exact ⟨value, hvalue, (Except.ok.inj hset).symm⟩

/-- The rows of a table that the client reads are read by the server exactly when the declared
width splits them alike; and rows of the declared width are. -/
theorem rows_decoded_alike_iff {name : PyStr} {table before after before' after' : List (ℕ × Bytes)}
    {w : ℕ} {type_desc : TypeDesc} {field : FieldDesc} {direction : ℕ} {desc desc' : FunctionDesc}
    {result : Values (PyVal L)} (htable : NamedTable name rows table) (hrows : rows ≠ [])
    (hwidth : ∀ row ∈ rows, row.length = w) (hfield : field.rfctype = RFCTYPE_TABLE)
    (htype : field.type_desc = some type_desc)
    (hpacked : type_desc.row_size field.unicode_mode ≤ w)
    (hserver : field_of u desc.parameters name = some field)
    (hclient : field_of u (Replies.outputs desc') name = some (redirected field direction))
    (hbefore : Quiet before) (hafter : Quiet after) (hbefore' : Quiet before')
    (hafter' : Quiet after')
    (hfits : ∀ r ∈ before ++ table ++ after, Records.Fits Tag.TERMINATOR r)
    (hfits' : ∀ r ∈ before' ++ table ++ after', Records.Fits Tag.TERMINATOR r)
    (hreply : parse_invoke_response (s.platform u typeName)
      (Records.stream Tag.TERMINATOR (before' ++ table ++ after')) desc' dm = .ok result) :
    ((∃ request, deserialize_request (s.platform u typeName)
        (Records.stream Tag.TERMINATOR (before ++ table ++ after)) (some desc) = .ok request ∧
          assocGet request field.name = assocGet result field.name) ↔
      SplitAlike (s.decode_structure u field.unicode_mode type_desc) rows w
        (type_desc.row_size field.unicode_mode)) ∧
    (w = type_desc.row_size field.unicode_mode →
      SplitAlike (s.decode_structure u field.unicode_mode type_desc) rows w
        (type_desc.row_size field.unicode_mode)) := by
  obtain ⟨value, hvalue, rfl⟩ := parse_table htable hrows hbefore' hafter' hfits' hclient hreply
  have hdecoded : s.decode_value u RFCTYPE_TABLE rows.flatten field (some rows.length) =
      .ok value := by
    rw [← decode_redirected field direction]
    exact hfield ▸ hvalue
  rw [decode_table htype] at hdecoded
  cases hcounted : table_rows u field.name (type_desc.row_size field.unicode_mode)
      (s.decode_structure u field.unicode_mode type_desc) rows.flatten (some rows.length) with
  | error e =>
    rw [hcounted] at hdecoded
    cases hdecoded
  | ok values =>
    rw [hcounted] at hdecoded
    obtain rfl : PyVal.list values = value := Except.ok.inj hdecoded
    rw [deserialize_table htable hrows hbefore hafter hfits hserver, hfield, decode_table htype,
      ← table_rows_uncounted_iff hpacked hrows hwidth hcounted]
    have hfound : assocGet [((redirected field direction).name, PyVal.list values)] field.name =
        some (.list values) := by
      rw [Dicts.assocGet_cons]
      exact if_pos rfl
    rw [hfound]
    refine ⟨⟨?_, fun hread => ?_⟩, fun hsame => ?_⟩
    · rintro ⟨request, hrequest, hget⟩
      cases hread : table_rows u field.name (type_desc.row_size field.unicode_mode)
          (s.decode_structure u field.unicode_mode type_desc) rows.flatten none with
      | error e =>
        rw [hread] at hrequest
        cases hrequest
      | ok values' =>
        rw [hread] at hrequest
        obtain rfl := Except.ok.inj hrequest
        rw [Dicts.assocGet_cons, if_pos rfl] at hget
        rw [PyVal.list.inj (Option.some.inj hget)]
    · rw [hread]
      exact ⟨_, rfl, by rw [Dicts.assocGet_cons, if_pos rfl]⟩
    · rw [table_rows_uncounted_iff hpacked hrows hwidth hcounted, ← hsame]
      exact splitAlike_declared (pos_of_counted hpacked hrows hwidth hcounted) hwidth

/-! ## Rows of three bytes, packed and padded -/

section Padded

open RoundTrips

theorem namedTable_namedRows {name : PyStr} {rows : List Bytes} (hne : nameBytes name ≠ [])
    (hname : decode_utf16le (nameBytes name) = name) (hrows : rows.length < 256 ^ 4) :
    NamedTable name rows (namedRows name rows) := by
  refine .table hne hname (Nat.le_refl 8) (ofBE_toBE_of_lt hrows) (.plain ?_ fun r hr => ?_)
  · rw [List.map_map]
    exact List.map_id rows
  · obtain ⟨row, -, rfl⟩ := List.mem_map.mp hr
    exact .inr rfl

def packed : List Bytes := [[1, 2, 3], [4, 5, 6]]

def padded : List Bytes := [[1, 2, 3, 0], [4, 5, 6, 0]]

theorem rows_decoded_alike_packed :
    ∃ request, deserialize_request bytesPlatform (Records.stream Tag.TERMINATOR
        ([] ++ namedRows (lit "TAB") packed ++ [])) (some (tableDesc (lit "TAB"))) = .ok request ∧
      assocGet request (lit "TAB") =
        assocGet [(lit "TAB", .list [rowOf 1 2 3, rowOf 4 5 6])] (lit "TAB") := by
  have hquiet : Quiet replyHead := show ∀ r ∈ replyHead, r.1 ∉ pairTags by decide
  have htable : NamedTable (lit "TAB") packed (namedRows (lit "TAB") packed) :=
    namedTable_namedRows (by decide) (by decide) (by decide)
  have hserver : field_of asciiTables (tableDesc (lit "TAB")).parameters (lit "TAB") =
      some (byteTable (lit "TAB") RFC_TABLES) := rfl
  have hclient : field_of asciiTables (Replies.outputs (tableDesc (lit "TAB"))) (lit "TAB") =
      some (redirected (byteTable (lit "TAB") RFC_TABLES) RFC_TABLES) := rfl
  have hreply : parse_invoke_response bytesPlatform (Records.stream Tag.TERMINATOR
      (replyHead ++ namedRows (lit "TAB") packed ++ [])) (tableDesc (lit "TAB")) [] =
        .ok [(lit "TAB", .list [rowOf 1 2 3, rowOf 4 5 6])] := by
    decide +kernel
  have hwidth : ∀ row ∈ packed, row.length = 3 := by decide
  have hnone : Quiet [] := nofun
  have hiff := rows_decoded_alike_iff htable (by decide) hwidth rfl rfl (by decide) hserver hclient
    hnone hnone hquiet hnone (show ∀ r ∈ [] ++ namedRows (lit "TAB") packed ++ [], _ by decide)
    (by decide) hreply
  exact hiff.1.mpr (hiff.2 (by decide))

/-- The client reads the two rows that were padded, and the server takes the second one a byte
too early. -/
theorem padded_rows_shifted :
    NamedTable (lit "TAB") padded (namedRows (lit "TAB") padded) ∧
      parse_invoke_response bytesPlatform (Records.stream Tag.TERMINATOR
        (replyHead ++ namedRows (lit "TAB") padded)) (tableDesc (lit "TAB")) [] =
          .ok [(lit "TAB", .list [rowOf 1 2 3, rowOf 4 5 6])] ∧
      deserialize_request bytesPlatform (Records.stream Tag.TERMINATOR
        (namedRows (lit "TAB") padded)) (some (tableDesc (lit "TAB"))) =
          .ok [(lit "TAB", .list [rowOf 1 2 3, rowOf 0 4 5])] :=
  ⟨namedTable_namedRows (by decide) (by decide) (by decide), by decide +kernel, by decide +kernel⟩

end Padded

end SapRfc.Analysis.RowWidths
