import SapRfc.Analysis.PairGroups

/-!
# The records of a request

An ordinary request is a head of records that no reader of parameters looks at, and a group
of records for each parameter that is sent.
-/

set_option autoImplicit false

namespace SapRfc.Analysis.RequestRecords

open SapRfc.Library SapRfc.Program PairGroups

variable {V : Type} (p : Platform V)

/-- The value that is sent for a parameter. -/
def sentValue (upper : Values V) (field : FieldDesc) : Option V :=
  if field.direction = RFC_EXPORT then none
  else (assocGet upper (p.u.upper field.name)).filter fun value =>
    field.rfctype ≠ RFCTYPE_TABLE ∨ p.codec.truth value = true

/-- The group that a parameter is sent as. -/
inductive SentAs (ids : List (ℕ × PyStr)) (field : FieldDesc) (value : V) : Group → Prop
  | scalar {name encoded : Bytes} (plain : field.rfctype ≠ RFCTYPE_TABLE)
      (named : encodeUtf16le field.name = .ok name)
      (encodes : p.codec.encode field.rfctype value field = .ok encoded) :
      SentAs ids field value (scalarGroup field.name name encoded)
  | table {type_desc : TypeDesc} {name dm_id info all_row_bytes : Bytes} {id row_count : ℕ}
      (rows : field.rfctype = RFCTYPE_TABLE) (resolved : field.type_desc = some type_desc)
      (named : encodeUtf16le field.name = .ok name)
      (numbered : dm_id_of ids field.name = .ok id) (packed : pack_u32 id = .ok dm_id)
      (encodes : p.codec.encode RFCTYPE_TABLE value field = .ok all_row_bytes)
      (sized : p.codec.size value = .ok row_count) :
      SentAs ids field value (tableGroup Tag.TABLE_CONTENT field.name name dm_id info
        ((List.range row_count).map (row_slice all_row_bytes
          (if field.unicode_mode then type_desc.uc_size else type_desc.nuc_size))))

variable {p}

/-- INTERNAL: records whose values are given. -/
theorem write_records_ok (records : List (ℕ × Bytes)) {out : Bytes}
    (h : write_records (records.map fun r => (r.1, .ok r.2)) = .ok out) :
    out = (records.flatMap fun r => Records.encode r.1 r.2) ∧
      ∀ r ∈ records, r.1 < 256 ^ 2 ∧ r.2.length < 256 ^ 4 := by
  obtain ⟨values, hvalues, hfits, rfl⟩ := write_records_eq_ok h
  have hsame : records = values := by
    have hinj : Function.Injective fun r : ℕ × Bytes =>
        (r.1, (Except.ok r.2 : Except PyError Bytes)) := by
      rintro ⟨t, v⟩ ⟨t', v'⟩ heq
      obtain ⟨ht, hv⟩ := Prod.mk.inj heq
      exact Prod.ext ht (Except.ok.inj hv)
    exact hinj.list_map hvalues
  subst hsame
  exact ⟨rfl, hfits⟩

/-- INTERNAL: a value of records that were written. -/
theorem write_mem_eq_ok {records : List (ℕ × Except PyError Bytes)} {out : Bytes}
    (h : write_records records = .ok out) : ∀ r ∈ records, ∃ data, r.2 = .ok data := by
  obtain ⟨values, rfl, -, -⟩ := write_records_eq_ok h
  intro r hr
  obtain ⟨q, -, rfl⟩ := List.mem_map.mp hr
  exact ⟨q.2, rfl⟩

/-- INTERNAL: a table with rows. -/
theorem build_input_table_eq_ok {ids : List (ℕ × PyStr)} {field : FieldDesc} {value : V}
    {out : Bytes} (hrows : field.rfctype = RFCTYPE_TABLE)
    (h : build_input_table p ids field value = .ok out) :
    ∃ g, SentAs p ids field value g ∧ out = (g.records.flatMap fun r => Records.encode r.1 r.2) ∧
      ∀ r ∈ g.records, r.1 < 256 ^ 2 ∧ r.2.length < 256 ^ 4 := by
  unfold build_input_table at h
  cases htype : field.type_desc with
  | none =>
    rw [htype] at h
    cases h
  | some type_desc =>
    rw [htype] at h
    obtain ⟨all_row_bytes, hencoded, h⟩ := Eff.except_bind_eq_ok.mp h
    obtain ⟨row_count, hsize, h⟩ := Eff.except_bind_eq_ok.mp h
    have hvalues := write_mem_eq_ok h
    rw [List.forall_mem_append, List.forall_mem_cons, List.forall_mem_cons,
      List.forall_mem_singleton] at hvalues
    obtain ⟨⟨⟨name, hname⟩, ⟨dm_id, hdm⟩, ⟨info, hinfo⟩⟩, -⟩ := hvalues
    dsimp only at hname hdm hinfo
    obtain ⟨id, hid, hpacked⟩ := Eff.except_bind_eq_ok.mp hdm
    rw [hname, hdm, hinfo] at h
    have hsent : SentAs p ids field value
        (tableGroup Tag.TABLE_CONTENT field.name name dm_id info _) :=
      .table hrows htype hname hid hpacked hencoded hsize
    refine ⟨_, hsent, write_records_ok _ ?_⟩
    rw [← h]
    unfold tableGroup
    simp only [List.map_cons, List.map_map]
    rfl

/-- INTERNAL: one parameter. -/
theorem build_input_param_eq_ok {ids : List (ℕ × PyStr)} {upper : Values V} {field : FieldDesc}
    {out : Bytes} (h : build_input_param p ids upper field = .ok out) :
    (sentValue p upper field = none ∧ out = []) ∨
      ∃ value g, sentValue p upper field = some value ∧ SentAs p ids field value g ∧
        out = (g.records.flatMap fun r => Records.encode r.1 r.2) ∧
        ∀ r ∈ g.records, r.1 < 256 ^ 2 ∧ r.2.length < 256 ^ 4 := by
  unfold build_input_param at h
  unfold sentValue
  split at h
  next hexport =>
    rw [if_pos hexport]
    exact .inl ⟨rfl, (Except.ok.inj h).symm⟩
  next hsent =>
    rw [if_neg hsent]
    cases hvalue : assocGet upper (p.u.upper field.name) with
    | none =>
      rw [hvalue] at h
      exact .inl ⟨rfl, (Except.ok.inj h).symm⟩
    | some value =>
      rw [hvalue] at h
      dsimp only at h
      rw [Option.filter_some]
      split at h
      next htable =>
        split at h
        next htruth =>
          rw [if_pos (by simp [htruth])]
          obtain ⟨g, hg, hout⟩ := build_input_table_eq_ok htable h
          exact .inr ⟨value, g, rfl, hg, hout⟩
        next hfalse =>
          rw [if_neg (by simp [htable, hfalse])]
          exact .inl ⟨rfl, (Except.ok.inj h).symm⟩
      next hplain =>
        rw [if_pos (by simp [hplain])]
        obtain ⟨encoded, hencoded, h⟩ := Eff.except_bind_eq_ok.mp h
        unfold named_value at h
        obtain ⟨name, hname⟩ := write_mem_eq_ok h _ List.mem_cons_self
        dsimp only at hname
        rw [hname] at h
        obtain ⟨hout, hfits⟩ := write_records_ok
            [(Tag.PARAM_NAME, name), (Tag.PARAM_VALUE, encoded)] h
        exact .inr ⟨value, _, rfl, .scalar hplain hname hencoded, hout, hfits⟩

/-- A parameter that is sent, its value, and its group. -/
structure Sent (V : Type) where
  field : FieldDesc
  value : V
  group : Group

/-- INTERNAL: what is sent belongs to some of the parameters. -/
theorem map_fst_filterMap {α β : Type} (f : α → Option β) (l : List α) :
    (l.filterMap fun a => (f a).map fun b => (a, b)).map Prod.fst =
      l.filter fun a => (f a).isSome := by
  induction l with
  | nil => rfl
  | cons a l ih =>
    rw [List.filterMap_cons, List.filter_cons]
    cases f a with
    | none => exact ih
    | some b => exact congrArg (a :: ·) ih

/-- INTERNAL: all parameters, by induction on their list. -/
theorem mapM_input_eq_ok {ids : List (ℕ × PyStr)} {upper : Values V} {fields : List FieldDesc}
    {parts : List Bytes} (h : fields.mapM (build_input_param p ids upper) = .ok parts) :
    ∃ sent : List (Sent V),
      (sent.map fun c => (c.field, c.value)) =
        fields.filterMap (fun f => (sentValue p upper f).map fun value => (f, value)) ∧
      (∀ c ∈ sent, SentAs p ids c.field c.value c.group ∧
        ∀ r ∈ c.group.records, r.1 < 256 ^ 2 ∧ r.2.length < 256 ^ 4) ∧
      parts.flatten = (sent.flatMap fun c => c.group.records).flatMap fun r =>
        Records.encode r.1 r.2 := by
  induction fields generalizing parts with
  | nil =>
    obtain rfl : parts = [] := (Except.ok.inj h).symm
    exact ⟨[], rfl, nofun, rfl⟩
  | cons field fields ih =>
    obtain ⟨part, rest, hpart, hrest, rfl⟩ := Eff.except_mapM_cons_eq_ok.mp h
    obtain ⟨sent, hmap, hsent, hflat⟩ := ih hrest
    rcases build_input_param_eq_ok hpart with ⟨hnone, rfl⟩ | ⟨value, g, hvalue, hg, rfl, hfits⟩
    · refine ⟨sent, ?_, hsent, hflat⟩
      rw [List.filterMap_cons, hnone, hmap]
      rfl
    · refine ⟨⟨field, value, g⟩ :: sent, ?_, ?_, ?_⟩
      · rw [List.filterMap_cons, hvalue, List.map_cons, hmap]
        rfl
      · exact List.forall_mem_cons.mpr ⟨⟨hg, hfits⟩, hsent⟩
      · rw [List.flatten_cons, hflat, List.flatMap_cons, List.flatMap_append]

/-- The tags of the records in front of the parameters. -/
def headTags : List ℕ :=
  [Tag.CALL_START, Tag.RFC_VERSION, Tag.FUNC_NAME, Tag.PARAM_SECTION, Tag.EXPORT_DECL]

/-- The tags of the groups. -/
theorem tag_of_sentAs {ids : List (ℕ × PyStr)} {field : FieldDesc} {value : V} {g : Group}
    (h : SentAs p ids field value g) : ∀ r ∈ g.records,
      r.1 ∈ [Tag.PARAM_NAME, Tag.PARAM_VALUE, Tag.TABLE_NAME, Tag.DM_TABLE_ID, Tag.TABLE_INFO,
        Tag.TABLE_CONTENT] := by
  intro r hr
  cases h with
  | scalar plain named encodes =>
    rcases List.mem_pair.mp hr with rfl | rfl
    · exact List.mem_cons_self
    · exact List.mem_cons_of_mem _ List.mem_cons_self
  | table rows resolved named numbered packed encodes sized =>
    unfold tableGroup at hr
    rcases List.mem_cons.mp hr with rfl | hr
    · exact show Tag.TABLE_NAME ∈ _ by decide
    rcases List.mem_cons.mp hr with rfl | hr
    · exact show Tag.DM_TABLE_ID ∈ _ by decide
    rcases List.mem_cons.mp hr with rfl | hr
    · exact show Tag.TABLE_INFO ∈ _ by decide
    · obtain ⟨row, -, rfl⟩ := List.mem_map.mp hr
      exact show Tag.TABLE_CONTENT ∈ _ by decide

/-- The records that every request begins with. -/
def openingRecords (name : Bytes) : List (ℕ × Bytes) :=
  [(Tag.CALL_START, []), (Tag.RFC_VERSION, RFC_VERSION_BYTES), (Tag.FUNC_NAME, name),
    (Tag.PARAM_SECTION, [])]

/-- INTERNAL: the head of a request: its opening, and the names of what is to come back. -/
theorem head_records {func_name : PyStr} {fields : List FieldDesc} {values : List (ℕ × Bytes)}
    (h : request_head func_name ++ fields.map (fun f => (Tag.EXPORT_DECL, encodeUtf16le f.name)) =
      values.map fun r => (r.1, .ok r.2)) :
    ∃ (name : Bytes) (declared : List (ℕ × Bytes)), encodeUtf16le func_name = .ok name ∧
      (∀ r ∈ declared, r.1 = Tag.EXPORT_DECL) ∧ values = openingRecords name ++ declared := by
  have hname : ∃ name, encodeUtf16le func_name = .ok name := by
    have hmem : (Tag.FUNC_NAME, encodeUtf16le func_name) ∈
        values.map fun r => (r.1, (.ok r.2 : Except PyError Bytes)) := by
      rw [← h]
      exact List.mem_append_left _ (by simp [request_head])
    obtain ⟨r, -, hr⟩ := List.mem_map.mp hmem
    exact ⟨r.2, (Prod.mk.inj hr).2.symm⟩
  obtain ⟨name, hname⟩ := hname
  have hopening : request_head func_name = (openingRecords name).map fun r => (r.1, .ok r.2) := by
    unfold request_head openingRecords
    rw [hname]
    rfl
  rw [hopening] at h
  obtain ⟨opening, declared, rfl, hfirst, hrest⟩ := List.map_eq_append_iff.mp h.symm
  have hinjective : Function.Injective fun r : ℕ × Bytes =>
      (r.1, (.ok r.2 : Except PyError Bytes)) := by
    intro r r' heq
    exact Prod.ext (Prod.mk.inj heq).1 (Except.ok.inj (Prod.mk.inj heq).2)
  obtain rfl := List.map_injective_iff.mpr hinjective hfirst
  refine ⟨name, declared, hname, fun r hr => ?_, rfl⟩
  have hmem : (r.1, (.ok r.2 : Except PyError Bytes)) ∈
      fields.map fun f => (Tag.EXPORT_DECL, encodeUtf16le f.name) := by
    rw [← hrest]
    exact List.mem_map_of_mem hr
  obtain ⟨f, -, hf⟩ := List.mem_map.mp hmem
  exact (Prod.mk.inj hf).1.symm

/-- The stream of a request, record by record. -/
theorem build_invoke_request_records {func_name : PyStr} {desc : FunctionDesc} {params : Values V}
    {request : Bytes} (h : build_invoke_request p func_name desc params = .ok request) :
    ∃ (name : Bytes) (declared : List (ℕ × Bytes)) (sent : List (Sent V)),
      encodeUtf16le func_name = .ok name ∧ (∀ r ∈ declared, r.1 = Tag.EXPORT_DECL) ∧
      (sent.map fun c => (c.field, c.value)) = desc.parameters.filterMap (fun f =>
        (sentValue p (upper_keys p.u params) f).map fun value => (f, value)) ∧
      (∀ c ∈ sent, SentAs p (dm_table_ids p desc params) c.field c.value c.group) ∧
      (∀ r ∈ openingRecords name ++ declared ++ sent.flatMap fun c => c.group.records,
        Records.Fits Tag.TERMINATOR r) ∧
      request = Records.stream Tag.TERMINATOR
        (openingRecords name ++ declared ++ sent.flatMap fun c => c.group.records) := by
  unfold build_invoke_request at h
  obtain ⟨head_bytes, hhead, h⟩ := Eff.except_bind_eq_ok.mp h
  dsimp only at h
  split at h
  · cases h
  obtain ⟨parts, hparts, h⟩ := Eff.except_bind_eq_ok.mp h
  obtain ⟨tail, htail, h⟩ := Eff.except_bind_eq_ok.mp h
  obtain ⟨head, hvalues, hfits, rfl⟩ := write_records_eq_ok hhead
  obtain ⟨sent, hmap, hsent, hflat⟩ := mapM_input_eq_ok hparts
  obtain ⟨rfl, -⟩ := write_records_ok [(Tag.TERMINATOR, [])] htail
  obtain ⟨name, declared, hname, hdeclared, rfl⟩ := head_records hvalues
  refine ⟨name, declared, sent, hname, hdeclared, hmap, fun c hc => (hsent c hc).1, ?_, ?_⟩
  · rw [List.forall_mem_append]
    constructor
    · intro r hr
      refine ⟨(hfits r hr).1, ?_, (hfits r hr).2⟩
      rcases List.mem_append.mp hr with hopening | hr
      · have htag : r.1 ∈ (openingRecords name).map Prod.fst := List.mem_map_of_mem hopening
        exact (show ∀ tag ∈ headTags, tag ≠ Tag.TERMINATOR by decide) r.1
          (List.mem_append_left [Tag.EXPORT_DECL] htag)
      · rw [hdeclared r hr]
        decide
    · intro r hr
      obtain ⟨c, hc, hr⟩ := List.mem_flatMap.mp hr
      obtain ⟨htag, hlength⟩ := (hsent c hc).2 r hr
      refine ⟨htag, ?_, hlength⟩
      have hmem := tag_of_sentAs (hsent c hc).1 r hr
      intro heq
      rw [heq] at hmem
      exact absurd hmem (by decide)
  · rw [← Except.ok.inj h, hflat]
    unfold Records.stream
    rw [List.flatMap_append]
    simp

/-- The stream of a request. -/
theorem build_invoke_request_eq_ok {func_name : PyStr} {desc : FunctionDesc} {params : Values V}
    {request : Bytes} (h : build_invoke_request p func_name desc params = .ok request) :
    ∃ (head : List (ℕ × Bytes)) (sent : List (Sent V)),
      (sent.map fun c => (c.field, c.value)) = desc.parameters.filterMap (fun f =>
        (sentValue p (upper_keys p.u params) f).map fun value => (f, value)) ∧
      (∀ c ∈ sent, SentAs p (dm_table_ids p desc params) c.field c.value c.group) ∧
      (∀ r ∈ head, r.1 ∈ headTags) ∧
      (∀ r ∈ head ++ sent.flatMap fun c => c.group.records, Records.Fits Tag.TERMINATOR r) ∧
      request = Records.stream Tag.TERMINATOR (head ++ sent.flatMap fun c => c.group.records) := by
  obtain ⟨name, declared, sent, -, hdeclared, hmap, hsent, hfits, hrequest⟩ :=
    build_invoke_request_records h
  refine ⟨openingRecords name ++ declared, sent, hmap, hsent, fun r hr => ?_, hfits, hrequest⟩
  rcases List.mem_append.mp hr with hopening | hr
  · have htag : r.1 ∈ (openingRecords name).map Prod.fst := List.mem_map_of_mem hopening
    exact List.mem_append_left [Tag.EXPORT_DECL] htag
  · rw [hdeclared r hr]
    exact show Tag.EXPORT_DECL ∈ headTags by decide

end SapRfc.Analysis.RequestRecords
