import SapRfc.Analysis.RequestRecords
import SapRfc.Analysis.RoundTrips
import SapRfc.Analysis.TableForms

/-!
# Tables by number

A request numbers the tables that it sends with rows, and a reply refers to them by these
numbers.  The rows behind a number go to the parameter that was sent under it, and to none when
nothing was.
-/

set_option autoImplicit false

namespace SapRfc.Analysis.TableNumbers

open SapRfc.Library SapRfc.Program PairGroups RequestRecords TextCodecs

variable {V : Type} {p : Platform V} {u : Unicode} {codec : Codec V} {dm : List (ℕ × PyStr)}

/-! ## The numbers of a request -/

/-- The numbers in the records of a request, each with the name of its table. -/
def numberedTables : Bytes → List (ℕ × Bytes) → List (ℕ × Bytes)
  | _, [] => []
  | name, r :: rs =>
    if r.1 = Tag.TABLE_NAME then numberedTables r.2 rs
    else if r.1 = Tag.DM_TABLE_ID then (ofBE r.2, name) :: numberedTables name rs
    else numberedTables name rs

/-- The request sends the table `name` under the number `id`. -/
def Emitted (request : Bytes) (name : PyStr) (id : ℕ) : Prop :=
  ∃ value, encodeUtf16le name = .ok value ∧
    (id, value) ∈ numberedTables [] (Records.walk Tag.TERMINATOR request).records

/-- INTERNAL: other records are passed over. -/
theorem numberedTables_other (name : Bytes) {rs : List (ℕ × Bytes)}
    (h : ∀ r ∈ rs, r.1 ≠ Tag.TABLE_NAME ∧ r.1 ≠ Tag.DM_TABLE_ID) (rest : List (ℕ × Bytes)) :
    numberedTables name (rs ++ rest) = numberedTables name rest := by
  induction rs with
  | nil => rfl
  | cons r rs ih =>
    obtain ⟨hname, hid⟩ := h r List.mem_cons_self
    rw [List.cons_append, numberedTables, if_neg hname, if_neg hid]
    exact ih fun q hq => h q (List.mem_cons_of_mem _ hq)

/-- INTERNAL: the numbers of a request are those of its tables. -/
theorem mem_numberedTables {ids : List (ℕ × PyStr)} {sent : List (Sent V)}
    (hsent : ∀ c ∈ sent, SentAs p ids c.field c.value c.group) {id : ℕ} {value : Bytes}
    (name : Bytes) :
    (id, value) ∈ numberedTables name (sent.flatMap fun c => c.group.records) ↔
      ∃ c ∈ sent, c.field.rfctype = RFCTYPE_TABLE ∧ encodeUtf16le c.field.name = .ok value ∧
        dm_id_of ids c.field.name = .ok id := by
  induction sent generalizing name with
  | nil => exact ⟨nofun, nofun⟩
  | cons c sent ih =>
    have hrest := ih fun q hq => hsent q (List.mem_cons_of_mem _ hq)
    rw [List.flatMap_cons]
    obtain ⟨field, sent_value, group⟩ := c
    have hgroup : SentAs p ids field sent_value group := hsent _ List.mem_cons_self
    cases hgroup with
    | @scalar scalar_name encoded plain named encodes =>
      have hpast : ∀ r ∈ (scalarGroup field.name scalar_name encoded).records,
          r.1 ≠ Tag.TABLE_NAME ∧ r.1 ≠ Tag.DM_TABLE_ID := by
        unfold scalarGroup
        rw [List.forall_mem_cons, List.forall_mem_singleton]
        exact ⟨show Tag.PARAM_NAME ≠ _ ∧ Tag.PARAM_NAME ≠ _ by decide,
          show Tag.PARAM_VALUE ≠ _ ∧ Tag.PARAM_VALUE ≠ _ by decide⟩
      rw [numberedTables_other name hpast, hrest name]
      constructor
      · rintro ⟨c, hc, hfound⟩
        exact ⟨c, List.mem_cons_of_mem _ hc, hfound⟩
      · rintro ⟨c, hc, htable, hfound⟩
        rcases List.mem_cons.mp hc with rfl | hc
        · exact absurd htable plain
        · exact ⟨c, hc, htable, hfound⟩
    | @table type_desc table_name dm_id info all_row_bytes number row_count rows resolved named
        numbered packed encodes sized =>
      have hnumber : ofBE dm_id = number := by
        unfold pack_u32 at packed
        split at packed
        · cases packed
        · rw [← Except.ok.inj packed, Int.toNat_natCast]
          exact ofBE_toBE_of_lt (by omega)
      have hlast : ∀ r ∈ (Tag.TABLE_INFO, info) :: List.map (fun row => (Tag.TABLE_CONTENT, row))
          ((List.range row_count).map (row_slice all_row_bytes
            (if field.unicode_mode then type_desc.uc_size else type_desc.nuc_size))),
          r.1 ≠ Tag.TABLE_NAME ∧ r.1 ≠ Tag.DM_TABLE_ID := by
        rw [List.forall_mem_cons, List.forall_mem_map]
        exact ⟨show Tag.TABLE_INFO ≠ _ ∧ Tag.TABLE_INFO ≠ _ by decide,
          fun _ _ => show Tag.TABLE_CONTENT ≠ _ ∧ Tag.TABLE_CONTENT ≠ _ by decide⟩
      have hcons : numberedTables name ((tableGroup Tag.TABLE_CONTENT field.name table_name dm_id
          info ((List.range row_count).map (row_slice all_row_bytes
            (if field.unicode_mode then type_desc.uc_size else type_desc.nuc_size)))).records ++
          sent.flatMap fun c => c.group.records) = (number, table_name) ::
            numberedTables table_name (sent.flatMap fun c => c.group.records) := by
        rw [← numberedTables_other table_name hlast, ← hnumber]
        rfl
      rw [hcons, List.mem_cons, hrest table_name]
      constructor
      · rintro (hfirst | ⟨c, hc, hfound⟩)
        · obtain ⟨rfl, rfl⟩ := Prod.mk.inj hfirst
          exact ⟨_, List.mem_cons_self, rows, named, numbered⟩
        · exact ⟨c, List.mem_cons_of_mem _ hc, hfound⟩
      · rintro ⟨c, hc, htable, hnamed, hnumbered⟩
        rcases List.mem_cons.mp hc with rfl | hc
        · left
          exact Prod.ext (Except.ok.inj (hnumbered.symm.trans numbered))
            (Except.ok.inj (hnamed.symm.trans named))
        · exact .inr ⟨c, hc, htable, hnamed, hnumbered⟩

/-- INTERNAL: the tables that are sent have distinct numbers and distinct names. -/
theorem dm_table_ids_nodup {desc : FunctionDesc} (params : Values V)
    (hnames : (desc.parameters.map fun f => p.u.upper f.name).Nodup) :
    ((dm_table_ids p desc params).map Prod.fst).Nodup ∧
      ((dm_table_ids p desc params).map Prod.snd).Nodup := by
  unfold dm_table_ids
  dsimp only
  rw [List.map_map, List.map_map]
  constructor
  · have hnumbers : ∀ (fields : List FieldDesc) (i : ℕ),
        (fields.zipIdx i).map (Prod.fst ∘ fun e => (e.2 + 1, e.1.name)) =
          List.range' (i + 1) fields.length := by
      intro fields
      induction fields with
      | nil => exact fun _ => rfl
      | cons f fields ih =>
        intro i
        rw [List.zipIdx_cons, List.map_cons, ih (i + 1)]
        rfl
    rw [hnumbers]
    exact List.nodup_range'
  · have hsame : ∀ (fields : List FieldDesc) (i : ℕ),
        (fields.zipIdx i).map (Prod.snd ∘ fun e => (e.2 + 1, e.1.name)) =
          fields.map FieldDesc.name := by
      intro fields
      induction fields with
      | nil => exact fun _ => rfl
      | cons f fields ih =>
        intro i
        rw [List.zipIdx_cons, List.map_cons, ih (i + 1)]
        rfl
    rw [hsame]
    exact (Dicts.nodup_names p.u hnames).sublist (List.filter_sublist.map _)

/-- INTERNAL: the number of a name and the name of a number. -/
theorem dm_id_of_eq_ok {ids : List (ℕ × PyStr)} (hnumbers : (ids.map Prod.fst).Nodup)
    (hnames : (ids.map Prod.snd).Nodup) {name : PyStr} {id : ℕ} :
    dm_id_of ids name = .ok id ↔ assocGet ids id = some name := by
  rw [Dicts.assocGet_eq_some hnumbers]
  unfold dm_id_of
  cases hfind : ids.reverse.find? fun e => decide (e.2 = name) with
  | none =>
    rw [List.find?_eq_none] at hfind
    refine ⟨nofun, fun hmem => ?_⟩
    exact absurd (decide_eq_true rfl) (hfind _ (List.mem_reverse.mpr hmem))
  | some e =>
    have hmem : e ∈ ids := List.mem_reverse.mp (List.mem_of_find?_eq_some hfind)
    have hname : e.2 = name :=
      of_decide_eq_true (List.find?_some (p := fun e : ℕ × PyStr => decide (e.2 = name)) hfind)
    constructor
    · intro h
      obtain rfl : e.1 = id := Except.ok.inj h
      rw [← hname]
      exact hmem
    · intro h
      have hsame : e = (id, name) := List.inj_on_of_nodup_map hnames hmem h hname
      rw [hsame]

/-- The numbers that a request sends its tables under are the ones that the caller keeps. -/
theorem emitted_iff {func_name : PyStr} {desc : FunctionDesc} {params : Values V} {request : Bytes}
    (hnames : (desc.parameters.map fun f => p.u.upper f.name).Nodup)
    (htext : ∀ f ∈ desc.parameters, IsText f.name)
    (hbuild : build_invoke_request p func_name desc params = .ok request) {name : PyStr}
    (hname : IsText name) {id : ℕ} :
    Emitted request name id ↔ assocGet (dm_table_ids p desc params) id = some name := by
  obtain ⟨head, sent, hmap, hsent, hhead, hfits, rfl⟩ := build_invoke_request_eq_ok hbuild
  obtain ⟨hids, hidnames⟩ := dm_table_ids_nodup params hnames
  have hwalk := Records.walk_stream (by decide) hfits []
  rw [List.append_nil] at hwalk
  have hfield : ∀ c ∈ sent, c.field ∈ desc.parameters := by
    intro c hc
    have hmem := List.mem_map_of_mem (f := fun c : Sent V => (c.field, c.value)) hc
    rw [hmap] at hmem
    obtain ⟨f, hf, hvalue⟩ := List.mem_filterMap.mp hmem
    obtain ⟨_, -, heq⟩ := Option.map_eq_some_iff.mp hvalue
    rw [← (Prod.mk.inj heq).1]
    exact hf
  have hpast : ∀ r ∈ head, r.1 ≠ Tag.TABLE_NAME ∧ r.1 ≠ Tag.DM_TABLE_ID := fun r hr =>
    (show ∀ tag ∈ headTags, tag ≠ Tag.TABLE_NAME ∧ tag ≠ Tag.DM_TABLE_ID by decide) r.1 (hhead r hr)
  unfold Emitted
  rw [hwalk]
  dsimp only
  rw [numberedTables_other [] hpast]
  constructor
  · rintro ⟨value, hvalue, hmem⟩
    obtain ⟨c, hc, -, hnamed, hnumbered⟩ := (mem_numberedTables hsent []).mp hmem
    have hsame : c.field.name = name := by
      have hdecoded := decodeUtf16le_encode (htext _ (hfield c hc)) hnamed
      rw [decodeUtf16le_encode hname hvalue] at hdecoded
      exact (Option.some.inj hdecoded).symm
    rw [hsame] at hnumbered
    exact (dm_id_of_eq_ok hids hidnames).mp hnumbered
  · intro hget
    have hnumbered := (dm_id_of_eq_ok hids hidnames).mpr hget
    have hlisted := (Dicts.assocGet_eq_some hids).mp hget
    unfold dm_table_ids at hlisted
    obtain ⟨⟨f, i⟩, hf, heq⟩ := List.mem_map.mp hlisted
    obtain ⟨-, rfl⟩ := Prod.mk.inj heq
    obtain ⟨hdeclared, hsend⟩ := List.mem_filter.mp (List.fst_mem_of_mem_zipIdx hf)
    rw [Bool.and_eq_true, Bool.and_eq_true] at hsend
    obtain ⟨⟨hdirection, htable⟩, htruth⟩ := hsend
    have hexport : f.direction ≠ RFC_EXPORT := of_decide_eq_true hdirection
    cases hvalue : assocGet (upper_keys p.u params) (p.u.upper f.name) with
    | none =>
      rw [hvalue] at htruth
      cases htruth
    | some value =>
      have hfilled : p.codec.truth value = true := by
        rw [hvalue] at htruth
        exact htruth
      have hsome : sentValue p (upper_keys p.u params) f = some value := by
        unfold sentValue
        rw [if_neg hexport, hvalue]
        exact Option.filter_eq_some_iff.mpr ⟨rfl, decide_eq_true (.inr hfilled)⟩
      have hlisted : (f, value) ∈ sent.map fun c => (c.field, c.value) := by
        rw [hmap]
        exact List.mem_filterMap.mpr ⟨f, hdeclared, by rw [hsome]; rfl⟩
      obtain ⟨⟨field, sent_value, group⟩, hc, hpair⟩ := List.mem_map.mp hlisted
      obtain ⟨rfl, rfl⟩ := Prod.mk.inj hpair
      have hgroup : SentAs p (dm_table_ids p desc params) field sent_value group := hsent _ hc
      cases hgroup with
      | scalar plain => exact absurd (of_decide_eq_true htable) plain
      | @table _ table_name _ _ _ _ _ rows resolved named =>
        exact ⟨table_name, named, (mem_numberedTables hsent []).mpr
          ⟨_, hc, rows, named, hnumbered⟩⟩

/-! ## One table of a reply -/

variable (u) in
/-- The walker has found these pairs and this count for the name, and is not reading it now. -/
structure Apart (name : PyStr) (found : List (PyStr × Bytes)) (count : Option ℕ) (st : PairState) :
    Prop where
  current : ∀ other, st.current_name = some other → u.upper other ≠ u.upper name
  pairs : st.pairs.filter (fun e => u.upper e.1 = u.upper name) = found
  count : assocGet st.row_counts name = count
  opening : ∀ other, st.basxml_current = .named other → u.upper other ≠ u.upper name
  chunks : ∀ e ∈ st.basxml_chunks, u.upper e.1 ≠ u.upper name

variable (u dm) in
/-- The record names another parameter, or none. -/
structure Elsewhere (name : PyStr) (r : ℕ × Bytes) : Prop where
  named : r.1 = Tag.PARAM_NAME ∨ (r.1 = Tag.TABLE_NAME ∧ r.2 ≠ []) →
    u.upper (decode_utf16le r.2) ≠ u.upper name
  numbered : r.1 = Tag.TABLE_DELTA → 12 ≤ r.2.length → ∀ other,
    assocGet dm (ofBE (slice r.2 4 8)) = some other → u.upper other ≠ u.upper name
  opens : r.1 = Tag.BASXML_DATA → ∀ other, basxml_open_tag r.2 = some other →
    u.upper other ≠ u.upper name

variable {name : PyStr} {found : List (PyStr × Bytes)} {count : Option ℕ} {st st' : PairState}

/-- INTERNAL: nothing is found for the name at the end of another table. -/
theorem Apart.flushed (h : Apart u name found count st) {pairs : List (PyStr × Bytes)}
    (hflush : st.flushed codec = .ok pairs) :
    pairs.filter (fun e => u.upper e.1 = u.upper name) = found := by
  unfold PairState.flushed at hflush
  split at hflush
  next other hopened hcurrent =>
    obtain ⟨rows, -, hpairs⟩ := Eff.except_bind_eq_ok.mp hflush
    rw [← Except.ok.inj hpairs, List.filter_append, h.pairs, List.filter_singleton,
      decide_eq_false (h.current other hcurrent)]
    exact List.append_nil found
  next =>
    rw [← Except.ok.inj hflush]
    exact h.pairs

/-- INTERNAL: the piece of another document. -/
theorem Apart.pushed (h : Apart u name found count st) {other : PyStr}
    (hother : u.upper other ≠ u.upper name) (value : Bytes) :
    ∀ e ∈ assocPush st.basxml_chunks other value, u.upper e.1 ≠ u.upper name := by
  intro e he
  rcases Dicts.mem_assocSet he with rfl | hold
  · exact hother
  · exact h.chunks e hold

/-- A record that is elsewhere changes nothing for the name. -/
theorem Apart.step (h : Apart u name found count st) {r : ℕ × Bytes}
    (hr : Elsewhere u dm name r) (hrun : pair_record codec dm st r = .ok st') :
    Apart u name found count st' := by
  obtain ⟨tag, value⟩ := r
  unfold pair_record at hrun
  dsimp only at hrun
  by_cases hparam : tag = Tag.PARAM_NAME
  · rw [if_pos hparam] at hrun
    -- a name closes the table, whatever it was
    have hnew := hr.named (.inl hparam)
    split at hrun
    next =>
      obtain ⟨pairs, hflush, hst⟩ := Eff.except_bind_eq_ok.mp hrun
      rw [← Except.ok.inj hst]
      exact ⟨fun other hother => Option.some.inj hother ▸ hnew, h.flushed hflush, h.count,
        h.opening,
        h.chunks⟩
    next =>
      rw [← Except.ok.inj hrun]
      exact ⟨fun other hother => Option.some.inj hother ▸ hnew, h.pairs, h.count, h.opening,
        h.chunks⟩
  rw [if_neg hparam] at hrun
  by_cases hscalar : tag = Tag.PARAM_VALUE ∧ st.current_name ≠ none ∧ st.in_table = false
  · rw [if_pos hscalar] at hrun
    obtain ⟨-, hcurrent, -⟩ := hscalar
    obtain ⟨other, hother⟩ := Option.ne_none_iff_exists'.mp hcurrent
    rw [← Except.ok.inj hrun]
    refine ⟨fun _ hnone => (by cases hnone), ?_, h.count, h.opening, h.chunks⟩
    have hfalse : decide (u.upper ((some other).getD []) = u.upper name) = false :=
      decide_eq_false (h.current other hother)
    dsimp only
    rw [hother, List.filter_append, h.pairs, List.filter_singleton, hfalse]
    exact List.append_nil found
  rw [if_neg hscalar] at hrun
  by_cases htable : tag = Tag.TABLE_NAME
  · rw [if_pos htable] at hrun
    obtain ⟨pairs, hflush, hst⟩ := Eff.except_bind_eq_ok.mp hrun
    rw [← Except.ok.inj hst]
    refine ⟨fun other hother => ?_, h.flushed hflush, h.count, h.opening, h.chunks⟩
    dsimp only at hother
    split at hother
    next => exact h.current other hother
    next hvalue => exact Option.some.inj hother ▸ hr.named (.inr ⟨htable, hvalue⟩)
  rw [if_neg htable] at hrun
  by_cases hmarker : tag = Tag.BASXML_MARKER
  · rw [if_pos hmarker] at hrun
    rw [← Except.ok.inj hrun]
    refine ⟨h.current, h.pairs, h.count, fun other hother => ?_, h.chunks⟩
    dsimp only at hother
    split at hother <;> cases hother
  rw [if_neg hmarker] at hrun
  by_cases hdata : tag = Tag.BASXML_DATA ∧ st.basxml_current ≠ .outside
  · rw [if_pos hdata] at hrun
    split at hrun
    next other hnamed =>
      rw [← Except.ok.inj hrun]
      exact ⟨h.current, h.pairs, h.count, h.opening, h.pushed (h.opening other hnamed) value⟩
    next =>
      split at hrun
      next =>
        rw [← Except.ok.inj hrun]
        exact h
      next other hopen =>
        have hother := hr.opens hdata.1 other hopen
        rw [← Except.ok.inj hrun]
        exact ⟨h.current, h.pairs, h.count,
          fun another hanother => Basxml.named.inj hanother ▸ hother, h.pushed hother value⟩
  rw [if_neg hdata] at hrun
  by_cases hinfo : tag = Tag.TABLE_INFO ∧ st.in_table = true
  · rw [if_pos hinfo] at hrun
    split at hrun
    next other hcurrent =>
      split at hrun
      next =>
        have hne : other ≠ name := fun heq => h.current other hcurrent (congrArg u.upper heq)
        rw [← Except.ok.inj hrun]
        refine ⟨h.current, h.pairs, ?_, h.opening, h.chunks⟩
        dsimp only
        rw [Dicts.assocGet_assocSet, if_neg hne]
        exact h.count
      next =>
        rw [← Except.ok.inj hrun]
        exact h
    next =>
      rw [← Except.ok.inj hrun]
      exact h
  rw [if_neg hinfo] at hrun
  by_cases hrows : (tag = Tag.TABLE_CONTENT ∨ tag = Tag.TABLE_CONTENT_ALT) ∧ st.in_table = true
  · rw [if_pos hrows] at hrun
    rw [← Except.ok.inj hrun]
    exact ⟨h.current, h.pairs, h.count, h.opening, h.chunks⟩
  rw [if_neg hrows] at hrun
  by_cases hpieces : tag = Tag.TABLE_CONTENT_LZ ∧ st.in_table = true
  · rw [if_pos hpieces] at hrun
    rw [← Except.ok.inj hrun]
    exact ⟨h.current, h.pairs, h.count, h.opening, h.chunks⟩
  rw [if_neg hpieces] at hrun
  by_cases hdelta : tag = Tag.TABLE_DELTA
  · rw [if_pos hdelta] at hrun
    obtain ⟨pairs, hflush, hst⟩ := Eff.except_bind_eq_ok.mp hrun
    rw [← Except.ok.inj hst]
    refine ⟨fun other hother => ?_, h.flushed hflush, h.count, h.opening, h.chunks⟩
    dsimp only at hother
    split at hother
    next hlong => exact hr.numbered hdelta hlong other hother
    next => cases hother
  rw [if_neg hdelta] at hrun
  by_cases hends : (tag = Tag.TABLE_END ∨ tag = Tag.TABLE_DELTA_END) ∧ st.in_table = true ∧
    st.current_name ≠ none
  · rw [if_pos hends] at hrun
    obtain ⟨pairs, hflush, hst⟩ := Eff.except_bind_eq_ok.mp hrun
    rw [← Except.ok.inj hst]
    exact ⟨fun _ hnone => (by cases hnone), h.flushed hflush, h.count, h.opening, h.chunks⟩
  · rw [if_neg hends] at hrun
    rw [← Except.ok.inj hrun]
    exact h

/-- Records that are elsewhere, one after the other. -/
theorem Apart.run {rs : List (ℕ × Bytes)} (h : Apart u name found count st)
    (hrs : ∀ r ∈ rs, Elsewhere u dm name r)
    (hrun : rs.foldlM (pair_record codec dm) st = .ok st') : Apart u name found count st' := by
  induction rs generalizing st with
  | nil =>
    obtain rfl : st = st' := Except.ok.inj hrun
    exact h
  | cons r rs ih =>
    rw [List.foldlM_cons] at hrun
    obtain ⟨next, hstep, hrest⟩ := Eff.except_bind_eq_ok.mp hrun
    exact ih (h.step (hrs r List.mem_cons_self) hstep)
      (fun q hq => hrs q (List.mem_cons_of_mem _ hq)) hrest

/-! ## The rows behind a number -/

/-- The tags of the rows of a table and of their number. -/
def rowTags : List ℕ := Tag.TABLE_INFO :: TableForms.contentTags

/-- What follows the rows of a table: the end of the reply, or a record that closes the table and
does not go on with its name. -/
def Closes (after : List (ℕ × Bytes)) : Prop :=
  ∀ r rest, after = r :: rest →
    r.1 ∈ TableForms.closingTags ∧ (r.1 = Tag.TABLE_NAME → r.2 ≠ [])

/-- The number of rows that a table declares last. -/
def declaredCount (body : List (ℕ × Bytes)) : Option ℕ := (body.filterMap countOf).getLast?

/-- INTERNAL: the count of a table that has just begun. -/
theorem assocGet_bodyCounts (body : List (ℕ × Bytes)) {counts : List (PyStr × ℕ)}
    (hcounts : assocGet counts name = none) :
    assocGet (bodyCounts name body counts) name = declaredCount body := by
  have hall : ∀ (body : List (ℕ × Bytes)) (counts : List (PyStr × ℕ)),
      assocGet (bodyCounts name body counts) name =
        (declaredCount body).or (assocGet counts name) := by
    intro body
    induction body with
    | nil => exact fun counts => (Option.none_or).symm
    | cons r body ih =>
      intro counts
      unfold declaredCount
      rw [bodyCounts, ih, List.filterMap_cons]
      cases countOf r with
      | none => rfl
      | some n =>
        dsimp only
        rw [Dicts.assocGet_assocSet, if_pos rfl, List.getLast?_cons]
        unfold declaredCount
        cases (body.filterMap countOf).getLast? <;> rfl
  rw [hall, hcounts, Option.or_none]

/-- INTERNAL: rows leave a table open. -/
theorem inside_of_row {r : ℕ × Bytes} (h : r.1 ∈ rowTags) : Inside r :=
  (show ∀ tag ∈ rowTags, tag ∉ turningTags by decide) r.1 h

/-- INTERNAL: what closes a table is read as behind it. -/
theorem pair_record_closing {r : ℕ × Bytes} (hr : r.1 ∈ TableForms.closingTags)
    (hname : r.1 = Tag.TABLE_NAME → r.2 ≠ []) {current : PyStr} (hopen : st.in_table = true)
    (hcurrent : st.current_name = some current) :
    pair_record codec dm st r =
      st.flushed codec >>= fun pairs => pair_record codec dm (closed st pairs) r := by
  obtain ⟨tag, value⟩ := r
  unfold TableForms.closingTags at hr
  simp only [List.mem_cons, List.not_mem_nil, or_false] at hr
  rcases hr with rfl | rfl | rfl | rfl | rfl
  · unfold pair_record
    rw [hopen, hcurrent]
    rfl
  · rw [pair_record_table (hname rfl)]
    cases st.flushed codec with
    | error e => rfl
    | ok pairs =>
      rw [Eff.except_ok_bind, pair_record_table (hname rfl)]
      rfl
  · rw [pair_record_delta]
    cases st.flushed codec with
    | error e => rfl
    | ok pairs =>
      rw [Eff.except_ok_bind, pair_record_delta]
      rfl
  · unfold pair_record
    rw [hopen, hcurrent]
    rfl
  · unfold pair_record
    rw [hopen, hcurrent]
    rfl

/-- An open table is read to the end of the reply as one that was closed before. -/
theorem run_closing {after : List (ℕ × Bytes)} (hafter : Closes after) {current : PyStr}
    (hopen : st.in_table = true) (hcurrent : st.current_name = some current) :
    (after.foldlM (pair_record codec dm) st >>= reported codec) =
      st.flushed codec >>= fun pairs =>
        after.foldlM (pair_record codec dm) (closed st pairs) >>= reported codec := by
  cases after with
  | nil =>
    rw [List.foldlM_nil]
    show reported codec st = _
    unfold reported
    cases st.flushed codec <;> rfl
  | cons r after =>
    obtain ⟨hr, hname⟩ := hafter r after rfl
    rw [List.foldlM_cons, pair_record_closing hr hname hopen hcurrent]
    cases st.flushed codec with
    | error e => rfl
    | ok pairs =>
      rw [Eff.except_ok_bind, Eff.except_ok_bind, List.foldlM_cons]

/-- INTERNAL: what is reported of the name. -/
theorem Apart.reported (h : Apart u name found count st) {named : NamedValues}
    (hrun : reported codec st = .ok named) :
    named.pairs.filter (fun e => u.upper e.1 = u.upper name) = found ∧
      assocGet named.row_counts name = count ∧
      ∀ e ∈ named.basxml, u.upper e.1 ≠ u.upper name := by
  obtain ⟨pairs, hflush, hnamed⟩ := Eff.except_bind_eq_ok.mp hrun
  rw [← Except.ok.inj hnamed]
  refine ⟨h.flushed hflush, h.count, ?_⟩
  rw [List.forall_mem_map]
  exact h.chunks

/-- The rows behind a number are the only ones that are reported of its name. -/
theorem Apart.numbered (h : Apart u name [] none st) {value : Bytes} (hlong : 12 ≤ value.length)
    (hid : assocGet dm (ofBE (slice value 4 8)) = some name) {body after : List (ℕ × Bytes)}
    (hbody : ∀ r ∈ body, r.1 ∈ rowTags) (hcloses : Closes after)
    (hafter : ∀ r ∈ after, Elsewhere u dm name r) {named : NamedValues}
    (hrun : (((Tag.TABLE_DELTA, value) :: body ++ after).foldlM (pair_record codec dm) st >>=
      PairGroups.reported codec) = .ok named) :
    ∃ payload, bodyPayload codec name body = .ok payload ∧
      named.pairs.filter (fun e => u.upper e.1 = u.upper name) = [(name, payload)] ∧
      assocGet named.row_counts name = declaredCount body ∧
      ∀ e ∈ named.basxml, u.upper e.1 ≠ u.upper name := by
  rw [List.cons_append, List.foldlM_cons, pair_record_delta, if_pos hlong, hid] at hrun
  cases hflush : st.flushed codec with
  | error e =>
    rw [hflush] at hrun
    cases hrun
  | ok pairs =>
    rw [hflush] at hrun
    change ((body ++ after).foldlM (pair_record codec dm) (opened st pairs name) >>=
      PairGroups.reported codec) = .ok named at hrun
    rw [List.foldlM_append, foldlM_body (fun r hr => inside_of_row (hbody r hr)) rfl rfl,
      Eff.except_ok_bind, run_closing hcloses rfl rfl] at hrun
    obtain ⟨flushed, hpairs, hrest⟩ := Eff.except_bind_eq_ok.mp hrun
    obtain ⟨payload, hpayload, hadded⟩ := Eff.except_bind_eq_ok.mp hpairs
    obtain ⟨last, hlast, hreported⟩ := Eff.except_bind_eq_ok.mp hrest
    have hapart : Apart u name [(name, payload)] (declaredCount body)
        (closed { opened st pairs name with
          table_rows := (opened st pairs name).table_rows ++ bodyRows body
          table_lz := (opened st pairs name).table_lz ++ bodyChunks body
          row_counts := bodyCounts name body (opened st pairs name).row_counts } flushed) := by
      refine ⟨nofun, ?_, assocGet_bodyCounts body h.count, h.opening, h.chunks⟩
      show flushed.filter _ = _
      rw [← Except.ok.inj hadded, List.filter_append, List.filter_singleton,
        decide_eq_true rfl]
      show pairs.filter _ ++ _ = _
      rw [h.flushed hflush]
      rfl
    exact ⟨payload, hpayload, (hapart.run hafter hlast).reported hreported⟩

/-! ## Attribution -/

/-- The records of a reply in which rows stand behind a number. -/
def withRows (before : List (ℕ × Bytes)) (value : Bytes) (body after : List (ℕ × Bytes)) :
    List (ℕ × Bytes) :=
  before ++ ((Tag.TABLE_DELTA, value) :: body ++ after)

/-- The rows behind a number that the reply refers to once. -/
structure RowsBehind (id : ℕ) (before : List (ℕ × Bytes)) (value : Bytes)
    (body after : List (ℕ × Bytes)) : Prop where
  fits : ∀ r ∈ withRows before value body after, Records.Fits Tag.TERMINATOR r
  long : 12 ≤ value.length
  number : ofBE (slice value 4 8) = id
  rows : ∀ r ∈ body, r.1 ∈ rowTags
  closes : Closes after
  once : ∀ r ∈ before ++ after, r.1 = Tag.TABLE_DELTA → 12 ≤ r.2.length →
    ofBE (slice r.2 4 8) ≠ id

/-- No other scalar and no other table of the reply has the name. -/
def NamedNowhere (u : Unicode) (name : PyStr) (rs : List (ℕ × Bytes)) : Prop :=
  ∀ r ∈ rs, (r.1 = Tag.PARAM_NAME ∨ (r.1 = Tag.TABLE_NAME ∧ r.2 ≠ []) →
      u.upper (decode_utf16le r.2) ≠ u.upper name) ∧
    (r.1 = Tag.BASXML_DATA → ∀ other, basxml_open_tag r.2 = some other →
      u.upper other ≠ u.upper name)

/-- Rows behind a number that the request assigned are those of the parameter that it was
assigned to. -/
def AssignedRowsFound (p : Platform V) (desc : FunctionDesc) (params : Values V) (request : Bytes) :
    Prop :=
  ∀ field ∈ desc.parameters, field.direction ≠ RFC_IMPORT → ∀ id, Emitted request field.name id →
    ∀ before value body after, RowsBehind id before value body after →
      NamedNowhere p.u field.name (before ++ after) → ∀ result,
        parse_invoke_response p (Records.stream Tag.TERMINATOR (withRows before value body after))
          desc (dm_table_ids p desc params) = .ok result →
        ∃ payload rows, bodyPayload p.codec field.name body = .ok payload ∧
          p.codec.decode field.rfctype payload field (declaredCount body) = .ok rows ∧
          assocGet result field.name = some rows

/-- Rows behind any other number make no difference. -/
def OtherRowsDropped (p : Platform V) (desc : FunctionDesc) (params : Values V) (request : Bytes) :
    Prop :=
  ∀ id, (∀ value, (id, value) ∉ numberedTables [] (Records.walk Tag.TERMINATOR request).records) →
    ∀ before value body after, RowsBehind id before value body after →
      Replies.Alike p.u (withRows before value body after)
        (parse_invoke_response p (Records.stream Tag.TERMINATOR (withRows before value body after))
          desc (dm_table_ids p desc params))
        (parse_invoke_response p (Records.stream Tag.TERMINATOR (withRows before value [] after))
          desc (dm_table_ids p desc params))

/-- INTERNAL: numbers are given to parameters. -/
theorem parameter_of_number {desc : FunctionDesc} {params : Values V} {id : ℕ} {name : PyStr}
    (h : assocGet (dm_table_ids p desc params) id = some name) :
    ∃ f ∈ desc.parameters, f.name = name := by
  unfold assocGet at h
  obtain ⟨e, hfind, rfl⟩ := Option.map_eq_some_iff.mp h
  have hmem := List.mem_of_find?_eq_some hfind
  unfold dm_table_ids at hmem
  obtain ⟨⟨f, i⟩, hf, rfl⟩ := List.mem_map.mp hmem
  exact ⟨f, (List.mem_filter.mp (List.fst_mem_of_mem_zipIdx hf)).1, rfl⟩

/-- INTERNAL: outside of a table, rows are passed over. -/
theorem foldlM_closed {body : List (ℕ × Bytes)} (hbody : ∀ r ∈ body, r.1 ∈ rowTags)
    (hclosed : st.in_table = false) : body.foldlM (pair_record codec dm) st = .ok st := by
  induction body with
  | nil => rfl
  | cons r body ih =>
    have hr := hbody r List.mem_cons_self
    have hstep : pair_record codec dm st r = .ok st := by
      obtain ⟨tag, value⟩ := r
      unfold rowTags TableForms.contentTags at hr
      simp only [List.mem_cons, List.not_mem_nil, or_false] at hr
      rcases hr with rfl | rfl | rfl | rfl <;>
      · unfold pair_record
        rw [hclosed]
        rfl
    rw [List.foldlM_cons, hstep]
    exact ih fun q hq => hbody q (List.mem_cons_of_mem _ hq)

section Attribution

variable {func_name : PyStr} {desc : FunctionDesc} {params : Values V} {request : Bytes}

/-- INTERNAL: rows behind a number that was assigned. -/
theorem assigned_rows_found (hbuild : build_invoke_request p func_name desc params = .ok request)
    (hnames : (desc.parameters.map fun f => p.u.upper f.name).Nodup)
    (htext : ∀ f ∈ desc.parameters, IsText f.name) : AssignedRowsFound p desc params request := by
  intro field hfield hdirection id hemitted before value body after hrows hnowhere result hparse
  obtain ⟨hids, hidnames⟩ := dm_table_ids_nodup params hnames
  have hget := (emitted_iff hnames htext hbuild (htext field hfield)).mp hemitted
  have helsewhere : ∀ r ∈ before ++ after,
      Elsewhere p.u (dm_table_ids p desc params) field.name r := by
    intro r hr
    refine ⟨(hnowhere r hr).1, fun hdelta hlong other hother => ?_, (hnowhere r hr).2⟩
    obtain ⟨f, hf, rfl⟩ := parameter_of_number hother
    intro hupper
    obtain rfl : f = field := List.inj_on_of_nodup_map hnames hf hfield hupper
    have hsame : (ofBE (slice r.2 4 8), f.name) = (id, f.name) :=
      List.inj_on_of_nodup_map hidnames ((Dicts.assocGet_eq_some hids).mp hother)
        ((Dicts.assocGet_eq_some hids).mp hget) rfl
    exact hrows.once r hr hdelta hlong (Prod.mk.inj hsame).1
  have hdecode := Replies.decode_of_parse hrows.fits hparse
  rw [Replies.decode_result_eq] at hdecode
  obtain ⟨named, hnamed, hdecoded⟩ := Eff.except_bind_eq_ok.mp hdecode
  rw [extract_named_values_stream hrows.fits] at hnamed
  unfold withRows at hnamed
  rw [List.foldlM_append] at hnamed
  obtain ⟨last, hlast, hreported⟩ := Eff.except_bind_eq_ok.mp hnamed
  obtain ⟨st, hst, hrest⟩ := Eff.except_bind_eq_ok.mp hlast
  have hinit : Apart p.u field.name [] none PairState.init := ⟨nofun, rfl, rfl, nofun, nofun⟩
  have hapart : Apart p.u field.name [] none st :=
    hinit.run (fun r hr => helsewhere r (List.mem_append_left _ hr)) hst
  obtain ⟨payload, hpayload, honly, hcount, hxml⟩ := hapart.numbered hrows.long
    (by rw [hrows.number]; exact hget) hrows.rows hrows.closes
    (fun r hr => helsewhere r (List.mem_append_right _ hr))
    (by rw [hrest]; exact hreported)
  obtain ⟨pairs_result, hpairs, hxmls⟩ := Eff.except_bind_eq_ok.mp hdecoded
  have hfound : field_of p.u (Replies.outputs desc) field.name = some field := by
    refine Dicts.field_of_mem p.u (hnames.sublist (List.filter_sublist.map _)) ?_
    exact List.mem_filter.mpr ⟨hfield, decide_eq_true hdirection⟩
  obtain ⟨rows, hread, hset⟩ := Dicts.foldlM_only hfound honly hpairs
  refine ⟨payload, rows, hpayload, ?_, ?_⟩
  · rw [← hcount]
    exact hread
  · rw [← hset]
    exact Dicts.foldlM_elsewhere hxml hxmls

/-- INTERNAL: rows behind any other number. -/
theorem other_rows_dropped (hbuild : build_invoke_request p func_name desc params = .ok request)
    (hnames : (desc.parameters.map fun f => p.u.upper f.name).Nodup)
    (htext : ∀ f ∈ desc.parameters, IsText f.name) : OtherRowsDropped p desc params request := by
  intro id hnone before value body after hrows
  have hget : assocGet (dm_table_ids p desc params) id = none := by
    by_contra hsome
    obtain ⟨name, hname⟩ := Option.ne_none_iff_exists'.mp hsome
    obtain ⟨f, hf, rfl⟩ := parameter_of_number hname
    obtain ⟨bytes, -, hmem⟩ := (emitted_iff hnames htext hbuild (htext f hf)).mpr hname
    exact hnone bytes hmem
  have hfits : ∀ r ∈ withRows before value [] after, Records.Fits Tag.TERMINATOR r := by
    intro r hr
    refine hrows.fits r ?_
    unfold withRows at hr ⊢
    simp only [List.mem_append, List.mem_cons, List.not_mem_nil, or_false] at hr ⊢
    tauto
  have hclosed : ∀ st : PairState, pair_record p.codec (dm_table_ids p desc params) st
      (Tag.TABLE_DELTA, value) = (st.flushed p.codec).map fun pairs => closed st pairs := by
    intro st
    rw [pair_record_delta, if_pos hrows.long, hrows.number, hget]
  have hnamed : extract_named_values p.codec
      (Records.stream Tag.TERMINATOR (withRows before value body after))
        (dm_table_ids p desc params) =
      extract_named_values p.codec (Records.stream Tag.TERMINATOR (withRows before value [] after))
        (dm_table_ids p desc params) := by
    rw [extract_named_values_stream hrows.fits, extract_named_values_stream hfits]
    unfold withRows
    rw [List.foldlM_append, List.foldlM_append]
    cases before.foldlM (pair_record p.codec (dm_table_ids p desc params)) PairState.init with
    | error e => rfl
    | ok st =>
      rw [Eff.except_ok_bind, Eff.except_ok_bind, List.cons_append, List.foldlM_cons,
        List.cons_append, List.foldlM_cons, hclosed]
      cases st.flushed p.codec with
      | error e => rfl
      | ok pairs =>
        show (List.foldlM _ (closed st pairs) (body ++ after) >>= _) = _
        rw [List.foldlM_append, foldlM_closed hrows.rows rfl]
        rfl
  have hverdict : ∀ r ∈ (Tag.TABLE_DELTA, value) :: body,
      r.1 ∉ Replies.verdictTags ∧ r.1 < 256 ^ 2 ∧ r.1 ≠ 0x2A45 := by
    refine List.forall_mem_cons.mpr ⟨?_, fun r hr => ?_⟩
    · exact ⟨show Tag.TABLE_DELTA ∉ Replies.verdictTags by decide,
        show Tag.TABLE_DELTA < _ by decide, show Tag.TABLE_DELTA ≠ _ by decide⟩
    · exact (show ∀ tag ∈ rowTags, tag ∉ Replies.verdictTags ∧ tag < 256 ^ 2 ∧ tag ≠ 0x2A45 by
        decide) r.1 (hrows.rows r hr)
  have hreport : Replies.SameReport p.u (withRows before value body after)
      (withRows before value [] after) := by
    unfold withRows
    rw [← List.append_assoc, ← List.append_assoc]
    refine .of_middle hverdict (List.cons_ne_nil _ _) (fun r hr => ?_) (List.cons_ne_nil _ _)
    obtain rfl := List.mem_singleton.mp hr
    exact hverdict _ List.mem_cons_self
  exact hreport.parse_alike hrows.fits hfits hnamed

/-- The rows behind a number are attributed to the parameter that was sent under it, and to none
when nothing was. -/
theorem rows_attributed (hbuild : build_invoke_request p func_name desc params = .ok request)
    (hnames : (desc.parameters.map fun f => p.u.upper f.name).Nodup)
    (htext : ∀ f ∈ desc.parameters, IsText f.name) :
    AssignedRowsFound p desc params request ∧ OtherRowsDropped p desc params request :=
  ⟨assigned_rows_found hbuild hnames htext, other_rows_dropped hbuild hnames htext⟩

end Attribution

/-! ## Two tables -/

section Twins

open RoundTrips TableForms

/-- An empty table in front of one with rows, and a scalar. -/
def numberedDesc : FunctionDesc :=
  ⟨lit "Z_FM", [byteTable (lit "NONE") RFC_TABLES, byteScalar (lit "DATA") RFC_CHANGING,
    byteTable (lit "ROWS") RFC_TABLES]⟩

def numberedParams : Values (PyVal Bytes) :=
  [(lit "rows", .list [rowOf 9 9 9]), (lit "none", .list []), (lit "data", .leaf [1])]

def requestOf (desc : FunctionDesc) (params : Values (PyVal Bytes)) : Bytes :=
  (build_invoke_request bytesPlatform (lit "Z_FM") desc params).toOption.getD []

/-- The value of the record that refers to a table. -/
def deltaValue (id rows : ℕ) : Bytes := toBE 4 10 ++ toBE 4 id ++ toBE 4 rows

/-- One row. -/
def rowBody : List (ℕ × Bytes) :=
  [(Tag.TABLE_INFO, toBE 4 3 ++ toBE 4 1), (Tag.TABLE_CONTENT, [1, 2, 3])]

/-- The names are distinct, the second table has the first number, and the third none. -/
theorem rows_attributed_numbered :
    (∃ payload rows, bodyPayload bytesPlatform.codec (lit "ROWS") rowBody = .ok payload ∧
      bytesPlatform.codec.decode RFCTYPE_TABLE payload (byteTable (lit "ROWS") RFC_TABLES)
        (declaredCount rowBody) = .ok rows ∧
      assocGet [(lit "DATA", PyVal.leaf [7, 8]), (lit "ROWS", .list [rowOf 1 2 3])] (lit "ROWS") =
        some rows) ∧
    Replies.Alike asciiTables
      (withRows (replyHead ++ scalarRecords (lit "DATA")) (deltaValue 2 1) rowBody [])
      (parse_invoke_response bytesPlatform (Records.stream Tag.TERMINATOR
        (withRows (replyHead ++ scalarRecords (lit "DATA")) (deltaValue 2 1) rowBody []))
          numberedDesc (dm_table_ids bytesPlatform numberedDesc numberedParams))
      (parse_invoke_response bytesPlatform (Records.stream Tag.TERMINATOR
        (withRows (replyHead ++ scalarRecords (lit "DATA")) (deltaValue 2 1) [] []))
          numberedDesc (dm_table_ids bytesPlatform numberedDesc numberedParams)) := by
  have hbuild : build_invoke_request bytesPlatform (lit "Z_FM") numberedDesc numberedParams =
      .ok (requestOf numberedDesc numberedParams) := by
    decide +kernel
  obtain ⟨hassigned, hother⟩ := rows_attributed hbuild (by decide) (by decide)
  have hlist : numberedTables [] (Records.walk Tag.TERMINATOR
      (requestOf numberedDesc numberedParams)).records = [(1, nameBytes (lit "ROWS"))] := by
    decide +kernel
  have hplain : ∀ r ∈ replyHead ++ scalarRecords (lit "DATA") ++ [],
      ((r.1 = Tag.PARAM_NAME ∨ (r.1 = Tag.TABLE_NAME ∧ r.2 ≠ [])) →
        asciiTables.upper (decode_utf16le r.2) ≠ asciiTables.upper (lit "ROWS")) ∧
      r.1 ≠ Tag.BASXML_DATA := by
    decide +kernel
  constructor
  · have hrows : RowsBehind 1 (replyHead ++ scalarRecords (lit "DATA"))
        (deltaValue 1 1) rowBody [] :=
      ⟨by decide, by decide, by decide, by decide, nofun, by decide⟩
    refine hassigned (byteTable (lit "ROWS") RFC_TABLES) (by simp [numberedDesc]) (by decide) 1 ?_
      _ _ _ _ hrows (fun r hr => ⟨(hplain r hr).1, fun h => absurd h (hplain r hr).2⟩) _
        (by decide +kernel)
    exact ⟨nameBytes (lit "ROWS"), by decide, by rw [hlist]; exact List.mem_cons_self⟩
  · have hrows : RowsBehind 2 (replyHead ++ scalarRecords (lit "DATA"))
        (deltaValue 2 1) rowBody [] :=
      ⟨by decide, by decide, by decide, by decide, nofun, by decide⟩
    refine hother 2 (fun value hmem => ?_) _ _ _ _ hrows
    rw [hlist, List.mem_singleton] at hmem
    exact absurd (Prod.mk.inj hmem).1 (by decide)

/-- Two tables whose names differ in case only. -/
def twinDesc : FunctionDesc :=
  ⟨lit "Z_FM", [byteTable (lit "tab") RFC_TABLES, byteTable (lit "TAB") RFC_TABLES]⟩

/-- The rows of `tab` are returned as those of `TAB`; and the rows of a table are not returned
when it comes once more by its name. -/
theorem number_of_other_case :
    (build_invoke_request bytesPlatform (lit "Z_FM") twinDesc [(lit "TAB", .list [rowOf 9 9 9])] =
        .ok (requestOf twinDesc [(lit "TAB", .list [rowOf 9 9 9])]) ∧
      (twinDesc.parameters.map FieldDesc.name).Nodup ∧
      Emitted (requestOf twinDesc [(lit "TAB", .list [rowOf 9 9 9])]) (lit "tab") 1 ∧
      parse_invoke_response bytesPlatform (Records.stream Tag.TERMINATOR
        (withRows replyHead (deltaValue 1 1) rowBody [])) twinDesc
        (dm_table_ids bytesPlatform twinDesc [(lit "TAB", .list [rowOf 9 9 9])]) =
          .ok [(lit "TAB", .list [rowOf 1 2 3])]) ∧
    (Emitted (requestOf (tableDesc (lit "ROWS")) [(lit "ROWS", .list [rowOf 9 9 9])])
        (lit "ROWS") 1 ∧
      parse_invoke_response bytesPlatform (Records.stream Tag.TERMINATOR
        (withRows replyHead (deltaValue 1 1) rowBody (namedRows (lit "ROWS") [[4, 5, 6]])))
        (tableDesc (lit "ROWS"))
        (dm_table_ids bytesPlatform (tableDesc (lit "ROWS")) [(lit "ROWS", .list [rowOf 9 9 9])]) =
          .ok [(lit "ROWS", .list [rowOf 4 5 6])]) := by
  refine ⟨⟨by decide +kernel, by decide, ?_, by decide +kernel⟩, ?_, by decide +kernel⟩
  · exact ⟨nameBytes (lit "tab"), by decide, by decide +kernel⟩
  · exact ⟨nameBytes (lit "ROWS"), by decide, by decide +kernel⟩

end Twins

end SapRfc.Analysis.TableNumbers
