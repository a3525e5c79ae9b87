import SapRfc.Analysis.Dicts

/-!
# Groups of records

A scalar is two records, a table is a record that names it and the records of its body.  The
walker keeps a table until the next group begins, so what it has found is what it would
report if the stream ended here: `Reaches` speaks of that, and each group adds to it.
-/

set_option autoImplicit false

namespace SapRfc.Analysis.PairGroups

open SapRfc.Library SapRfc.Program

variable {V : Type} {codec : Codec V} {dm : List (ℕ × PyStr)}

/-! ## The body of a table -/

/-- The tags that begin or end a group. -/
def turningTags : List ℕ :=
  [Tag.PARAM_NAME, Tag.TABLE_NAME, Tag.TABLE_DELTA, Tag.TABLE_END, Tag.TABLE_DELTA_END,
    Tag.BASXML_MARKER, Tag.BASXML_DATA]

/-- A record that an open table stays open behind. -/
def Inside (r : ℕ × Bytes) : Prop := r.1 ∉ turningTags

instance (r : ℕ × Bytes) : Decidable (Inside r) := inferInstanceAs (Decidable (r.1 ∉ turningTags))

/-- The rows of a body. -/
def bodyRows (body : List (ℕ × Bytes)) : Bytes :=
  (body.filter fun r => r.1 = Tag.TABLE_CONTENT ∨ r.1 = Tag.TABLE_CONTENT_ALT).flatMap Prod.snd

/-- The compressed pieces of a body. -/
def bodyChunks (body : List (ℕ × Bytes)) : List Bytes :=
  (body.filter fun r => r.1 = Tag.TABLE_CONTENT_LZ).map Prod.snd

/-- The number of rows that a record declares. -/
def countOf (r : ℕ × Bytes) : Option ℕ :=
  if r.1 = Tag.TABLE_INFO ∧ 8 ≤ r.2.length ∧ 0 < ofBE (slice r.2 4 8) then
    some (ofBE (slice r.2 4 8))
  else none

/-- The row counts behind a body. -/
def bodyCounts (name : PyStr) : List (ℕ × Bytes) → List (PyStr × ℕ) → List (PyStr × ℕ)
  | [], counts => counts
  | r :: body, counts =>
    bodyCounts name body (match countOf r with
      | some count => assocSet counts name count
      | none => counts)

variable (codec) in
/-- The bytes of a table. -/
def bodyPayload (name : PyStr) (body : List (ℕ × Bytes)) : Except PyError Bytes :=
  if bodyChunks body = [] then .ok (bodyRows body) else codec.decompress (bodyChunks body) name

/-- The walker behind one record of an open table. -/
def insideRecord (name : PyStr) (s : PairState) (r : ℕ × Bytes) : PairState :=
  { s with
    table_rows := s.table_rows ++ bodyRows [r]
    table_lz := s.table_lz ++ bodyChunks [r]
    row_counts := bodyCounts name [r] s.row_counts }

theorem bodyRows_cons (r : ℕ × Bytes) (body : List (ℕ × Bytes)) :
    bodyRows (r :: body) = bodyRows [r] ++ bodyRows body := by
  unfold bodyRows
  rw [← List.singleton_append, List.filter_append, List.flatMap_append]

theorem bodyChunks_cons (r : ℕ × Bytes) (body : List (ℕ × Bytes)) :
    bodyChunks (r :: body) = bodyChunks [r] ++ bodyChunks body := by
  unfold bodyChunks
  rw [← List.singleton_append, List.filter_append, List.map_append]

/-- INTERNAL: the tags of a body. -/
theorem bodyRows_of_tag {tag : ℕ} (value : Bytes) (h : tag ≠ Tag.TABLE_CONTENT)
    (halt : tag ≠ Tag.TABLE_CONTENT_ALT) : bodyRows [(tag, value)] = [] := by
  unfold bodyRows
  rw [List.filter_singleton, decide_eq_false (not_or.mpr ⟨h, halt⟩)]
  rfl

/-- INTERNAL: only one tag has compressed pieces. -/
theorem bodyChunks_of_tag {tag : ℕ} (value : Bytes) (h : tag ≠ Tag.TABLE_CONTENT_LZ) :
    bodyChunks [(tag, value)] = [] := by
  unfold bodyChunks
  rw [List.filter_singleton, decide_eq_false h]
  rfl

/-- INTERNAL: only one tag has a row count. -/
theorem bodyCounts_of_tag {tag : ℕ} (name : PyStr) (value : Bytes) (counts : List (PyStr × ℕ))
    (h : tag ≠ Tag.TABLE_INFO) : bodyCounts name [(tag, value)] counts = counts := by
  unfold bodyCounts countOf
  rw [if_neg fun hinfo => h hinfo.1]
  rfl

/-- One record of an open table. -/
theorem pair_record_inside {name : PyStr} {s : PairState} {r : ℕ × Bytes}
    (hopen : s.in_table = true) (hname : s.current_name = some name) (h : Inside r) :
    pair_record codec dm s r = .ok (insideRecord name s r) := by
  obtain ⟨tag, value⟩ := r
  obtain ⟨pairs, current_name, in_table, table_rows, table_lz, basxml_current, basxml_chunks,
    row_counts⟩ := s
  obtain rfl : in_table = true := hopen
  obtain rfl : current_name = some name := hname
  unfold Inside turningTags at h
  simp only [List.mem_cons, List.not_mem_nil, or_false, not_or] at h
  obtain ⟨hparam, htable, hdelta, hend, hdeltaEnd, hmarker, hdata⟩ := h
  unfold pair_record insideRecord
  simp only [hparam, htable, hdelta, hend, hdeltaEnd, hmarker, hdata, if_false, false_and, and_true,
    and_false, reduceCtorEq, or_self]
  by_cases hinfo : tag = Tag.TABLE_INFO
  · subst hinfo
    rw [bodyRows_of_tag value (by decide) (by decide), bodyChunks_of_tag value (by decide),
      if_pos rfl, List.append_nil, List.append_nil]
    unfold bodyCounts countOf
    simp only [true_and]
    split <;> rfl
  · rw [bodyCounts_of_tag name value row_counts hinfo, if_neg hinfo]
    by_cases hrows : tag = Tag.TABLE_CONTENT ∨ tag = Tag.TABLE_CONTENT_ALT
    · have hchunks : tag ≠ Tag.TABLE_CONTENT_LZ := by
        rcases hrows with rfl | rfl <;> decide
      have hbody : bodyRows [(tag, value)] = value := by
        unfold bodyRows
        rw [List.filter_singleton, decide_eq_true hrows]
        exact List.append_nil value
      rw [if_pos hrows, hbody, bodyChunks_of_tag value hchunks, List.append_nil]
    · obtain ⟨hcontent, halt⟩ := not_or.mp hrows
      rw [if_neg hrows, bodyRows_of_tag value hcontent halt, List.append_nil]
      by_cases hchunks : tag = Tag.TABLE_CONTENT_LZ
      · subst hchunks
        rw [if_pos rfl]
        rfl
      · rw [if_neg hchunks, bodyChunks_of_tag value hchunks, List.append_nil]

/-- The body of an open table: its rows, its pieces and its counts are taken. -/
theorem foldlM_body {name : PyStr} {body : List (ℕ × Bytes)} (hbody : ∀ r ∈ body, Inside r)
    {s : PairState} (hopen : s.in_table = true) (hname : s.current_name = some name) :
    body.foldlM (pair_record codec dm) s = .ok { s with
      table_rows := s.table_rows ++ bodyRows body
      table_lz := s.table_lz ++ bodyChunks body
      row_counts := bodyCounts name body s.row_counts } := by
  induction body generalizing s with
  | nil =>
    rw [List.foldlM_nil, bodyRows, bodyChunks, bodyCounts]
    simp only [List.filter_nil, List.flatMap_nil, List.map_nil, List.append_nil]
    rfl
  | cons r body ih =>
    rw [List.foldlM_cons, pair_record_inside hopen hname (hbody r List.mem_cons_self)]
    have hrest := ih (fun q hq => hbody q (List.mem_cons_of_mem _ hq))
      (show (insideRecord name s r).in_table = true from hopen)
      (show (insideRecord name s r).current_name = some name from hname)
    rw [Eff.except_ok_bind, hrest, bodyRows_cons r body, bodyChunks_cons r body]
    unfold insideRecord
    simp only [List.append_assoc]
    rfl

/-! ## The records that begin a group -/

/-- The walker in a table that has just begun. -/
def opened (s : PairState) (pairs : List (PyStr × Bytes)) (name : PyStr) : PairState :=
  { s with
    pairs := pairs
    current_name := some name
    in_table := true
    table_rows := []
    table_lz := [] }

/-- The walker outside of any table. -/
def closed (s : PairState) (pairs : List (PyStr × Bytes)) : PairState :=
  { s with
    pairs := pairs
    current_name := none
    in_table := false
    table_rows := []
    table_lz := [] }

/-- A table that is named. -/
theorem pair_record_table {s : PairState} {value : Bytes} (h : value ≠ []) :
    pair_record codec dm s (Tag.TABLE_NAME, value) =
      (s.flushed codec).map fun pairs => opened s pairs (decode_utf16le value) := by
  have hname : Tag.TABLE_NAME ≠ Tag.PARAM_NAME := by decide
  have hvalue : Tag.TABLE_NAME ≠ Tag.PARAM_VALUE := by decide
  unfold pair_record
  simp only [hname, hvalue, if_false, false_and, if_true, h]
  cases s.flushed codec <;> rfl

/-- A table that is referred to by its number. -/
theorem pair_record_delta {s : PairState} {value : Bytes} :
    pair_record codec dm s (Tag.TABLE_DELTA, value) =
      (s.flushed codec).map fun pairs =>
        match (if 12 ≤ value.length then assocGet dm (ofBE (slice value 4 8)) else none) with
        | some name => opened s pairs name
        | none => closed s pairs := by
  unfold pair_record
  simp only [show Tag.TABLE_DELTA ≠ Tag.PARAM_NAME by decide,
    show Tag.TABLE_DELTA ≠ Tag.PARAM_VALUE by decide,
        show Tag.TABLE_DELTA ≠ Tag.TABLE_NAME by decide,
    show Tag.TABLE_DELTA ≠ Tag.BASXML_MARKER by decide,
    show Tag.TABLE_DELTA ≠ Tag.BASXML_DATA by decide,
    show Tag.TABLE_DELTA ≠ Tag.TABLE_INFO by decide,
    show Tag.TABLE_DELTA ≠ Tag.TABLE_CONTENT by decide,
    show Tag.TABLE_DELTA ≠ Tag.TABLE_CONTENT_ALT by decide,
    show Tag.TABLE_DELTA ≠ Tag.TABLE_CONTENT_LZ by decide, if_false, false_and, or_self, if_true]
  cases s.flushed codec with
  | error e => rfl
  | ok pairs =>
    cases (if 12 ≤ value.length then assocGet dm (ofBE (slice value 4 8)) else none) <;> rfl

/-! ## Groups -/

variable (codec) in
/-- What the walker has found, counted to the end of the table it reads. -/
structure Reaches (s : PairState) (pairs : List (PyStr × Bytes)) (counts : List (PyStr × ℕ)) :
    Prop where
  named : s.in_table = true → s.current_name ≠ none
  flushed : s.flushed codec = .ok pairs
  counts : s.row_counts = counts
  outside : s.basxml_current = .outside
  chunks : s.basxml_chunks = []

theorem reaches_init : Reaches codec PairState.init [] [] :=
  ⟨nofun, rfl, rfl, rfl, rfl⟩

variable {pairs : List (PyStr × Bytes)} {counts : List (PyStr × ℕ)} {s : PairState}

/-- The tags that mean something to the walker. -/
def pairTags : List ℕ :=
  turningTags ++ [Tag.PARAM_VALUE, Tag.TABLE_INFO, Tag.TABLE_CONTENT, Tag.TABLE_CONTENT_ALT,
    Tag.TABLE_CONTENT_LZ]

/-- A record with any other tag is passed over. -/
theorem pair_record_other {r : ℕ × Bytes} (h : r.1 ∉ pairTags) :
    pair_record codec dm s r = .ok s := by
  unfold pairTags turningTags at h
  simp only [List.mem_append, List.mem_cons, List.not_mem_nil, or_false, not_or] at h
  unfold pair_record
  simp only [h, if_false, false_and, or_self]

theorem foldlM_other {rs : List (ℕ × Bytes)} (h : ∀ r ∈ rs, r.1 ∉ pairTags) :
    rs.foldlM (pair_record codec dm) s = .ok s := by
  induction rs with
  | nil => rfl
  | cons r rs ih =>
    rw [List.foldlM_cons, pair_record_other (h r List.mem_cons_self)]
    exact ih fun q hq => h q (List.mem_cons_of_mem _ hq)

/-- INTERNAL: a name ends a table. -/
theorem Reaches.name (h : Reaches codec s pairs counts) (dm : List (ℕ × PyStr)) (name : Bytes) :
    ∃ rows, pair_record codec dm s (Tag.PARAM_NAME, name) =
      .ok ⟨pairs, some (decode_utf16le name), false, rows, [], .outside, [], counts⟩ := by
  obtain ⟨hnamed, hflushed, hcounts, houtside, hchunks⟩ := h
  obtain ⟨found, current_name, in_table, table_rows, table_lz, basxml_current, basxml_chunks,
    row_counts⟩ := s
  obtain rfl : basxml_current = .outside := houtside
  obtain rfl : basxml_chunks = [] := hchunks
  obtain rfl : row_counts = counts := hcounts
  unfold pair_record
  cases in_table with
  | false =>
    obtain rfl : found = pairs := Except.ok.inj hflushed
    exact ⟨table_rows, rfl⟩
  | true =>
    cases current_name with
    | none => exact absurd rfl (hnamed rfl)
    | some current =>
      refine ⟨[], ?_⟩
      simp only [if_true]
      rw [hflushed]
      rfl

/-- A name and a value. -/
theorem Reaches.scalar (h : Reaches codec s pairs counts) (name value : Bytes) :
    ∃ s', [(Tag.PARAM_NAME, name), (Tag.PARAM_VALUE, value)].foldlM (pair_record codec dm) s =
        .ok s' ∧ Reaches codec s' (pairs ++ [(decode_utf16le name, value)]) counts := by
  obtain ⟨rows, hname⟩ := h.name dm name
  refine ⟨⟨pairs ++ [(decode_utf16le name, value)], none, false, rows, [], .outside, [], counts⟩,
    ?_, ⟨nofun, rfl, rfl, rfl, rfl⟩⟩
  rw [List.foldlM_cons, hname]
  rfl

/-- INTERNAL: a table that has begun, and its body. -/
theorem Reaches.body {name : PyStr} {body : List (ℕ × Bytes)} {payload : Bytes}
    (h : Reaches codec s pairs counts) (dm : List (ℕ × PyStr)) (hbody : ∀ r ∈ body, Inside r)
    (hpayload : bodyPayload codec name body = .ok payload) :
    ∃ s', body.foldlM (pair_record codec dm) (opened s pairs name) = .ok s' ∧
      Reaches codec s' (pairs ++ [(name, payload)]) (bodyCounts name body counts) := by
  refine ⟨_, foldlM_body hbody rfl rfl, nofun, ?_, ?_, h.outside, h.chunks⟩
  · have hfound : PairState.payload codec { opened s pairs name with
        table_rows := (opened s pairs name).table_rows ++ bodyRows body
        table_lz := (opened s pairs name).table_lz ++ bodyChunks body
        row_counts := bodyCounts name body (opened s pairs name).row_counts } = .ok payload :=
      hpayload
    unfold PairState.flushed
    dsimp only [opened] at hfound ⊢
    rw [hfound]
    rfl
  · rw [← h.counts]
    rfl

/-- A table that is named, and its body. -/
theorem Reaches.table {value : Bytes} {body : List (ℕ × Bytes)} {payload : Bytes}
    (h : Reaches codec s pairs counts) (dm : List (ℕ × PyStr)) (hvalue : value ≠ [])
    (hbody : ∀ r ∈ body, Inside r)
    (hpayload : bodyPayload codec (decode_utf16le value) body = .ok payload) :
    ∃ s', ((Tag.TABLE_NAME, value) :: body).foldlM (pair_record codec dm) s = .ok s' ∧
      Reaches codec s' (pairs ++ [(decode_utf16le value, payload)])
        (bodyCounts (decode_utf16le value) body counts) := by
  obtain ⟨s', hrun, hreaches⟩ := h.body dm hbody hpayload
  refine ⟨s', ?_, hreaches⟩
  rw [List.foldlM_cons, pair_record_table hvalue, h.flushed]
  exact hrun

theorem Reaches.other {rs : List (ℕ × Bytes)} (h : Reaches codec s pairs counts)
    (hrs : ∀ r ∈ rs, r.1 ∉ pairTags) :
    ∃ s', rs.foldlM (pair_record codec dm) s = .ok s' ∧ Reaches codec s' pairs counts :=
  ⟨s, foldlM_other hrs, h⟩

/-! ## Groups, one behind the other -/

/-- The records of one parameter, and what the walker makes of them. -/
structure Group where
  records : List (ℕ × Bytes)
  name : PyStr
  payload : Bytes
  count : Option ℕ

/-- The row counts behind a group. -/
def Group.counted (g : Group) (counts : List (PyStr × ℕ)) : List (PyStr × ℕ) :=
  match g.count with
  | some count => assocSet counts g.name count
  | none => counts

variable (codec) in
/-- Wherever the walker stands, the group adds its pair and its count. -/
def Group.Reads (g : Group) : Prop :=
  ∀ (dm : List (ℕ × PyStr)) (s : PairState) (pairs : List (PyStr × Bytes))
    (counts : List (PyStr × ℕ)), Reaches codec s pairs counts →
      ∃ s', g.records.foldlM (pair_record codec dm) s = .ok s' ∧
        Reaches codec s' (pairs ++ [(g.name, g.payload)]) (g.counted counts)

/-- A scalar. -/
def scalarGroup (field_name : PyStr) (name value : Bytes) : Group where
  records := [(Tag.PARAM_NAME, name), (Tag.PARAM_VALUE, value)]
  name := field_name
  payload := value
  count := none

theorem reads_scalarGroup {field_name : PyStr} {name : Bytes} (value : Bytes)
    (hname : decode_utf16le name = field_name) :
    (scalarGroup field_name name value).Reads codec := by
  subst hname
  intro dm s pairs counts h
  exact h.scalar name value

/-- A table whose rows come one record each. -/
def tableGroup (tag : ℕ) (field_name : PyStr) (name dm_id info : Bytes) (rows : List Bytes) :
    Group where
  records := (Tag.TABLE_NAME, name) :: (Tag.DM_TABLE_ID, dm_id) :: (Tag.TABLE_INFO, info) ::
    rows.map fun row => (tag, row)
  name := field_name
  payload := rows.flatten
  count := countOf (Tag.TABLE_INFO, info)

/-- INTERNAL: the body of such a table. -/
theorem body_rows {tag : ℕ} (htag : tag = Tag.TABLE_CONTENT ∨ tag = Tag.TABLE_CONTENT_ALT)
    (dm_id info : Bytes) (rows : List Bytes) :
    (∀ r ∈ (Tag.DM_TABLE_ID, dm_id) :: (Tag.TABLE_INFO, info) :: rows.map fun row => (tag, row),
        Inside r) ∧
      bodyRows ((Tag.DM_TABLE_ID, dm_id) :: (Tag.TABLE_INFO, info) ::
        rows.map fun row => (tag, row)) = rows.flatten ∧
      bodyChunks ((Tag.DM_TABLE_ID, dm_id) :: (Tag.TABLE_INFO, info) ::
        rows.map fun row => (tag, row)) = [] := by
  have htags : tag ∉ turningTags ∧ tag ≠ Tag.TABLE_CONTENT_LZ := by
    rcases htag with rfl | rfl <;> decide
  refine ⟨?_, ?_, ?_⟩
  · rw [List.forall_mem_cons, List.forall_mem_cons, List.forall_mem_map]
    exact ⟨show Tag.DM_TABLE_ID ∉ turningTags by decide,
      show Tag.TABLE_INFO ∉ turningTags by decide, fun _ _ => htags.1⟩
  · rw [bodyRows_cons, bodyRows_of_tag dm_id (by decide) (by decide), bodyRows_cons,
      bodyRows_of_tag info (by decide) (by decide), List.nil_append, List.nil_append]
    unfold bodyRows
    rw [List.filter_eq_self.mpr, List.flatMap_map]
    · exact List.flatMap_id'
    · intro r hr
      obtain ⟨row, -, rfl⟩ := List.mem_map.mp hr
      exact decide_eq_true htag
  · rw [bodyChunks_cons, bodyChunks_of_tag dm_id (by decide), bodyChunks_cons,
      bodyChunks_of_tag info (by decide), List.nil_append, List.nil_append]
    unfold bodyChunks
    rw [List.filter_eq_nil_iff.mpr]
    · rfl
    · intro r hr
      obtain ⟨row, -, rfl⟩ := List.mem_map.mp hr
      simpa using htags.2

theorem reads_tableGroup {tag : ℕ} (htag : tag = Tag.TABLE_CONTENT ∨ tag = Tag.TABLE_CONTENT_ALT)
    {field_name : PyStr} {name : Bytes} (hne : name ≠ []) (hname : decode_utf16le name = field_name)
    (dm_id info : Bytes) (rows : List Bytes) :
    (tableGroup tag field_name name dm_id info rows).Reads codec := by
  subst hname
  have hinfo : tag ≠ Tag.TABLE_INFO := by
    rcases htag with rfl | rfl <;> decide
  obtain ⟨hinside, hrows, hchunks⟩ := body_rows htag dm_id info rows
  intro dm s pairs counts h
  have hpayload : bodyPayload codec (decode_utf16le name)
      ((Tag.DM_TABLE_ID, dm_id) :: (Tag.TABLE_INFO, info) :: rows.map fun row => (tag, row)) =
        .ok rows.flatten := by
    unfold bodyPayload
    rw [if_pos hchunks, hrows]
  have hcounts : ∀ (rest : List Bytes) (c : List (PyStr × ℕ)),
      bodyCounts (decode_utf16le name) (rest.map fun row => (tag, row)) c = c := by
    intro rest
    induction rest with
    | nil => exact fun _ => rfl
    | cons row rest ih =>
      intro c
      have hcount : countOf (tag, row) = none := if_neg fun h => hinfo h.1
      rw [List.map_cons, bodyCounts, hcount]
      exact ih c
  obtain ⟨s', hrun, hreaches⟩ := h.table dm hne hinside hpayload
  refine ⟨s', hrun, ?_⟩
  rw [bodyCounts, bodyCounts, hcounts] at hreaches
  exact hreaches

/-- INTERNAL: a table without rows, whose name is all there is of it. -/
def emptyGroup (field_name : PyStr) (name : Bytes) : Group where
  records := [(Tag.TABLE_NAME, name)]
  name := field_name
  payload := []
  count := none

theorem reads_emptyGroup {field_name : PyStr} {name : Bytes} (hne : name ≠ [])
    (hname : decode_utf16le name = field_name) : (emptyGroup field_name name).Reads codec := by
  subst hname
  intro dm s pairs counts h
  exact h.table dm hne nofun rfl

/-- The groups add their pairs and their counts in turn. -/
theorem run_groups (dm : List (ℕ × PyStr)) {groups : List Group} (h : ∀ g ∈ groups, g.Reads codec)
    (hs : Reaches codec s pairs counts) :
    ∃ s', (groups.flatMap Group.records).foldlM (pair_record codec dm) s = .ok s' ∧
      Reaches codec s' (pairs ++ groups.map fun g => (g.name, g.payload))
        (groups.foldl (fun counts g => g.counted counts) counts) := by
  induction groups generalizing s pairs counts with
  | nil => exact ⟨s, rfl, by rw [List.map_nil, List.append_nil]; exact hs⟩
  | cons g groups ih =>
    obtain ⟨s₁, hfirst, hreaches⟩ := h g List.mem_cons_self dm s pairs counts hs
    obtain ⟨s₂, hrest, hend⟩ := ih (fun q hq => h q (List.mem_cons_of_mem _ hq)) hreaches
    refine ⟨s₂, ?_, ?_⟩
    · rw [List.flatMap_cons, List.foldlM_append, hfirst]
      exact hrest
    · rw [List.append_assoc] at hend
      exact hend

/-- With distinct names, each count is found under the name of its group. -/
theorem assocGet_counted {groups : List Group} (hnodup : (groups.map Group.name).Nodup) {g : Group}
    (hg : g ∈ groups) (hcounts : assocGet counts g.name = none) :
    assocGet (groups.foldl (fun counts g => g.counted counts) counts) g.name = g.count := by
  have hother : ∀ (q : Group) (c : List (PyStr × ℕ)), q.name ≠ g.name →
      assocGet (q.counted c) g.name = assocGet c g.name := by
    intro q c hq
    unfold Group.counted
    split
    · rw [Dicts.assocGet_assocSet, if_neg hq]
    · rfl
  have hrest : ∀ (rest : List Group) (c : List (PyStr × ℕ)), (∀ q ∈ rest, q.name ≠ g.name) →
      assocGet (rest.foldl (fun counts g => g.counted counts) c) g.name = assocGet c g.name := by
    intro rest
    induction rest with
    | nil => exact fun _ _ => rfl
    | cons q rest ih =>
      intro c hne
      rw [List.foldl_cons, ih _ fun q' hq' => hne q' (List.mem_cons_of_mem _ hq')]
      exact hother q c (hne q List.mem_cons_self)
  induction groups generalizing counts with
  | nil => cases hg
  | cons q groups ih =>
    rw [List.map_cons, List.nodup_cons] at hnodup
    rw [List.foldl_cons]
    rcases List.mem_cons.mp hg with rfl | hmem
    · have hlater : ∀ q' ∈ groups, q'.name ≠ g.name := fun q' hq' heq =>
        hnodup.1 (heq ▸ List.mem_map_of_mem hq')
      rw [hrest groups _ hlater]
      unfold Group.counted
      cases hcount : g.count with
      | none => exact hcounts
      | some count => rw [Dicts.assocGet_assocSet, if_pos rfl]
    · have hne : q.name ≠ g.name := fun heq => hnodup.1 (heq ▸ List.mem_map_of_mem hmem)
      exact ih hnodup.2 hmem ((hother q counts hne).trans hcounts)

/-! ## Complete streams -/

/-- What is reported when the stream ends. -/
def reported (codec : Codec V) (s : PairState) : Except PyError NamedValues := do
  let pairs ← s.flushed codec
  .ok {
    pairs := pairs
    basxml := s.basxml_chunks.map fun e => (e.1, e.2.flatten)
    row_counts := s.row_counts }

/-- A complete stream is walked, and what was found is reported. -/
theorem extract_named_values_stream {rs : List (ℕ × Bytes)}
    (hfits : ∀ r ∈ rs, Records.Fits Tag.TERMINATOR r) :
    extract_named_values codec (Records.stream Tag.TERMINATOR rs) dm =
      rs.foldlM (pair_record codec dm) PairState.init >>= reported codec := by
  have hwalk := Records.walk_stream (by decide) hfits []
  rw [List.append_nil] at hwalk
  unfold extract_named_values
  rw [hwalk]
  rfl

/-- What is reported of a stream whose records lead there. -/
theorem extract_named_values_of_reaches {rs : List (ℕ × Bytes)}
    (hfits : ∀ r ∈ rs, Records.Fits Tag.TERMINATOR r)
    (h : ∃ s, rs.foldlM (pair_record codec dm) PairState.init = .ok s ∧
      Reaches codec s pairs counts) :
    extract_named_values codec (Records.stream Tag.TERMINATOR rs) dm =
      .ok ⟨pairs, [], counts⟩ := by
  obtain ⟨s, hrun, hreaches⟩ := h
  rw [extract_named_values_stream hfits, hrun, Eff.except_ok_bind]
  unfold reported
  rw [hreaches.flushed, Eff.except_ok_bind, hreaches.chunks, hreaches.counts]
  rfl

end SapRfc.Analysis.PairGroups
