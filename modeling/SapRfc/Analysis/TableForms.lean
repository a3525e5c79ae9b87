import SapRfc.Analysis.LzcRoundTrip
import SapRfc.Analysis.RoundTrips

/-!
# The forms of a table

A reply names a table or refers to it by the number it was sent under, and its rows come one by
one or compressed.  The walker holds the table differently in each form until the table ends;
what it reports is the same.
-/

set_option autoImplicit false

namespace SapRfc.Analysis.TableForms

open SapRfc.Library SapRfc.Program PairGroups TextCodecs
open Scalars (LZ_WRAPPER SAPCOMPRESS_HDR)

/-! ## Tables that are held differently -/

section Held

variable {V : Type} {codec : Codec V} {dm : List (ℕ × PyStr)} {s t : PairState}

/-- The tags of the rows of a table. -/
def contentTags : List ℕ := [Tag.TABLE_CONTENT, Tag.TABLE_CONTENT_ALT, Tag.TABLE_CONTENT_LZ]

/-- The tags behind which an open table is closed. -/
def closingTags : List ℕ :=
  [Tag.PARAM_NAME, Tag.TABLE_NAME, Tag.TABLE_DELTA, Tag.TABLE_END, Tag.TABLE_DELTA_END]

/-- No more rows come before the table is closed. -/
def Ended : List (ℕ × Bytes) → Prop
  | [] => True
  | r :: rest => r.1 ∈ closingTags ∨ (r.1 ∉ contentTags ∧ Ended rest)

variable (codec) in
/-- The same open table, with its rows as they are or compressed. -/
structure SameTable (s t : PairState) : Prop where
  opened : s.in_table = true
  named : s.current_name ≠ none
  elsewhere : t = { s with table_rows := t.table_rows, table_lz := t.table_lz }
  payload : ∃ payload, s.payload codec = .ok payload ∧ t.payload codec = .ok payload

/-- INTERNAL: the same pairs are found at the end of the table. -/
theorem SameTable.flushed (h : SameTable codec s t) : t.flushed codec = s.flushed codec := by
  obtain ⟨payload, hs, ht⟩ := h.payload
  obtain ⟨name, hname⟩ := Option.ne_none_iff_exists'.mp h.named
  unfold PairState.flushed
  rw [hs, ht, h.elsewhere, h.opened, hname]

/-- What closes the table closes it in every form. -/
theorem SameTable.closing (h : SameTable codec s t) {r : ℕ × Bytes} (hr : r.1 ∈ closingTags) :
    pair_record codec dm t r = pair_record codec dm s r := by
  have hflushed := h.flushed
  obtain ⟨hopened, hnamed, helsewhere, -⟩ := h
  obtain ⟨name, hname⟩ := Option.ne_none_iff_exists'.mp hnamed
  obtain ⟨tag, value⟩ := r
  unfold closingTags at hr
  simp only [List.mem_cons, List.not_mem_nil, or_false] at hr
  rcases hr with rfl | rfl | rfl | rfl | rfl
  all_goals
    unfold pair_record
    rw [hflushed, helsewhere, hopened, hname]
    rfl

/-- Any other record leaves it open, and the same. -/
theorem SameTable.inside (h : SameTable codec s t) {r : ℕ × Bytes} (hr : r.1 ∉ closingTags)
    (hrows : r.1 ∉ contentTags) :
    ∃ s' t', pair_record codec dm s r = .ok s' ∧ pair_record codec dm t r = .ok t' ∧
      SameTable codec s' t' := by
  obtain ⟨pairs, current_name, in_table, table_rows, table_lz, basxml_current, basxml_chunks,
    row_counts⟩ := s
  obtain ⟨hopened, hnamed, helsewhere, hpayload⟩ := h
  obtain ⟨name, rfl⟩ := Option.ne_none_iff_exists'.mp hnamed
  obtain rfl : in_table = true := hopened
  obtain ⟨tag, value⟩ := r
  unfold closingTags at hr
  unfold contentTags at hrows
  simp only [List.mem_cons, List.not_mem_nil, or_false, not_or] at hr hrows
  obtain ⟨hparam, htable, hdelta, hend, hdeltaEnd⟩ := hr
  obtain ⟨hcontent, halt, hchunks⟩ := hrows
  have hkeep : ∀ (current : Basxml) (chunks : List (PyStr × List Bytes))
      (counts : List (PyStr × ℕ)),
      SameTable codec ⟨pairs, some name, true, table_rows, table_lz, current, chunks, counts⟩
        ⟨pairs, some name, true, t.table_rows, t.table_lz, current, chunks, counts⟩ := by
    intro current chunks counts
    rw [helsewhere] at hpayload
    exact ⟨rfl, Option.some_ne_none name, rfl, hpayload⟩
  rw [helsewhere]
  unfold pair_record
  simp only [hparam, htable, hdelta, hend, hdeltaEnd, hcontent, halt, hchunks, if_false, false_and,
    and_true, and_false, reduceCtorEq, or_self]
  by_cases hmarker : tag = Tag.BASXML_MARKER
  · rw [if_pos hmarker, if_pos hmarker]
    exact ⟨_, _, rfl, rfl, hkeep _ _ _⟩
  rw [if_neg hmarker, if_neg hmarker]
  by_cases hdata : tag = Tag.BASXML_DATA ∧ basxml_current ≠ .outside
  · rw [if_pos hdata, if_pos hdata]
    cases basxml_current with
    | outside => exact absurd rfl hdata.2
    | pending =>
      dsimp only
      cases basxml_open_tag value with
      | none => exact ⟨_, _, rfl, rfl, hkeep _ _ _⟩
      | some opening => exact ⟨_, _, rfl, rfl, hkeep _ _ _⟩
    | named current => exact ⟨_, _, rfl, rfl, hkeep _ _ _⟩
  rw [if_neg hdata, if_neg hdata]
  by_cases hinfo : tag = Tag.TABLE_INFO
  · rw [if_pos hinfo, if_pos hinfo]
    by_cases hcount : 8 ≤ value.length ∧ 0 < ofBE (slice value 4 8)
    · rw [if_pos hcount, if_pos hcount]
      exact ⟨_, _, rfl, rfl, hkeep _ _ _⟩
    · rw [if_neg hcount, if_neg hcount]
      exact ⟨_, _, rfl, rfl, hkeep _ _ _⟩
  rw [if_neg hinfo, if_neg hinfo]
  exact ⟨_, _, rfl, rfl, hkeep _ _ _⟩

/-- The same is reported of the same table, whatever follows it. -/
theorem SameTable.reported (h : SameTable codec s t) {after : List (ℕ × Bytes)}
    (hended : Ended after) :
    (after.foldlM (pair_record codec dm) s >>= reported codec) =
      after.foldlM (pair_record codec dm) t >>= reported codec := by
  induction after generalizing s t with
  | nil =>
    rw [List.foldlM_nil, List.foldlM_nil]
    show reported codec s = reported codec t
    unfold PairGroups.reported
    rw [h.flushed, h.elsewhere]
  | cons r after ih =>
    rw [List.foldlM_cons, List.foldlM_cons]
    by_cases hr : r.1 ∈ closingTags
    · rw [h.closing hr]
    · obtain ⟨hrows, hrest⟩ := hended.resolve_left hr
      obtain ⟨s', t', hs, ht, hsame⟩ := h.inside hr hrows
      rw [hs, ht, Eff.except_ok_bind, Eff.except_ok_bind]
      exact ih hsame hrest

end Held

/-! ## The forms -/

/-- The record that introduces a table: with its name, or with the number it was sent under. -/
inductive Introduces (dm : List (ℕ × PyStr)) (name : PyStr) : ℕ × Bytes → Prop
  | by_name {value : Bytes} (named : encodeUtf16le name = .ok value) :
      Introduces dm name (Tag.TABLE_NAME, value)
  | by_id {value : Bytes} (long : 12 ≤ value.length)
      (assigned : assocGet dm (ofBE (slice value 4 8)) = some name) :
      Introduces dm name (Tag.TABLE_DELTA, value)

/-- The records of its rows: one for each row, or the pieces of what the compressor makes of
them, behind the wrapper. -/
inductive Carries (rows : List Bytes) : List (ℕ × Bytes) → Prop
  | plain {records : List (ℕ × Bytes)} (each : records.map Prod.snd = rows)
      (tags : ∀ r ∈ records, r.1 = Tag.TABLE_CONTENT ∨ r.1 = Tag.TABLE_CONTENT_ALT) :
      Carries rows records
  | compressed {wrapper stream : Bytes} {chunks : List Bytes} {code_len_limit block_mode : ℕ}
      (packed : sapcompress_compress_lzc rows.flatten code_len_limit block_mode = .ok stream)
      (wrapped : wrapper.length = LZ_WRAPPER) (cut : chunks.flatten = wrapper ++ stream) :
      Carries rows (chunks.map fun chunk => (Tag.TABLE_CONTENT_LZ, chunk))

/-- A table: its introduction, the number of its rows, and the rows. -/
inductive Form (dm : List (ℕ × PyStr)) (name : PyStr) (rows : List Bytes) :
    List (ℕ × Bytes) → Prop
  | table {first : ℕ × Bytes} {info : Bytes} {body : List (ℕ × Bytes)}
      (introduces : Introduces dm name first) (long : 8 ≤ info.length)
      (counted : ofBE (slice info 4 8) = rows.length) (carries : Carries rows body) :
      Form dm name rows (first :: (Tag.TABLE_INFO, info) :: body)

section Forms

variable {L : Type} {u : Unicode} {s : Scalars L} {dm : List (ℕ × PyStr)} {name : PyStr}
  {rows : List Bytes}

/-- INTERNAL: what is decompressed has its header. -/
theorem header_of_expanded {lzh : Bytes → Except LzError Bytes} {data stream : Bytes}
    (h : sapcompress_decompress lzh stream data.length = .ok data) :
    ¬ stream.length < HDR_SIZE ∧ ofLE (stream.take 4) = data.length ∧
      slice stream 5 7 = HDR_MAGIC := by
  unfold sapcompress_decompress at h
  have hlong : ¬ stream.length < HDR_SIZE := by
    intro hshort
    rw [if_pos hshort] at h
    cases h
  rw [if_neg hlong] at h
  have hmagic : slice stream 5 7 = HDR_MAGIC := by
    by_contra hother
    have hparse : parse_header stream =
        .error (.decompress (lit "bad SAPCOMPRESS magic: " ++ hexLower (slice stream 5 7))) := by
      unfold parse_header
      rw [if_neg hlong]
      exact if_pos hother
    rw [hparse] at h
    cases h
  have hparse : parse_header stream = .ok (ofLE (stream.take 4), (stream.getD 4 0).toNat &&& 0x0F,
      ((stream.getD 4 0).toNat >>> 4) &&& 0x0F, (stream.getD 7 0).toNat) := by
    unfold parse_header
    rw [if_neg hlong]
    exact if_neg (not_not.mpr hmagic)
  refine ⟨hlong, ?_, hmagic⟩
  by_contra hdiffers
  have hlength : (ofLE (stream.take 4) : ℤ) ≠ data.length := fun heq => hdiffers (by omega)
  rw [hparse] at h
  dsimp only [Bind.bind, Except.bind, Pure.pure, Except.pure, wrapped] at h
  rw [if_pos hlength] at h
  cases h

/-- What the decompressor expands is read behind a wrapper, however it is cut. -/
theorem decompress_wrapped {data stream wrapper : Bytes} {chunks : List Bytes}
    (expanded : sapcompress_decompress s.lzh stream data.length = .ok data)
    (wrapped : wrapper.length = LZ_WRAPPER) (cut : chunks.flatten = wrapper ++ stream)
    (param_name : PyStr) :
    s.decompress_table_stream u chunks param_name = .ok data := by
  obtain ⟨-, hlength, hmagic⟩ := header_of_expanded expanded
  have hroom : ¬ (wrapper ++ stream).length < SAPCOMPRESS_HDR := by
    rw [List.length_append, wrapped]
    exact Nat.not_lt_of_le (Nat.le_add_right _ _)
  have hwrapped : slice (wrapper ++ stream) (LZ_WRAPPER + 5) (LZ_WRAPPER + 7) = HDR_MAGIC := by
    rw [← wrapped, slice_append_right]
    exact hmagic
  unfold Scalars.decompress_table_stream
  dsimp only
  rw [cut, if_neg hroom, if_pos hwrapped, ← wrapped, List.drop_left, hlength, expanded]

/-- What was compressed is decompressed, however it is cut. -/
theorem decompress_table_stream_eq_ok {data stream wrapper : Bytes} {chunks : List Bytes}
    {code_len_limit block_mode : ℕ}
    (packed : sapcompress_compress_lzc data code_len_limit block_mode = .ok stream)
    (wrapped : wrapper.length = LZ_WRAPPER) (cut : chunks.flatten = wrapper ++ stream)
    (param_name : PyStr) :
    s.decompress_table_stream u chunks param_name = .ok data := by
  obtain ⟨-, -, hexpanded⟩ := LzcRoundTrip.compressed_spec s.lzh packed
  exact decompress_wrapped hexpanded wrapped cut param_name

/-- INTERNAL: the rows in a body of either kind. -/
theorem Carries.body {body : List (ℕ × Bytes)} (h : Carries rows body) :
    (∀ r ∈ body, Inside r ∧ r.1 ≠ Tag.TABLE_INFO) ∧
      bodyPayload (s.codec u) name body = .ok rows.flatten := by
  cases h with
  | plain each tags =>
    refine ⟨fun r hr => ?_, ?_⟩
    · obtain ⟨tag, value⟩ := r
      rcases tags _ hr with rfl | rfl
      · exact ⟨show Tag.TABLE_CONTENT ∉ turningTags by decide,
        show Tag.TABLE_CONTENT ≠ Tag.TABLE_INFO by decide⟩
      · exact ⟨show Tag.TABLE_CONTENT_ALT ∉ turningTags by decide,
        show Tag.TABLE_CONTENT_ALT ≠ Tag.TABLE_INFO by decide⟩
    · have hchunks : bodyChunks body = [] := by
        unfold bodyChunks
        rw [List.map_eq_nil_iff, List.filter_eq_nil_iff]
        intro r hr
        rw [decide_eq_true_eq]
        rcases tags r hr with htag | htag <;> rw [htag] <;> decide
      have hrows : bodyRows body = rows.flatten := by
        unfold bodyRows
        rw [List.filter_eq_self.mpr fun r hr => decide_eq_true (tags r hr), ← each,
          List.flatMap_def]
      unfold bodyPayload
      rw [if_pos hchunks, hrows]
  | @compressed wrapper stream chunks _ _ packed wrapped cut =>
    refine ⟨fun r hr => ?_, ?_⟩
    · obtain ⟨chunk, -, rfl⟩ := List.mem_map.mp hr
      exact ⟨show Tag.TABLE_CONTENT_LZ ∉ turningTags by decide,
        show Tag.TABLE_CONTENT_LZ ≠ Tag.TABLE_INFO by decide⟩
    · have hchunks : bodyChunks (chunks.map fun chunk => (Tag.TABLE_CONTENT_LZ, chunk)) =
          chunks := by
        unfold bodyChunks
        rw [List.filter_eq_self.mpr, List.map_map]
        · exact List.map_id chunks
        · intro r hr
          obtain ⟨chunk, -, rfl⟩ := List.mem_map.mp hr
          exact decide_eq_true rfl
      have hne : chunks ≠ [] := by
        rintro rfl
        have hnil := congrArg List.length cut
        rw [List.flatten_nil, List.length_nil, List.length_append, wrapped, LZ_WRAPPER] at hnil
        omega
      unfold bodyPayload
      rw [hchunks, if_neg hne]
      exact decompress_table_stream_eq_ok packed wrapped cut name

/-- INTERNAL: rows have no row count. -/
theorem bodyCounts_of_ne_info {body : List (ℕ × Bytes)} (h : ∀ r ∈ body, r.1 ≠ Tag.TABLE_INFO)
    (counts : List (PyStr × ℕ)) : bodyCounts name body counts = counts := by
  induction body with
  | nil => rfl
  | cons r body ih =>
    have hnone : countOf r = none := if_neg fun hinfo => h r List.mem_cons_self hinfo.1
    rw [bodyCounts, hnone]
    exact ih fun q hq => h q (List.mem_cons_of_mem _ hq)

/-- INTERNAL: a table begins in one state, whatever introduces it. -/
theorem Introduces.opened {first : ℕ × Bytes} (h : Introduces dm name first) (htext : IsText name)
    (htrimmed : Trimmed name) (hne : name ≠ []) (codec : Codec (PyVal L)) (st : PairState) :
    pair_record codec dm st first = (st.flushed codec).map fun pairs => opened st pairs name := by
  cases h with
  | by_name named =>
    rw [pair_record_table (encode_ne_nil named hne), decode_utf16le_trimmed htext htrimmed named]
  | by_id long assigned =>
    rw [pair_record_delta, if_pos long, assigned]

/-- INTERNAL: the walker behind a table that one record begins. -/
theorem run_table {first : ℕ × Bytes} {info : Bytes} {body : List (ℕ × Bytes)}
    (hfirst : ∀ st : PairState, pair_record (s.codec u) dm st first =
      (st.flushed (s.codec u)).map fun pairs => opened st pairs name)
    (long : 8 ≤ info.length) (counted : ofBE (slice info 4 8) = rows.length)
    (carries : Carries rows body) (hrows : rows ≠ []) (st : PairState) :
    ∃ table_rows table_lz, (∀ pairs, PairState.payload (s.codec u)
        { opened st pairs name with table_rows := table_rows, table_lz := table_lz } =
          .ok rows.flatten) ∧
      (first :: (Tag.TABLE_INFO, info) :: body).foldlM (pair_record (s.codec u) dm) st =
        (st.flushed (s.codec u)).map fun pairs => { opened st pairs name with
          table_rows := table_rows
          table_lz := table_lz
          row_counts := assocSet st.row_counts name rows.length } := by
  obtain ⟨hbody, hpayload⟩ : (∀ r ∈ body, Inside r ∧ r.1 ≠ Tag.TABLE_INFO) ∧
      bodyPayload (s.codec u) name body = .ok rows.flatten := carries.body
  have hinfo : Inside (Tag.TABLE_INFO, info) := show Tag.TABLE_INFO ∉ turningTags by decide
  have hcount : countOf (Tag.TABLE_INFO, info) = some rows.length := by
    have hpositive : 0 < ofBE (slice info 4 8) := by
      rw [counted]
      exact List.length_pos_iff.mpr hrows
    unfold countOf
    rw [if_pos ⟨rfl, long, hpositive⟩, counted]
  have hinside : ∀ r ∈ (Tag.TABLE_INFO, info) :: body, Inside r :=
    List.forall_mem_cons.mpr ⟨hinfo, fun r hr => (hbody r hr).1⟩
  refine ⟨bodyRows body, bodyChunks body, fun pairs => hpayload, ?_⟩
  rw [List.foldlM_cons, hfirst]
  cases st.flushed (s.codec u) with
  | error e => rfl
  | ok pairs =>
    show List.foldlM _ (opened st pairs name) _ = _
    rw [foldlM_body hinside rfl rfl, bodyRows_cons, bodyChunks_cons,
      bodyRows_of_tag info (by decide) (by decide), bodyChunks_of_tag info (by decide), bodyCounts,
      hcount, bodyCounts_of_ne_info fun r hr => (hbody r hr).2]
    rfl

/-- INTERNAL: the walker behind a table of any form. -/
theorem Form.run {records : List (ℕ × Bytes)} (h : Form dm name rows records)
    (htext : IsText name) (htrimmed : Trimmed name) (hne : name ≠ []) (hrows : rows ≠ [])
    (st : PairState) :
    ∃ table_rows table_lz, (∀ pairs, PairState.payload (s.codec u)
        { opened st pairs name with table_rows := table_rows, table_lz := table_lz } =
          .ok rows.flatten) ∧
      records.foldlM (pair_record (s.codec u) dm) st =
        (st.flushed (s.codec u)).map fun pairs => { opened st pairs name with
          table_rows := table_rows
          table_lz := table_lz
          row_counts := assocSet st.row_counts name rows.length } := by
  obtain ⟨introduces, long, counted, carries⟩ := h
  exact run_table (introduces.opened htext htrimmed hne _) long counted carries hrows st

variable (typeName : PyError → PyStr)

/-- INTERNAL: no record of a table decides whether a reply is accepted. -/
theorem Form.tags {records : List (ℕ × Bytes)} (h : Form dm name rows records) :
    ∀ r ∈ records, r.1 ∉ Replies.verdictTags ∧ r.1 < 256 ^ 2 ∧ r.1 ≠ 0x2A45 := by
  obtain ⟨introduces, -, -, carries⟩ := h
  refine List.forall_mem_cons.mpr ⟨?_, List.forall_mem_cons.mpr ⟨?_, fun r hr => ?_⟩⟩
  · cases introduces with
    | by_name named =>
      exact ⟨show Tag.TABLE_NAME ∉ Replies.verdictTags by decide, show Tag.TABLE_NAME < _ by decide,
        show Tag.TABLE_NAME ≠ _ by decide⟩
    | by_id long assigned =>
      exact ⟨show Tag.TABLE_DELTA ∉ Replies.verdictTags by decide,
        show Tag.TABLE_DELTA < _ by decide, show Tag.TABLE_DELTA ≠ _ by decide⟩
  · exact ⟨show Tag.TABLE_INFO ∉ Replies.verdictTags by decide, show Tag.TABLE_INFO < _ by decide,
      show Tag.TABLE_INFO ≠ _ by decide⟩
  · have htag : r.1 ∈ contentTags := by
      cases carries with
      | plain each tags =>
        rcases tags r hr with htag | htag <;> rw [htag] <;> decide
      | compressed packed wrapped cut =>
        obtain ⟨chunk, -, rfl⟩ := List.mem_map.mp hr
        exact show Tag.TABLE_CONTENT_LZ ∈ contentTags by decide
    exact (show ∀ tag ∈ contentTags,
      tag ∉ Replies.verdictTags ∧ tag < 256 ^ 2 ∧ tag ≠ 0x2A45 by decide) r.1 htag

/-- INTERNAL: the same is reported of a stream with the table in either form. -/
theorem extract_named_values_form {before a b after : List (ℕ × Bytes)}
    (ha : Form dm name rows a) (hb : Form dm name rows b) (htext : IsText name)
    (htrimmed : Trimmed name) (hne : name ≠ []) (hrows : rows ≠ []) (hended : Ended after)
    (hfits : ∀ r ∈ before ++ a ++ after, Records.Fits Tag.TERMINATOR r)
    (hfits' : ∀ r ∈ before ++ b ++ after, Records.Fits Tag.TERMINATOR r) :
    extract_named_values (s.codec u) (Records.stream Tag.TERMINATOR (before ++ a ++ after)) dm =
      extract_named_values (s.codec u) (Records.stream Tag.TERMINATOR (before ++ b ++ after))
        dm := by
  rw [extract_named_values_stream hfits, extract_named_values_stream hfits', List.foldlM_append,
    List.foldlM_append, List.foldlM_append, List.foldlM_append]
  cases before.foldlM (pair_record (s.codec u) dm) PairState.init with
  | error e => rfl
  | ok st =>
    obtain ⟨table_rows, table_lz, hpayload, hrun⟩ := ha.run (s := s) (u := u) htext htrimmed hne
      hrows st
    obtain ⟨table_rows', table_lz', hpayload', hrun'⟩ := hb.run (s := s) (u := u) htext htrimmed hne
      hrows st
    rw [Eff.except_ok_bind, Eff.except_ok_bind, hrun, hrun']
    cases st.flushed (s.codec u) with
    | error e => rfl
    | ok pairs =>
      refine SameTable.reported ⟨rfl, Option.some_ne_none name, rfl, ?_⟩ hended
      exact ⟨rows.flatten, hpayload pairs, hpayload' pairs⟩

/-- The form of a table makes no difference to what is returned. -/
theorem table_form_independent {before a b after : List (ℕ × Bytes)}
    (ha : Form dm name rows a) (hb : Form dm name rows b) (htext : IsText name)
    (htrimmed : Trimmed name) (hne : name ≠ []) (hrows : rows ≠ []) (hended : Ended after)
    (hfits : ∀ r ∈ before ++ a ++ after, Records.Fits Tag.TERMINATOR r)
    (hfits' : ∀ r ∈ before ++ b ++ after, Records.Fits Tag.TERMINATOR r) (desc : FunctionDesc) :
    Replies.Alike u (before ++ a ++ after)
      (parse_invoke_response (s.platform u typeName)
        (Records.stream Tag.TERMINATOR (before ++ a ++ after)) desc dm)
      (parse_invoke_response (s.platform u typeName)
        (Records.stream Tag.TERMINATOR (before ++ b ++ after)) desc dm) := by
  have hsome : ∀ {x : List (ℕ × Bytes)}, Form dm name rows x → x ≠ [] := by
    intro x hx
    obtain ⟨-, -, -, -⟩ := hx
    exact List.cons_ne_nil _ _
  have hreport : Replies.SameReport u (before ++ a ++ after) (before ++ b ++ after) :=
    .of_middle ha.tags (hsome ha) hb.tags (hsome hb)
  exact hreport.parse_alike (p := s.platform u typeName) hfits hfits'
    (extract_named_values_form ha hb htext htrimmed hne hrows hended hfits hfits')

end Forms

/-! ## One table in two forms -/

section Rows

open RoundTrips

/-- The records of a reply that reports success. -/
def replyHead : List (ℕ × Bytes) :=
  [(Tag.RESPONSE_START, []), (Tag.RETURN_CODE, toBE 4 RC_OK)]

/-- The bytes of a name. -/
def nameBytes (name : PyStr) : Bytes := (encodeUtf16le name).toOption.getD []

/-- A table by its name, with its rows one by one. -/
def namedRows (name : PyStr) (rows : List Bytes) : List (ℕ × Bytes) :=
  (Tag.TABLE_NAME, nameBytes name) ::
    (Tag.TABLE_INFO, toBE 4 3 ++ toBE 4 rows.length) ::
      rows.map fun row => (Tag.TABLE_CONTENT_ALT, row)

/-- The first table that was sent, with its rows compressed and cut in the given pieces. -/
def numberedRows (rows chunks : List Bytes) : List (ℕ × Bytes) :=
  (Tag.TABLE_DELTA, toBE 4 10 ++ toBE 4 1 ++ toBE 4 rows.length) ::
    (Tag.TABLE_INFO, toBE 4 3 ++ toBE 4 rows.length) ::
      chunks.map fun chunk => (Tag.TABLE_CONTENT_LZ, chunk)

/-- What the compressor makes of six bytes, behind a wrapper. -/
def packedRows : Bytes :=
  List.replicate 8 0 ++
    ((sapcompress_compress_lzc [1, 2, 3, 4, 5, 6] LZC_MIN_CODE_LEN
      LZC_MULTI_BLOCK).toOption.getD [])

/-- A scalar in front of the table, and another behind it. -/
def scalarRecords (name : PyStr) : List (ℕ × Bytes) :=
  [(Tag.PARAM_NAME, nameBytes name), (Tag.PARAM_VALUE, [7, 8])]

theorem form_namedRows {dm : List (ℕ × PyStr)} {name : PyStr} {rows : List Bytes}
    (hname : encodeUtf16le name = .ok (nameBytes name)) (hrows : rows.length < 256 ^ 4) :
    Form dm name rows (namedRows name rows) := by
  refine .table (.by_name hname) (Nat.le_refl 8) ?_ (.plain ?_ ?_)
  · exact ofBE_toBE_of_lt hrows
  · rw [List.map_map]
    exact List.map_id rows
  · intro r hr
    obtain ⟨row, -, rfl⟩ := List.mem_map.mp hr
    exact .inr rfl

theorem table_form_independent_cut :
    Replies.Alike asciiTables
      (replyHead ++ scalarRecords (lit "DATA") ++ namedRows (lit "ROWS") [[1, 2, 3], [4, 5, 6]] ++
        scalarRecords (lit "DATA"))
      (parse_invoke_response bytesPlatform (Records.stream Tag.TERMINATOR
        (replyHead ++ scalarRecords (lit "DATA") ++ namedRows (lit "ROWS") [[1, 2, 3], [4, 5, 6]] ++
          scalarRecords (lit "DATA"))) answerDesc [(1, lit "ROWS")])
      (parse_invoke_response bytesPlatform (Records.stream Tag.TERMINATOR
        (replyHead ++ scalarRecords (lit "DATA") ++ numberedRows [[1, 2, 3], [4, 5, 6]]
          [packedRows.take 5, packedRows.drop 5] ++ scalarRecords (lit "DATA")))
          answerDesc [(1, lit "ROWS")]) := by
  have hnumbered : Form [(1, lit "ROWS")] (lit "ROWS") [[1, 2, 3], [4, 5, 6]]
      (numberedRows [[1, 2, 3], [4, 5, 6]] [packedRows.take 5, packedRows.drop 5]) := by
    refine .table (.by_id (by decide) (by decide)) (by decide) (by decide) ?_
    have hpacked : sapcompress_compress_lzc [1, 2, 3, 4, 5, 6] LZC_MIN_CODE_LEN LZC_MULTI_BLOCK =
        .ok (packedRows.drop 8) := by
      decide +kernel
    have hwrapped : (List.replicate 8 0 : Bytes).length = LZ_WRAPPER := rfl
    exact .compressed hpacked hwrapped (by decide +kernel)
  have hended : Ended (scalarRecords (lit "DATA")) :=
    Or.inl (show Tag.PARAM_NAME ∈ closingTags by decide)
  exact table_form_independent (fun _ => []) (form_namedRows (by decide) (by decide)) hnumbered
    (by decide) (by decide) (by decide) (by decide) hended (by decide +kernel) (by decide +kernel)
    answerDesc

/-- The first table that was sent, with a row as it is. -/
def numberedRow : List (ℕ × Bytes) :=
  [(Tag.TABLE_DELTA, toBE 4 10 ++ toBE 4 1 ++ toBE 4 1),
    (Tag.TABLE_INFO, toBE 4 3 ++ toBE 4 1), (Tag.TABLE_CONTENT, [1, 2, 3])]

theorem form_numberedRow (name : PyStr) : Form [(1, name)] name [[1, 2, 3]] numberedRow := by
  have hid : ofBE (slice (toBE 4 10 ++ toBE 4 1 ++ toBE 4 1) 4 8) = 1 := by decide
  refine .table (.by_id (by decide) (by rw [hid]; rfl)) (by decide) (by decide) (.plain rfl ?_)
  intro r hr
  obtain rfl := List.mem_singleton.mp hr
  exact .inl rfl

/-- A function with one table. -/
def tableDesc (name : PyStr) : FunctionDesc := ⟨lit "Z_FM", [byteTable name RFC_TABLES]⟩

/-- The row of a table that was sent comes back by its number, and is lost by its name. -/
def LostByName (name : PyStr) : Prop :=
  dm_table_ids bytesPlatform (tableDesc name) [(name, .list [rowOf 1 2 3])] = [(1, name)] ∧
    Form [(1, name)] name [[1, 2, 3]] numberedRow ∧
    Form [(1, name)] name [[1, 2, 3]] (namedRows name [[1, 2, 3]]) ∧
    parse_invoke_response bytesPlatform (Records.stream Tag.TERMINATOR (replyHead ++ numberedRow))
      (tableDesc name) [(1, name)] = .ok [(name, .list [rowOf 1 2 3])] ∧
    parse_invoke_response bytesPlatform
      (Records.stream Tag.TERMINATOR (replyHead ++ namedRows name [[1, 2, 3]])) (tableDesc name)
      [(1, name)] = .ok []

/-- A table whose name ends with a blank, and one without a name. -/
theorem padded_name_lost : LostByName (lit "TAB ") ∧ LostByName [] := by
  constructor
  · exact ⟨by decide +kernel, form_numberedRow _, form_namedRows (by decide) (by decide),
      by decide +kernel, by decide +kernel⟩
  · exact ⟨by decide +kernel, form_numberedRow _, form_namedRows (by decide) (by decide),
      by decide +kernel, by decide +kernel⟩

end Rows

end SapRfc.Analysis.TableForms
