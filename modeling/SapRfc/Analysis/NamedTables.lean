import SapRfc.Analysis.TableForms
import SapRfc.Library.Segments

/-!
# Tables of a reply by name

A metadata reply has several tables, and the reader of rows knows no names.  The table that is
asked for is cut out of the reply from its name to the next one, and the rows are read from the
cut.  So the rows are those of the table, whatever tables stand beside it, and wherever the reply
ends.
-/

set_option autoImplicit false

namespace SapRfc.Analysis.NamedTables

open SapRfc.Library SapRfc.Library.Records SapRfc.Program
open Scalars (LZ_WRAPPER SAPCOMPRESS_HDR)
open TableForms (header_of_expanded decompress_wrapped)

/-! ## Replies with tables -/

/-- The tags of the records of a table behind its name. -/
def tableTags : List ℕ :=
  [Tag.TABLE_INFO, Tag.TABLE_CONTENT, Tag.TABLE_CONTENT_ALT, Tag.TABLE_CONTENT_LZ]

/-- A record that belongs to no table. -/
def Scalar (r : ℕ × Bytes) : Prop := r.1 ≠ Tag.TABLE_NAME ∧ r.1 ∉ tableTags

instance (r : ℕ × Bytes) : Decidable (Scalar r) := inferInstanceAs (Decidable (_ ∧ _))

/-- What the decompressor expands to the data, behind a wrapper or without one.  A wrapper is
known by the magic that stands behind it. -/
inductive Compressed (lzh : Bytes → Except LzError Bytes) (data : Bytes) : Bytes → Prop
  | wrapped {wrapper stream : Bytes} (wrapper_length : wrapper.length = LZ_WRAPPER)
      (expanded : sapcompress_decompress lzh stream data.length = .ok data) :
      Compressed lzh data (wrapper ++ stream)
  | bare {stream : Bytes} (unwrapped : slice stream (LZ_WRAPPER + 5) (LZ_WRAPPER + 7) ≠ HDR_MAGIC)
      (expanded : sapcompress_decompress lzh stream data.length = .ok data) :
      Compressed lzh data stream

/-- The records of rows: one for each row, or the fragments of a compressed stream of rows that
have one width. -/
inductive Carries (lzh : Bytes → Except LzError Bytes) (rows : List Bytes) :
    List (ℕ × Bytes) → Prop
  | each {content : List (ℕ × Bytes)} (values : content.map Prod.snd = rows)
      (tags : ∀ r ∈ content, r.1 = Tag.TABLE_CONTENT ∨ r.1 = Tag.TABLE_CONTENT_ALT) :
      Carries lzh rows content
  | fragments {chunks : List Bytes} {width : ℕ} (equal : ∀ row ∈ rows, row.length = width)
      (packed : Compressed lzh rows.flatten chunks.flatten) :
      Carries lzh rows (chunks.map fun chunk => (Tag.TABLE_CONTENT_LZ, chunk))

/-- A table of a reply: the value of its name record, and the records from there to the next name
record.  Of these the row count and the rows belong to the table, in this order. -/
structure ReplyTable (lzh : Bytes → Except LzError Bytes) where
  label : Bytes
  rows : List Bytes
  info : Bytes
  content : List (ℕ × Bytes)
  behind : List (ℕ × Bytes)
  nonempty : ∀ row ∈ rows, row ≠ []
  info_length : info.length = 8
  counted : ofBE (info.drop 4) = rows.length
  carries : Carries lzh rows content
  table_records : (behind.filter fun r => decide (r.1 ∈ tableTags)) =
    (Tag.TABLE_INFO, info) :: content
  unnamed : ∀ r ∈ behind, r.1 ≠ Tag.TABLE_NAME

variable {lzh : Bytes → Except LzError Bytes}

/-- The text of a name record, without what fills the field. -/
def read_name (value : Bytes) : PyStr := rstrip padding (decodeUtf16leReplace value)

def ReplyTable.name (t : ReplyTable lzh) : PyStr := read_name t.label

def ReplyTable.records (t : ReplyTable lzh) : List (ℕ × Bytes) :=
  (Tag.TABLE_NAME, t.label) :: t.behind

/-- A reply: scalar records, and tables that have different names, each with the scalar records
inside of it and behind it. -/
structure Reply (lzh : Bytes → Except LzError Bytes) where
  before : List (ℕ × Bytes)
  tables : List (ReplyTable lzh)
  scalar : ∀ r ∈ before, Scalar r
  distinct : (tables.map ReplyTable.name).Nodup

def Reply.records (reply : Reply lzh) : List (ℕ × Bytes) :=
  reply.before ++ reply.tables.flatMap ReplyTable.records

/-- The bytes are read as the records of the reply.  A record may have its closing tag or not, and
the stream may have its end or not. -/
def Reply.Carried (reply : Reply lzh) (response : Bytes) : Prop :=
  (walk Tag.TERMINATOR response).records = reply.records

/-! ## The cut -/

section Cut

variable {name : PyStr} {b c value rest : Bytes} {tag : ℕ} {rs : List (ℕ × Bytes)}
  {start : Option Bytes}

/-- INTERNAL: the search at a record. -/
theorem slice_named_loop_record (h : scan Tag.TERMINATOR b = .record tag value rest) (fuel : ℕ) :
    slice_named_loop name (fuel + 1) b start =
      if tag = Tag.TABLE_NAME then
        if read_name value = name then slice_named_loop name fuel rest (some rest)
        else
          match start with
          | some s => s.take (s.length - b.length)
          | none => slice_named_loop name fuel rest none
      else slice_named_loop name fuel rest start := by
  rw [slice_named_loop, h]
  rfl

/-- INTERNAL: the search ends where no record is left. -/
theorem slice_named_loop_end (h : (walk Tag.TERMINATOR c).records = []) (fuel : ℕ) :
    slice_named_loop name fuel c start = start.getD [] := by
  cases fuel with
  | zero => rfl
  | succ fuel =>
    rw [slice_named_loop]
    cases hscan : scan Tag.TERMINATOR c with
    | record tag value rest =>
      rw [walk_of_record hscan] at h
      cases h
    | _ => rfl

/-- INTERNAL: the search goes on behind records that neither begin nor end the table. -/
theorem slice_named_loop_through (h : Through Tag.TERMINATOR b rs c)
    (hpassed : ∀ r ∈ rs, r.1 = Tag.TABLE_NAME → start = none ∧ read_name r.2 ≠ name) {fuel : ℕ}
    (hfuel : b.length < fuel) :
    ∃ fuel', c.length < fuel' ∧
      slice_named_loop name fuel b start = slice_named_loop name fuel' c start := by
  induction h generalizing fuel with
  | stop b => exact ⟨fuel, hfuel, rfl⟩
  | @record b value rest c tag rs read _ ih =>
    obtain ⟨hfirst, hothers⟩ := List.forall_mem_cons.mp hpassed
    obtain ⟨fuel, rfl⟩ := Nat.exists_eq_succ_of_ne_zero (Nat.ne_of_gt (Nat.zero_lt_of_lt hfuel))
    have hshorter := length_rest_of_scan read
    obtain ⟨fuel', hfuel', hloop⟩ := ih hothers (show rest.length < fuel by omega)
    refine ⟨fuel', hfuel', ?_⟩
    rw [← hloop, slice_named_loop_record read]
    split
    next htag =>
      obtain ⟨rfl, hname⟩ := hfirst htag
      rw [if_neg hname]
    next => rfl

/-- The cut for a name has the records behind its name record, up to the next name record. -/
theorem records_slice_named {response label : Bytes} {front behind later : List (ℕ × Bytes)}
    (hread : (walk Tag.TERMINATOR response).records =
      front ++ (Tag.TABLE_NAME, label) :: (behind ++ later))
    (hfront : ∀ r ∈ front, r.1 = Tag.TABLE_NAME → read_name r.2 ≠ read_name label)
    (hbehind : ∀ r ∈ behind, r.1 ≠ Tag.TABLE_NAME)
    (hlater : ∀ r ∈ later.head?, r.1 = Tag.TABLE_NAME ∧ read_name r.2 ≠ read_name label) :
    (walk Tag.TERMINATOR (slice_named_table response (read_name label))).records = behind := by
  obtain ⟨b, hthrough, hb⟩ := exists_through hread
  obtain ⟨fuel, hfuel, hloop⟩ : ∃ fuel, b.length < fuel ∧
      slice_named_table response (read_name label) =
        slice_named_loop (read_name label) fuel b none :=
    slice_named_loop_through hthrough (fun r hr htag => ⟨rfl, hfront r hr htag⟩)
      (Nat.lt_succ_self response.length)
  -- The name record of the table: the cut starts behind it.
  obtain ⟨segment, hscan, hsegment⟩ := scan_of_records_cons hb
  obtain ⟨fuel, rfl⟩ := Nat.exists_eq_succ_of_ne_zero (Nat.ne_of_gt (Nat.zero_lt_of_lt hfuel))
  have hshorter := length_rest_of_scan hscan
  have hfound : slice_named_table response (read_name label) =
      slice_named_loop (read_name label) fuel segment (some segment) := by
    rw [hloop, slice_named_loop_record hscan, if_pos rfl, if_pos rfl]
  obtain ⟨c, hrows, hc⟩ := exists_through hsegment
  obtain ⟨fuel', hfuel', hloop'⟩ : ∃ fuel', c.length < fuel' ∧
      slice_named_loop (read_name label) fuel segment (some segment) =
        slice_named_loop (read_name label) fuel' c (some segment) :=
    slice_named_loop_through hrows (fun r hr htag => absurd htag (hbehind r hr)) (by omega)
  rw [hfound, hloop']
  cases later with
  | nil =>
    -- The table is the last one: the cut is the rest of the reply.
    rw [slice_named_loop_end hc, Option.getD_some, hrows.records, hc, List.append_nil]
  | cons r later =>
    -- The cut ends in front of the next name record.
    obtain ⟨htag, hname⟩ := hlater r rfl
    obtain ⟨rest, hnext, -⟩ := scan_of_records_cons hc
    obtain ⟨fuel', rfl⟩ := Nat.exists_eq_succ_of_ne_zero (Nat.ne_of_gt (Nat.zero_lt_of_lt hfuel'))
    obtain ⟨cut, rfl⟩ := hrows.suffix
    rw [slice_named_loop_record hnext, if_pos htag, if_neg hname]
    dsimp only
    rw [List.length_append, Nat.add_sub_cancel_right, List.take_left]
    exact hrows.records_segment

end Cut

/-! ## The rows of a cut -/

section Rows

variable {rows : List Bytes} {content : List (ℕ × Bytes)}

/-- INTERNAL: a record of no table is passed over. -/
theorem record_other {r : ℕ × Bytes} (h : r.1 ∉ tableTags) (s : RowWalk) : s.record r = s := by
  obtain ⟨tag, data⟩ := r
  unfold tableTags at h
  simp only [List.mem_cons, List.not_mem_nil, or_false, not_or] at h
  obtain ⟨hinfo, hcontent, halt, hchunks⟩ := h
  unfold RowWalk.record
  simp only [hinfo, hcontent, halt, hchunks, if_false, false_and, or_self]

/-- INTERNAL: only the records of the table count. -/
theorem foldl_record_filter (rs : List (ℕ × Bytes)) (s : RowWalk) :
    rs.foldl RowWalk.record s =
      (rs.filter fun r => decide (r.1 ∈ tableTags)).foldl RowWalk.record s := by
  induction rs generalizing s with
  | nil => rfl
  | cons r rs ih =>
    rw [List.foldl_cons, ih, List.filter_cons]
    by_cases hr : r.1 ∈ tableTags
    · rw [if_pos (decide_eq_true hr), List.foldl_cons]
    · rw [if_neg (by rwa [decide_eq_true_eq]), record_other hr]

/-- INTERNAL: records of one row each. -/
theorem foldl_record_each
    (tags : ∀ r ∈ content, r.1 = Tag.TABLE_CONTENT ∨ r.1 = Tag.TABLE_CONTENT_ALT) (s : RowWalk) :
    content.foldl RowWalk.record s =
      { s with per_record := s.per_record ++ content.map Prod.snd } := by
  induction content generalizing s with
  | nil => rw [List.foldl_nil, List.map_nil, List.append_nil]
  | cons r content ih =>
    obtain ⟨hfirst, hothers⟩ := List.forall_mem_cons.mp tags
    have hinfo : r.1 ≠ Tag.TABLE_INFO := by
      rcases hfirst with h | h <;> rw [h] <;> decide
    have hrecord : s.record r = { s with per_record := s.per_record ++ [r.2] } := by
      unfold RowWalk.record
      dsimp only
      rw [if_neg fun h => hinfo h.1, if_pos hfirst]
    rw [List.foldl_cons, hrecord, ih hothers, List.map_cons, List.append_assoc]
    rfl

/-- INTERNAL: fragments of a compressed stream. -/
theorem foldl_record_fragments (chunks : List Bytes) (s : RowWalk) :
    (chunks.map fun chunk => (Tag.TABLE_CONTENT_LZ, chunk)).foldl RowWalk.record s =
      { s with lz_chunks := s.lz_chunks ++ chunks } := by
  induction chunks generalizing s with
  | nil => rw [List.map_nil, List.foldl_nil, List.append_nil]
  | cons chunk chunks ih =>
    have hrecord : s.record (Tag.TABLE_CONTENT_LZ, chunk) =
        { s with lz_chunks := s.lz_chunks ++ [chunk] } := by
      unfold RowWalk.record
      dsimp only
      rw [if_neg fun h => absurd h.1 (by decide), if_neg (by decide), if_pos rfl]
    rw [List.map_cons, List.foldl_cons, hrecord, ih, List.append_assoc]
    rfl

/-- Rows of one width are the slices of their bytes, whatever row size is declared. -/
theorem sliceRows_flatten {width : ℕ} (equal : ∀ row ∈ rows, row.length = width)
    (nonempty : ∀ row ∈ rows, row ≠ []) (row_size : ℕ) :
    sliceRows row_size rows.length rows.flatten = .ok rows := by
  have hlength : rows.flatten.length = rows.length * width := length_flatten_of_width equal
  cases rows with
  | nil =>
    unfold sliceRows
    rw [if_neg fun h => absurd h.1 (Nat.lt_irrefl 0)]
    split
    next hsize =>
      dsimp only
      rw [if_neg (Nat.ne_of_gt hsize)]
      simp
    next => rfl
  | cons row rows =>
    have hwidth : 0 < width := by
      rw [← equal row List.mem_cons_self]
      exact List.length_pos_iff.mpr (nonempty row List.mem_cons_self)
    have hcount : 0 < (row :: rows).length := Nat.succ_pos _
    have hslices := slices_flatten equal
    unfold sliceRows
    rw [hlength, Nat.mul_mod_right, if_pos ⟨hcount, rfl⟩, Nat.mul_div_cancel_left _ hcount]
    dsimp only
    rw [if_neg (Nat.ne_of_gt hwidth), Nat.mul_div_cancel _ hwidth]
    simp only [Nat.succ_mul] at hslices
    rw [hslices]

/-- What the compressor makes of rows is such a stream. -/
theorem compressed_lzc {lzh : Bytes → Except LzError Bytes} {data stream wrapper : Bytes}
    {code_len_limit block_mode : ℕ}
    (packed : sapcompress_compress_lzc data code_len_limit block_mode = .ok stream)
    (wrapper_length : wrapper.length = LZ_WRAPPER) : Compressed lzh data (wrapper ++ stream) := by
  obtain ⟨-, -, hexpanded⟩ := LzcRoundTrip.compressed_spec lzh packed
  exact .wrapped wrapper_length hexpanded

/-- INTERNAL: a compressed stream is decompressed, with its wrapper or without. -/
theorem Compressed.decompressed {L : Type} {s : Scalars L} {data : Bytes} {chunks : List Bytes}
    (h : Compressed s.lzh data chunks.flatten) (u : Unicode) (param_name : PyStr) :
    s.decompress_table_stream u chunks param_name = .ok data := by
  generalize hblob : chunks.flatten = blob at h
  cases h with
  | wrapped wrapper_length expanded =>
    exact decompress_wrapped expanded wrapper_length hblob param_name
  | bare unwrapped expanded =>
    obtain ⟨hlong, hlength, hmagic⟩ := header_of_expanded expanded
    have hroom : ¬ blob.length < SAPCOMPRESS_HDR := hlong
    unfold Scalars.decompress_table_stream
    dsimp only
    rw [hblob, if_neg hroom, if_neg unwrapped, if_pos hmagic, hlength, expanded]

/-- INTERNAL: a compressed stream has fragments. -/
theorem Compressed.ne_nil {lzh : Bytes → Except LzError Bytes} {data : Bytes}
    {chunks : List Bytes} (h : Compressed lzh data chunks.flatten) : chunks ≠ [] := by
  rintro rfl
  rw [List.flatten_nil] at h
  generalize hblob : ([] : Bytes) = blob at h
  cases h with
  | wrapped wrapper_length expanded =>
    obtain ⟨rfl, -⟩ := List.append_eq_nil_iff.mp hblob.symm
    exact absurd wrapper_length (by decide)
  | bare _ expanded =>
    subst hblob
    exact absurd (Nat.zero_lt_succ 7) (header_of_expanded expanded).1

/-- INTERNAL: rows of one record each are taken as they are. -/
theorem filter_nonempty (nonempty : ∀ row ∈ rows, row ≠ []) : rows.filter (· ≠ []) = rows := by
  refine List.filter_eq_self.mpr fun row hrow => ?_
  exact decide_eq_true (nonempty row hrow)

/-- The rows of a table are read from its records, whatever scalars are among them. -/
theorem table_row_buffers_eq {L : Type} {s : Scalars L} (t : ReplyTable s.lzh) {segment : Bytes}
    (h : (walk Tag.TERMINATOR segment).records = t.behind) (u : Unicode)
    (typeName : PyError → PyStr) (param_name : PyStr) :
    table_row_buffers (s.platform u typeName) segment param_name = .ok t.rows := by
  have hinfo : RowWalk.record ⟨0, 0, [], []⟩ (Tag.TABLE_INFO, t.info) =
      ⟨ofBE (t.info.take 4), t.rows.length, [], []⟩ := by
    unfold RowWalk.record
    dsimp only
    rw [if_pos ⟨rfl, t.info_length⟩, t.counted]
  have hcarries := t.carries
  have hcodec : (s.platform u typeName).codec.decompress = s.decompress_table_stream u := rfl
  unfold table_row_buffers
  dsimp only
  rw [h, foldl_record_filter, t.table_records, List.foldl_cons, hinfo, hcodec]
  generalize t.content = content at hcarries ⊢
  cases hcarries with
  | each values tags =>
    rw [foldl_record_each tags, values]
    dsimp only
    rw [if_pos rfl, List.nil_append, filter_nonempty t.nonempty]
  | fragments equal packed =>
    rw [foldl_record_fragments]
    dsimp only
    rw [List.nil_append, if_neg packed.ne_nil, packed.decompressed]
    exact sliceRows_flatten equal t.nonempty _

end Rows

/-! ## The tables of a reply -/

/-- INTERNAL: the next record behind a table begins another one. -/
theorem head_flatMap_records {tables : List (ReplyTable lzh)} {r : ℕ × Bytes}
    (h : r ∈ (tables.flatMap ReplyTable.records).head?) :
    ∃ t ∈ tables, r = (Tag.TABLE_NAME, t.label) := by
  cases tables with
  | nil => cases h
  | cons t tables =>
    obtain rfl : (Tag.TABLE_NAME, t.label) = r := Option.some.inj h
    exact ⟨t, List.mem_cons_self, rfl⟩

/-- INTERNAL: every name record in front of a table is that of a table there. -/
theorem label_of_mem {tables : List (ReplyTable lzh)} {r : ℕ × Bytes}
    (h : r ∈ tables.flatMap ReplyTable.records) (htag : r.1 = Tag.TABLE_NAME) :
    ∃ t ∈ tables, r = (Tag.TABLE_NAME, t.label) := by
  obtain ⟨t, ht, hr⟩ := List.mem_flatMap.mp h
  rcases List.mem_cons.mp hr with rfl | hbehind
  · exact ⟨t, ht, rfl⟩
  · exact absurd htag (t.unnamed r hbehind)

/-- The cut for the name of a table has the records behind this name, and no others. -/
theorem Reply.Carried.cut {reply : Reply lzh} {response : Bytes} (h : reply.Carried response)
    {t : ReplyTable lzh} (ht : t ∈ reply.tables) :
    (walk Tag.TERMINATOR (slice_named_table response t.name)).records = t.behind := by
  obtain ⟨earlier, others, hsplit⟩ := List.append_of_mem ht
  have hdistinct := reply.distinct
  rw [hsplit, List.map_append, List.map_cons, List.nodup_append] at hdistinct
  obtain ⟨-, hbehind, hfront⟩ := hdistinct
  have hread : (walk Tag.TERMINATOR response).records =
      (reply.before ++ earlier.flatMap ReplyTable.records) ++
        (Tag.TABLE_NAME, t.label) :: (t.behind ++ others.flatMap ReplyTable.records) := by
    rw [h, Reply.records, hsplit, List.flatMap_append, List.flatMap_cons, ReplyTable.records,
      List.append_assoc, List.cons_append]
  apply records_slice_named hread ?_ t.unnamed
  · intro r hr
    obtain ⟨t', ht', rfl⟩ := head_flatMap_records hr
    refine ⟨rfl, fun heq => (List.nodup_cons.mp hbehind).1 ?_⟩
    have hname : t'.name = t.name := heq
    rw [← hname]
    exact List.mem_map_of_mem ht'
  · intro r hr htag
    rcases List.mem_append.mp hr with hbefore | hearlier
    · exact absurd htag (reply.scalar r hbefore).1
    · obtain ⟨t', ht', rfl⟩ := label_of_mem hearlier htag
      exact hfront t'.name (List.mem_map_of_mem ht') t.name List.mem_cons_self

section Answers

variable {L : Type} {s : Scalars L} {reply : Reply s.lzh} {response : Bytes}

/-- SOURCE: connection.py:791-881 and connection.py:1162-1199.  For each table of a reply the rows
that are read from its cut are its own, all of them and in order. -/
theorem table_isolated (h : reply.Carried response) (u : Unicode) (typeName : PyError → PyStr) :
    ∀ t ∈ reply.tables, ∀ param_name : PyStr,
      table_row_buffers (s.platform u typeName) (slice_named_table response t.name) param_name =
        .ok t.rows := by
  intro t ht param_name
  apply table_row_buffers_eq
  exact h.cut ht

/-- So a lookup of a dictionary type reads the fields of its table, whatever else the reply has. -/
theorem parse_ddif_dfies_rows_eq (h : reply.Carried (strip_gw_header response))
    {t : ReplyTable s.lzh} (ht : t ∈ reply.tables) (hname : t.name = lit "DFIES_TAB") (u : Unicode)
    (typeName : PyError → PyStr) :
    parse_ddif_dfies_rows (s.platform u typeName) response =
      .ok (t.rows.filterMap (read_ddif_row (s.platform u typeName))) := by
  have hcut := h.cut ht
  rw [hname] at hcut
  unfold parse_ddif_dfies_rows
  dsimp only
  rw [table_row_buffers_eq t hcut, Eff.except_ok_bind]

end Answers

section Runs

open TableForms (nameBytes namedRows scalarRecords replyHead packedRows)
open RoundTrips (bytesPlatform)

/-- A table whose rows are compressed and cut in two. -/
def packedTable : ReplyTable byteScalars.lzh where
  label := nameBytes (lit "DFIES_TAB")
  rows := [[1, 2, 3], [4, 5, 6]]
  info := toBE 4 4 ++ toBE 4 2
  content := [packedRows.take 5, packedRows.drop 5].map fun chunk => (Tag.TABLE_CONTENT_LZ, chunk)
  behind := (0x0330, [0]) :: (Tag.TABLE_INFO, toBE 4 4 ++ toBE 4 2) ::
    [packedRows.take 5, packedRows.drop 5].map fun chunk => (Tag.TABLE_CONTENT_LZ, chunk)
  nonempty := by decide
  info_length := rfl
  counted := by decide
  carries := by
    have hwidth : ∀ row ∈ ([[1, 2, 3], [4, 5, 6]] : List Bytes), row.length = 3 := by decide
    refine .fragments hwidth ?_
    have hwrapped : [packedRows.take 5, packedRows.drop 5].flatten =
        List.replicate 8 0 ++ packedRows.drop 8 := by decide +kernel
    have hpacked : sapcompress_compress_lzc [1, 2, 3, 4, 5, 6] LZC_MIN_CODE_LEN LZC_MULTI_BLOCK =
        .ok (packedRows.drop 8) := by decide +kernel
    rw [hwrapped]
    exact compressed_lzc hpacked rfl
  table_records := by decide +kernel
  unnamed := by decide +kernel

/-- A table without rows, in front of a scalar. -/
def emptyTable : ReplyTable byteScalars.lzh where
  label := nameBytes (lit "FIXED_VALUES")
  rows := []
  info := toBE 4 4 ++ toBE 4 0
  content := []
  behind := (Tag.TABLE_INFO, toBE 4 4 ++ toBE 4 0) :: scalarRecords (lit "DATA")
  nonempty := by decide
  info_length := rfl
  counted := by decide
  carries := .each rfl (by decide)
  table_records := by decide +kernel
  unnamed := by decide +kernel

/-- A table whose rows come one by one, and are not of one width. -/
def plainTable : ReplyTable byteScalars.lzh where
  label := nameBytes (lit "LINES   ")
  rows := [[7], [8, 9]]
  info := toBE 4 4 ++ toBE 4 2
  content := [(Tag.TABLE_CONTENT, [7]), (Tag.TABLE_CONTENT_ALT, [8, 9])]
  behind := [(Tag.TABLE_INFO, toBE 4 4 ++ toBE 4 2), (Tag.TABLE_CONTENT, [7]),
    (Tag.TABLE_CONTENT_ALT, [8, 9])]
  nonempty := by decide
  info_length := rfl
  counted := by decide
  carries := .each rfl (by decide)
  table_records := by decide +kernel
  unnamed := by decide +kernel

/-- The three tables behind the head of a reply and a scalar. -/
def threeTables : Reply byteScalars.lzh where
  before := replyHead ++ scalarRecords (lit "DATA")
  tables := [packedTable, emptyTable, plainTable]
  scalar := by decide +kernel
  distinct := by decide +kernel

theorem three_tables_isolated :
    table_row_buffers bytesPlatform (slice_named_table
        (stream Tag.TERMINATOR threeTables.records) (lit "DFIES_TAB")) (lit "DFIES_TAB") =
      .ok [[1, 2, 3], [4, 5, 6]] ∧
    table_row_buffers bytesPlatform (slice_named_table
        (stream Tag.TERMINATOR threeTables.records) (lit "FIXED_VALUES")) (lit "FIXED_VALUES") =
      .ok [] ∧
    table_row_buffers bytesPlatform (slice_named_table
        (stream Tag.TERMINATOR threeTables.records) (lit "LINES")) (lit "LINES") =
      .ok [[7], [8, 9]] := by
  have hnames : packedTable.name = lit "DFIES_TAB" ∧ emptyTable.name = lit "FIXED_VALUES" ∧
      plainTable.name = lit "LINES" := by decide +kernel
  have hcarried : threeTables.Carried (stream Tag.TERMINATOR threeTables.records) := by
    have hfits : ∀ r ∈ threeTables.records, Fits Tag.TERMINATOR r := by decide +kernel
    have hwalk := walk_stream (by decide) hfits []
    rw [List.append_nil] at hwalk
    rw [Reply.Carried, hwalk]
  have hrows := table_isolated hcarried asciiTables fun _ => []
  rw [← hnames.1, ← hnames.2.1, ← hnames.2.2]
  exact ⟨hrows packedTable (by simp [threeTables]) _, hrows emptyTable (by simp [threeTables]) _,
    hrows plainTable (by simp [threeTables]) _⟩

/-- Two tables whose names differ in a blank at the end only. -/
def paddedReply : Bytes :=
  stream Tag.TERMINATOR (namedRows (lit "TAB") [[1, 2, 3]] ++ namedRows (lit "TAB ") [[4, 5, 6]])

/-- The name with the blank is not found, and by the other one the rows of its neighbour are. -/
theorem padded_name_mixed :
    (walk Tag.TERMINATOR paddedReply).records =
        namedRows (lit "TAB") [[1, 2, 3]] ++ namedRows (lit "TAB ") [[4, 5, 6]] ∧
      table_row_buffers bytesPlatform (slice_named_table paddedReply (lit "TAB")) (lit "TAB") =
        .ok [[4, 5, 6]] ∧
      table_row_buffers bytesPlatform (slice_named_table paddedReply (lit "TAB ")) (lit "TAB ") =
        .ok [] := by
  decide +kernel

end Runs

end SapRfc.Analysis.NamedTables
