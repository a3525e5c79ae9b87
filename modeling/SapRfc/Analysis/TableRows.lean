import SapRfc.Program.Codec

/-!
# Rows of a table

Rows of one width are decoded one by one: with their number the width is measured, and
without it the declared width has to be theirs.  Rows that are counted are the pieces of
their buffer, or none of them is decoded.
-/

set_option autoImplicit false

namespace SapRfc.Analysis.TableRows

open SapRfc.Library SapRfc.Program

variable {α : Type} {u : Unicode} {name : PyStr} {dec_row : Bytes → Except PyError α}

/-- INTERNAL: a program for each number below a bound is one for each row. -/
theorem mapM_range {rows : List Bytes} {f : ℕ → Bytes} (h : (List.range rows.length).map f = rows) :
    (List.range rows.length).mapM (fun i => dec_row (f i)) = rows.mapM dec_row := by
  conv_rhs => rw [← h, List.mapM_map]
  rfl

/-- Rows of one width are cut out of what they are joined to. -/
theorem row_slices_flatten {w : ℤ} {rows : List Bytes} (h : ∀ row ∈ rows, (row.length : ℤ) = w) :
    (List.range rows.length).map (row_slice rows.flatten w) = rows := by
  have hw : ∀ row ∈ rows, row.length = w.toNat := fun row hrow => by
    have := h row hrow
    omega
  exact slices_flatten hw

/-- INTERNAL: the rows that a width cuts out. -/
theorem mapM_row_slices {w : ℕ} (hw : 0 < w) {rows : List Bytes}
    (h : ∀ row ∈ rows, row.length = w) :
    (List.range (rows.flatten.length / w)).mapM (fun i => dec_row (row_slice rows.flatten w i)) =
      rows.mapM dec_row := by
  rw [length_flatten_of_width h, Nat.mul_div_cancel _ hw]
  exact mapM_range (row_slices_flatten fun row hrow => by rw [h row hrow])

/-- Rows of the declared width. -/
theorem table_rows_declared {w : ℕ} (hw : 0 < w) {rows : List Bytes}
    (h : ∀ row ∈ rows, row.length = w) :
    table_rows u name w dec_row rows.flatten none = rows.mapM dec_row := by
  unfold table_rows
  by_cases hempty : rows.flatten = []
  · have hnone : rows = [] := by
      cases rows with
      | nil => rfl
      | cons row rows =>
        have hrow := h row List.mem_cons_self
        rw [List.flatten_cons, List.append_eq_nil_iff] at hempty
        rw [hempty.1, List.length_nil] at hrow
        omega
    rw [if_pos ⟨rfl, hempty⟩, hnone]
    rfl
  · have hpositive : ¬ (w : ℤ) ≤ 0 := by omega
    rw [if_neg fun h => hempty h.2]
    show (if (w : ℤ) ≤ 0 then _ else _) = _
    rw [if_neg hpositive]
    exact mapM_row_slices hw h

/-- The width of rows that are counted. -/
theorem table_row_size_counted {n w : ℕ} (hn : 0 < n) {declared : ℤ} (hdeclared : declared ≤ w) :
    table_row_size u name declared (n * w) (some n) = .ok w := by
  obtain ⟨m, rfl⟩ := Nat.exists_eq_add_one_of_ne_zero hn.ne'
  have hmod : ¬ (m + 1) * w % (m + 1) ≠ 0 := not_not.mpr (Nat.mul_mod_right _ _)
  unfold table_row_size
  dsimp only
  rw [if_neg hmod, Nat.mul_div_cancel_left _ hn, if_neg (by omega)]

/-- Rows that are counted. -/
theorem table_rows_counted {w : ℕ} (hw : 0 < w) {declared : ℤ} (hdeclared : declared ≤ w)
    {rows : List Bytes} (hne : rows ≠ []) (h : ∀ row ∈ rows, row.length = w) :
    table_rows u name declared dec_row rows.flatten (some rows.length) = rows.mapM dec_row := by
  have hcount : 0 < rows.length := List.length_pos_iff.mpr hne
  have hrow_size : table_row_size u name declared rows.flatten.length (some rows.length) =
      .ok w := by
    rw [length_flatten_of_width h]
    exact table_row_size_counted hcount hdeclared
  have hpositive : ¬ (w : ℤ) ≤ 0 := by omega
  unfold table_rows
  rw [if_neg fun h => hcount.ne' h.1, hrow_size]
  show (if (w : ℤ) ≤ 0 then _ else _) = _
  rw [if_neg hpositive]
  exact mapM_row_slices hw h

/-! ## Rows that are wider than declared -/

/-- As many rows of the declared width as there are, and each decoded as the row in its place. -/
def SplitAlike (dec_row : Bytes → Except PyError α) (rows : List Bytes) (w : ℕ) (declared : ℤ) :
    Prop :=
  (rows.length : ℤ) * (w - declared) < declared ∧
    ∀ i (h : i < rows.length), dec_row (row_slice rows.flatten declared i) = dec_row rows[i]

/-- Rows of the declared width are split as they are. -/
theorem splitAlike_declared {w : ℕ} (hw : 0 < w) {rows : List Bytes}
    (h : ∀ row ∈ rows, row.length = w) : SplitAlike dec_row rows w w := by
  constructor
  · rw [sub_self, mul_zero]
    omega
  · intro i hi
    have hslices := row_slices_flatten (w := (w : ℤ)) fun row hrow => by rw [h row hrow]
    have hget : row_slice rows.flatten w i = rows[i] := by
      have hi' : i < ((List.range rows.length).map (row_slice rows.flatten w)).length := by
        rw [List.length_map, List.length_range]
        exact hi
      have hrow : ((List.range rows.length).map (row_slice rows.flatten w))[i] =
          row_slice rows.flatten w i := by
        rw [List.getElem_map, List.getElem_range]
      rw [← hrow]
      exact List.getElem_of_eq hslices hi'
    rw [hget]

/-- INTERNAL: the number of rows at another width. -/
theorem div_eq_iff {n w d : ℕ} (hd : 0 < d) (hle : d ≤ w) :
    n * w / d = n ↔ (n : ℤ) * (w - d) < d := by
  have hsub : (n : ℤ) * (w - d) = ((n * w : ℕ) : ℤ) - ((n * d : ℕ) : ℤ) := by
    push_cast
    ring
  have hmul : n * d ≤ n * w := Nat.mul_le_mul_left n hle
  rw [Nat.div_eq_iff hd, hsub]
  omega

/-- INTERNAL: rows that are decoded take some bytes. -/
theorem pos_of_counted {w : ℕ} {declared : ℤ} (hdeclared : declared ≤ w) {rows : List Bytes}
    (hne : rows ≠ []) (h : ∀ row ∈ rows, row.length = w) {values : List α}
    (hcounted : table_rows u name declared dec_row rows.flatten (some rows.length) = .ok values) :
    0 < w := by
  have hcount : 0 < rows.length := List.length_pos_iff.mpr hne
  by_contra hzero
  have hrow_size : table_row_size u name declared rows.flatten.length (some rows.length) =
      .ok w := by
    rw [length_flatten_of_width h]
    exact table_row_size_counted hcount hdeclared
  unfold table_rows at hcounted
  rw [if_neg fun hnone => hcount.ne' hnone.1, hrow_size] at hcounted
  change (if (w : ℤ) ≤ 0 then _ else _) = Except.ok values at hcounted
  rw [if_pos (by omega)] at hcounted
  cases hcounted

/-- Counted rows are split alike without their number exactly when this is so. -/
theorem table_rows_uncounted_iff {w : ℕ} {declared : ℤ} (hdeclared : declared ≤ w)
    {rows : List Bytes} (hne : rows ≠ []) (h : ∀ row ∈ rows, row.length = w) {values : List α}
    (hcounted : table_rows u name declared dec_row rows.flatten (some rows.length) = .ok values) :
    table_rows u name declared dec_row rows.flatten none = .ok values ↔
      SplitAlike dec_row rows w declared := by
  have hcount : 0 < rows.length := List.length_pos_iff.mpr hne
  have hlength := length_flatten_of_width h
  have hw := pos_of_counted hdeclared hne h hcounted
  rw [table_rows_counted hw hdeclared hne h] at hcounted
  obtain ⟨hvalues, hall⟩ := Eff.except_mapM_eq_ok.mp hcounted
  have hsome : rows.flatten ≠ [] := by
    intro hnil
    rw [hnil, List.length_nil] at hlength
    have := Nat.mul_pos hcount hw
    omega
  have hstart : table_rows u name declared dec_row rows.flatten none =
      if declared ≤ 0 then
        .error (err .value (lit "TABLE row size must be positive, got " ++ lit (toString declared)))
      else (List.range (rows.flatten.length / declared.toNat)).mapM fun i =>
        dec_row (row_slice rows.flatten declared i) := by
    unfold table_rows
    rw [if_neg fun hnone => hsome hnone.2]
    rfl
  rw [hstart]
  by_cases hpositive : declared ≤ 0
  · rw [if_pos hpositive]
    refine ⟨nofun, fun ⟨hlt, _⟩ => absurd hlt ?_⟩
    have : (0 : ℤ) ≤ rows.length * (w - declared) :=
      mul_nonneg (Int.natCast_nonneg _) (sub_nonneg.mpr hdeclared)
    omega
  · obtain ⟨d, rfl⟩ := Int.eq_ofNat_of_zero_le (not_le.mp hpositive).le
    rw [if_neg hpositive, Int.toNat_natCast, hlength, Eff.except_mapM_eq_ok]
    unfold SplitAlike
    rw [← div_eq_iff (by omega) (by omega)]
    constructor
    · rintro ⟨hrange, heach⟩
      have hnumber := hrange
      rw [List.length_range] at hnumber
      refine ⟨hnumber.trans hvalues.symm, fun i hi => ?_⟩
      have hi' : i < values.length := hvalues ▸ hi
      have hrow := heach i (hrange ▸ hi') hi'
      rw [List.getElem_range] at hrow
      exact hrow.trans (hall i hi hi').symm
    · rintro ⟨hnumber, heach⟩
      refine ⟨by rw [List.length_range, hnumber, hvalues], fun i hi hi' => ?_⟩
      rw [List.getElem_range, heach i (hvalues ▸ hi')]
      exact hall i (hvalues ▸ hi') hi'

/-! ## The pieces of a buffer -/

/-- Consecutive pieces of one width, the declared one at least, that make up a buffer. -/
structure Partition (data : Bytes) (declared : ℤ) (pieces : List Bytes) : Prop where
  covers : pieces.flatten = data
  equal : ∃ w : ℕ, declared ≤ w ∧ ∀ piece ∈ pieces, piece.length = w

/-- A buffer is made up of the slices of one width that fill it. -/
theorem partition_row_slices {data : Bytes} {n w : ℕ} (hlength : n * w = data.length) {declared : ℤ}
    (hdeclared : declared ≤ w) :
    Partition data declared ((List.range n).map (row_slice data w)) := by
  refine ⟨?_, w, hdeclared, fun piece hpiece => ?_⟩
  · show ((List.range n).map fun i => slice data (i * w) ((i + 1) * w)).flatten = data
    rw [flatten_slices, hlength, List.take_length]
  · obtain ⟨i, hi, rfl⟩ := List.mem_map.mp hpiece
    have hend : (i + 1) * w ≤ data.length :=
      (Nat.mul_le_mul_right _ (List.mem_range.mp hi)).trans hlength.le
    unfold row_slice
    rw [length_slice, Int.toNat_natCast]
    rw [Nat.succ_mul] at hend ⊢
    omega

/-- The width of counted rows is measured, or it is refused. -/
theorem table_row_size_measured {n : ℕ} (hn : 0 < n) (declared : ℤ) (length : ℕ) :
    (n ∣ length ∧ declared ≤ (length / n : ℕ) ∧
      table_row_size u name declared length (some n) = .ok (length / n : ℕ)) ∨
    (¬ (n ∣ length ∧ declared ≤ (length / n : ℕ)) ∧
      ∃ text, table_row_size u name declared length (some n) = .error (err .value text)) := by
  obtain ⟨m, rfl⟩ := Nat.exists_eq_add_one_of_ne_zero hn.ne'
  unfold table_row_size
  dsimp only
  by_cases hmod : length % (m + 1) = 0
  · have hdivides : m + 1 ∣ length := Nat.dvd_of_mod_eq_zero hmod
    rw [if_neg (not_not.mpr hmod)]
    by_cases hnarrow : ((length / (m + 1) : ℕ) : ℤ) < declared
    · rw [if_pos hnarrow]
      exact .inr ⟨fun h => absurd hnarrow (not_lt.mpr h.2), _, rfl⟩
    · rw [if_neg hnarrow]
      exact .inl ⟨hdivides, not_lt.mp hnarrow, rfl⟩
  · rw [if_pos hmod]
    exact .inr ⟨fun h => hmod (Nat.mod_eq_zero_of_dvd h.1), _, rfl⟩

/-- Counted rows are decoded out of the pieces of their buffer, or they are refused. -/
theorem table_rows_measured {n : ℕ} (hn : 0 < n) {declared : ℤ} (hpositive : 0 < declared)
    (data : Bytes) :
    (n ∣ data.length ∧ declared ≤ (data.length / n : ℕ) ∧
      table_rows u name declared dec_row data (some n) =
        ((List.range n).map (row_slice data (data.length / n : ℕ))).mapM dec_row) ∨
    (¬ (n ∣ data.length ∧ declared ≤ (data.length / n : ℕ)) ∧
      ∃ text, table_rows u name declared dec_row data (some n) = .error (err .value text)) := by
  unfold table_rows
  rw [if_neg fun h => hn.ne' h.1]
  obtain ⟨hdivides, hdeclared, hsize⟩ | ⟨hnot, text, hsize⟩ :=
    @table_row_size_measured u name n hn declared data.length
  · left
    have hwidth : 0 < data.length / n := by omega
    have hnumber : data.length / (data.length / n) = n := by
      rw [Nat.div_eq_iff_eq_mul_left hwidth (Nat.div_dvd_of_dvd hdivides)]
      exact (Nat.mul_div_cancel' hdivides).symm
    refine ⟨hdivides, hdeclared, ?_⟩
    rw [hsize]
    show (if ((data.length / n : ℕ) : ℤ) ≤ 0 then _ else _) = _
    rw [if_neg (by omega), Int.toNat_natCast, hnumber, List.mapM_map]
    rfl
  · right
    refine ⟨hnot, text, ?_⟩
    rw [hsize]
    rfl

/-- A table is decoded row by row. -/
theorem decode_table {L : Type} {s : Scalars L} {field : FieldDesc} {type_desc : TypeDesc}
    (hfield : field.type_desc = some type_desc) (data : Bytes) (row_count : Option ℕ) :
    s.decode_value u RFCTYPE_TABLE data field row_count =
      (table_rows u field.name (type_desc.row_size field.unicode_mode)
        (s.decode_structure u field.unicode_mode type_desc) data row_count).map .list := by
  have hstructure : RFCTYPE_TABLE ≠ RFCTYPE_STRUCTURE := by decide
  unfold Scalars.decode_value
  rw [if_neg hstructure, if_pos rfl, hfield]
  dsimp only
  cases table_rows u field.name (type_desc.row_size field.unicode_mode)
    (s.decode_structure u field.unicode_mode type_desc) data row_count <;> rfl

/-- A table with `n` rows raises, or it gives the rows of `n` pieces that make up its buffer; and
a buffer without such pieces raises a `ValueError`. -/
theorem rows_partition_buffer {L : Type} (u : Unicode) (s : Scalars L) (field : FieldDesc)
    (type_desc : TypeDesc) (hfield : field.type_desc = some type_desc)
    (hpositive : 0 < type_desc.row_size field.unicode_mode) (data : Bytes) (n : ℕ) (hn : 0 < n) :
    ((∃ exc, s.decode_value u RFCTYPE_TABLE data field (some n) = .error exc) ∨
      ∃ pieces rows, s.decode_value u RFCTYPE_TABLE data field (some n) = .ok (.list rows) ∧
        pieces.length = n ∧ rows.length = n ∧
        Partition data (type_desc.row_size field.unicode_mode) pieces ∧
        ∀ (i : ℕ) (piece : Bytes), pieces[i]? = some piece →
          ∃ row, rows[i]? = some row ∧
            s.decode_structure u field.unicode_mode type_desc piece = .ok row) ∧
    (data.length % n ≠ 0 ∨
        ((data.length / n : ℕ) : ℤ) < type_desc.row_size field.unicode_mode →
      ∃ exc, s.decode_value u RFCTYPE_TABLE data field (some n) = .error exc ∧
        exc.kind = .value) := by
  rw [decode_table hfield]
  obtain ⟨hdivides, hdeclared, hrows⟩ | ⟨hnot, text, hrows⟩ :=
    @table_rows_measured (PyVal L) u field.name
      (s.decode_structure u field.unicode_mode type_desc) n hn _ hpositive data
  · rw [hrows]
    constructor
    · set pieces := (List.range n).map (row_slice data (data.length / n : ℕ)) with hpieces
      have hnumber : pieces.length = n := by rw [hpieces, List.length_map, List.length_range]
      cases hdecoded : pieces.mapM (s.decode_structure u field.unicode_mode type_desc) with
      | error exc => exact .inl ⟨exc, rfl⟩
      | ok rows =>
        obtain ⟨hlength, heach⟩ := Eff.except_mapM_eq_ok.mp hdecoded
        refine .inr ⟨pieces, rows, rfl, hnumber, hlength.symm.trans hnumber,
          partition_row_slices (Nat.mul_div_cancel' hdivides) hdeclared, fun i piece hpiece => ?_⟩
        obtain ⟨hi, rfl⟩ := List.getElem?_eq_some_iff.mp hpiece
        have hi' : i < rows.length := hlength ▸ hi
        exact ⟨rows[i], List.getElem?_eq_getElem hi', heach i hi hi'⟩
    · rintro (hmod | hnarrow)
      · exact absurd (Nat.mod_eq_zero_of_dvd hdivides) hmod
      · exact absurd hnarrow (not_lt.mpr hdeclared)
  · rw [hrows]
    exact ⟨.inl ⟨_, rfl⟩, fun _ => ⟨_, rfl, rfl⟩⟩

/-- A table of rows with two bytes. -/
def pairTable : FieldDesc where
  name := lit "PAIRS"
  rfctype := RFCTYPE_TABLE
  nuc_length := 0
  nuc_offset := 0
  uc_length := 0
  uc_offset := 0
  decimals := 0
  type_desc := some ⟨lit "PAIR",
    [⟨lit "A", RFCTYPE_BYTE, 1, 0, 1, 0, 0, true, none, 1, false, none, none⟩,
      ⟨lit "B", RFCTYPE_BYTE, 1, 1, 1, 1, 0, true, none, 1, false, none, none⟩], 2, 2⟩

/-- Two rows that are sent with three bytes each. -/
theorem rows_partition_buffer_padded :
    ∃ pieces rows, byteScalars.decode_value asciiTables RFCTYPE_TABLE [1, 2, 0, 3, 4, 0] pairTable
        (some 2) = .ok (.list rows) ∧
      rows.length = 2 ∧ pieces.length = 2 ∧ Partition [1, 2, 0, 3, 4, 0] 2 pieces := by
  have hdecoded : byteScalars.decode_value asciiTables RFCTYPE_TABLE [1, 2, 0, 3, 4, 0] pairTable
      (some 2) = .ok (.list [.dict [(lit "A", .leaf [1]), (lit "B", .leaf [2])],
        .dict [(lit "A", .leaf [3]), (lit "B", .leaf [4])]]) := by
    decide +kernel
  obtain ⟨exc, hraised⟩ | ⟨pieces, rows, hrows, hpieces, hnumber, hpartition, -⟩ :=
    (rows_partition_buffer asciiTables byteScalars pairTable _ rfl (by decide) [1, 2, 0, 3, 4, 0] 2
      (by decide)).1
  · rw [hdecoded] at hraised
    cases hraised
  · exact ⟨pieces, rows, hrows, hnumber, hpieces, hpartition⟩

end SapRfc.Analysis.TableRows
