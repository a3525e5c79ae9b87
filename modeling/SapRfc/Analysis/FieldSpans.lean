import SapRfc.Analysis.DecodingErrors

/-!
# Layouts that a server describes

Three builders make a layout out of the rows of a reply.  The one of `RFC_GET_STRUCTURE_DEFINITION`
ends the layout where its last field ends.  The one of nested `PARAMS` rows adds up the lengths, so
a gap between two fields pushes the last one out; and the one of `DDIF_FIELDINFO_GET` takes numbers
that may be negative.  A layout whose spans are inside decodes a buffer of its size without a span
error.
-/

set_option autoImplicit false

namespace SapRfc.Analysis.FieldSpans

open SapRfc.Library SapRfc.Program RowLayouts SpanBounds DecodingErrors

/-! ## Spans inside a layout -/

/-- The spans of the fields are inside the layout, and a structure in it ends inside the span that
it is decoded from. -/
structure Inside (type_desc : TypeDesc) : Prop where
  spans : ∀ f ∈ type_desc.fields,
    0 ≤ f.uc_offset ∧ f.uc_offset + f.uc_length ≤ type_desc.uc_size
  nested : ∀ f ∈ type_desc.fields, f.rfctype = RFCTYPE_STRUCTURE →
    ∀ inner, f.type_desc = some inner → ∀ g ∈ inner.fields, g.uc_offset + g.uc_length ≤ f.uc_length

/-- The spans are inside at every depth. -/
def WellFormed (type_desc : TypeDesc) : Prop := ∀ deep, Within type_desc deep → Inside deep

theorem wellFormed_iff (type_desc : TypeDesc) :
    WellFormed type_desc ↔ Inside type_desc ∧ ∀ f ∈ type_desc.fields,
      f.rfctype ∈ [RFCTYPE_STRUCTURE, RFCTYPE_TABLE] → ∀ inner, f.type_desc = some inner →
        WellFormed inner := by
  constructor
  · intro h
    exact ⟨h _ (.here _), fun f hf hnested inner hinner deep hdeep =>
      h deep (.field hf hnested hinner hdeep)⟩
  · rintro ⟨hinside, hfields⟩ deep hdeep
    cases hdeep with
    | here => exact hinside
    | field hf hnested hinner hdeep => exact hfields _ hf hnested _ hinner _ hdeep

/-- A layout without layouts in it. -/
theorem wellFormed_flat {type_desc : TypeDesc}
    (hflat : ∀ f ∈ type_desc.fields, f.type_desc = none) :
    WellFormed type_desc ↔ ∀ f ∈ type_desc.fields,
      0 ≤ f.uc_offset ∧ f.uc_offset + f.uc_length ≤ type_desc.uc_size := by
  rw [wellFormed_iff]
  constructor
  · exact fun h => h.1.spans
  · intro h
    refine ⟨⟨h, fun f hf _ inner hinner => ?_⟩, fun f hf _ inner hinner => ?_⟩
    · rw [hflat f hf] at hinner
      cases hinner
    · rw [hflat f hf] at hinner
      cases hinner

/-! ## Decoding inside the spans -/

/-- The error of a field whose span is not in the buffer. -/
def SpanError (exc : PyError) : Prop := exc.kind = .value ∧ lit "STRUCTURE field " <+: exc.text

/-- The scalar types raise no such error of their own. -/
def Quiet {L : Type} (s : Scalars L) : Prop :=
  ∀ rfctype data field exc, s.decode rfctype data field = .error exc → ¬ SpanError exc

/-- INTERNAL: none of the texts of the codec is the one of a span. -/
theorem leafTexts_no_span : ∀ start ∈ leafTexts, start ≠ [] ∧
    start.head? ≠ (lit "STRUCTURE field ").head? := by decide

/-- The scalar types of the source raise none, where the language has no such text for bytes that
are no text. -/
theorem quiet_leafScalars {u : Unicode} {k : Builtins}
    (hutf16 : ∀ data, ¬ lit "STRUCTURE field " <+: u.utf16Error data)
    (hutf16be : ∀ data, ¬ lit "STRUCTURE field " <+: k.utf16beError data)
    (hutf8 : ∀ data exc, k.utf8 data = .error exc → ¬ SpanError exc) : Quiet (leafScalars u k) := by
  intro rfctype data field exc hraised hspan
  cases raises_decode_leaf rfctype data field exc hraised with
  | said hstart text =>
    obtain ⟨hne, hhead⟩ := leafTexts_no_span _ hstart
    obtain ⟨rest, htext⟩ := hspan.2
    have hfirst := congrArg List.head? htext
    change (lit "STRUCTURE field " ++ rest).head? = (_ ++ text).head? at hfirst
    rw [List.head?_append_of_ne_nil _ (by decide), List.head?_append_of_ne_nil _ hne] at hfirst
    exact hhead hfirst.symm
  | @other kind hkind text =>
    obtain rfl : kind = .value := hspan.1
    exact absurd hkind (by decide)
  | utf16 data => exact hutf16 data hspan.2
  | utf16be data => exact hutf16be data hspan.2
  | utf8 hutf => exact hutf8 _ exc hutf hspan

section Decoding

variable {L : Type} {u : Unicode} {s : Scalars L}

/-- INTERNAL: a span that is inside holds as many bytes as it is long. -/
theorem le_length_pySlice {data : Bytes} {offset length : ℤ} (hoffset : 0 ≤ offset)
    (hinside : offset + length ≤ data.length) :
    length ≤ (pySlice data offset (offset + length)).length := by
  by_cases hnone : length ≤ 0
  · exact hnone.trans (Int.natCast_nonneg _)
  · unfold pySlice pyIndex
    rw [if_neg (not_lt.mpr hoffset), if_neg (by omega), length_slice]
    omega

/-- INTERNAL: a table raises what its rows raise, or that its rows have no width. -/
theorem table_rows_error {α : Type} {name : PyStr} {declared : ℤ}
    {dec_row : Bytes → Except PyError α} {data : Bytes} {exc : PyError}
    (h : table_rows u name declared dec_row data none = .error exc) :
    ¬ SpanError exc ∨ ∃ row : Bytes, (row.length : ℤ) = declared ∧ dec_row row = .error exc := by
  unfold table_rows at h
  split at h
  · cases h
  · change (if declared ≤ 0 then _ else _) = _ at h
    split at h
    · obtain rfl := Except.error.inj h
      refine .inl fun ⟨_, rest, htext⟩ => ?_
      have hfirst := congrArg List.head? htext
      rw [List.head?_append_of_ne_nil _ (by decide)] at hfirst
      change _ = (lit "TABLE row size must be positive, got " ++ _).head? at hfirst
      rw [List.head?_append_of_ne_nil _ (by decide)] at hfirst
      exact absurd hfirst (by decide)
    next hpositive =>
      obtain ⟨i, hi, hraised⟩ := mapM_error h
      refine .inr ⟨_, ?_, hraised⟩
      have hrange := List.mem_range.mp hi
      have hend : (i + 1) * declared.toNat ≤ data.length :=
        (Nat.mul_le_mul_right _ hrange).trans (Nat.div_mul_le_self _ _)
      unfold row_slice
      rw [length_slice]
      rw [Nat.succ_mul] at hend ⊢
      omega

/-- INTERNAL: the fields of a structure raise what one of them raises. -/
theorem fields_no_span_error {fields : List FieldDesc} {data : Bytes}
    (h : ∀ f ∈ fields, ∀ exc, s.decode_child u true f data = .error exc → ¬ SpanError exc)
    (result : List (PyStr × PyVal L)) {exc : PyError}
    (hraised : s.decode_fields u true fields data result = .error exc) : ¬ SpanError exc := by
  induction fields generalizing result with
  | nil => cases hraised
  | cons f fields ih =>
    change ((s.decode_child u true f data) >>= fun value =>
      s.decode_fields u true fields data (assocSet result f.name value)) = .error exc at hraised
    cases hchild : s.decode_child u true f data with
    | error exc' =>
      rw [hchild] at hraised
      obtain rfl : exc' = exc := Except.error.inj hraised
      exact h f List.mem_cons_self exc' hchild
    | ok value =>
      rw [hchild] at hraised
      exact ih (fun g hg => h g (List.mem_cons_of_mem _ hg)) _ hraised

/-- INTERNAL: a field that is inside raises no span error, if the layout in it does not. -/
theorem child_no_span_error (hquiet : Quiet s) {f : FieldDesc} {data : Bytes}
    (hoffset : 0 ≤ f.uc_offset) (hinside : f.uc_offset + f.uc_length ≤ data.length)
    (hstructure : f.rfctype = RFCTYPE_STRUCTURE → ∀ inner, f.type_desc = some inner →
      ∀ span : Bytes, f.uc_length ≤ span.length → ∀ exc,
        s.decode_structure u true inner span = .error exc → ¬ SpanError exc)
    (htable : f.rfctype = RFCTYPE_TABLE → ∀ inner, f.type_desc = some inner →
      ∀ row : Bytes, (row.length : ℤ) = inner.uc_size → ∀ exc,
        s.decode_structure u true inner row = .error exc → ¬ SpanError exc) {exc : PyError}
    (hraised : s.decode_child u true f data = .error exc) : ¬ SpanError exc := by
  have hmissing : ∀ child, ¬ SpanError (missing_type_desc u child "decode") :=
    fun child h => nomatch (show ErrKind.incompleteDescriptor = .value from h.1)
  have hchild : s.decode_child u true f data = decode_span u s true f
      (pySlice data f.uc_offset (f.uc_offset + f.uc_length)) := decode_child_inside hinside
  rw [hchild] at hraised
  have hspan := le_length_pySlice hoffset hinside
  unfold decode_span at hraised
  by_cases htype : f.rfctype = RFCTYPE_STRUCTURE
  · rw [if_pos htype] at hraised
    cases hinner : f.type_desc with
    | none =>
      rw [hinner] at hraised
      obtain rfl := Except.error.inj hraised
      exact hmissing _
    | some inner =>
      rw [hinner] at hraised
      exact hstructure htype inner hinner _ hspan exc hraised
  rw [if_neg htype] at hraised
  by_cases htype' : f.rfctype = RFCTYPE_TABLE
  · rw [if_pos htype'] at hraised
    cases hinner : f.type_desc with
    | none =>
      rw [hinner] at hraised
      obtain rfl := Except.error.inj hraised
      exact hmissing _
    | some inner =>
      rw [hinner] at hraised
      dsimp only at hraised
      cases hrows : table_rows u f.name (inner.row_size true)
          (fun row => s.decode_structure u true inner row)
          (pySlice data f.uc_offset (f.uc_offset + f.uc_length)) none with
      | ok rows =>
        rw [hrows] at hraised
        cases hraised
      | error exc' =>
        rw [hrows] at hraised
        obtain rfl : exc' = exc := Except.error.inj hraised
        obtain hnone | ⟨row, hwidth, hrow⟩ := table_rows_error hrows
        · exact hnone
        · exact htable htype' inner hinner row hwidth exc' hrow
  · rw [if_neg htype'] at hraised
    cases hscalar : s.decode f.rfctype
        (pySlice data f.uc_offset (f.uc_offset + f.uc_length)) (in_mode true f) with
    | ok a =>
      rw [hscalar] at hraised
      cases hraised
    | error exc' =>
      rw [hscalar] at hraised
      obtain rfl : exc' = exc := Except.error.inj hraised
      exact hquiet _ _ _ _ hscalar

/-- A buffer that reaches as far as the fields is decoded without a span error, where the layout
is well formed. -/
theorem decode_no_span_error (hquiet : Quiet s) {type_desc : TypeDesc} (h : WellFormed type_desc)
    {data : Bytes} (hreach : ∀ f ∈ type_desc.fields, f.uc_offset + f.uc_length ≤ data.length)
    {exc : PyError} (hraised : s.decode_structure u true type_desc data = .error exc) :
    ¬ SpanError exc := by
  -- by induction on the layout: the layouts in it raise none
  induction hn : sizeOf type_desc using Nat.strong_induction_on
    generalizing type_desc data exc with
  | _ n ih =>
    subst hn
    obtain ⟨hinside, hinner⟩ := (wellFormed_iff type_desc).mp h
    obtain ⟨name, fields, nuc_size, uc_size⟩ := type_desc
    change ((s.decode_fields u true fields data []) >>= fun entries =>
      .ok (PyVal.dict entries)) = .error exc at hraised
    cases hfields : s.decode_fields u true fields data [] with
    | ok entries =>
      rw [hfields] at hraised
      cases hraised
    | error exc' =>
      rw [hfields] at hraised
      obtain rfl : exc' = exc := Except.error.inj hraised
      refine fields_no_span_error (fun f hf exc hchild => ?_) [] hfields
      refine child_no_span_error hquiet (hinside.spans f hf).1 (hreach f hf) ?_ ?_ hchild
      · intro htype inner hsome span hspan exc hdecoded
        have hsmaller := @sizeOf_inner ⟨name, fields, nuc_size, uc_size⟩ inner f hf hsome
        exact ih _ hsmaller (hinner f hf (by simp [htype]) inner hsome)
          (fun g hg => (hinside.nested f hf htype inner hsome g hg).trans hspan) hdecoded rfl
      · intro htype inner hsome row hwidth exc hdecoded
        have hsmaller := @sizeOf_inner ⟨name, fields, nuc_size, uc_size⟩ inner f hf hsome
        have hwell := hinner f hf (by simp [htype]) inner hsome
        exact ih _ hsmaller hwell
          (fun g hg => ((hwell _ (.here _)).spans g hg).2.trans hwidth.ge) hdecoded rfl

end Decoding

/-! ## Nested rows -/

section Nested

variable {V : Type} (p : Platform V)

/-- The type that a row is given, if it can be read. -/
def row_type (row : ParamsRow) : Option ℕ :=
  (parse_params_row p row).toOption.map FieldDesc.rfctype

/-- The rows end inside the sum of their lengths, and the rows of a structure inside the length of
its own row. -/
structure RowsFit (nodes : List ParamsNode) : Prop where
  ends : ∀ n ∈ nodes, n.row.OFFSET + n.row.INTLENGTH ≤ (nodes.map (·.row.INTLENGTH)).sum
  nested : ∀ n ∈ nodes, row_type p n.row = some RFCTYPE_STRUCTURE →
    ∀ m ∈ n.fields, m.row.OFFSET + m.row.INTLENGTH ≤ n.row.INTLENGTH

/-- The row has rows of its own. -/
def Nests (n : ParamsNode) : Prop :=
  row_type p n.row = some RFCTYPE_STRUCTURE ∨ row_type p n.row = some RFCTYPE_TABLE

/-- Rows that stand below other rows, at any depth. -/
inductive Below : List ParamsNode → List ParamsNode → Prop where
  | here (nodes : List ParamsNode) : Below nodes nodes
  | field {nodes deep : List ParamsNode} {n : ParamsNode} (hn : n ∈ nodes) (hnests : Nests p n)
      (hdeep : Below n.fields deep) : Below nodes deep

/-- The rows fit at every depth. -/
def AllFit (nodes : List ParamsNode) : Prop := ∀ deep, Below p nodes deep → RowsFit p deep

/-- What a row is built to. -/
def Built (depth : ℕ) (n : ParamsNode) (f : FieldDesc) : Prop :=
  ∃ fd, parse_params_row p n.row = .ok fd ∧
    ((fd.rfctype ∈ [RFCTYPE_STRUCTURE, RFCTYPE_TABLE] ∧
        ∃ inner, build_fields p (depth + 1) n.fields = .ok inner ∧
          f = { fd with type_desc := some (type_desc_of fd.name inner) }) ∨
      (fd.rfctype ∉ [RFCTYPE_STRUCTURE, RFCTYPE_TABLE] ∧ f = fd))

variable {p}

theorem allFit_iff (nodes : List ParamsNode) :
    AllFit p nodes ↔ RowsFit p nodes ∧ ∀ n ∈ nodes, Nests p n → AllFit p n.fields := by
  constructor
  · intro h
    exact ⟨h _ (.here _), fun n hn hnests deep hdeep => h deep (.field hn hnests hdeep)⟩
  · rintro ⟨hfit, hfields⟩ deep hdeep
    cases hdeep with
    | here => exact hfit
    | field hn hnests hdeep => exact hfields _ hn hnests _ hdeep

/-- INTERNAL: what a row says of the field is in the field. -/
theorem parse_params_row_eq_ok {row : ParamsRow} {fd : FieldDesc}
    (h : parse_params_row p row = .ok fd) :
    fd.uc_offset = row.OFFSET ∧ fd.uc_length = row.INTLENGTH ∧ fd.type_desc = none := by
  unfold parse_params_row at h
  split at h
  · cases h
  · split at h
    · cases h
    · split at h
      · cases h
      · obtain rfl := Except.ok.inj h
        exact ⟨rfl, rfl, rfl⟩

/-- INTERNAL: one row. -/
theorem built_of_build_field {depth : ℕ} {n : ParamsNode} {f : FieldDesc}
    (h : build_field p depth n = .ok f) : Built p depth n f := by
  obtain ⟨row, children⟩ := n
  unfold build_field at h
  obtain ⟨fd, hfd, h⟩ := Eff.except_bind_eq_ok.mp h
  refine ⟨fd, hfd, ?_⟩
  split at h
  next hnested =>
    obtain ⟨_, -, h⟩ := Eff.except_bind_eq_ok.mp h
    obtain ⟨inner, hinner, h⟩ := Eff.except_bind_eq_ok.mp h
    exact .inl ⟨hnested, inner, hinner, (Except.ok.inj h).symm⟩
  next hflat => exact .inr ⟨hflat, (Except.ok.inj h).symm⟩

/-- INTERNAL: the rows, one by one. -/
theorem forall₂_built {depth : ℕ} {nodes : List ParamsNode} {fields : List FieldDesc}
    (h : build_fields p depth nodes = .ok fields) : List.Forall₂ (Built p depth) nodes fields := by
  induction nodes generalizing fields with
  | nil =>
    obtain rfl : [] = fields := Except.ok.inj h
    exact .nil
  | cons n nodes ih =>
    unfold build_fields at h
    obtain ⟨f, hf, h⟩ := Eff.except_bind_eq_ok.mp h
    obtain ⟨rest, hrest, h⟩ := Eff.except_bind_eq_ok.mp h
    obtain rfl := Except.ok.inj h
    exact .cons (built_of_build_field hf) (ih hrest)

/-- INTERNAL: what holds of all the fields is what holds of all the rows. -/
theorem forall_mem_iff {α β : Type} {R : α → β → Prop} {P : β → Prop} {Q : α → Prop} {l : List α}
    {l' : List β} (h : List.Forall₂ R l l') (hPQ : ∀ a ∈ l, ∀ b, R a b → (P b ↔ Q a)) :
    (∀ b ∈ l', P b) ↔ ∀ a ∈ l, Q a := by
  induction h with
  | nil => exact ⟨fun _ _ h => (List.not_mem_nil h).elim, fun _ _ h => (List.not_mem_nil h).elim⟩
  | cons hab _ ih =>
    rw [List.forall_mem_cons, List.forall_mem_cons, hPQ _ List.mem_cons_self _ hab,
      ih fun a ha => hPQ a (List.mem_cons_of_mem _ ha)]

/-- INTERNAL: a field ends where its row ends. -/
theorem Built.ends {depth : ℕ} {n : ParamsNode} {f : FieldDesc} (h : Built p depth n f) :
    f.uc_offset = n.row.OFFSET ∧ f.uc_length = n.row.INTLENGTH := by
  obtain ⟨fd, hfd, ⟨-, inner, -, rfl⟩ | ⟨-, rfl⟩⟩ := h
  · exact ⟨(parse_params_row_eq_ok hfd).1, (parse_params_row_eq_ok hfd).2.1⟩
  · exact ⟨(parse_params_row_eq_ok hfd).1, (parse_params_row_eq_ok hfd).2.1⟩

/-- INTERNAL: the size of the layout. -/
theorem sum_built {depth : ℕ} {nodes : List ParamsNode} {fields : List FieldDesc}
    (h : List.Forall₂ (Built p depth) nodes fields) :
    (fields.map FieldDesc.uc_length).sum = ((nodes.map (·.row.INTLENGTH)).sum : ℕ) := by
  induction h with
  | nil => rfl
  | cons hab _ ih =>
    rw [List.map_cons, List.map_cons, List.sum_cons, List.sum_cons, ih, hab.ends.2]
    push_cast
    rfl

/-- INTERNAL: a field is nested when its row is, and the layout in it is built from the rows below
its row. -/
theorem Built.nested {depth : ℕ} {n : ParamsNode} {f : FieldDesc} (h : Built p depth n f) :
    row_type p n.row = some f.rfctype ∧
      (∀ inner, f.type_desc = some inner →
        build_fields p (depth + 1) n.fields = .ok inner.fields ∧
          inner = type_desc_of inner.name inner.fields) ∧
      (f.rfctype ∈ [RFCTYPE_STRUCTURE, RFCTYPE_TABLE] → ∃ inner, f.type_desc = some inner) := by
  obtain ⟨fd, hfd, ⟨hnested, fields, hfields, rfl⟩ | ⟨hflat, rfl⟩⟩ := h
  · refine ⟨?_, fun inner hinner => ?_, fun _ => ⟨_, rfl⟩⟩
    · unfold row_type
      rw [hfd]
      rfl
    · obtain rfl := Option.some.inj hinner
      exact ⟨hfields, rfl⟩
  · refine ⟨?_, fun inner hinner => ?_, fun hnested => absurd hnested hflat⟩
    · unfold row_type
      rw [hfd]
      rfl
    · rw [(parse_params_row_eq_ok hfd).2.2] at hinner
      cases hinner

/-- INTERNAL: rows below a row are smaller. -/
theorem sizeOf_below {nodes : List ParamsNode} {n : ParamsNode} (hn : n ∈ nodes) :
    sizeOf n.fields < sizeOf nodes := by
  have hmem := List.sizeOf_lt_of_mem hn
  obtain ⟨row, fields⟩ := n
  simp only [ParamsNode.node.sizeOf_spec] at hmem
  simp only [ParamsNode.fields]
  omega

/-- INTERNAL: the spans of one level. -/
theorem inside_iff_rowsFit {depth : ℕ} {nodes : List ParamsNode} {fields : List FieldDesc}
    (h : List.Forall₂ (Built p depth) nodes fields) (name : PyStr) :
    Inside (type_desc_of name fields) ↔ RowsFit p nodes := by
  have hspans : (∀ f ∈ fields, 0 ≤ f.uc_offset ∧
      f.uc_offset + f.uc_length ≤ (type_desc_of name fields).uc_size) ↔
        ∀ n ∈ nodes, n.row.OFFSET + n.row.INTLENGTH ≤ (nodes.map (·.row.INTLENGTH)).sum := by
    refine forall_mem_iff h fun n _ f hf => ?_
    have hsize : (type_desc_of name fields).uc_size =
      ((nodes.map (·.row.INTLENGTH)).sum : ℕ) := sum_built h
    rw [hsize, hf.ends.1, hf.ends.2]
    omega
  have hnested : (∀ f ∈ fields, f.rfctype = RFCTYPE_STRUCTURE →
      ∀ inner, f.type_desc = some inner →
        ∀ g ∈ inner.fields, g.uc_offset + g.uc_length ≤ f.uc_length) ↔
      ∀ n ∈ nodes, row_type p n.row = some RFCTYPE_STRUCTURE →
        ∀ m ∈ n.fields, m.row.OFFSET + m.row.INTLENGTH ≤ n.row.INTLENGTH := by
    refine forall_mem_iff h fun n _ f hf => ?_
    obtain ⟨htype, hinner, hsome⟩ := hf.nested
    rw [htype, Option.some_inj]
    refine forall_congr' fun hstructure => ?_
    obtain ⟨inner, hdesc⟩ := hsome (by simp [hstructure])
    have hbelow : (∀ g ∈ inner.fields, g.uc_offset + g.uc_length ≤ f.uc_length) ↔
        ∀ m ∈ n.fields, m.row.OFFSET + m.row.INTLENGTH ≤ n.row.INTLENGTH := by
      refine forall_mem_iff (forall₂_built (hinner inner hdesc).1) fun m _ g hg => ?_
      rw [hf.ends.2, hg.ends.1, hg.ends.2]
      omega
    rw [← hbelow]
    constructor
    · exact fun hall => hall inner hdesc
    · intro hall inner' hdesc'
      obtain rfl := Option.some.inj (hdesc.symm.trans hdesc')
      exact hall
  exact ⟨fun hinside => ⟨hspans.mp hinside.spans, hnested.mp hinside.nested⟩,
    fun hfit => ⟨hspans.mpr hfit.ends, hnested.mpr hfit.nested⟩⟩

/-- A layout of nested rows is well formed exactly when the rows fit. -/
theorem wellFormed_built_iff {depth : ℕ} {nodes : List ParamsNode} {fields : List FieldDesc}
    (h : build_fields p depth nodes = .ok fields) (name : PyStr) :
    WellFormed (type_desc_of name fields) ↔ AllFit p nodes := by
  -- by induction on the rows: those below them
  induction hsize : sizeOf nodes using Nat.strong_induction_on
    generalizing depth nodes fields name with
  | _ size ih =>
    subst hsize
    have hbuilt := forall₂_built h
    have hdeeper : (∀ f ∈ fields, f.rfctype ∈ [RFCTYPE_STRUCTURE, RFCTYPE_TABLE] →
        ∀ inner, f.type_desc = some inner → WellFormed inner) ↔
          ∀ n ∈ nodes, Nests p n → AllFit p n.fields := by
      refine forall_mem_iff hbuilt fun n hn f hf => ?_
      obtain ⟨htype, hinner, hsome⟩ := hf.nested
      have hnests : f.rfctype ∈ [RFCTYPE_STRUCTURE, RFCTYPE_TABLE] ↔ Nests p n := by
        unfold Nests
        rw [htype, List.mem_cons, List.mem_singleton, Option.some_inj, Option.some_inj]
      rw [← hnests]
      refine forall_congr' fun hnested => ?_
      obtain ⟨inner, hdesc⟩ := hsome hnested
      have hwell : WellFormed inner ↔ AllFit p n.fields := by
        obtain ⟨hfields, heq⟩ := hinner inner hdesc
        rw [heq]
        exact ih _ (sizeOf_below hn) hfields inner.name rfl
      rw [← hwell]
      constructor
      · exact fun hall => hall inner hdesc
      · intro hall inner' hdesc'
        obtain rfl := Option.some.inj (hdesc.symm.trans hdesc')
        exact hall
    rw [wellFormed_iff, allFit_iff, inside_iff_rowsFit hbuilt name]
    exact and_congr_right' hdeeper

end Nested

/-! ## Rows of the dictionary -/

/-- INTERNAL: each number of a list is at most the largest. -/
theorem le_foldl_max {α : Type} (g : α → ℤ) {l : List α} {n : ℤ} :
    n ≤ l.foldl (fun n a => max n (g a)) n ∧
      ∀ a ∈ l, g a ≤ l.foldl (fun n a => max n (g a)) n := by
  induction l generalizing n with
  | nil => exact ⟨le_rfl, fun _ h => (List.not_mem_nil h).elim⟩
  | cons a l ih =>
    obtain ⟨hstart, hall⟩ := @ih (max n (g a))
    rw [List.foldl_cons, List.forall_mem_cons]
    exact ⟨(le_max_left _ _).trans hstart, (le_max_right _ _).trans hstart, hall⟩

section Dictionary

variable {V : Type} {p : Platform V}

/-- The rows of `RFC_GET_STRUCTURE_DEFINITION` always make a layout that is well formed. -/
theorem dfies_wellFormed {tabname : PyStr} {rows : List DfiesRow} {type_desc : TypeDesc}
    (h : build_type_desc_from_dfies p tabname rows = .ok type_desc) : WellFormed type_desc := by
  unfold build_type_desc_from_dfies at h
  split at h
  · cases h
  · obtain rfl := Except.ok.inj h
    have hfield : ∀ f ∈ (rows.insertionSort fun a b => a.position ≤ b.position).map dfies_field,
        f.type_desc = none ∧ 0 ≤ f.uc_offset := by
      intro f hf
      obtain ⟨row, -, rfl⟩ := List.mem_map.mp hf
      exact ⟨rfl, Int.natCast_nonneg _⟩
    refine (wellFormed_flat fun f hf => (hfield f hf).1).mpr fun f hf => ⟨(hfield f hf).2, ?_⟩
    exact (le_foldl_max fun f : FieldDesc => f.uc_offset + f.uc_length).2 f hf

/-- The width of a field in a Unicode layout. -/
def ddif_width (row : DdifRow) : ℤ :=
  if row.datatype ∈ DOUBLED_DATATYPES then row.leng * 2 else row.intlen

/-- The rows in the order of their positions. -/
def ddif_sorted (rows : List DdifRow) : List DdifRow :=
  rows.insertionSort fun a b => a.position ≤ b.position

/-- In a reply that counts bytes of Unicode text no offset is negative.  In any other reply the
widths before a row and those after it add up to no negative number. -/
def DdifFits (rows : List DdifRow) : Prop :=
  if ddif_unicode_reply (ddif_sorted rows) then ∀ row ∈ rows, 0 ≤ row.offset
  else ∀ before row after, ddif_sorted rows = before ++ row :: after →
    0 ≤ (before.map ddif_width).sum ∧ 0 ≤ (after.map ddif_width).sum

/-- The field that a row is built to, where the rows before it take `packed` bytes. -/
def DdifBuilt (unicode_reply : Bool) (packed : ℤ) (row : DdifRow) (f : FieldDesc) : Prop :=
  f.type_desc = none ∧ f.uc_length = ddif_width row ∧
    f.uc_offset = if unicode_reply then row.offset else packed

/-- INTERNAL: one row of the loop. -/
theorem ddif_field_eq (unicode_reply : Bool) (s : List FieldDesc × ℤ × ℤ × ℤ) (row : DdifRow) :
    ∃ f, DdifBuilt unicode_reply s.2.2.1 row f ∧
      (ddif_field unicode_reply s row).1 = s.1 ++ [f] ∧
      (ddif_field unicode_reply s row).2.2.1 = s.2.2.1 + ddif_width row ∧
      (ddif_field unicode_reply s row).2.2.2 = max s.2.2.2 (f.uc_offset + f.uc_length) :=
  ⟨_, ⟨rfl, rfl, rfl⟩, rfl, rfl, rfl⟩

/-- INTERNAL: the loop over the rows: the fields, the sum of the widths, and an end that no field
passes. -/
theorem ddif_fields (unicode_reply : Bool) {rows : List DdifRow}
    {s s' : List FieldDesc × ℤ × ℤ × ℤ} (h : rows.foldl (ddif_field unicode_reply) s = s') :
    ∃ fields, s'.1 = s.1 ++ fields ∧ s'.2.2.1 = s.2.2.1 + (rows.map ddif_width).sum ∧
      s.2.2.2 ≤ s'.2.2.2 ∧ (∀ f ∈ fields, f.uc_offset + f.uc_length ≤ s'.2.2.2) ∧
      (∀ before row after, rows = before ++ row :: after → ∃ f ∈ fields,
        DdifBuilt unicode_reply (s.2.2.1 + (before.map ddif_width).sum) row f) ∧
      ∀ f ∈ fields, ∃ before row after, rows = before ++ row :: after ∧
        DdifBuilt unicode_reply (s.2.2.1 + (before.map ddif_width).sum) row f := by
  induction rows generalizing s with
  | nil =>
    obtain rfl : s = s' := h
    exact ⟨[], (List.append_nil _).symm, by simp, le_rfl, nofun,
      fun before row after hsplit => by simp at hsplit, nofun⟩
  | cons row rows ih =>
    obtain ⟨f, hf, hfields, hpacked, hend⟩ := ddif_field_eq unicode_reply s row
    obtain ⟨fields, hall, hsum, hle, hends, hrow, hfield⟩ := ih h
    rw [hfields] at hall
    rw [hend] at hle
    rw [hpacked] at hsum hrow hfield
    refine ⟨f :: fields, by rw [hall, List.append_assoc]; rfl, ?_, (le_max_left _ _).trans hle,
      List.forall_mem_cons.mpr ⟨(le_max_right _ _).trans hle, hends⟩, ?_,
      List.forall_mem_cons.mpr ⟨⟨[], row, rows, rfl, by simpa using hf⟩, ?_⟩⟩
    · rw [hsum, List.map_cons, List.sum_cons, add_assoc]
    · intro before row' after hsplit
      cases before with
      | nil =>
        obtain ⟨rfl, rfl⟩ := List.cons.inj hsplit
        exact ⟨f, List.mem_cons_self, by simpa using hf⟩
      | cons first before =>
        obtain ⟨rfl, hrest⟩ := List.cons.inj hsplit
        obtain ⟨g, hg, hbuilt⟩ := hrow before row' after hrest
        refine ⟨g, List.mem_cons_of_mem _ hg, ?_⟩
        rw [List.map_cons, List.sum_cons, ← add_assoc]
        exact hbuilt
    · intro g hg
      obtain ⟨before, row', after, hrest, hbuilt⟩ := hfield g hg
      refine ⟨row :: before, row', after, by rw [hrest]; rfl, ?_⟩
      rw [List.map_cons, List.sum_cons, ← add_assoc]
      exact hbuilt

/-- The rows of `DDIF_FIELDINFO_GET` make a layout that is well formed exactly when they fit. -/
theorem ddif_wellFormed_iff {tabname : PyStr} {rows : List DdifRow} {type_desc : TypeDesc}
    (h : build_type_desc_from_ddif p tabname rows = .ok type_desc) :
    WellFormed type_desc ↔ DdifFits rows := by
  unfold build_type_desc_from_ddif at h
  split at h
  · cases h
  · obtain ⟨s', hs', hdesc⟩ : ∃ s', (ddif_sorted rows).foldl
        (ddif_field (ddif_unicode_reply (ddif_sorted rows))) ([], 0, 0, 0) = s' ∧
        type_desc = ⟨tabname, s'.1, s'.2.1,
          if ddif_unicode_reply (ddif_sorted rows) then s'.2.2.2 else s'.2.2.1⟩ :=
      ⟨_, rfl, (Except.ok.inj h).symm⟩
    obtain ⟨fields, hall, hsum, -, hends, hrow, hfield⟩ := ddif_fields _ hs'
    rw [List.nil_append] at hall
    rw [zero_add] at hsum
    rw [hall] at hdesc
    subst hdesc
    have hflat : ∀ f ∈ fields, f.type_desc = none := by
      intro f hf
      obtain ⟨_, _, _, -, hbuilt⟩ := hfield f hf
      exact hbuilt.1
    rw [wellFormed_flat hflat]
    have hmem : ∀ row, row ∈ ddif_sorted rows ↔ row ∈ rows := fun row =>
      List.mem_insertionSort fun a b : DdifRow => a.position ≤ b.position
    unfold DdifFits
    cases hreply : ddif_unicode_reply (ddif_sorted rows) with
    | true =>
      rw [hreply] at hrow hfield
      rw [if_pos rfl]
      constructor
      · intro hinside row hgiven
        obtain ⟨before, after, hsplit⟩ := List.append_of_mem ((hmem row).mpr hgiven)
        obtain ⟨f, hf, -, -, hoffset⟩ := hrow before row after hsplit
        have hstart := (hinside f hf).1
        rw [hoffset, if_pos rfl] at hstart
        exact hstart
      · intro hrows f hf
        obtain ⟨before, row, after, hsplit, -, -, hoffset⟩ := hfield f hf
        have hsorted : row ∈ ddif_sorted rows :=
          hsplit ▸ List.mem_append_right _ List.mem_cons_self
        refine ⟨?_, hends f hf⟩
        rw [hoffset, if_pos rfl]
        exact hrows row ((hmem row).mp hsorted)
    | false =>
      have htotal : ∀ before row after, ddif_sorted rows = before ++ row :: after →
          s'.2.2.1 = (before.map ddif_width).sum + ddif_width row + (after.map ddif_width).sum := by
        intro before row after hsplit
        rw [hsum, hsplit, List.map_append, List.sum_append, List.map_cons, List.sum_cons, add_assoc]
      rw [hreply] at hrow hfield
      rw [if_neg Bool.false_ne_true, if_neg Bool.false_ne_true]
      constructor
      · intro hinside before row after hsplit
        obtain ⟨f, hf, -, hlength, hoffset⟩ := hrow before row after hsplit
        have hspan := hinside f hf
        rw [hoffset, hlength, if_neg Bool.false_ne_true, zero_add,
          htotal before row after hsplit] at hspan
        dsimp only at hspan
        omega
      · intro hsums f hf
        obtain ⟨before, row, after, hsplit, -, hlength, hoffset⟩ := hfield f hf
        have hpacked := hsums before row after hsplit
        rw [hoffset, hlength, if_neg Bool.false_ne_true, zero_add, htotal before row after hsplit]
        dsimp only
        omega

/-- What the three builders make of the rows of a reply is well formed: always for the rows of
`RFC_GET_STRUCTURE_DEFINITION`, and exactly when they fit for the other two.  A layout that is well
formed decodes every buffer of its size without a span error. -/
theorem described_layouts_wellFormed_iff (p : Platform V) :
    (∀ name nodes type_desc, build_type_desc p 0 name nodes = .ok type_desc →
      (WellFormed type_desc ↔ AllFit p nodes)) ∧
    (∀ tabname rows type_desc, build_type_desc_from_dfies p tabname rows = .ok type_desc →
      WellFormed type_desc) ∧
    (∀ tabname rows type_desc, build_type_desc_from_ddif p tabname rows = .ok type_desc →
      (WellFormed type_desc ↔ DdifFits rows)) ∧
    ∀ (L : Type) (s : Scalars L) (type_desc : TypeDesc), Quiet s → WellFormed type_desc →
      ∀ data : Bytes, (data.length : ℤ) = type_desc.uc_size → ∀ exc,
        s.decode_structure p.u true type_desc data = .error exc → ¬ SpanError exc := by
  refine ⟨fun name nodes type_desc h => ?_, fun tabname rows type_desc h => dfies_wellFormed h,
    fun tabname rows type_desc h => ddif_wellFormed_iff h,
    fun L s type_desc hquiet hwell data hsize exc hraised =>
      decode_no_span_error hquiet hwell (fun f hf => ?_) hraised⟩
  · unfold build_type_desc at h
    obtain ⟨_, -, h⟩ := Eff.except_bind_eq_ok.mp h
    obtain ⟨fields, hfields, h⟩ := Eff.except_bind_eq_ok.mp h
    obtain rfl := Except.ok.inj h
    exact wellFormed_built_iff hfields name
  · exact ((hwell _ (.here _)).spans f hf).2.trans hsize.ge

end Dictionary

/-! ## A flag and a number behind a gap -/

/-- A row of an importing parameter. -/
def plainRow (name exid : String) (offset length : ℕ) : ParamsRow where
  PARAMCLASS := lit "I"
  PARAMETER := lit name
  TABNAME := []
  FIELDNAME := []
  EXID := lit exid
  POSITION := 0
  OFFSET := offset
  INTLENGTH := length
  DECIMALS := 0
  DEFAULT := []
  PARAMTEXT := []
  OPTIONAL := []

def packedRows : List ParamsNode :=
  [.node (plainRow "FLAG" "C" 0 2) [], .node (plainRow "COUNT" "X" 2 4) []]

/-- The number begins at a multiple of four. -/
def alignedRows : List ParamsNode :=
  [.node (plainRow "FLAG" "C" 0 2) [], .node (plainRow "COUNT" "X" 4 4) []]

/-- INTERNAL: rows without rows below them. -/
theorem allFit_flat {p : Platform Bytes} {nodes : List ParamsNode}
    (hflat : ∀ n ∈ nodes, n.fields = []) :
    AllFit p nodes ↔
      ∀ n ∈ nodes, n.row.OFFSET + n.row.INTLENGTH ≤ (nodes.map (·.row.INTLENGTH)).sum := by
  constructor
  · exact fun h => (h _ (.here _)).ends
  · intro hends deep hdeep
    cases hdeep with
    | here =>
      refine ⟨hends, fun n hn _ m hm => ?_⟩
      rw [hflat n hn] at hm
      exact (List.not_mem_nil hm).elim
    | field hn hnests hdeep =>
      rw [hflat _ hn] at hdeep
      cases hdeep with
      | here => exact ⟨nofun, nofun⟩
      | field hn _ _ => exact (List.not_mem_nil hn).elim

theorem described_layouts_wellFormed_packed :
    ∃ type_desc, build_type_desc plainPlatform 0 (lit "ROOT") packedRows = .ok type_desc ∧
      WellFormed type_desc := by
  refine ⟨_, rfl, ((described_layouts_wellFormed_iff plainPlatform).1 (lit "ROOT") packedRows _
    rfl).mpr ((allFit_flat ?_).mpr ?_)⟩
  · show ∀ n ∈ packedRows, n.fields = []
    simp [packedRows, ParamsNode.fields]
  · show ∀ n ∈ packedRows, _
    simp [packedRows, ParamsNode.row, plainRow]

/-- The layout has six bytes, and its second field ends at the eighth. -/
theorem aligned_rows_overrun :
    ∃ type_desc, build_type_desc plainPlatform 0 (lit "ROOT") alignedRows = .ok type_desc ∧
      type_desc.uc_size = 6 ∧ ¬ WellFormed type_desc ∧
      ∃ exc, byteScalars.decode_structure asciiTables true type_desc (List.replicate 6 0) =
        .error exc ∧ SpanError exc := by
  refine ⟨_, rfl, rfl, fun h => ?_, _, rfl, rfl, _, rfl⟩
  have hinside := h _ (.here _)
  have hlast := (hinside.spans _ (List.mem_cons_of_mem _ List.mem_cons_self)).2
  exact absurd hlast (by decide)

end SapRfc.Analysis.FieldSpans
