import SapRfc.Analysis.SpanBounds
import SapRfc.Program.Connection

/-!
# What decoding raises

The readers of a reply raise errors of their own: a record that ends too early, a row that does not
divide, a stream that cannot be decompressed, a field outside its row.  None of them is an error of
the server, and none of them goes through the guard of a call unseen.  What a scalar type raises is
up to its codec; for the codec of the source it is one of a few texts, or what the language raises
for text that it cannot read.
-/

set_option autoImplicit false

namespace SapRfc.Analysis.DecodingErrors

open SapRfc.Library SapRfc.Program Eff

/-! ## Records -/

section Pairs

variable {V : Type} {codec : Codec V} {E : PyError → Prop}

/-- INTERNAL: a table that is flushed raises what its decompressor raises. -/
theorem raises_flushed (h : ∀ chunks name, Raises E (codec.decompress chunks name))
    (s : PairState) : Raises E (s.flushed codec) := by
  unfold PairState.flushed
  split
  · refine Raises.bind ?_ fun _ => Raises.ok _
    unfold PairState.payload
    exact Raises.ite _ (Raises.ok _) (h _ _)
  · exact Raises.ok _

/-- One record raises what the decompressor raises. -/
theorem raises_pair_record (h : ∀ chunks name, Raises E (codec.decompress chunks name))
    (dm : List (ℕ × PyStr)) (s : PairState) (r : ℕ × Bytes) :
    Raises E (pair_record codec dm s r) := by
  have hflushed : ∀ f : List (PyStr × Bytes) → PairState,
      Raises E (s.flushed codec >>= fun pairs => .ok (f pairs)) := fun f =>
    Raises.bind (raises_flushed h s) fun pairs => Raises.ok (f pairs)
  have hnothing : ∀ s' : PairState, Raises E (.ok s') := Raises.ok
  unfold pair_record
  dsimp only
  refine Raises.ite _ ?name (Raises.ite _ (hnothing _) (Raises.ite _ (hflushed _)
    (Raises.ite _ (hnothing _) (Raises.ite _ ?xml (Raises.ite _ ?counted (Raises.ite _ (hnothing _)
      (Raises.ite _ (hnothing _) (Raises.ite _ (hflushed _) (Raises.ite _ (hflushed _)
        (hnothing _))))))))))
  case name =>
    split
    · exact hflushed _
    · exact hnothing _
  case xml =>
    split
    · exact hnothing _
    · split
      · exact hnothing _
      · exact hnothing _
  case counted =>
    split
    · exact Raises.ite _ (hnothing _) (hnothing _)
    · exact hnothing _

/-- The reader of pairs raises what the decompressor raises, or that a record ends too early. -/
theorem raises_extract_named_values (h : ∀ chunks name, Raises E (codec.decompress chunks name))
    (hmalformed : ∀ text, E (err .value text)) (data : Bytes) (dm : List (ℕ × PyStr)) :
    Raises E (extract_named_values codec data dm) := by
  unfold extract_named_values
  refine Raises.bind (Raises.foldlM (fun s r _ => raises_pair_record h dm s r) _) fun s => ?_
  split
  · exact Raises.error (hmalformed _)
  · exact Raises.error (hmalformed _)
  · exact Raises.bind (raises_flushed h s) fun _ => Raises.ok _

end Pairs

/-! ## Layouts -/

section Layouts

variable {L : Type} {u : Unicode} {s : Scalars L} {E : PyError → Prop}

/-- What the readers of a layout raise on their own: a `ValueError`, or that a layout is missing. -/
structure Permits (E : PyError → Prop) : Prop where
  value : ∀ text, E (err .value text)
  incomplete : ∀ text, E (err .incompleteDescriptor text)

/-- INTERNAL: the rows of a table raise what one of them raises, or that they have no width. -/
theorem raises_table_rows {α : Type} (hE : Permits E) {dec_row : Bytes → Except PyError α}
    (hrow : ∀ row, Raises E (dec_row row)) (name : PyStr) (declared : ℤ) (data : Bytes)
    (row_count : Option ℕ) : Raises E (table_rows u name declared dec_row data row_count) := by
  have hsize : Raises E (table_row_size u name declared data.length row_count) := by
    unfold table_row_size
    split
    · exact Raises.ite _ (Raises.error (hE.value _)) (Raises.ite _ (Raises.error (hE.value _))
        (Raises.ok _))
    · exact Raises.ok _
  unfold table_rows
  refine Raises.ite _ (Raises.ok _) (Raises.bind hsize fun size => ?_)
  exact Raises.ite _ (Raises.error (hE.value _)) (Raises.mapM fun i _ => hrow _)

/-- INTERNAL: one field raises what its scalar type or the layout in it raises. -/
theorem raises_decode_child (hE : Permits E)
    (hscalar : ∀ rfctype data field, Raises E (s.decode rfctype data field)) (mode : Bool)
    (f : FieldDesc) (data : Bytes)
    (hinner : ∀ inner, f.type_desc = some inner → ∀ row,
      Raises E (s.decode_structure u mode inner row)) :
    Raises E (s.decode_child u mode f data) := by
  obtain ⟨name, rfctype, nuc_length, nuc_offset, uc_length, uc_offset, decimals, _, type_desc, _, _,
    _, _⟩ := f
  unfold Scalars.decode_child
  dsimp only
  refine Raises.ite _ (Raises.error (hE.value _)) (Raises.ite _ ?_ (Raises.ite _ ?_
    (Raises.map (hscalar _ _ _) _)))
  · cases type_desc with
    | none => exact Raises.error (hE.incomplete _)
    | some inner => exact hinner inner rfl _
  · cases type_desc with
    | none => exact Raises.error (hE.incomplete _)
    | some inner =>
      exact Raises.bind (raises_table_rows hE (hinner inner rfl) _ _ _ _) fun _ => Raises.ok _

/-- A structure raises what its scalar types raise, that a field is outside or that a layout is
missing. -/
theorem raises_decode_structure (hE : Permits E)
    (hscalar : ∀ rfctype data field, Raises E (s.decode rfctype data field)) (mode : Bool)
    (type_desc : TypeDesc) (data : Bytes) :
    Raises E (s.decode_structure u mode type_desc data) := by
  -- by induction on the layout: the layouts in it raise no more
  induction hn : sizeOf type_desc using Nat.strong_induction_on generalizing type_desc data with
  | _ n ih =>
    subst hn
    obtain ⟨name, fields, nuc_size, uc_size⟩ := type_desc
    have hchild : ∀ f ∈ fields, ∀ data, Raises E (s.decode_child u mode f data) := fun f hf data =>
      raises_decode_child hE hscalar mode f data fun inner hsome row =>
        ih _ (@SpanBounds.sizeOf_inner ⟨name, fields, nuc_size, uc_size⟩ inner f hf hsome) inner row
          rfl
    have hfields : ∀ (fields : List FieldDesc) (result : List (PyStr × PyVal L)),
        (∀ f ∈ fields, ∀ data, Raises E (s.decode_child u mode f data)) →
          Raises E (s.decode_fields u mode fields data result) := by
      intro fields
      induction fields with
      | nil => exact fun result _ => Raises.ok result
      | cons f fields ihf =>
        intro result hall
        refine Raises.bind (hall f List.mem_cons_self data) fun value => ?_
        exact ihf _ fun g hg => hall g (List.mem_cons_of_mem f hg)
    exact Raises.bind (hfields fields [] hchild) fun _ => Raises.ok _

/-- The decoder raises what the scalar types raise, that a field or a row has no place in its bytes,
or that a layout is missing. -/
theorem raises_decode_value (hE : Permits E)
    (hscalar : ∀ rfctype data field, Raises E (s.decode rfctype data field)) (rfctype : ℕ)
    (data : Bytes) (field : FieldDesc) (row_count : Option ℕ) :
    Raises E (s.decode_value u rfctype data field row_count) := by
  have hinner : ∀ inner row, Raises E (s.decode_structure u field.unicode_mode inner row) :=
    raises_decode_structure hE hscalar field.unicode_mode
  unfold Scalars.decode_value
  refine Raises.ite _ ?_ (Raises.ite _ ?_ (Raises.map (hscalar _ _ _) _))
  · cases field.type_desc with
    | none => exact Raises.error (hE.incomplete _)
    | some inner => exact hinner inner data
  · cases field.type_desc with
    | none => exact Raises.error (hE.incomplete _)
    | some inner =>
      exact Raises.bind (raises_table_rows hE (hinner inner) _ _ _ _) fun _ => Raises.ok _

end Layouts

/-! ## A result -/

section Result

variable {L : Type} {u : Unicode} {s : Scalars L} {typeName : PyError → PyStr}

/-- The guard of a call knows what to do with it: it is no error of the server and no interrupt. -/
theorem permits_givesUp : Permits GivesUp :=
  ⟨fun _ => ⟨rfl, rfl⟩, fun _ => ⟨rfl, rfl⟩⟩

/-- INTERNAL: the decompressor raises no error of the server. -/
theorem raises_decompress (chunks : List Bytes) (name : PyStr) :
    Raises GivesUp (s.decompress_table_stream u chunks name) := by
  unfold Scalars.decompress_table_stream
  refine Raises.ite _ (Raises.error ⟨rfl, rfl⟩) (Raises.ite _ ?_ (Raises.ite _ ?_
    (Raises.error ⟨rfl, rfl⟩)))
  all_goals
    dsimp only
    split
    · exact Raises.ok _
    · exact Raises.error ⟨rfl, rfl⟩
    · exact Raises.error ⟨rfl, rfl⟩
    · exact Raises.error ⟨rfl, rfl⟩

/-- INTERNAL: the reader of XML tables raises no error of the server. -/
theorem raises_decode_basxml (payload : Bytes) (name : PyStr) :
    Raises GivesUp ((s.codec u).decodeBasxml payload name) := by
  refine Raises.bind ?_ fun _ => Raises.ok _
  unfold decode_basxml_table
  refine Raises.ite _ (Raises.error ⟨rfl, rfl⟩) (Raises.ite _ (Raises.error ⟨rfl, rfl⟩) ?_)
  exact Raises.ite _ (Raises.error ⟨rfl, rfl⟩) (Raises.ok _)

/-- A result that cannot be read is no error of the server. -/
theorem raises_decode_result
    (hscalar : ∀ rfctype data field, Raises GivesUp (s.decode rfctype data field)) (resp : Bytes)
    (desc : FunctionDesc) (dm : List (ℕ × PyStr)) :
    Raises GivesUp (decode_result (s.platform u typeName) resp desc dm) := by
  unfold decode_result
  refine Raises.bind (raises_extract_named_values raises_decompress permits_givesUp.value _ _)
    fun named => Raises.bind (Raises.foldlM (fun result e _ => ?_) _) fun result =>
      Raises.foldlM (fun result e _ => ?_) _
  · dsimp only
    split
    · exact Raises.ok _
    · exact Raises.bind (raises_decode_value permits_givesUp hscalar _ _ _ _) fun _ => Raises.ok _
  · dsimp only
    split
    · exact Raises.ok _
    · exact Raises.bind (raises_decode_basxml _ _) fun _ => Raises.ok _

end Result

/-! ## The scalar types of the source -/

section Leaves

variable {u : Unicode} {k : Builtins}

/-- How the texts begin that the codec gives its own `ValueError`s. -/
def leafTexts : List PyStr :=
  [lit "unsupported RFCTYPE ", lit "unknown RFCTYPE ",
    lit "DECFLOAT value must be 8 or 16 bytes, got ", lit "BCD field width must be positive, got ",
    lit "BCD field truncated: need ", lit "invalid BCD sign nibble ",
    lit "invalid BCD digit nibble "]

/-- What a scalar type raises: one of these texts, an error of another class, or what the language
raises for bytes that are no text. -/
inductive LeafError (u : Unicode) (k : Builtins) : PyError → Prop where
  | said {start : PyStr} (hstart : start ∈ leafTexts) (text : PyStr) :
      LeafError u k (err .value (start ++ text))
  | other {kind : ErrKind} (hkind : kind ∈ [.key, .index, .structError, .other]) (text : PyStr) :
      LeafError u k (err kind text)
  | utf16 (data : Bytes) : LeafError u k (err .value (u.utf16Error data))
  | utf16be (data : Bytes) : LeafError u k (err .value (k.utf16beError data))
  | utf8 {data : Bytes} {e : PyError} (h : k.utf8 data = .error e) : LeafError u k e

/-- INTERNAL: an error of another class. -/
theorem raises_other {α : Type} {kind : ErrKind} (h : kind ∈ [.key, .index, .structError, .other])
    (text : PyStr) : Raises (LeafError u k) (.error (err kind text) : Except PyError α) :=
  Raises.error (.other h text)

/-- INTERNAL: a `ValueError` of the codec. -/
theorem raises_said {α : Type} {start : PyStr} (h : start ∈ leafTexts) (text : PyStr) :
    Raises (LeafError u k) (.error (err .value (start ++ text)) : Except PyError α) :=
  Raises.error (.said h text)

/-- INTERNAL: a key that is not there. -/
theorem raises_assocIndex {α β : Type} [DecidableEq α] (d : List (α × β)) (key : α) (text : PyStr) :
    Raises (LeafError u k) (assocIndex d key text) := by
  unfold assocIndex
  split
  · exact Raises.ok _
  · exact raises_other (by decide) _

/-- INTERNAL: a float of densely packed decimals. -/
theorem raises_decode_decfloat (raw : Bytes) :
    Raises (LeafError u k) (decode_decfloat raw) := by
  have hdeclets : ∀ declets coeff, Raises (LeafError u k) (decode_declets declets coeff) := by
    intro declets coeff
    exact Raises.bind (Raises.mapM fun n _ => raises_assocIndex _ _ _) fun _ => Raises.ok _
  unfold decode_decfloat
  split
  · exact raises_said (by decide) _
  · refine Raises.ite _ (Raises.ite _ (Raises.ok _) (Raises.ok _)) ?_
    exact Raises.bind (hdeclets _ _) fun _ => Raises.ok _

/-- INTERNAL: a shift of the decimal point. -/
theorem raises_scaleb (value : PyDecimal) (n : ℤ) :
    Raises (LeafError u k) (value.scaleb n) := by
  have hoverflow : Raises (LeafError u k) (.error PyDecimal.Overflow : Except PyError PyDecimal) :=
    raises_other (by decide) _
  have hinvalid : Raises (LeafError u k)
      (.error PyDecimal.InvalidOperation : Except PyError PyDecimal) :=
    raises_other (by decide) _
  have hfix : ∀ sign coeff exp, Raises (LeafError u k) (PyDecimal.fix sign coeff exp) := by
    intro sign coeff exp
    unfold PyDecimal.fix
    refine Raises.ite _ (Raises.ok _) (Raises.ite _ hoverflow (Raises.ite _ (Raises.ite _ ?_
      (Raises.ok _)) (Raises.ok _)))
    exact Raises.ite _ hoverflow (Raises.ok _)
  unfold PyDecimal.scaleb
  split
  · exact hinvalid
  · exact Raises.ok _
  · exact Raises.ite _ hinvalid (Raises.ok _)
  · exact Raises.ite _ hinvalid (hfix _ _ _)

/-- INTERNAL: a packed number. -/
theorem raises_decode_bcd (data : Bytes) (field : FieldDesc) :
    Raises (LeafError u k) (decode_bcd data field) := by
  unfold decode_bcd
  refine Raises.ite _ (raises_said (by decide) _) (Raises.ite _ ?_ (Raises.ite _
    (raises_said (by decide) _) ?_))
  · rw [List.append_assoc, List.append_assoc]
    exact raises_said (by decide) _
  · split
    · exact raises_said (by decide) _
    · exact raises_scaleb _ _

/-- INTERNAL: a text of fixed width. -/
theorem raises_decode_uc_fixed (data : Bytes) (field : FieldDesc) :
    Raises (LeafError u k) (decode_uc_fixed u k data field) := by
  unfold decode_uc_fixed
  split
  · exact Raises.ok _
  · split
    · exact Raises.error (.utf16 data)
    · exact Raises.error (.utf16be data)

/-- The scalar types raise nothing else. -/
theorem raises_decode_leaf (rfctype : ℕ) (buf : Bytes) (field : FieldDesc) :
    Raises (LeafError u k) (decode_leaf u k rfctype buf field) := by
  have hint : ∀ size b, Raises (LeafError u k) (unpack_int size b) := fun size b =>
    Raises.ite _ (raises_other (by decide) _) (Raises.ite _ (Raises.ok _) (Raises.ok _))
  have htext := raises_decode_uc_fixed (u := u) (k := k) buf field
  unfold decode_leaf
  refine Raises.ite _ (raises_said (by decide) _) (Raises.ite _
    ((raises_decode_decfloat buf).map _) (Raises.ite _ ((hint _ _).map _) (Raises.ite _
      ((raises_decode_bcd buf field).map _) (Raises.ite _ ?byte (Raises.ite _ ?float (Raises.ite _
        (htext.map _) (Raises.ite _ (htext.map _) (Raises.ite _ (htext.map _) (Raises.ite _
          (htext.map _) (Raises.ite _ (Raises.ok _) (Raises.ite _ ?utf8 (Raises.ite _ (Raises.ok _)
            (raises_said (by decide) _)))))))))))))
  case byte =>
    split
    · exact raises_other (by decide) _
    · exact Raises.ok _
  case float => exact Raises.ite _ (raises_other (by decide) _) (Raises.ok _)
  case utf8 => exact Raises.map (fun e he => .utf8 he) _

/-- None of it is an error of the server, where the language raises none for bytes that are no
UTF-8. -/
theorem LeafError.givesUp (hutf8 : ∀ data, Raises GivesUp (k.utf8 data)) {e : PyError}
    (h : LeafError u k e) : GivesUp e := by
  cases h with
  | said hstart text => exact ⟨rfl, rfl⟩
  | other hkind text =>
    have hplain : ∀ kind ∈ [ErrKind.key, .index, .structError, .other],
        kind.isAbap = false ∧ kind.isException = true := by decide
    exact hplain _ hkind
  | utf16 data => exact ⟨rfl, rfl⟩
  | utf16be data => exact ⟨rfl, rfl⟩
  | utf8 h => exact hutf8 _ e h

/-- So the scalar types of the source raise no error of the server. -/
theorem raises_leafScalars (hutf8 : ∀ data, Raises GivesUp (k.utf8 data)) (rfctype : ℕ)
    (data : Bytes) (field : FieldDesc) :
    Raises GivesUp ((leafScalars u k).decode rfctype data field) :=
  (raises_decode_leaf rfctype data field).mono fun _ h => h.givesUp hutf8

end Leaves

end SapRfc.Analysis.DecodingErrors
