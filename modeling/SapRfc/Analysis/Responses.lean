import SapRfc.Analysis.Shipping

/-!
# Response streams

Every answer that a dispatch returns is a complete stream: the start record, a return code
of four bytes, the records of the answer and the terminator.  `Speakable` and
`OutputRecords` say when an answer can be built: of a failure, that its text has no lone
surrogate; of a result, that each output value can be encoded.
-/

set_option autoImplicit false

namespace SapRfc.Analysis.Responses

open SapRfc.Library SapRfc.Program

variable {χ V : Type}

/-! ## Complete streams -/

/-- A complete response stream. -/
def Complete (out : Bytes) : Prop :=
  ∃ (rc : Bytes) (records : List (ℕ × Bytes)), rc.length = 4 ∧
    (∀ r ∈ records, Records.Fits Tag.TERMINATOR r) ∧
    out = Records.stream Tag.TERMINATOR
      ((Tag.RESPONSE_START, []) :: (Tag.RETURN_CODE, rc) :: records)

theorem fits_start : Records.Fits Tag.TERMINATOR (Tag.RESPONSE_START, []) :=
  ⟨by decide, by decide, by decide⟩

theorem fits_return_code {rc : Bytes} (h : rc.length = 4) :
    Records.Fits Tag.TERMINATOR (Tag.RETURN_CODE, rc) where
  tag_lt := show Tag.RETURN_CODE < 256 ^ 2 by decide
  tag_ne := show Tag.RETURN_CODE ≠ Tag.TERMINATOR by decide
  length_lt := show rc.length < 256 ^ 4 by omega

/-- A reader finds the start record, a return code and the terminator. -/
theorem Complete.walk {out : Bytes} (h : Complete out) :
    ∃ rc records, rc.length = 4 ∧ Records.walk Tag.TERMINATOR out =
      ⟨(Tag.RESPONSE_START, []) :: (Tag.RETURN_CODE, rc) :: records, .terminator⟩ := by
  obtain ⟨rc, records, hrc, hfits, rfl⟩ := h
  refine ⟨rc, records, hrc, ?_⟩
  have hall : ∀ r ∈ (Tag.RESPONSE_START, []) :: (Tag.RETURN_CODE, rc) :: records,
      Records.Fits Tag.TERMINATOR r := by
    rw [List.forall_mem_cons, List.forall_mem_cons]
    exact ⟨fits_start, fits_return_code hrc, hfits⟩
  have hwalk := Records.walk_stream (by decide) hall []
  rw [List.append_nil] at hwalk
  exact hwalk

/-- Records are joined exactly when each fits its fields. -/
theorem join_records_eq_ok {records : List (ℕ × Bytes)} {out : Bytes} :
    join_records records = .ok out ↔
      (∀ r ∈ records, r.1 < 256 ^ 2 ∧ r.2.length < 256 ^ 4) ∧
        out = records.flatMap fun r => Records.encode r.1 r.2 := by
  induction records generalizing out with
  | nil =>
    constructor
    · intro h
      cases h
      exact ⟨nofun, rfl⟩
    · rintro ⟨-, rfl⟩
      rfl
  | cons r rest ih =>
    unfold join_records at ih ⊢
    rw [List.mapM_cons, List.forall_mem_cons, List.flatMap_cons]
    cases hr : tlv_record r.1 r.2 with
    | error e =>
      refine ⟨(nomatch ·), fun h => ?_⟩
      cases hr.symm.trans (tlv_record_eq_ok.mpr ⟨h.1.1.1, h.1.1.2, rfl⟩)
    | ok part =>
      obtain ⟨htag, hlen, rfl⟩ := tlv_record_eq_ok.mp hr
      rw [Eff.except_ok_bind]
      cases hrest : rest.mapM (m := Except PyError) fun r => tlv_record r.1 r.2 with
      | error e =>
        rw [hrest] at ih
        refine ⟨(nomatch ·), fun h => ?_⟩
        cases ih.mpr ⟨h.1.2, rfl⟩
      | ok parts =>
        rw [hrest] at ih
        obtain ⟨hall, hflat⟩ := ih.mp rfl
        constructor
        · intro h
          obtain rfl := Except.ok.inj h
          exact ⟨⟨⟨htag, hlen⟩, hall⟩, by rw [List.flatten_cons, hflat]⟩
        · rintro ⟨-, rfl⟩
          rw [← hflat, ← List.flatten_cons]
          rfl

/-- INTERNAL: what is joined from a start record on and ended is complete. -/
theorem complete_of_join {rc out : Bytes} (hrc : rc.length = 4) {records : List (ℕ × Bytes)}
    (htags : ∀ r ∈ records, r.1 ≠ Tag.TERMINATOR)
    (h : join_records ((Tag.RESPONSE_START, []) :: (Tag.RETURN_CODE, rc) ::
      (records ++ [(Tag.TERMINATOR, [])])) = .ok out) : Complete out := by
  obtain ⟨hall, rfl⟩ := join_records_eq_ok.mp h
  refine ⟨rc, records, hrc, fun r hr => ?_, ?_⟩
  · have hmem : r ∈ (Tag.RESPONSE_START, []) :: (Tag.RETURN_CODE, rc) ::
        (records ++ [(Tag.TERMINATOR, [])]) :=
      List.mem_cons_of_mem _ (List.mem_cons_of_mem _ (List.mem_append_left _ hr))
    exact ⟨(hall r hmem).1, htags r hr, (hall r hmem).2⟩
  · unfold Records.stream
    simp only [List.flatMap_cons, List.flatMap_append, List.flatMap_nil, List.append_nil,
      List.append_assoc]

theorem complete_code_response (rc : ℕ) : Complete (build_code_response rc) := by
  refine ⟨toBE 4 rc, [], length_toBE 4 rc, nofun, ?_⟩
  unfold build_code_response Records.stream
  simp only [List.flatMap_cons, List.flatMap_nil, List.append_nil, List.append_assoc]

/-! ## Failures -/

/-- A message that a failure can carry: what is left of it has no lone surrogate. -/
def Speakable (message : PyStr) : Prop :=
  ∀ c ∈ sanitize_message message, isSurrogate c = false

theorem encodeUtf16le_eq_ok {s : PyStr} :
    (∃ out, encodeUtf16le s = .ok out) ↔ ∀ c ∈ s, isSurrogate c = false := by
  unfold encodeUtf16le
  split
  next h =>
    obtain ⟨c, hc, hsurrogate⟩ := List.any_eq_true.mp h
    refine ⟨fun ⟨_, he⟩ => (nomatch he), fun hall => ?_⟩
    cases hsurrogate.symm.trans (hall c hc)
  next h =>
    rw [Bool.not_eq_true, List.any_eq_false] at h
    exact ⟨fun _ c hc => Bool.eq_false_iff.mpr (h c hc), fun _ => ⟨_, rfl⟩⟩

/-- INTERNAL: a character takes four bytes at most. -/
theorem length_encodeUtf16le {s : PyStr} {out : Bytes} (h : encodeUtf16le s = .ok out) :
    out.length ≤ 4 * s.length := by
  unfold encodeUtf16le at h
  split at h
  next => cases h
  next hnone =>
    obtain rfl := Except.ok.inj h
    clear h hnone
    induction s with
    | nil => exact Nat.le_refl 0
    | cons c rest ih =>
      have hchar : (if c < 0x10000 then utf16Unit c
          else utf16Unit (0xD800 + (c - 0x10000) / 1024) ++
            utf16Unit (0xDC00 + (c - 0x10000) % 1024)).length ≤ 4 := by
        unfold utf16Unit
        split
        · rw [length_toLE]
          omega
        · rw [List.length_append, length_toLE, length_toLE]
      rw [List.flatMap_cons, List.length_append, List.length_cons]
      omega

/-- A failure is built exactly of a message that can be spoken. -/
theorem build_system_failure_ok_iff (message : PyStr) :
    (∃ out, build_system_failure message = .ok out) ↔ Speakable message := by
  unfold Speakable
  rw [← encodeUtf16le_eq_ok]
  unfold build_system_failure
  cases htext : encodeUtf16le (sanitize_message message) with
  | error e => exact ⟨fun ⟨_, h⟩ => (nomatch h), fun ⟨_, h⟩ => (nomatch h)⟩
  | ok text =>
    refine ⟨fun _ => ⟨text, rfl⟩, fun _ => ⟨_, join_records_eq_ok.mpr ⟨?_, rfl⟩⟩⟩
    have hlength := length_encodeUtf16le htext
    have hshort : (sanitize_message message).length ≤ 512 := List.length_take_le _ _
    have hfits : text.length < 256 ^ 4 := by omega
    simp only [List.forall_mem_cons, length_toBE, List.length_nil]
    exact ⟨by decide, by decide, ⟨by decide, hfits⟩, by decide, nofun⟩

theorem complete_system_failure {message : PyStr} {out : Bytes}
    (h : build_system_failure message = .ok out) : Complete out := by
  unfold build_system_failure at h
  obtain ⟨text, -, h⟩ := Eff.except_bind_eq_ok.mp h
  have htags : ∀ r ∈ [(Tag.EXCEPTION_TEXT, text)], r.1 ≠ Tag.TERMINATOR := by
    intro r hr
    obtain rfl := List.mem_singleton.mp hr
    exact show Tag.EXCEPTION_TEXT ≠ Tag.TERMINATOR by decide
  exact complete_of_join (length_toBE 4 _) htags h

/-- A failure is short. -/
theorem length_system_failure_lt {message : PyStr} {out : Bytes}
    (h : build_system_failure message = .ok out) : out.length < 256 ^ 4 := by
  unfold build_system_failure at h
  obtain ⟨text, htext, h⟩ := Eff.except_bind_eq_ok.mp h
  have hlength := length_encodeUtf16le htext
  have hshort : (sanitize_message message).length ≤ 512 := List.length_take_le _ _
  rw [(join_records_eq_ok.mp h).2]
  have hstart := Records.length_encode_le Tag.RESPONSE_START []
  have hcode := Records.length_encode_le Tag.RETURN_CODE (toBE 4 RC_SYSTEM_FAILURE)
  have hmessage := Records.length_encode_le Tag.EXCEPTION_TEXT text
  have hend := Records.length_encode_le Tag.TERMINATOR []
  rw [List.length_nil] at hstart hend
  rw [length_toBE] at hcode
  simp only [List.flatMap_cons, List.flatMap_nil, List.length_append, List.length_nil]
  omega

/-! ## Results -/

section Results

variable (p : Platform V) (result : Values V)

/-- The records of one output parameter behind `n` tables, and the tables behind it. -/
inductive OutputPart (n : ℕ) (field : FieldDesc) : List (ℕ × Bytes) → ℕ → Prop
  | skipped (absent : field.direction ∉ [RFC_EXPORT, RFC_CHANGING, RFC_TABLES] ∨
      assocGet result (p.u.upper field.name) = none) : OutputPart n field [] n
  | scalar {value : V} {encoded name : Bytes}
      (output : field.direction ∈ [RFC_EXPORT, RFC_CHANGING, RFC_TABLES])
      (given : assocGet result (p.u.upper field.name) = some value)
      (plain : field.rfctype ≠ RFCTYPE_TABLE)
      (encodes : p.codec.encode field.rfctype value field = .ok encoded)
      (named : encodeUtf16le field.name = .ok name) :
      OutputPart n field [(Tag.PARAM_NAME, name), (Tag.PARAM_VALUE, encoded)] n
  | table {value : V} {part : List (ℕ × Bytes)}
      (output : field.direction ∈ [RFC_EXPORT, RFC_CHANGING, RFC_TABLES])
      (given : assocGet result (p.u.upper field.name) = some value)
      (rows : field.rfctype = RFCTYPE_TABLE)
      (encodes : build_table_records p field value (n + 1) = .ok part) :
      OutputPart n field part (n + 1)

/-- The records of the output parameters, one behind the other. -/
inductive OutputRecords : ℕ → List FieldDesc → List (ℕ × Bytes) → Prop
  | nil (n : ℕ) : OutputRecords n [] []
  | cons {n m : ℕ} {field : FieldDesc} {rest : List FieldDesc} {part records : List (ℕ × Bytes)}
      (first : OutputPart p result n field part m) (tail : OutputRecords m rest records) :
      OutputRecords n (field :: rest) (part ++ records)

variable {p result}

/-- INTERNAL: a parameter that is no output, or has no value, has no records. -/
theorem outputPart_of_absent {n m : ℕ} {field : FieldDesc} {part : List (ℕ × Bytes)}
    (absent : field.direction ∉ [RFC_EXPORT, RFC_CHANGING, RFC_TABLES] ∨
      assocGet result (p.u.upper field.name) = none) :
    OutputPart p result n field part m ↔ part = [] ∧ m = n := by
  constructor
  · intro h
    have hvalue : ∀ {value : V}, field.direction ∈ [RFC_EXPORT, RFC_CHANGING, RFC_TABLES] →
        assocGet result (p.u.upper field.name) = some value → False := by
      intro value output given
      cases absent with
      | inl no_output => exact no_output output
      | inr no_value => cases no_value.symm.trans given
    cases h with
    | skipped => exact ⟨rfl, rfl⟩
    | scalar output given => exact (hvalue output given).elim
    | table output given => exact (hvalue output given).elim
  · rintro ⟨rfl, rfl⟩
    exact .skipped absent

/-- INTERNAL: one parameter. -/
theorem build_output_param_eq_ok {acc out : List (ℕ × Bytes)} {n m : ℕ} {field : FieldDesc} :
    build_output_param p result (acc, n) field = .ok (out, m) ↔
      ∃ part, OutputPart p result n field part m ∧ out = acc ++ part := by
  have hskip : field.direction ∉ [RFC_EXPORT, RFC_CHANGING, RFC_TABLES] ∨
      assocGet result (p.u.upper field.name) = none →
        ((Except.ok (acc, n) : Except PyError _) = .ok (out, m) ↔
          ∃ part, OutputPart p result n field part m ∧ out = acc ++ part) := by
    intro absent
    constructor
    · intro h
      cases h
      exact ⟨[], .skipped absent, (List.append_nil _).symm⟩
    · rintro ⟨part, hpart, rfl⟩
      obtain ⟨rfl, rfl⟩ := (outputPart_of_absent absent).mp hpart
      rw [List.append_nil]
  unfold build_output_param
  by_cases houtput : field.direction ∉ [RFC_EXPORT, RFC_CHANGING, RFC_TABLES]
  · rw [if_pos houtput]
    exact hskip (.inl houtput)
  rw [if_neg houtput]
  rw [not_not] at houtput
  cases hvalue : assocGet result (p.u.upper field.name) with
  | none => exact hskip (.inr hvalue)
  | some value =>
    dsimp only
    by_cases htable : field.rfctype = RFCTYPE_TABLE
    · rw [if_pos htable]
      constructor
      · intro h
        obtain ⟨part, hrows, h⟩ := Eff.except_bind_eq_ok.mp h
        cases h
        exact ⟨part, .table houtput hvalue htable hrows, rfl⟩
      · rintro ⟨part, hpart, rfl⟩
        cases hpart with
        | skipped absent =>
          cases absent with
          | inl no_output => exact absurd houtput no_output
          | inr no_value => cases no_value.symm.trans hvalue
        | scalar output given plain => exact absurd htable plain
        | table output given rows encodes =>
          obtain rfl := Option.some.inj (hvalue.symm.trans given)
          rw [encodes]
          rfl
    · rw [if_neg htable]
      constructor
      · intro h
        obtain ⟨encoded, hencoded, h⟩ := Eff.except_bind_eq_ok.mp h
        obtain ⟨name, hname, h⟩ := Eff.except_bind_eq_ok.mp h
        cases h
        exact ⟨_, .scalar houtput hvalue htable hencoded hname, rfl⟩
      · rintro ⟨part, hpart, rfl⟩
        cases hpart with
        | skipped absent =>
          cases absent with
          | inl no_output => exact absurd houtput no_output
          | inr no_value => cases no_value.symm.trans hvalue
        | scalar output given plain encodes named =>
          obtain rfl := Option.some.inj (hvalue.symm.trans given)
          rw [encodes, Eff.except_ok_bind, named]
          rfl
        | table output given rows => exact absurd rows htable

/-- INTERNAL: all parameters. -/
theorem foldlM_output_eq_ok {fields : List FieldDesc} {acc out : List (ℕ × Bytes)} {n : ℕ} :
    (∃ m, fields.foldlM (build_output_param p result) (acc, n) = .ok (out, m)) ↔
      ∃ records, OutputRecords p result n fields records ∧ out = acc ++ records := by
  induction fields generalizing acc n with
  | nil =>
    constructor
    · rintro ⟨m, h⟩
      cases h
      exact ⟨[], .nil n, (List.append_nil _).symm⟩
    · rintro ⟨records, hrecords, rfl⟩
      cases hrecords
      exact ⟨n, by rw [List.append_nil]; rfl⟩
  | cons field rest ih =>
    rw [List.foldlM_cons]
    constructor
    · rintro ⟨m, h⟩
      obtain ⟨⟨acc', n'⟩, hfirst, h⟩ := Eff.except_bind_eq_ok.mp h
      obtain ⟨part, hpart, rfl⟩ := build_output_param_eq_ok.mp hfirst
      obtain ⟨records, hrecords, rfl⟩ := ih.mp ⟨m, h⟩
      exact ⟨part ++ records, .cons hpart hrecords, List.append_assoc _ _ _⟩
    · rintro ⟨_, hrecords, rfl⟩
      cases hrecords with
      | @cons _ n' _ _ part records first tail =>
        rw [build_output_param_eq_ok.mpr ⟨part, first, rfl⟩, Eff.except_ok_bind]
        exact ih.mpr ⟨records, tail, (List.append_assoc _ _ _).symm⟩

/-- The tags that output parameters are put under. -/
def outputTags : List ℕ :=
  [Tag.PARAM_NAME, Tag.PARAM_VALUE, Tag.TABLE_NAME, Tag.DM_TABLE_ID, Tag.TABLE_INFO,
    Tag.TABLE_CONTENT_ALT]

theorem tag_build_table_records {field : FieldDesc} {value : V} {dm_id : ℕ}
    {part : List (ℕ × Bytes)} (h : build_table_records p field value dm_id = .ok part) :
    ∀ r ∈ part, r.1 ∈ outputTags := by
  unfold build_table_records at h
  cases htype : field.type_desc with
  | none =>
    rw [htype] at h
    cases h
  | some type_desc =>
    rw [htype] at h
    obtain ⟨rows, -, h⟩ := Eff.except_bind_eq_ok.mp h
    obtain ⟨name, -, h⟩ := Eff.except_bind_eq_ok.mp h
    split at h
    · cases h
      rw [List.forall_mem_singleton]
      exact show Tag.TABLE_NAME ∈ outputTags by decide
    · obtain ⟨all_rows, -, h⟩ := Eff.except_bind_eq_ok.mp h
      obtain ⟨id, -, h⟩ := Eff.except_bind_eq_ok.mp h
      obtain ⟨size, -, h⟩ := Eff.except_bind_eq_ok.mp h
      obtain ⟨count, -, h⟩ := Eff.except_bind_eq_ok.mp h
      cases h
      rw [List.forall_mem_append, List.forall_mem_cons, List.forall_mem_cons,
        List.forall_mem_singleton, List.forall_mem_map]
      exact ⟨⟨show Tag.TABLE_NAME ∈ outputTags by decide,
        show Tag.DM_TABLE_ID ∈ outputTags by decide, show Tag.TABLE_INFO ∈ outputTags by decide⟩,
        fun _ _ => show Tag.TABLE_CONTENT_ALT ∈ outputTags by decide⟩

theorem tag_outputRecords {n : ℕ} {fields : List FieldDesc} {records : List (ℕ × Bytes)}
    (h : OutputRecords p result n fields records) : ∀ r ∈ records, r.1 ∈ outputTags := by
  induction h with
  | nil n => exact nofun
  | cons first tail ih =>
    intro r hr
    cases List.mem_append.mp hr with
    | inr hr => exact ih r hr
    | inl hr =>
      cases first with
      | skipped absent => cases hr
      | scalar output given plain encodes named =>
        rw [List.mem_cons, List.mem_singleton] at hr
        rcases hr with rfl | rfl
        · exact List.mem_cons_self
        · exact List.mem_cons_of_mem _ List.mem_cons_self
      | table output given rows encodes => exact tag_build_table_records encodes r hr

/-- The parameters of a descriptor, if there is one. -/
def parametersOf : Option FunctionDesc → List FieldDesc
  | some d => d.parameters
  | none => []

/-- The stream that carries output records. -/
def resultStream (records : List (ℕ × Bytes)) : Bytes :=
  Records.stream Tag.TERMINATOR
    ((Tag.RESPONSE_START, []) :: (Tag.RETURN_CODE, toBE 4 RC_OK) :: records)

theorem outputTags_fit : ∀ tag ∈ outputTags, tag < 256 ^ 2 ∧ tag ≠ Tag.TERMINATOR := by decide

theorem complete_resultStream {n : ℕ} {fields : List FieldDesc} {records : List (ℕ × Bytes)}
    (h : OutputRecords p result n fields records) (hfits : ∀ r ∈ records, r.2.length < 256 ^ 4) :
    Complete (resultStream records) := by
  refine ⟨toBE 4 RC_OK, records, length_toBE 4 _, fun r hr => ?_, rfl⟩
  obtain ⟨htag, hne⟩ := outputTags_fit r.1 (tag_outputRecords h r hr)
  exact ⟨htag, hne, hfits r hr⟩

/-- A result is answered exactly when its output parameters have records that fit their
length fields, and with the stream of these. -/
theorem build_response_eq_ok {func_desc : Option FunctionDesc} {values : Values V} {out : Bytes} :
    build_response p func_desc values = .ok out ↔
      ∃ records, OutputRecords p (upper_keys p.u values) 0 (parametersOf func_desc) records ∧
        (∀ r ∈ records, r.2.length < 256 ^ 4) ∧ out = resultStream records := by
  have hparams : build_response p func_desc values =
      ((parametersOf func_desc).foldlM (build_output_param p (upper_keys p.u values)) ([], 0) >>=
        fun s => join_records ((Tag.RESPONSE_START, []) :: (Tag.RETURN_CODE, toBE 4 RC_OK) ::
          (s.1 ++ [(Tag.TERMINATOR, [])]))) := by
    unfold build_response parametersOf
    cases func_desc <;> rfl
  have hstream : ∀ records : List (ℕ × Bytes), resultStream records =
      ((Tag.RESPONSE_START, []) :: (Tag.RETURN_CODE, toBE 4 RC_OK) ::
        (records ++ [(Tag.TERMINATOR, [])])).flatMap fun r => Records.encode r.1 r.2 := by
    intro records
    unfold resultStream Records.stream
    simp only [List.flatMap_cons, List.flatMap_append, List.flatMap_nil, List.append_nil,
      List.append_assoc]
  rw [hparams]
  constructor
  · intro h
    obtain ⟨⟨records, m⟩, hfold, h⟩ := Eff.except_bind_eq_ok.mp h
    obtain ⟨records', hrecords, hsame⟩ := foldlM_output_eq_ok.mp ⟨m, hfold⟩
    obtain rfl : records = records' := hsame
    obtain ⟨hall, rfl⟩ := join_records_eq_ok.mp h
    refine ⟨records, hrecords, fun r hr => ?_, (hstream records).symm⟩
    exact (hall r (List.mem_cons_of_mem _ (List.mem_cons_of_mem _ (List.mem_append_left _ hr)))).2
  · rintro ⟨records, hrecords, hfits, rfl⟩
    obtain ⟨m, hfold⟩ := foldlM_output_eq_ok.mpr ⟨records, hrecords, (List.nil_append _).symm⟩
    rw [hfold, Eff.except_ok_bind, hstream]
    refine join_records_eq_ok.mpr ⟨?_, rfl⟩
    rw [List.forall_mem_cons, List.forall_mem_cons, List.forall_mem_append,
      List.forall_mem_singleton]
    refine ⟨by decide, by decide, fun r hr => ?_, by decide⟩
    exact ⟨(outputTags_fit r.1 (tag_outputRecords hrecords r hr)).1, hfits r hr⟩

end Results

end SapRfc.Analysis.Responses
