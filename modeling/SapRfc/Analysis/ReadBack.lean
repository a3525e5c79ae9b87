import SapRfc.Analysis.Responses
import SapRfc.Analysis.RoundTrips

/-!
# What the other side reads

What the server reads of a request is what the parameters carry, what the client reads of an answer
is what the result carries, and what it reads of a failure is its text.  A request travels in front
of a footer, and its reader stops at the terminator.
-/

set_option autoImplicit false

namespace SapRfc.Analysis.ReadBack

open SapRfc.Library SapRfc.Program PairGroups RequestRecords RoundTrips TextCodecs

/-! ## A stream in front of a footer -/

section Footer

variable {V : Type} {p : Platform V} {rs : List (ℕ × Bytes)}

/-- INTERNAL: the readers stop at the terminator. -/
theorem parse_tlv_stream_behind (hfits : ∀ r ∈ rs, Records.Fits Tag.TERMINATOR r) (footer : Bytes) :
    parse_tlv_stream (Records.stream Tag.TERMINATOR rs ++ footer) = .ok rs := by
  unfold parse_tlv_stream
  rw [Records.walk_stream (by decide) hfits footer]

/-- INTERNAL: so does the reader of pairs. -/
theorem extract_named_values_behind (hfits : ∀ r ∈ rs, Records.Fits Tag.TERMINATOR r)
    (footer : Bytes) (codec : Codec V) (dm : List (ℕ × PyStr)) :
    extract_named_values codec (Records.stream Tag.TERMINATOR rs ++ footer) dm =
      extract_named_values codec (Records.stream Tag.TERMINATOR rs) dm := by
  have hwalk := Records.walk_stream (by decide) hfits []
  rw [List.append_nil] at hwalk
  unfold extract_named_values
  rw [Records.walk_stream (by decide) hfits footer, hwalk]

/-- INTERNAL: a request is read the same in front of a footer. -/
theorem deserialize_behind (hfits : ∀ r ∈ rs, Records.Fits Tag.TERMINATOR r) (footer : Bytes)
    (desc : Option FunctionDesc) :
    deserialize_request p (Records.stream Tag.TERMINATOR rs ++ footer) desc =
      deserialize_request p (Records.stream Tag.TERMINATOR rs) desc := by
  have hparse := parse_tlv_stream_behind hfits []
  rw [List.append_nil] at hparse
  unfold deserialize_request extract_name_value_pairs
  rw [extract_named_values_behind hfits, parse_tlv_stream_behind hfits, hparse]

end Footer

/-! ## What a request is read as -/

section Request

variable {L : Type} (u : Unicode) (s : Scalars L) (typeName : PyError → PyStr)

/-- The parameters that are sent, with their values, in the order of the interface. -/
def supplied (desc : FunctionDesc) (params : Values (PyVal L)) : List (FieldDesc × PyVal L) :=
  desc.parameters.filterMap fun f =>
    (sentValue (s.platform u typeName) (upper_keys u params) f).map fun value => (f, value)

/-- The parameters that are answered, with their values, in the order of the interface. -/
def answered (desc : FunctionDesc) (result : Values (PyVal L)) : List (FieldDesc × PyVal L) :=
  desc.parameters.filterMap fun f =>
    (answeredValue (s.platform u typeName) (upper_keys u result) f).map fun value => (f, value)

/-- An interface whose names are read back and whose rows are described. -/
structure Interface (desc : FunctionDesc) : Prop where
  names : (desc.parameters.map fun f => u.upper f.name).Nodup
  readable : ∀ f ∈ desc.parameters, Readable f
  resolved : ∀ f ∈ desc.parameters, Resolved f

/-- Values for an interface: each under one name, and rows of the described width. -/
structure Fitting (fields : List (FieldDesc × PyVal L)) (given : Values (PyVal L)) : Prop where
  keys : (given.map fun e => u.upper e.1).Nodup
  exact_rows : ∀ e ∈ fields, e.1.rfctype = RFCTYPE_TABLE → RowsExact u s e.1 e.2

variable {u s typeName}

/-- INTERNAL: a parameter that is sent is declared, and a table that is sent is not empty. -/
theorem of_mem_supplied {desc : FunctionDesc} {params : Values (PyVal L)}
    {e : FieldDesc × PyVal L} (h : e ∈ supplied u s typeName desc params) :
    e.1 ∈ desc.parameters ∧ (e.1.rfctype = RFCTYPE_TABLE → s.truth_of e.2 = true) := by
  obtain ⟨f, hf, hvalue⟩ := List.mem_filterMap.mp h
  obtain ⟨value, hsome, rfl⟩ := Option.map_eq_some_iff.mp hvalue
  refine ⟨hf, fun htable => ?_⟩
  unfold sentValue at hsome
  split at hsome
  · cases hsome
  rcases of_decide_eq_true (Option.filter_eq_some_iff.mp hsome).2 with hplain | htruth
  · exact absurd htable hplain
  · exact htruth

/-- INTERNAL: the name in the opening is the only one. -/
theorem func_name_of_records {name : Bytes} {rest : List (ℕ × Bytes)}
    (hrest : ∀ r ∈ rest, r.1 ≠ Tag.FUNC_NAME) :
    Tags.get (openingRecords name ++ rest) Tag.FUNC_NAME = some name := by
  have hnone : rest.reverse.find? (fun r => decide (r.1 = Tag.FUNC_NAME)) = none := by
    rw [List.find?_eq_none]
    intro r hr
    rw [decide_eq_true_eq]
    exact hrest r (List.mem_reverse.mp hr)
  unfold Tags.get
  rw [List.reverse_append, List.find?_append, hnone, Option.none_or]
  rfl

/-- INTERNAL: a tag that no record has. -/
theorem get_of_absent {records : List (ℕ × Bytes)} {tag : ℕ} (h : ∀ r ∈ records, r.1 ≠ tag) :
    Tags.get records tag = none := by
  unfold Tags.get
  rw [Option.map_eq_none_iff, List.find?_eq_none]
  intro r hr
  rw [decide_eq_true_eq]
  exact h r (List.mem_reverse.mp hr)

/-- The name of a request and what its parameters carry are read back, in front of any footer; it
carries no credentials. -/
theorem request_read {func_name : PyStr} {desc : FunctionDesc} {params : Values (PyVal L)}
    {request : Bytes} (hdesc : Interface u desc) (htext : IsText func_name)
    (htrimmed : Trimmed func_name)
    (hparams : Fitting u s (supplied u s typeName desc params) params)
    (hbuild : build_invoke_request (s.platform u typeName) func_name desc params = .ok request)
    (footer : Bytes) :
    read_func_name (request ++ footer) = .ok func_name ∧
      extract_credentials (request ++ footer) = .ok (none, none) ∧
      deserialize_request (s.platform u typeName) (request ++ footer) (some desc) =
        Dicts.named_values (carried u s) (supplied u s typeName desc params) := by
  obtain ⟨name, declared, sent, hname, hdeclared, hsent, hsentAs, hfits, rfl⟩ :=
    build_invoke_request_records hbuild
  have hgroup_tag : ∀ r ∈ sent.flatMap fun c => c.group.records, r.1 ∈ [Tag.PARAM_NAME,
      Tag.PARAM_VALUE, Tag.TABLE_NAME, Tag.DM_TABLE_ID, Tag.TABLE_INFO, Tag.TABLE_CONTENT] := by
    intro r hr
    obtain ⟨c, hc, hr⟩ := List.mem_flatMap.mp hr
    exact tag_of_sentAs (hsentAs c hc) r hr
  have hhead_tag : ∀ r ∈ openingRecords name ++ declared, r.1 ∈ headTags := by
    intro r hr
    rcases List.mem_append.mp hr with hopening | hr
    · have htag : r.1 ∈ (openingRecords name).map Prod.fst := List.mem_map_of_mem hopening
      exact List.mem_append_left [Tag.EXPORT_DECL] htag
    · rw [hdeclared r hr]
      exact show Tag.EXPORT_DECL ∈ headTags by decide
  refine ⟨?_, ?_, ?_⟩
  · have hget := @func_name_of_records name (declared ++ sent.flatMap fun c => c.group.records)
      fun r hr heq => by
        rcases List.mem_append.mp hr with hr | hr
        · exact absurd ((hdeclared r hr).symm.trans heq)
            (show Tag.EXPORT_DECL ≠ Tag.FUNC_NAME by decide)
        · have htag := hgroup_tag r hr
          rw [heq] at htag
          exact absurd htag (by decide)
    rw [← List.append_assoc] at hget
    unfold read_func_name
    rw [parse_tlv_stream_behind hfits, Eff.except_ok_bind, hget]
    exact congrArg Except.ok (decode_utf16le_trimmed htext htrimmed hname)
  · have habsent : ∀ tag ∈ [Tag.USER, Tag.PASSWORD],
        Tags.get (openingRecords name ++ declared ++ sent.flatMap fun c => c.group.records) tag =
          none := by
      intro tag htag
      refine get_of_absent fun r hr heq => ?_
      rw [← heq] at htag
      rcases List.mem_append.mp hr with hr | hr
      · exact absurd htag ((show ∀ tag ∈ headTags, tag ∉ [Tag.USER, Tag.PASSWORD] by decide) r.1
          (hhead_tag r hr))
      · exact absurd htag ((show ∀ tag ∈ [Tag.PARAM_NAME, Tag.PARAM_VALUE, Tag.TABLE_NAME,
          Tag.DM_TABLE_ID, Tag.TABLE_INFO, Tag.TABLE_CONTENT], tag ∉ [Tag.USER, Tag.PASSWORD] by
            decide) r.1 (hgroup_tag r hr))
    have huser := habsent Tag.USER List.mem_cons_self
    have hpassword := habsent Tag.PASSWORD (List.mem_cons_of_mem _ List.mem_cons_self)
    unfold extract_credentials
    rw [parse_tlv_stream_behind hfits, Eff.except_ok_bind, huser, hpassword]
  · have hall : (sent.map fun c => (c.field, c.value)) = supplied u s typeName desc params := hsent
    have hsupplied : ∀ c ∈ sent, (c.field, c.value) ∈ supplied u s typeName desc params := by
      intro c hc
      rw [← hall]
      exact List.mem_map_of_mem (f := fun c : Sent (PyVal L) => (c.field, c.value)) hc
    have hread : ∀ c ∈ sent, c.group.name = c.field.name ∧ c.group.Reads (s.codec u) ∧
        s.decode_value u c.field.rfctype c.group.payload c.field none =
          carried u s c.field c.value := by
      intro c hc
      obtain ⟨hfield, htruth⟩ := of_mem_supplied (hsupplied c hc)
      exact sentAs_carried (hdesc.readable _ hfield) (hdesc.resolved _ hfield)
        (hparams.exact_rows _ (hsupplied c hc)) htruth (hsentAs c hc)
    have hgroups : ∀ g ∈ sent.map Sent.group, g.Reads (s.codec u) := by
      intro g hg
      obtain ⟨c, hc, rfl⟩ := List.mem_map.mp hg
      exact (hread c hc).2.1
    have hpast : ∀ r ∈ openingRecords name ++ declared, r.1 ∉ pairTags := fun r hr =>
      (show ∀ tag ∈ headTags, tag ∉ pairTags by decide) r.1 (hhead_tag r hr)
    have hcompact : ∀ r ∈ openingRecords name ++ declared ++ sent.flatMap fun c => c.group.records,
        r.1 ≠ Tag.COMPACT_PARAMS := by
      rw [List.forall_mem_append]
      constructor
      · exact fun r hr => (show ∀ tag ∈ headTags, tag ≠ Tag.COMPACT_PARAMS by decide) r.1
          (hhead_tag r hr)
      · intro r hr heq
        have htag := hgroup_tag r hr
        rw [heq] at htag
        exact absurd htag (by decide)
    obtain ⟨st, hrun, hreaches⟩ := run_groups [] hgroups reaches_init
    have hrecords : (openingRecords name ++ declared ++
        sent.flatMap fun c => c.group.records).foldlM (pair_record (s.codec u) []) PairState.init =
          .ok st := by
      rw [List.foldlM_append, foldlM_other hpast]
      rw [List.flatMap_map] at hrun
      exact hrun
    rw [deserialize_behind hfits, deserialize_of_pairs (p := s.platform u typeName) hfits hcompact
      ⟨st, hrecords, hreaches⟩, List.nil_append, List.map_map]
    have hnodup := nodup_sent hdesc.names hsent
    have hfold := foldlM_request hdesc.names (fun c hc => (of_mem_supplied (hsupplied c hc)).1)
      hnodup fun c hc => ⟨(hread c hc).1, (hread c hc).2.2⟩
    rw [← hall]
    exact hfold

end Request

/-! ## What an answer is read as -/

section Answer

variable {L : Type} {u : Unicode} {s : Scalars L} {typeName : PyError → PyStr}

/-- INTERNAL: the records of a result. -/
theorem fits_result {records : List (ℕ × Bytes)}
    (htags : ∀ r ∈ records, r.1 ∈ Responses.outputTags)
    (hlengths : ∀ r ∈ records, r.2.length < 256 ^ 4) :
    ∀ r ∈ (Tag.RESPONSE_START, []) :: (Tag.RETURN_CODE, toBE 4 RC_OK) :: records,
      Records.Fits Tag.TERMINATOR r := by
  rw [List.forall_mem_cons, List.forall_mem_cons]
  refine ⟨Responses.fits_start, Responses.fits_return_code (length_toBE 4 _), fun r hr => ?_⟩
  obtain ⟨htag, hne⟩ := Responses.outputTags_fit r.1 (htags r hr)
  exact ⟨htag, hne, hlengths r hr⟩

/-- A result is decoded: nothing in it is taken for a failure. -/
theorem parse_of_result {p : Platform (PyVal L)} {desc : FunctionDesc} {result : Values (PyVal L)}
    {out : Bytes} (hbuild : build_response p (some desc) result = .ok out)
    (dm : List (ℕ × PyStr)) :
    parse_invoke_response p out desc dm = decode_result p out desc dm := by
  obtain ⟨records, hrecords, hlengths, rfl⟩ := Responses.build_response_eq_ok.mp hbuild
  have htags := Responses.tag_outputRecords hrecords
  have hquiet : ∀ r ∈ records, r.1 ∉ Replies.verdictTags := fun r hr =>
    (show ∀ tag ∈ Responses.outputTags, tag ∉ Replies.verdictTags by decide) r.1 (htags r hr)
  exact Replies.parse_of_accepted (fits_result htags hlengths) (Replies.accepted_result hquiet)
    desc dm

/-- Text that the client reads as it is written: it takes the other half of each of its units
for nothing. -/
def SingleByte (text : PyStr) : Prop := ∀ c ∈ text, c < 256

/-- The failure that a text in the answer is raised as. -/
def systemFailure (text : PyStr) : PyError :=
  AbapSystemFailure ⟨none, none, none, none, none, none, none, none,
    some (if text = [] then lit "RFC return code 3" else text)⟩

/-- INTERNAL: the other half of each unit is nothing. -/
theorem oddBytes_units {text : PyStr} (htext : SingleByte text) :
    (oddBytes (text.flatMap utf16Unit)).all (· = 0) = true := by
  induction text with
  | nil => rfl
  | cons c rest ih =>
    obtain ⟨hc, hrest⟩ := List.forall_mem_cons.mp htext
    have hunit : utf16Unit c = [UInt8.ofNat c, 0] := by
      have hhigh : UInt8.ofNat (c / 256 ^ 1) = 0 := by
        rw [show c / 256 ^ 1 = 0 by omega]
        rfl
      unfold utf16Unit toLE toBE toBE toBE
      rw [hhigh, Nat.pow_zero, Nat.div_one]
      rfl
    rw [List.flatMap_cons, hunit]
    show ((0 : UInt8) :: oddBytes (rest.flatMap utf16Unit)).all (· = 0) = true
    rw [List.all_cons, ih hrest]
    rfl

/-- INTERNAL: the text of a failure is read back. -/
theorem decode_error_text_encode {text : PyStr} {b : Bytes} (htext : SingleByte text)
    (h : encodeUtf16le text = .ok b) : decode_error_text (some b) = rstrip padding text := by
  have hsurrogate : ∀ c ∈ text, isSurrogate c = false := Responses.encodeUtf16le_eq_ok.mp ⟨b, h⟩
  have hunicode : IsText text := fun c hc => Nat.lt_trans (htext c hc) (by decide)
  have heven := even_length_encode h
  have hempty : b = [] → text = [] := fun hnil => by
    by_contra hne
    exact encode_ne_nil h hne hnil
  unfold encodeUtf16le at h
  rw [if_neg (by
    rw [Bool.not_eq_true, List.any_eq_false]
    exact fun c hc => Bool.eq_false_iff.mp (hsurrogate c hc))] at h
  obtain rfl := Except.ok.inj h
  have hunits : (text.flatMap fun c =>
      if c < 0x10000 then utf16Unit c
      else utf16Unit (0xD800 + (c - 0x10000) / 1024) ++
        utf16Unit (0xDC00 + (c - 0x10000) % 1024)) = text.flatMap utf16Unit := by
    refine List.flatMap_congr fun c hc => ?_
    rw [if_pos (Nat.lt_trans (htext c hc) (by decide))]
  have hdecode : decodeUtf16leReplace (text.flatMap utf16Unit) = text := by
    rw [← hunits]
    unfold decodeUtf16leReplace
    rw [utf16Units_encode hunicode, utf16Chars_units hunicode hsurrogate, if_neg (by omega),
      List.append_nil, List.map_map]
    exact List.map_id text
  rw [hunits] at heven ⊢
  unfold decode_error_text
  dsimp only
  split
  next hnil =>
    rw [hempty (hunits.trans hnil)]
    rfl
  next hne =>
    have hlength : 2 ≤ (text.flatMap utf16Unit).length := by
      have := List.length_pos_iff.mpr hne
      omega
    rw [if_pos ⟨hlength, heven, oddBytes_units htext⟩, hdecode]

/-- INTERNAL: the records of a failure are classified by their return code. -/
theorem raise_for_failure_records (encoded : Bytes) :
    raise_for_tags [(Tag.RESPONSE_START, []), (Tag.RETURN_CODE, toBE 4 RC_SYSTEM_FAILURE),
      (Tag.EXCEPTION_TEXT, encoded)] =
      .error (systemFailure (decode_error_text (some encoded))) := by
  have habsent : ∀ tag ∈ [Tag.EXCEPTION_NUMBER, Tag.EXCEPTION_MSG_CLASS, Tag.EXCEPTION_MSG_TYPE,
      Tag.EXCEPTION_MSG_V1, Tag.EXCEPTION_MSG_V2, Tag.EXCEPTION_MSG_V3, Tag.EXCEPTION_MSG_V4],
      Tags.get [(Tag.RESPONSE_START, []), (Tag.RETURN_CODE, toBE 4 RC_SYSTEM_FAILURE),
        (Tag.EXCEPTION_TEXT, encoded)] tag = none := by
    simp only [List.forall_mem_cons]
    exact ⟨rfl, rfl, rfl, rfl, rfl, rfl, rfl, List.forall_mem_nil _⟩
  simp only [List.forall_mem_cons] at habsent
  obtain ⟨hnumber, hclass, htype, hv1, hv2, hv3, hv4, -⟩ := habsent
  have hreturn : Tags.get [(Tag.RESPONSE_START, []),
      (Tag.RETURN_CODE, toBE 4 RC_SYSTEM_FAILURE), (Tag.EXCEPTION_TEXT, encoded)]
      Tag.RETURN_CODE = some (toBE 4 RC_SYSTEM_FAILURE) := rfl
  have htext : Tags.get [(Tag.RESPONSE_START, []),
      (Tag.RETURN_CODE, toBE 4 RC_SYSTEM_FAILURE), (Tag.EXCEPTION_TEXT, encoded)]
      Tag.EXCEPTION_TEXT = some encoded := rfl
  have hcode : ofBE (toBE 4 RC_SYSTEM_FAILURE) = 3 := by decide
  have hnothing : orNone (decode_error_text none) = none := rfl
  unfold raise_for_tags abapDetail
  rw [hnumber, hreturn, htext, hclass, htype, hv1, hv2, hv3, hv4,
    show Tag.EXCEPTION_MSG_NUMBER = Tag.EXCEPTION_NUMBER from rfl, hnumber, hnothing]
  dsimp only
  rw [length_toBE, if_neg (show ¬ 4 ≠ 4 by decide), hcode, if_neg (show ¬ 3 = 0 by decide)]
  rfl

/-- A failure is raised by whoever reads it. -/
theorem raise_for_failure (u : Unicode) {message : PyStr} {out : Bytes}
    (hbuild : build_system_failure message = .ok out) :
    ∃ text tags, parse_tlv_stream out = .ok tags ∧
      raise_for_rfc_error u out = .error (systemFailure text) ∧
      (SingleByte (sanitize_message message) →
        text = rstrip padding (sanitize_message message)) := by
  unfold build_system_failure at hbuild
  obtain ⟨encoded, hencoded, hbuild⟩ := Eff.except_bind_eq_ok.mp hbuild
  obtain ⟨hlengths, hout⟩ := Responses.join_records_eq_ok.mp hbuild
  have hstream : out = Records.stream Tag.TERMINATOR [(Tag.RESPONSE_START, []),
      (Tag.RETURN_CODE, toBE 4 RC_SYSTEM_FAILURE), (Tag.EXCEPTION_TEXT, encoded)] := by
    rw [hout]
    unfold Records.stream
    simp only [List.flatMap_cons, List.flatMap_nil, List.append_nil, List.append_assoc]
  have hfits : ∀ r ∈ [(Tag.RESPONSE_START, []), (Tag.RETURN_CODE, toBE 4 RC_SYSTEM_FAILURE),
      (Tag.EXCEPTION_TEXT, encoded)], Records.Fits Tag.TERMINATOR r := by
    rw [List.forall_mem_cons, List.forall_mem_cons, List.forall_mem_singleton]
    refine ⟨Responses.fits_start, Responses.fits_return_code (length_toBE 4 _), ?_, ?_, ?_⟩
    · exact show Tag.EXCEPTION_TEXT < 256 ^ 2 by decide
    · exact show Tag.EXCEPTION_TEXT ≠ Tag.TERMINATOR by decide
    · exact (hlengths (Tag.EXCEPTION_TEXT, encoded) (by simp only [List.mem_cons, true_or,
        or_true])).2
  have hparse := Replies.parse_tlv_stream_stream hfits
  have hgateway := @Replies.no_gateway_of_tag u (Tag.RESPONSE_START, [])
    [(Tag.RETURN_CODE, toBE 4 RC_SYSTEM_FAILURE), (Tag.EXCEPTION_TEXT, encoded)]
    (show Tag.RESPONSE_START < 256 ^ 2 by decide) (show Tag.RESPONSE_START ≠ 0x2A45 by decide)
  refine ⟨decode_error_text (some encoded), _, hstream ▸ hparse, ?_, fun htext =>
    decode_error_text_encode htext hencoded⟩
  unfold raise_for_rfc_error
  rw [hstream, hgateway, hparse]
  exact raise_for_failure_records encoded

/-- INTERNAL: and so it is where a result was looked for. -/
theorem failure_read {message : PyStr} {out : Bytes}
    (hbuild : build_system_failure message = .ok out) (p : Platform (PyVal L))
    (desc : FunctionDesc) (dm : List (ℕ × PyStr)) :
    ∃ text, parse_invoke_response p out desc dm = .error (systemFailure text) ∧
      (SingleByte (sanitize_message message) →
        text = rstrip padding (sanitize_message message)) := by
  obtain ⟨text, tags, hparse, hraise, htext⟩ := raise_for_failure p.u hbuild
  refine ⟨text, ?_, htext⟩
  unfold parse_invoke_response
  rw [hraise, hparse]
  rfl

end Answer

end SapRfc.Analysis.ReadBack
