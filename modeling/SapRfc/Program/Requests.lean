import Mathlib.Data.List.Lex
import Mathlib.Data.List.Sort
import SapRfc.Program.Params

/-!
# Requests and results

The writers of `invoke.py`: the ordinary call with its tables, and the three
transactional requests.  With them stands the reader of an ordinary reply.

A request is a list of records whose values may fail to encode; they are encoded in
the order they are sent, so the first that fails is the one that raises.
-/

set_option autoImplicit false

namespace SapRfc.Program

open SapRfc.Library

namespace Tag

def CALL_START : ℕ := 0x0502
def RFC_VERSION : ℕ := 0x000B
def PARAM_SECTION : ℕ := 0x0512
def EXPORT_DECL : ℕ := 0x0205

end Tag

/-- `_RFC_VERSION`, `"754"` in UTF-16LE -/
def RFC_VERSION_BYTES : Bytes := [0x37, 0x00, 0x35, 0x00, 0x34, 0x00]

/-- Records whose values may fail to encode, one behind the other. -/
def write_records (records : List (ℕ × Except PyError Bytes)) : Except PyError Bytes := do
  let parts ← records.mapM fun r => do
    let data ← r.2
    tlv_record r.1 data
  .ok parts.flatten

/-- What is written is the encodings of values that were all there and all fit. -/
theorem write_records_eq_ok {records : List (ℕ × Except PyError Bytes)} {out : Bytes}
    (h : write_records records = .ok out) :
    ∃ values : List (ℕ × Bytes), records = values.map (fun r => (r.1, .ok r.2)) ∧
      (∀ r ∈ values, r.1 < 256 ^ 2 ∧ r.2.length < 256 ^ 4) ∧
      out = values.flatMap fun r => Records.encode r.1 r.2 := by
  unfold write_records at h
  induction records generalizing out with
  | nil =>
    cases h
    exact ⟨[], rfl, nofun, rfl⟩
  | cons r rs ih =>
    obtain ⟨tag, value⟩ := r
    rw [List.mapM_cons] at h
    cases value with
    | error e => cases h
    | ok data =>
      cases hr : tlv_record tag data with
      | error e =>
        have hhead : (do let data ← Except.ok data; tlv_record tag data) =
            (.error e : Except PyError Bytes) := hr
        rw [hhead] at h
        cases h
      | ok part =>
        have hhead : (do let data ← Except.ok data; tlv_record tag data) =
            (.ok part : Except PyError Bytes) := hr
        rw [hhead] at h
        cases hrs : rs.mapM (m := Except PyError) fun r => do
            let data ← r.2
            tlv_record r.1 data with
        | error e => rw [hrs] at h; cases h
        | ok parts =>
          rw [hrs] at h ih
          cases h
          obtain ⟨values, rfl, hfit, hflat⟩ := ih rfl
          obtain ⟨htag, hlen, rfl⟩ := tlv_record_eq_ok.mp hr
          refine ⟨(tag, data) :: values, rfl, ?_, ?_⟩
          · intro q hq
            cases hq with
            | head => exact ⟨htag, hlen⟩
            | tail _ hq => exact hfit q hq
          · rw [List.flatten_cons, List.flatMap_cons, hflat]

/-- A name and a value. -/
def named_value (name : PyStr) (value : Except PyError Bytes) : List (ℕ × Except PyError Bytes) :=
  [(Tag.PARAM_NAME, encodeUtf16le name), (Tag.PARAM_VALUE, value)]

/-- The records every request begins with. -/
def request_head (func_name : PyStr) : List (ℕ × Except PyError Bytes) :=
  [(Tag.CALL_START, .ok []), (Tag.RFC_VERSION, .ok RFC_VERSION_BYTES),
    (Tag.FUNC_NAME, encodeUtf16le func_name), (Tag.PARAM_SECTION, .ok [])]

/-! ## Ordinary calls -/

section Call

variable {V : Type} (p : Platform V)

/-- `name.upper() in {f.name.upper() for f in desc.parameters}` -/
def isKnown (desc : FunctionDesc) (name : PyStr) : Bool :=
  desc.parameters.any fun f => p.u.upper f.name = p.u.upper name

/-- `sorted(names)` -/
def sortNames (names : List PyStr) : List PyStr := names.insertionSort (· ≤ ·)

/-- SOURCE: invoke.py:262-269. -/
def unknown_parameters (desc : FunctionDesc) (params : Values V) : List PyStr :=
  sortNames ((params.map (·.1)).filter fun name => !isKnown p desc name)

/-- SOURCE: invoke.py:272-275. -/
def drop_unknown_parameters (desc : FunctionDesc) (params : Values V) : Values V :=
  params.filter fun e => isKnown p desc e.1

/-- SOURCE: connection.py:752-788.  What was dropped before is remembered for the log
only. -/
def filter_call_params (desc : FunctionDesc) (params : Values V) (strict : Bool) : Values V :=
  if unknown_parameters p desc params = [] ∨ strict = true then params
  else drop_unknown_parameters p desc params

/-- SOURCE: invoke.py:278-301.  Number and name of every table that is sent with rows. -/
def dm_table_ids (desc : FunctionDesc) (params : Values V) : List (ℕ × PyStr) :=
  let upper := upper_keys p.u params
  let sent := desc.parameters.filter fun field =>
    field.direction ≠ RFC_EXPORT && field.rfctype = RFCTYPE_TABLE &&
      ((assocGet upper (p.u.upper field.name)).map p.codec.truth).getD false
  sent.zipIdx.map fun e => (e.2 + 1, e.1.name)

/-- `{name: dm for dm, name in ids.items()}[name]` -/
def dm_id_of (ids : List (ℕ × PyStr)) (name : PyStr) : Except PyError ℕ :=
  match ids.reverse.find? fun e => e.2 = name with
  | some e => .ok e.1
  | none => .error (err .key name)

/-- SOURCE: invoke.py:393-420, a table with rows. -/
def build_input_table (ids : List (ℕ × PyStr)) (field : FieldDesc) (value : V) :
    Except PyError Bytes :=
  match field.type_desc with
  | none =>
    .error (err .incompleteDescriptor (lit "cannot encode TABLE parameter " ++
      p.u.repr field.name ++ lit (": its row layout was never resolved (type_desc is None). " ++
        "The RFC_GET_STRUCTURE_DEFINITION lookup for its DDIC type did not complete.")))
  | some type_desc => do
    let all_row_bytes ← p.codec.encode RFCTYPE_TABLE value field
    let row_size := if field.unicode_mode then type_desc.uc_size else type_desc.nuc_size
    let row_count ← p.codec.size value
    write_records ([(Tag.TABLE_NAME, encodeUtf16le field.name),
      (Tag.DM_TABLE_ID, do let id ← dm_id_of ids field.name; pack_u32 id),
      (Tag.TABLE_INFO, do
        let size ← pack_u32 row_size
        let count ← pack_u32 row_count
        .ok (size ++ count))] ++
      (List.range row_count).map fun i =>
        (Tag.TABLE_CONTENT, .ok (row_slice all_row_bytes row_size i)))

/-- SOURCE: invoke.py:380-433, one parameter.  What the caller leaves out is not sent,
nor is a table without rows. -/
def build_input_param (ids : List (ℕ × PyStr)) (upper : Values V) (field : FieldDesc) :
    Except PyError Bytes :=
  if field.direction = RFC_EXPORT then .ok []
  else
    match assocGet upper (p.u.upper field.name) with
    | none => .ok []
    | some value =>
      if field.rfctype = RFCTYPE_TABLE then
        if p.codec.truth value then build_input_table p ids field value else .ok []
      else do
        let encoded ← p.codec.encode field.rfctype value field
        write_records (named_value field.name (.ok encoded))

/-- SOURCE: invoke.py:304-438. -/
def build_invoke_request (func_name : PyStr) (desc : FunctionDesc) (params : Values V) :
    Except PyError Bytes := do
  let head ← write_records (request_head func_name ++
    (desc.parameters.filter fun f => f.direction ∈ [RFC_EXPORT, RFC_CHANGING, RFC_TABLES]).map
      fun f => (Tag.EXPORT_DECL, encodeUtf16le f.name))
  let unknown := unknown_parameters p desc params
  if unknown ≠ [] then
    let known := joinWith (lit ", ") (sortNames (desc.parameters.map (·.name)))
    .error (err .value (func_name ++ lit ": parameter(s) " ++ joinWith (lit ", ") unknown ++
      lit " are not in the function interface; known parameters are " ++
      if known = [] then lit "(none)" else known))
  else do
    let parts ← desc.parameters.mapM
      (build_input_param p (dm_table_ids p desc params) (upper_keys p.u params))
    let tail ← write_records [(Tag.TERMINATOR, .ok [])]
    .ok (head ++ parts.flatten ++ tail)

end Call

/-! ## Transactional requests -/

section Transactional

variable (u : Unicode)

/-- `repr` of a list of characters -/
def reprChars (chars : PyStr) : PyStr :=
  lit "[" ++ joinWith (lit ", ") (chars.map fun c => u.repr [c]) ++ lit "]"

/-- SOURCE: invoke.py:474-492. -/
def validate_tid (tid : PyStr) : Except PyError Unit :=
  if tid.length ≠ TID_LN then
    .error (err .value (lit "TID must be exactly " ++ dec TID_LN ++
      lit " characters (RFC_TID_LN); got " ++ dec tid.length))
  else
    let bad := tid.filter (· ∉ TID_ALPHABET)
    if bad ≠ [] then
      .error (err .value (lit "TID contains characters not in the RFC alphabet: " ++
        reprChars u bad ++ lit " (allowed: ABCDEFGHIJKLMNOPQRSTUVWXYZ0123456789/_=@-)"))
    else .ok ()

/-- `_MAX_QUEUE_NAME` -/
def MAX_QUEUE_NAME : ℕ := 256

/-- SOURCE: invoke.py:495-500. -/
def validate_queue_name (queue : PyStr) : Except PyError Unit :=
  if queue = [] then .error (err .value (lit "queue name must not be empty"))
  else if MAX_QUEUE_NAME < queue.length then
    .error (err .value (lit "queue name too long (" ++ dec queue.length ++ lit " chars; max " ++
      dec MAX_QUEUE_NAME ++ lit ")"))
  else .ok ()

/-- SOURCE: invoke.py:503-581. -/
def build_trfc_request (tid func_name : PyStr) (queue : Option PyStr) : Except PyError Bytes := do
  validate_tid u tid
  match queue with
  | some queue => validate_queue_name queue
  | none => .ok ()
  write_records (request_head ARFC_DEST_SHIP ++
    named_value (lit "ARFCTID") (encodeUtf16le tid) ++
    named_value (lit "ARFCFNAM") (encodeUtf16le func_name) ++
    (match queue with
      | some queue => named_value (lit "ARFCQUEUE") (encodeUtf16le queue)
      | none => []) ++
    [(Tag.TERMINATOR, .ok [])])

/-- SOURCE: invoke.py:584-617. -/
def build_trfc_confirm_request (tid : PyStr) : Except PyError Bytes := do
  validate_tid u tid
  write_records (request_head ARFC_DEST_CONFIRM ++
    named_value (lit "ARFCTID") (encodeUtf16le tid) ++ [(Tag.TERMINATOR, .ok [])])

/-- SOURCE: invoke.py:655-671. -/
def validate_unit_id (uid : PyStr) : Except PyError Unit :=
  if uid.length ≠ UNITID_LN then
    .error (err .value (lit "UnitID must be exactly " ++ dec UNITID_LN ++
      lit " characters (RFC_UNITID_LN); got " ++ dec uid.length))
  else
    let bad := uid.filter (· ∉ UNITID_CHARSET)
    if bad ≠ [] then
      .error (err .value (lit "UnitID contains characters not in uppercase hex alphabet: " ++
        reprChars u bad ++ lit " (allowed: 0-9A-F)"))
    else .ok ()

/-- SOURCE: invoke.py:674-741.  Queues without a name are left out; the calls are counted
when there are any. -/
def build_bgrfc_request (unit_id unit_type : PyStr) (queue_names : List PyStr)
    (buffered_calls : List Bytes) : Except PyError Bytes := do
  validate_unit_id u unit_id
  if unit_type ∉ [lit "T", lit "Q"] then
    .error (err .value (lit "unit_type must be 'T' or 'Q', got " ++ u.repr unit_type))
  else
    write_records (request_head BGRFC_DEST_SHIP ++
      named_value (lit "BGRFC_UNIT_ID") (encodeUtf16le unit_id) ++
      named_value (lit "BGRFC_UNIT_TYPE") (encodeUtf16le unit_type) ++
      (queue_names.zipIdx.filter (·.1 ≠ [])).flatMap (fun e =>
        named_value (lit "BGRFC_QUEUE_" ++ dec e.2) (encodeUtf16le e.1)) ++
      (if buffered_calls = [] then []
      else named_value (lit "BGRFC_CALL_COUNT") (encodeUtf16le (dec buffered_calls.length))) ++
      buffered_calls.zipIdx.flatMap (fun e =>
        named_value (lit "BGRFC_CALL_" ++ dec e.2) (.ok e.1)) ++
      [(Tag.TERMINATOR, .ok [])])

/-- SOURCE: connection.py:3857-3861.  A call as the unit handle buffers it; the values are
given as an f-string prints them. -/
def buffer_call (func_name : PyStr) (params : List (PyStr × PyStr)) : Except PyError Bytes := do
  let name ← encodeUtf16le func_name
  let entries ← params.mapM fun e => encodeUtf16le (e.1 ++ lit "=" ++ e.2)
  .ok (([0, 0] : Bytes).intercalate (name :: entries))

end Transactional

/-! ## Results -/

section Result

variable {V : Type} (p : Platform V)

/-- SOURCE: invoke.py:1192-1221, the result of a reply that reports success. -/
def decode_result (resp : Bytes) (desc : FunctionDesc) (dm_table_names : List (ℕ × PyStr)) :
    Except PyError (Values V) := do
  let fields := desc.parameters.filter fun f => f.direction ≠ RFC_IMPORT
  let named ← extract_named_values p.codec resp dm_table_names
  let result ← named.pairs.foldlM (fun (result : Values V) (name, value) =>
    match field_of p.u fields name with
    | none => .ok result
    | some field => do
      let value ← p.codec.decode field.rfctype value field (assocGet named.row_counts name)
      .ok (assocSet result field.name value)) []
  named.basxml.foldlM (fun (result : Values V) (name, payload) =>
    match field_of p.u fields name with
    | none => .ok result
    | some field => do
      let value ← p.codec.decodeBasxml payload field.name
      .ok (assocSet result field.name value)) result

/-- SOURCE: invoke.py:1129-1221. -/
def parse_invoke_response (resp : Bytes) (desc : FunctionDesc)
    (dm_table_names : List (ℕ × PyStr)) : Except PyError (Values V) :=
  match parse_tlv_stream resp with
  | .error exc => do
    raise_for_rfc_error p.u resp
    .error exc
  | .ok tags => do
    raise_for_rfc_error p.u resp
    match tags.get Tag.RETURN_CODE with
    | some _ => decode_result p resp desc dm_table_names
    | none =>
      if resp = [] then
        .error (err .communication (lit ("the server answered with an empty frame: no response " ++
          "body at all, so neither a result nor an error was reported. The call did not run and " ++
          "the conversation is gone; this connection should be discarded.")))
      else
        .error (err .communication (lit ("malformed RFC response: no return-code TLV 0x0420 and " ++
          "no exception tags in ") ++ dec resp.length ++ lit (" byte(s) of response payload — " ++
          "the server aborted the call; this connection should be discarded")))

def RFCTYPE_DATE : ℕ := 1
def RFCTYPE_TIME : ℕ := 3

/-- SOURCE: connection.py:661-698. -/
def convert_date_time_fields (result : Values V) (desc : FunctionDesc) : Values V :=
  result.map fun (key, value) =>
    match field_of p.u desc.parameters key with
    | none => (key, value)
    | some field =>
      if field.rfctype = RFCTYPE_DATE then (key, p.codec.date value)
      else if field.rfctype = RFCTYPE_TIME then (key, p.codec.time value)
      else (key, value)

end Result

end SapRfc.Program
