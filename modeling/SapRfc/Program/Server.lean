import SapRfc.Program.Logon
import SapRfc.Program.Reply
import SapRfc.Program.Stores

/-!
# The RFC server: registry, readers and responses

A server is its registry and the callbacks installed on it.  Handlers, stores and
callbacks are application code, so they are programs over a state `χ` of which nothing
is known.  The world of a dispatch is that state and a log of what the dispatch did
with handlers and stores; the log is read by the results only.
-/

set_option autoImplicit false

namespace SapRfc.Program

open SapRfc.Library

/-! ## Handlers and the log -/

/-- What a dispatch did. -/
inductive ServerEvent where
  /-- an entry of the registry or of the generic fallback was chosen for a call -/
  | selected (handler : ℕ)
  /-- a handler was called; for an `async def` handler this makes its coroutine -/
  | called (handler : ℕ)
  /-- a handler's body ran to its end -/
  | completed (handler : ℕ)
  /-- a handler's body raised -/
  | raised (handler : ℕ)
  /-- `mark_executed` of the TID store was called -/
  | marked_executed (tid : PyStr)
  /-- `confirm` of the unit store was called -/
  | confirmed (unit_id unit_type : PyStr)
  deriving DecidableEq, Repr

/-- The state of a dispatch. -/
structure ServerWorld (χ : Type) where
  user : χ
  events : List ServerEvent

/-- A handler: its identity, whether it is an `async def`, and its body. -/
structure Handler (χ V : Type) where
  id : ℕ
  coroutine : Bool
  body : Values V → Eff PyError χ (Option (Values V))

/-- `(func_desc, handler)` -/
abbrev Entry (χ V : Type) : Type := Option FunctionDesc × Handler χ V

/-- The authentication callback, called with keywords or with the user alone. -/
structure AuthCheck (χ : Type) where
  keyword : Option PyStr → Option PyStr → Eff PyError χ Bool
  positional : Option PyStr → Eff PyError χ Bool

/-- SOURCE: server.py:538-581.  The registry is keyed by the name in upper case. -/
structure RfcServer (χ V : Type) where
  registry : List (PyStr × Entry χ V)
  generic : Option (PyStr → Eff PyError χ (Option (Entry χ V)))
  auth_check : Option (AuthCheck χ)
  tid_store : TidStore χ
  on_check_transaction : Option (PyStr → Eff PyError χ ℤ)
  on_commit_transaction : Option (PyStr → Eff PyError χ Unit)
  on_rollback_transaction : Option (PyStr → Eff PyError χ Unit)
  on_confirm_transaction : Option (PyStr → Eff PyError χ Unit) := none
  unit_store : UnitStore χ
  on_check_unit : Option (PyStr → PyStr → Eff PyError χ ℤ)
  on_commit_unit : Option (PyStr → PyStr → Eff PyError χ Unit)
  on_rollback_unit : Option (PyStr → PyStr → Eff PyError χ Unit)
  on_confirm_unit : Option (PyStr → PyStr → Eff PyError χ Unit)
  on_get_unit_state : Option (PyStr → PyStr → Eff PyError χ UnitState)

/-- SOURCE: server.py:538-581.  A new server has stores and nothing else. -/
def RfcServer.init {χ V : Type} (tid_store : TidStore χ) (unit_store : UnitStore χ) :
    RfcServer χ V where
  registry := []
  generic := none
  auth_check := none
  tid_store := tid_store
  on_check_transaction := none
  on_commit_transaction := none
  on_rollback_transaction := none
  unit_store := unit_store
  on_check_unit := none
  on_commit_unit := none
  on_rollback_unit := none
  on_confirm_unit := none
  on_get_unit_state := none

section Effects

variable {χ V α : Type}

/-- Application code runs on its own state. -/
def ext (x : Eff PyError χ α) : Eff PyError (ServerWorld χ) α := Eff.mk fun w =>
  ((Eff.run x w.user).1, ⟨(Eff.run x w.user).2, w.events⟩)

/-- Note an event. -/
def note (e : ServerEvent) : Eff PyError (ServerWorld χ) Unit :=
  Eff.update fun w => ⟨w.user, w.events ++ [e]⟩

/-- An optional callback; without one nothing happens. -/
def callback (x : Option (Eff PyError χ Unit)) : Eff PyError (ServerWorld χ) Unit :=
  match x with
  | some x => ext x
  | none => pure ()

/-- What a call of a handler gives: a result, or a coroutine nobody has awaited yet. -/
inductive Called (V : Type) where
  | result (values : Option (Values V))
  | coroutine

/-- Run a handler's body to its end. -/
def run_body (h : Handler χ V) (request : Values V) :
    Eff PyError (ServerWorld χ) (Option (Values V)) := do
  let result ← tryCatch (ext (h.body request)) fun e => do
    note (.raised h.id)
    throw e
  note (.completed h.id)
  pure result

/-- `handler(request)` -/
def call_handler (h : Handler χ V) (request : Values V) :
    Eff PyError (ServerWorld χ) (Called V) := do
  note (.called h.id)
  if h.coroutine then pure .coroutine
  else do
    let values ← run_body h request
    pure (.result values)

/-- `await handler(request)` where the handler is an `async def`, else the call. -/
def await_handler (h : Handler χ V) (request : Values V) :
    Eff PyError (ServerWorld χ) (Option (Values V)) := do
  note (.called h.id)
  run_body h request

end Effects

/-! ## Readers of an inbound frame -/

section Readers

variable {χ V : Type} (p : Platform V)

/-- SOURCE: server.py:1277-1286. -/
def read_func_name (tlv : Bytes) : Except PyError PyStr := do
  let tags ← parse_tlv_stream tlv
  match tags.get Tag.FUNC_NAME with
  | none => .ok []
  | some raw => .ok (decode_utf16le raw)

/-- `_TAG_NGRFC_PARAMS` -/
def Tag.COMPACT_PARAMS : ℕ := 0x5001

/-- SOURCE: server.py:1289-1324.  The compact block is read when no pair gave a value. -/
def deserialize_request (tlv : Bytes) (func_desc : Option FunctionDesc) :
    Except PyError (Values V) :=
  match func_desc with
  | none => .ok []
  | some func_desc => do
    let pairs ← extract_name_value_pairs p.codec tlv
    let request ← pairs.foldlM (fun (request : Values V) (name, raw) =>
      match field_of p.u func_desc.parameters name with
      | none => .ok request
      | some field => do
        let value ← p.codec.decode field.rfctype raw field none
        .ok (assocSet request field.name value)) []
    if request ≠ [] then .ok request
    else do
      let tags ← parse_tlv_stream tlv
      match tags.get Tag.COMPACT_PARAMS with
      | none => .ok []
      | some raw_5001 =>
        .ok ((extract_5001_params raw_5001).foldl (fun (request : Values V) (name, value) =>
          match field_of p.u func_desc.parameters name with
          | none => request
          | some field => assocSet request field.name (p.codec.ofStr value)) [])

/-- SOURCE: server.py:1351-1372.  A pair of that name, else what the
compact block has for the two names it is searched for. -/
def extract_param_from_frame (tlv : Bytes) (param_name : PyStr) : Except PyError PyStr := do
  let key := p.u.upper param_name
  let pairs ← extract_name_value_pairs p.codec tlv
  match pairs.find? fun e => p.u.upper e.1 = key with
  | some e => .ok (decode_utf16le e.2)
  | none => do
    let tags ← parse_tlv_stream tlv
    match tags.get Tag.COMPACT_PARAMS with
    | none => .ok []
    | some raw_5001 =>
      let (tid, arfcfnam) := extract_trfc_params_from_5001 raw_5001
      .ok (if key = lit "ARFCFNAM" then arfcfnam else if key = lit "ARFCTID" then tid else [])

/-- SOURCE: server.py:1331-1348. -/
def extract_tid_from_frame (tlv : Bytes) : Except PyError PyStr := do
  let pairs ← extract_name_value_pairs p.codec tlv
  match pairs.find? fun e => p.u.upper e.1 = lit "ARFCTID" with
  | some e => .ok (decode_utf16le e.2)
  | none => do
    let tags ← parse_tlv_stream tlv
    match tags.get Tag.COMPACT_PARAMS with
    | none => .ok []
    | some raw_5001 => .ok (extract_trfc_params_from_5001 raw_5001).1

/-- SOURCE: server.py:1268-1273, the search through the records read so far. -/
def find_raw_param (key : PyStr) : Option PyStr → List (ℕ × Bytes) → Option Bytes
  | _, [] => none
  | current_name, (tag, value) :: rest =>
    if tag = Tag.PARAM_NAME then find_raw_param key (some (decode_utf16le value)) rest
    else if tag = Tag.PARAM_VALUE then
      match current_name with
      | some name =>
        if p.u.upper name = key then some value else find_raw_param key none rest
      | none => find_raw_param key none rest
    else find_raw_param key current_name rest

/-- SOURCE: server.py:1228-1271.  A malformed record ends the search without an error. -/
def extract_raw_param_from_frame (tlv : Bytes) (param_name : PyStr) : Option Bytes :=
  find_raw_param p (p.u.upper param_name) none (Records.walk Tag.TERMINATOR tlv).records

def Tag.USER : ℕ := 0x0111
def Tag.PASSWORD : ℕ := 0x0117

/-- SOURCE: server.py:1544-1564. -/
def extract_credentials (tlv : Bytes) : Except PyError (Option PyStr × Option PyStr) := do
  let tags ← parse_tlv_stream tlv
  let user := match tags.get Tag.USER with
    | some (b :: bs) => some (decode_utf16le (b :: bs))
    | _ => none
  let password := match tags.get Tag.PASSWORD with
    | some raw =>
      if 4 ≤ raw.length then some (decodeLatin1 (ab_scramble (raw.drop 4) (ofLE (raw.take 4))))
      else none
    | none => none
  .ok (user, password)

end Readers

/-! ## Responses -/

def RC_OK : ℕ := 0
def RC_SYSTEM_FAILURE : ℕ := 3
def RC_EXECUTED : ℕ := 16

/-- `b"".join([...])` over records that may not fit their fields. -/
def join_records (records : List (ℕ × Bytes)) : Except PyError Bytes := do
  let parts ← records.mapM fun r => tlv_record r.1 r.2
  .ok parts.flatten

/-- What is joined is the records one behind the other. -/
theorem join_records_ok {records : List (ℕ × Bytes)} {out : Bytes}
    (h : join_records records = .ok out) :
    out = records.flatMap fun r => Records.encode r.1 r.2 := by
  unfold join_records at h
  induction records generalizing out with
  | nil =>
    cases h
    rfl
  | cons r rs ih =>
    rw [List.mapM_cons] at h
    cases hr : tlv_record r.1 r.2 with
    | error e => rw [hr] at h; cases h
    | ok part =>
      rw [hr] at h
      cases hrs : rs.mapM (m := Except PyError) fun r => tlv_record r.1 r.2 with
      | error e => rw [hrs] at h; cases h
      | ok parts =>
        rw [hrs] at h ih
        cases h
        rw [List.flatMap_cons, ← ih rfl, List.flatten_cons, (tlv_record_eq_ok.mp hr).2.2]

/-- A response that is a return code and nothing else. -/
def build_code_response (rc : ℕ) : Bytes :=
  Records.encode Tag.RESPONSE_START [] ++ Records.encode Tag.RETURN_CODE (toBE 4 rc) ++
    Records.encode Tag.TERMINATOR []

/-- SOURCE: server.py:1374-1390. -/
def build_rfc_executed_response : Bytes := build_code_response RC_EXECUTED

/-- SOURCE: server.py:1392-1404. -/
def build_rfc_ok_response : Bytes := build_code_response RC_OK

/-- SOURCE: server.py:1508-1519. -/
def sanitize_message (message : PyStr) : PyStr :=
  (message.takeWhile fun c => !isLineBreak c).take 512

/-- SOURCE: server.py:1490-1505. -/
def build_system_failure (message : PyStr) : Except PyError Bytes := do
  let text ← encodeUtf16le (sanitize_message message)
  join_records [(Tag.RESPONSE_START, []), (Tag.RETURN_CODE, toBE 4 RC_SYSTEM_FAILURE),
    (Tag.EXCEPTION_TEXT, text), (Tag.TERMINATOR, [])]

section Responses

variable {V : Type} (p : Platform V)

/-- SOURCE: server.py:1467-1488. -/
def build_table_records (field : FieldDesc) (value : V) (dm_id : ℕ) :
    Except PyError (List (ℕ × Bytes)) :=
  match field.type_desc with
  | none =>
    .error (err .value (lit "cannot encode TABLE parameter " ++ p.u.repr field.name ++
      lit ": its row layout is missing (type_desc is None)"))
  | some type_desc => do
    let rows ← p.codec.rows value
    let name ← encodeUtf16le field.name
    if rows = [] then .ok [(Tag.TABLE_NAME, name)]
    else do
      let row_size := if field.unicode_mode then type_desc.uc_size else type_desc.nuc_size
      let all_rows ← p.codec.encode RFCTYPE_TABLE (p.codec.ofRows rows) field
      let id ← pack_u32 dm_id
      let size ← pack_u32 row_size
      let count ← pack_u32 rows.length
      .ok ([(Tag.TABLE_NAME, name), (Tag.DM_TABLE_ID, id), (Tag.TABLE_INFO, size ++ count)] ++
        (List.range rows.length).map fun i =>
          (Tag.TABLE_CONTENT_ALT, row_slice all_rows row_size i))

/-- SOURCE: server.py:1442-1462, one output parameter; the state is the records so far
and the number of tables among them. -/
def build_output_param (result : Values V) (s : List (ℕ × Bytes) × ℕ) (field : FieldDesc) :
    Except PyError (List (ℕ × Bytes) × ℕ) :=
  if field.direction ∉ [RFC_EXPORT, RFC_CHANGING, RFC_TABLES] then .ok s
  else
    match assocGet result (p.u.upper field.name) with
    | none => .ok s
    | some value =>
      if field.rfctype = RFCTYPE_TABLE then do
        let table ← build_table_records p field value (s.2 + 1)
        .ok (s.1 ++ table, s.2 + 1)
      else do
        let encoded ← p.codec.encode field.rfctype value field
        let name ← encodeUtf16le field.name
        .ok (s.1 ++ [(Tag.PARAM_NAME, name), (Tag.PARAM_VALUE, encoded)], s.2)

/-- SOURCE: server.py:1409-1464. -/
def build_response (func_desc : Option FunctionDesc) (result : Values V) :
    Except PyError Bytes := do
  let params := match func_desc with
    | some d => d.parameters
    | none => []
  let (records, _) ← params.foldlM (build_output_param p (upper_keys p.u result)) ([], 0)
  join_records ([(Tag.RESPONSE_START, []), (Tag.RETURN_CODE, toBE 4 RC_OK)] ++ records ++
    [(Tag.TERMINATOR, [])])

/-- SOURCE: server.py:846-848.  A coroutine has no `items`. -/
def build_call_response (func_desc : Option FunctionDesc) (called : Called V) :
    Except PyError Bytes :=
  match called with
  | .result values => build_response p func_desc (values.getD [])
  | .coroutine => .error (err .attribute (lit "'coroutine' object has no attribute 'items'"))

end Responses

/-- SOURCE: server.py:252-269.  A handle is eight bytes. -/
def wrap_in_0608 (rfc_data gw_handle : Bytes) : Except PyError Bytes := do
  let length ← pack_u32 rfc_data.length
  .ok ([0x06, 0x08, 0x07, 0x00, 0xFF, 0xFF] ++ List.replicate 34 0 ++ gw_handle ++ length ++
    List.replicate 24 0 ++ [0xFF, 0xFF, 0x00, 0x01] ++ rfc_data)

end SapRfc.Program
