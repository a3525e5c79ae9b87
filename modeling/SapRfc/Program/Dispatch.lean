import SapRfc.Program.Server

/-!
# Inbound dispatch

The function name of a frame picks one of six branches: the tRFC ship and confirm, the
bgRFC ship, confirm and state query, and the ordinary call.  The asynchronous server
has its own ordinary branch and hands the other five names to the synchronous one.
-/

set_option autoImplicit false

namespace SapRfc.Program

open SapRfc.Library

/-- SOURCE: server.py:873-884.  What is wrong with a TID, if anything. -/
def tid_fault (tid : PyStr) : Option PyStr :=
  if tid = [] then some (lit "ARFC_DEST_SHIP: missing ARFCTID param in inbound frame")
  else if tid.length ≠ TID_LN then
    some (lit "ARFC_DEST_SHIP: invalid TID length " ++ dec tid.length ++ lit " (expected " ++
      dec TID_LN ++ lit ")")
  else if tid.any (· ∉ TID_ALPHABET) then
    some (lit "ARFC_DEST_SHIP: TID contains characters outside RFC alphabet")
  else none

/-- SOURCE: server.py:977-989.  What is wrong with a unit id, if anything. -/
def unit_id_fault (unit_id : PyStr) : Option PyStr :=
  if unit_id = [] then some (lit "BGRFC_DEST_SHIP: missing BGRFC_UNIT_ID param in inbound frame")
  else if unit_id.length ≠ UNITID_LN then
    some (lit "BGRFC_DEST_SHIP: invalid UnitID length " ++ dec unit_id.length ++
      lit " (expected " ++ dec UNITID_LN ++ lit ")")
  else if unit_id.any (· ∉ UNITID_CHARSET) then
    some (lit ("BGRFC_DEST_SHIP: UnitID contains characters outside uppercase hex charset " ++
      "(allowed: 0-9A-F)"))
  else none

section Dispatch

variable {χ V : Type} (p : Platform V) (srv : RfcServer χ V)

/-- The registry, then the generic fallback. -/
def RfcServer.lookup (name : PyStr) : Eff PyError χ (Option (Entry χ V)) :=
  match assocGet srv.registry (p.u.upper name) with
  | some entry => pure (some entry)
  | none =>
    match srv.generic with
    | some generic => generic name
    | none => pure none

/-- SOURCE: server.py:1524-1541.  A callback that takes the user alone answers the
keyword call with a `TypeError`. -/
def AuthCheck.ask {χ : Type} (check : AuthCheck χ) (user password : Option PyStr) :
    Eff PyError χ Bool :=
  tryCatch (check.keyword user password) fun e =>
    if e.kind = .type then check.positional user else throw e

/-- SOURCE: server.py:1524-1541. -/
def check_auth (tlv : Bytes) : Eff PyError χ Bool :=
  match srv.auth_check with
  | none => pure true
  | some check => do
    let (user, password) ← Eff.lift (extract_credentials tlv)
    check.ask user password

/-! ## Ordinary calls -/

/-- SOURCE: server.py:824-848. -/
def dispatch_call (tlv : Bytes) (fname : PyStr) : Eff PyError (ServerWorld χ) Bytes := do
  let entry ← ext (srv.lookup p fname)
  match entry with
  | none => Eff.lift (build_system_failure (lit "function " ++ fname ++ lit " not registered"))
  | some (func_desc, handler) => do
    note (.selected handler.id)
    let allowed ← ext (check_auth srv tlv)
    if allowed = false then Eff.lift (build_system_failure (lit "authentication failed"))
    else do
      let request ← Eff.lift (deserialize_request p tlv func_desc)
      let called ← attempt (call_handler handler request)
      match called with
      | .error exc => Eff.lift (build_system_failure exc.text)
      | .ok called => Eff.lift (build_call_response p func_desc called)

/-! ## tRFC -/

/-- SOURCE: server.py:888-892. -/
def RfcServer.check_transaction (tid : PyStr) : Eff PyError χ Bool :=
  match srv.on_check_transaction with
  | some on_check => do
    let rc ← on_check tid
    pure (decide (rc = (RC_EXECUTED : ℤ)))
  | none => srv.tid_store.is_executed tid

/-- Roll a TID back and answer with a failure. -/
def rollback_transaction (tid message : PyStr) : Eff PyError (ServerWorld χ) Bytes := do
  ext (srv.tid_store.mark_rolled_back tid)
  callback (srv.on_rollback_transaction.map (· tid))
  Eff.lift (build_system_failure message)

/-- SOURCE: server.py:924-948, from the call of the handler on. -/
def run_shipped (tid : PyStr) (handler : Handler χ V) (request : Values V) :
    Eff PyError (ServerWorld χ) Bytes := do
  let called ← attempt (call_handler handler request)
  match called with
  | .error exc => rollback_transaction srv tid exc.text
  | .ok _ => do
    note (.marked_executed tid)
    ext (srv.tid_store.mark_executed tid)
    callback (srv.on_commit_transaction.map (· tid))
    pure build_rfc_ok_response

/-- SOURCE: server.py:903-907.  An empty name is looked up nowhere. -/
def RfcServer.lookup_wrapped (wrapped_fn : PyStr) : Eff PyError χ (Option (Entry χ V)) :=
  if wrapped_fn = [] then pure none else srv.lookup p wrapped_fn

/-- SOURCE: server.py:899-921, from the store's `mark_received` on. -/
def open_shipped (tlv : Bytes) (tid : PyStr) : Eff PyError (ServerWorld χ) Bytes := do
  ext (srv.tid_store.mark_received tid)
  let wrapped_fn ← Eff.lift (extract_param_from_frame p tlv (lit "ARFCFNAM"))
  let entry ← ext (srv.lookup_wrapped p wrapped_fn)
  match entry with
  | none =>
    rollback_transaction srv tid
      (lit "ARFC_DEST_SHIP: no handler registered for " ++ p.u.repr wrapped_fn)
  | some (func_desc, handler) => do
    note (.selected handler.id)
    let request ← Eff.lift (deserialize_request p tlv func_desc)
    run_shipped srv tid handler request

/-- SOURCE: server.py:850-948. -/
def dispatch_transactional (tlv : Bytes) : Eff PyError (ServerWorld χ) Bytes := do
  let tid ← Eff.lift (extract_tid_from_frame p tlv)
  match tid_fault tid with
  | some message => Eff.lift (build_system_failure message)
  | none => do
    let already_done ← ext (srv.check_transaction tid)
    if already_done = true then pure build_rfc_executed_response
    else open_shipped p srv tlv tid

/-! ## bgRFC units -/

/-- SOURCE: server.py:1182-1186.  The first NUL code unit of a buffered call. -/
def name_end : Bytes → Option ℕ
  | a :: b :: rest => if a = 0 ∧ b = 0 then some 0 else (name_end rest).map (· + 2)
  | _ => none

/-- SOURCE: server.py:1171-1197.  The function name of a buffered call, or what is wrong
with it. -/
def buffered_name (call_bytes : Bytes) : Except PyStr PyStr :=
  if call_bytes = [] then .error (lit "bgRFC: buffered call is empty")
  else
    let raw := match name_end call_bytes with
      | some off => call_bytes.take off
      | none => call_bytes
    match decodeUtf16le? raw with
    | none =>
      .error (lit "bgRFC: cannot decode function name from buffered call (" ++
        p.u.utf16Error raw ++ lit ")")
    | some text =>
      let func_name := rstrip padding text
      if func_name = [] then .error (lit "bgRFC: buffered call carries an empty function name")
      else .ok func_name

/-- SOURCE: server.py:1158-1225.  Nothing, or the error of the call. -/
def execute_buffered_call (call_bytes : Bytes) : Eff PyError (ServerWorld χ) (Option PyStr) :=
  match buffered_name p call_bytes with
  | .error message => pure (some message)
  | .ok func_name => do
    let entry ← ext (srv.lookup p func_name)
    match entry with
    | none => pure (some (lit "bgRFC: no handler registered for " ++ p.u.repr func_name))
    | some (_, handler) => do
      note (.selected handler.id)
      let called ← attempt (call_handler handler [])
      match called with
      | .ok _ => pure none
      | .error exc => do
        let line ← Eff.lift (firstLine exc.text)
        pure (some (line.take 512))

/-- `f"BGRFC_CALL_{i}"` -/
def call_name (i : ℕ) : PyStr := lit "BGRFC_CALL_" ++ dec i

/-- SOURCE: server.py:1035-1050, from call `i` on with `left` calls to go. -/
def run_calls (tlv : Bytes) (call_count : ℕ) :
    ℕ → ℕ → Eff PyError (ServerWorld χ) (Option PyStr)
  | _, 0 => pure none
  | i, left + 1 =>
    match extract_raw_param_from_frame p tlv (call_name i) with
    | none =>
      pure (some (lit "bgRFC: frame declares " ++ dec call_count ++ lit " call(s) but " ++
        call_name i ++ lit " is missing"))
    | some call_bytes => do
      let call ← attempt (execute_buffered_call p srv call_bytes)
      match call with
      | .error exc => do
        let line ← Eff.lift (firstLine exc.text)
        pure (some (line.take 512))
      | .ok (some call_error) => pure (some call_error)
      | .ok none => run_calls tlv call_count (i + 1) left

/-- SOURCE: server.py:1020-1033.  The number of calls, or what is wrong with it. -/
def parse_call_count (call_count_str : PyStr) : Except PyStr ℕ :=
  if call_count_str = [] then .ok 0
  else
    match p.u.int call_count_str with
    | none =>
      .error (lit "BGRFC_DEST_SHIP: unreadable BGRFC_CALL_COUNT " ++ p.u.repr call_count_str)
    | some (.ofNat n) => .ok n
    | some (.negSucc n) =>
      .error (lit "BGRFC_DEST_SHIP: negative BGRFC_CALL_COUNT -" ++ dec (n + 1))

/-- SOURCE: server.py:992-994.  Any type but `Q` is `T`. -/
def unit_type_of (raw : PyStr) : PyStr := if raw = lit "Q" then raw else lit "T"

/-- SOURCE: server.py:999-1004. -/
def RfcServer.check_unit (unit_id unit_type : PyStr) : Eff PyError χ Bool :=
  match srv.on_check_unit with
  | some on_check => do
    let rc ← on_check unit_id unit_type
    pure (decide (rc = (RC_EXECUTED : ℤ)))
  | none => do
    let state ← srv.unit_store.get_unit_state unit_id unit_type
    pure (decide (state = .COMMITTED ∨ state = .CONFIRMED))

/-- An optional callback whose exceptions are logged and dropped. -/
def isolated (x : Option (Eff PyError χ Unit)) : Eff PyError (ServerWorld χ) Unit := do
  let _ ← attempt (callback x)
  pure ()

/-- SOURCE: server.py:1052-1096, what follows the calls. -/
def finish_unit (unit_id unit_type : PyStr) (call_error : Option PyStr) :
    Eff PyError (ServerWorld χ) Bytes :=
  match call_error with
  | some message => do
    isolated (srv.on_rollback_unit.map fun f => f unit_id unit_type)
    Eff.lift (build_system_failure message)
  | none => do
    isolated (srv.on_commit_unit.map fun f => f unit_id unit_type)
    note (.confirmed unit_id unit_type)
    ext (srv.unit_store.confirm unit_id unit_type)
    isolated (srv.on_confirm_unit.map fun f => f unit_id unit_type)
    pure build_rfc_ok_response

/-- SOURCE: server.py:1010-1096, from the store's `persist` on. -/
def open_unit (tlv : Bytes) (unit_id unit_type : PyStr) : Eff PyError (ServerWorld χ) Bytes := do
  ext (srv.unit_store.persist unit_id unit_type)
  let call_count_str ← Eff.lift (extract_param_from_frame p tlv (lit "BGRFC_CALL_COUNT"))
  match parse_call_count p call_count_str with
  | .error message => Eff.lift (build_system_failure message)
  | .ok call_count => do
    let call_error ← run_calls p srv tlv call_count 0 call_count
    finish_unit srv unit_id unit_type call_error

/-- SOURCE: server.py:954-1096. -/
def dispatch_bgrfc_unit (tlv : Bytes) : Eff PyError (ServerWorld χ) Bytes := do
  let unit_id ← Eff.lift (extract_param_from_frame p tlv (lit "BGRFC_UNIT_ID"))
  match unit_id_fault unit_id with
  | some message => Eff.lift (build_system_failure message)
  | none => do
    let raw_type ← Eff.lift (extract_param_from_frame p tlv (lit "BGRFC_UNIT_TYPE"))
    let already_done ← ext (srv.check_unit unit_id (unit_type_of raw_type))
    if already_done = true then pure build_rfc_executed_response
    else open_unit p srv tlv unit_id (unit_type_of raw_type)

/-- `_extract_param_from_frame(tlv, "BGRFC_UNIT_TYPE") or "T"` -/
def unit_type_or_T (raw : PyStr) : PyStr := if raw = [] then lit "T" else raw

/-- SOURCE: server.py:1098-1117. -/
def dispatch_bgrfc_confirm (tlv : Bytes) : Eff PyError (ServerWorld χ) Bytes := do
  let unit_id ← Eff.lift (extract_param_from_frame p tlv (lit "BGRFC_UNIT_ID"))
  let raw_type ← Eff.lift (extract_param_from_frame p tlv (lit "BGRFC_UNIT_TYPE"))
  let unit_type := unit_type_or_T raw_type
  if unit_id.length ≠ UNITID_LN then
    Eff.lift (build_system_failure (lit "BGRFC_DEST_CONFIRM: invalid or missing BGRFC_UNIT_ID"))
  else do
    note (.confirmed unit_id unit_type)
    ext (srv.unit_store.confirm unit_id unit_type)
    isolated (srv.on_confirm_unit.map fun f => f unit_id unit_type)
    pure build_rfc_ok_response

/-- SOURCE: server.py:1127-1146. -/
def unit_state_answer (unit_id unit_type : PyStr) :
    Eff PyError (ServerWorld χ) (Except PyStr UnitState) :=
  match srv.on_get_unit_state with
  | none => do
    let state ← ext (srv.unit_store.get_unit_state unit_id unit_type)
    pure (.ok state)
  | some get_state => do
    let answer ← attempt (ext (get_state unit_id unit_type))
    match answer with
    | .ok state => pure (.ok state)
    | .error exc => do
      let line ← Eff.lift (firstLine exc.text)
      pure (.error (lit "BGRFC_CHECK_UNIT_STATE_SERVER: state lookup for " ++ unit_id ++
        lit " failed (" ++ p.typeName exc ++ lit ": " ++ line.take 200 ++
        lit ") — the state is unknown, not NOT_FOUND"))

/-- SOURCE: server.py:1119-1156. -/
def dispatch_bgrfc_state_query (tlv : Bytes) : Eff PyError (ServerWorld χ) Bytes := do
  let unit_id ← Eff.lift (extract_param_from_frame p tlv (lit "BGRFC_UNIT_ID"))
  let raw_type ← Eff.lift (extract_param_from_frame p tlv (lit "BGRFC_UNIT_TYPE"))
  if unit_id.length ≠ UNITID_LN then
    Eff.lift (build_system_failure
      (lit "BGRFC_CHECK_UNIT_STATE_SERVER: invalid or missing BGRFC_UNIT_ID"))
  else do
    let answer ← unit_state_answer p srv unit_id (unit_type_or_T raw_type)
    match answer with
    | .error message => Eff.lift (build_system_failure message)
    | .ok state => Eff.lift (do
      let name ← encodeUtf16le (lit "BGRFC_STATE")
      let label ← encodeUtf16le state.label
      join_records [(Tag.RESPONSE_START, []), (Tag.RETURN_CODE, toBE 4 RC_OK),
        (Tag.PARAM_NAME, name), (Tag.PARAM_VALUE, label), (Tag.TERMINATOR, [])])

/-! ## The dispatcher -/

/-- SOURCE: server.py:801-848, on the function name. -/
def dispatch_named (tlv : Bytes) (fname : PyStr) : Eff PyError (ServerWorld χ) Bytes :=
  if fname = ARFC_DEST_SHIP then dispatch_transactional p srv tlv
  else if fname = ARFC_DEST_CONFIRM then pure build_rfc_ok_response
  else if fname = BGRFC_DEST_SHIP then dispatch_bgrfc_unit p srv tlv
  else if fname = BGRFC_DEST_CONFIRM then dispatch_bgrfc_confirm p srv tlv
  else if fname = BGRFC_CHECK_UNIT_STATE_SERVER then dispatch_bgrfc_state_query p srv tlv
  else dispatch_call p srv tlv fname

/-- SOURCE: server.py:773-848. -/
def dispatch_inbound (frame : Bytes) : Eff PyError (ServerWorld χ) Bytes := do
  let tlv := strip_gw_header frame
  let fname ← Eff.lift (read_func_name tlv)
  dispatch_named p srv tlv fname

/-- SOURCE: server.py:1822-1849, the ordinary branch of the asynchronous server. -/
def async_dispatch_call (tlv : Bytes) (fname : PyStr) : Eff PyError (ServerWorld χ) Bytes := do
  let entry ← ext (srv.lookup p fname)
  match entry with
  | none => Eff.lift (build_system_failure (lit "function " ++ fname ++ lit " not registered"))
  | some (func_desc, handler) => do
    note (.selected handler.id)
    let allowed ← ext (check_auth srv tlv)
    if allowed = false then Eff.lift (build_system_failure (lit "authentication failed"))
    else do
      let request ← Eff.lift (deserialize_request p tlv func_desc)
      let result ← attempt (await_handler handler request)
      match result with
      | .error exc => Eff.lift (build_system_failure exc.text)
      | .ok values => Eff.lift (build_response p func_desc (values.getD []))

/-- The names that the asynchronous server hands to `dispatch_inbound`. -/
def systemNames : List PyStr :=
  [ARFC_DEST_SHIP, ARFC_DEST_CONFIRM, BGRFC_DEST_SHIP, BGRFC_DEST_CONFIRM,
    BGRFC_CHECK_UNIT_STATE_SERVER]

/-- SOURCE: server.py:1789-1849. -/
def async_dispatch (frame : Bytes) : Eff PyError (ServerWorld χ) Bytes := do
  let tlv := strip_gw_header frame
  let fname ← Eff.lift (read_func_name tlv)
  if fname ∈ systemNames then dispatch_inbound p srv frame
  else async_dispatch_call p srv tlv fname

end Dispatch

end SapRfc.Program
