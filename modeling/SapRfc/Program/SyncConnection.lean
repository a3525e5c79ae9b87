import SapRfc.Program.Connection

/-!
# The synchronous connection

The bodies of `Connection` that run when no asynchronous core is behind it: over SNC,
over a bare transport, and over a WebSocket, whose logon is part of the first call.
-/

set_option autoImplicit false

namespace SapRfc.Program

open SapRfc.Library

section Sync

variable {ω χ V : Type} (k : Client ω χ V)

/-- One request of `Connection`'s lookups: the frames of the reply are joined. -/
def sync_round_trip : RoundTrip ω χ V := fun purpose name desc params => do
  let request_tlv ← Eff.lift (build_invoke_request k.p name desc params)
  let c ← Eff.state
  if c.is_ws then exchange k purpose (.frames name) request_tlv
  else do
    let frame ← invoke_frame request_tlv
    exchange k purpose (.frames name) (wire_frame k frame)

/-- SOURCE: connection.py:2793-2893. -/
def call_struct_bootstrap (tabname : PyStr) : Op ω χ TypeDesc := do
  let c ← Eff.state
  struct_bootstrap k (sync_round_trip k) c.is_ws tabname

/-- `auth["user"]` of nothing -/
def require_auth : Op ω χ WsAuth := do
  let c ← Eff.state
  match c.ws_auth with
  | some auth => pure auth
  | none => throw (err .key (lit "'user'"))

/-- The logon message goes out and its reply comes in. -/
def ws_logon_trip : Op ω χ Bytes := do
  let auth ← require_auth
  let logon_msg ← Eff.lift (build_ws_logon_message k.p.u k.hostname k.nonce (lit "RFCPING") auth)
  exchange k .logon (.frames (lit "LOGON")) logon_msg

/-- `self._session.complete_ws_first_call(attributes=attrs_ws, codepage="4103")` -/
def complete_logon (attrs : ConnectionAttributes) : Op ω χ Unit :=
  onSession (complete_ws_first_call attrs (lit "4103"))

/-- SOURCE: connection.py:2565-2611, the logon of a first call. -/
def ws_first_logon : Op ω χ Unit := do
  let logon_resp ← ws_logon_trip k
  let attrs_ws ← Eff.lift (ws_parse_logon_response k.p.u logon_resp)
  let failure ← Eff.lift (ws_logon_failure k.p.u logon_resp)
  match failure with
  | some logon_failure => do
    complete_logon attrs_ws
    throw logon_failure
  | none => do
    let closed ← onWire k.seam.drain_queued_close
    match closed with
    | some close_exc => do
      complete_logon attrs_ws
      throw (err .abapSystem (lit ("the server authenticated the wRFC LOGON and then closed the " ++
        "WebSocket: ") ++ close_exc.text))
    | none => complete_logon attrs_ws

/-- SOURCE: connection.py:2695-2711.  A first call over a WebSocket asks a reply without
rows for the reason once more. -/
def pending_rows_check (response : Bytes) (rows : List ParamsRow) : Except PyError Unit :=
  if rows ≠ [] then .ok ()
  else do
    let tags ← session_parse_tlv (strip_gw_header response)
    let rc_raw := (tags.get Tag.RETURN_CODE).getD []
    let rc := if rc_raw.length = 4 then ofBE rc_raw else 0
    if (tags.get Tag.EXCEPTION_NUMBER).isSome ∨ rc ≠ 0 then
      let exc_name := match tags.get Tag.EXCEPTION_MSG_V1 with
        | some (b :: bs) => rstrip padding (decodeUtf16leReplace (b :: bs))
        | _ => []
      let err_msg := decode_error_text (tags.get Tag.EXCEPTION_TEXT)
      let detail := ([exc_name, err_msg].find? (· ≠ [])).getD
        (lit "RFC_GET_FUNCTION_INTERFACE failed")
      .error (err .abapSystem (if rc ≠ 0 then dec rc ++ lit ": " ++ detail else detail))
    else .ok ()

/-- SOURCE: connection.py:2612-2634.  A close instead of the interface is reported as what
it is. -/
def pending_interface (func_name : PyStr) (unicode_mode : Bool) : Op ω χ Bytes := do
  let frame ← Eff.lift (build_invoke_request k.p GET_FUNCTION_INTERFACE
    (bootstrap_desc unicode_mode) [(lit "FUNCNAME", k.p.codec.ofStr func_name)])
  send_request k .interface (.frames GET_FUNCTION_INTERFACE) frame
  tryCatch (read_reply k (.frames GET_FUNCTION_INTERFACE)) fun exc =>
    if exc.kind = .webSocket then
      throw (err .abapSystem (lit ("the server closed the WebSocket without answering " ++
        "RFC_GET_FUNCTION_INTERFACE: ") ++ exc.text))
    else throw exc

/-- SOURCE: connection.py:2486-2769. -/
def call_bootstrap (func_name : PyStr) : Op ω χ FunctionDesc := do
  let mode ← unicode_mode
  let c ← Eff.state
  if c.is_ws ∧ c.session.state = .WS_PENDING then do
    ws_first_logon k
    let response ← pending_interface k func_name mode
    let rows ← Eff.lift (interface_rows k response mode)
    Eff.lift (pending_rows_check response rows)
    describe k (call_struct_bootstrap k) func_name rows
  else do
    let response ← sync_round_trip k .interface GET_FUNCTION_INTERFACE (bootstrap_desc mode)
      [(lit "FUNCNAME", k.p.codec.ofStr func_name)]
    let rows ← Eff.lift (interface_rows k response mode)
    describe k (call_struct_bootstrap k) func_name rows

/-- SOURCE: metadata.py:441-495.  The key that was computed before the lookup serves after
it. -/
def get_function_desc (func_name : PyStr) : Op ω χ FunctionDesc := do
  let cache_key ← metadata_cache_key k
  let hit ← cache_hit k cache_key func_name
  match hit with
  | some desc => pure desc
  | none => do
    let desc ← call_bootstrap k func_name
    cache_fill k cache_key desc
    pure desc

/-- SOURCE: connection.py:3220-3237, over SNC and a bare transport. -/
def classic_invoke (func_name : PyStr) (desc : FunctionDesc) (params : Values V) :
    Op ω χ (Values V) := do
  let call_params := filter_call_params k.p desc params k.strict_params
  let request_tlv ← Eff.lift (build_invoke_request k.p func_name desc call_params)
  let request ← invoke_frame request_tlv
  guarded_invoke k func_name (wire_frame k request) desc (dm_table_ids k.p desc call_params)

/-- SOURCE: connection.py:3211-3217, over a WebSocket. -/
def ws_invoke (func_name : PyStr) (desc : FunctionDesc) (params : Values V) :
    Op ω χ (Values V) := do
  let frame ← Eff.lift (build_invoke_request k.p func_name desc params)
  guarded_invoke k func_name frame desc []

/-- SOURCE: connection.py:3210-3241, from the descriptor on. -/
def invoke_described (func_name : PyStr) (desc : FunctionDesc) (params : Values V) :
    Op ω χ (Values V) := do
  let c ← Eff.state
  if c.is_ws then ws_invoke k func_name desc params
  else classic_invoke k func_name desc params

/-- SOURCE: connection.py:3168-3262, in any state but `WS_PENDING`. -/
def established_call (func_name : PyStr) (params : Values V) : Op ω χ (Values V) :=
  in_call k (wrapTransportError (do
    let desc ← get_function_desc k func_name
    invoke_described k func_name desc params))

/-! ## The first call over a WebSocket -/

/-- The connection of the fallback, which knows the one descriptor. -/
def fallback_conn (c : Conn ω χ) (session : Session) : Conn ω χ where
  wire := c.wire
  session := session
  cache := []
  anon_cache_key := none
  struct_cache := []
  is_ws := false
  ws_auth := none
  user := c.user
  trips := []

/-- Run a method of the fallback's connection; when it returns, its stream, its session and
its descriptors are taken over. -/
def take_over {α : Type} (session : Session) (x : Op ω χ α) : Op ω χ α := Eff.mk fun c =>
  match Eff.run x (fallback_conn c session) with
  | (.ok a, c') =>
    (.ok a, { c with
      wire := c'.wire
      session := c'.session
      cache := c'.cache
      is_ws := false
      ws_auth := none
      user := c'.user })
  | (.error e, c') => (.error e, { c with wire := c'.wire, user := c'.user })

/-- SOURCE: connection.py:3026-3029, where the second connection goes. -/
def fallback_address (u : Unicode) (attrs : ConnectionAttributes) (auth : WsAuth) : PyStr × ℕ :=
  let partner := strip u attrs.partner_host
  let number := strip u attrs.sys_number
  let sys_number := if number = [] then auth.sysnr else number
  (if partner = [] then auth.server_host else partner,
    3300 + ((if sys_number.all u.isDecimal then u.int sys_number else none).getD 0).toNat)

/-- SOURCE: connection.py:2996-3062. -/
def ws_classic_fallback (func_name : PyStr) (desc : FunctionDesc) (params : Values V)
    (attrs : ConnectionAttributes) : Op ω χ (Values V) := do
  let auth ← require_auth
  let _ ← attempt (onWire k.seam.close)
  let address := fallback_address k.p.u attrs auth
  let session ← onWire (k.redial address.1 address.2 auth)
  let classic := { k with
    snc_mode := false
    strict_params := false }
  take_over session (do
    let classic_key ← metadata_cache_key classic
    cache_fill classic classic_key desc
    established_call classic func_name params)

/-- SOURCE: connection.py:3122-3139, the invoke behind the logon of a built-in function. -/
def ws_direct_invoke (func_name : PyStr) (desc : FunctionDesc) (params : Values V)
    (attrs : ConnectionAttributes) : Op ω χ (Values V) := do
  let invoke_msg ← Eff.lift (build_invoke_request k.p func_name desc params)
  let invoke_resp ← tryCatch (do
      let resp ← exchange k .direct (.frames func_name) invoke_msg
      pure (some resp)) fun exc =>
    if exc.kind.isTransport then throw (asCommunication exc)
    else if exc.kind = .webSocket then pure none
    else throw exc
  match invoke_resp with
  | none => ws_classic_fallback k func_name desc params attrs
  | some resp => do
    let result ← Eff.lift (parse_invoke_response k.p resp desc [])
    pure (convert_date_time_fields k.p result desc)

/-- SOURCE: connection.py:3064-3139. -/
def ws_direct_logon_call (func_name : PyStr) (desc : FunctionDesc) (params : Values V) :
    Op ω χ (Values V) := do
  let logon_resp ← wrapTransportError (ws_logon_trip k)
  let attrs_ws ← Eff.lift (ws_parse_logon_response k.p.u logon_resp)
  let failure ← Eff.lift (ws_logon_failure k.p.u logon_resp)
  if failure.isSome then ws_classic_fallback k func_name desc params attrs_ws
  else do
    let closed ← onWire k.seam.drain_queued_close
    if closed.isSome then ws_classic_fallback k func_name desc params attrs_ws
    else do
      complete_logon attrs_ws
      let ws_key ← metadata_cache_key k
      cache_fill k ws_key desc
      ws_direct_invoke k func_name desc params attrs_ws

/-- SOURCE: connection.py:564-590, `_WRFC_BUILTIN_DESCS`. -/
def WRFC_BUILTIN_DESCS : List (PyStr × FunctionDesc) :=
  let char255 := fun (name : String) (direction : ℕ) => show FieldDesc from
    { name := lit name
      rfctype := RFCTYPE_CHAR
      nuc_length := 255
      nuc_offset := 0
      uc_length := 510
      uc_offset := 0
      decimals := 0
      direction := direction }
  [(lit "STFC_CONNECTION", ⟨lit "STFC_CONNECTION",
    [char255 "REQUTEXT" RFC_IMPORT, char255 "ECHOTEXT" RFC_EXPORT,
     char255 "RESPTEXT" RFC_EXPORT]⟩)]

/-- SOURCE: connection.py:3168-3262, in `WS_PENDING`. -/
def pending_call (func_name : PyStr) (params : Values V) : Op ω χ (Values V) :=
  Eff.andFinally (wrapTransportError (
    match assocGet WRFC_BUILTIN_DESCS (k.p.u.upper func_name) with
    | some builtin => ws_direct_logon_call k (k.p.u.upper func_name) builtin params
    | none => do
      let desc ← get_function_desc k func_name
      onSession (mark_in_call k.p.u)
      invoke_described k func_name desc params)) (onSession restore_ready)

/-- SOURCE: connection.py:3168-3262, without an asynchronous core. -/
def sync_call (func_name : PyStr) (params : Values V) : Op ω χ (Values V) := do
  let c ← Eff.state
  if c.is_ws ∧ c.session.state = .WS_PENDING then pending_call k func_name params
  else established_call k func_name params

/-- SOURCE: connection.py:3141-3262.  `delegated` says that an asynchronous core is behind
the connection, as it is on classic TCP. -/
def call (delegated : Bool) (func_name : PyStr) (params : Values V) : Op ω χ (Values V) :=
  if delegated then async_call k func_name params else sync_call k func_name params

/-! ## Liveness and transactions -/

/-- SOURCE: connection.py:2414-2453. -/
def ensure_ws_session : Op ω χ Unit := do
  let c ← Eff.state
  if c.is_ws ∧ c.session.state = .WS_PENDING then do
    let auth ← require_auth
    let logon_msg ← Eff.lift (build_ws_logon_message k.p.u k.hostname k.nonce (lit "RFCPING") auth)
    let (attrs_ws, failure) ← fail_closed k (lit "RFCPING") (do
      let logon_resp ← exchange k .logon (.frames (lit "LOGON")) logon_msg
      let attrs_ws ← Eff.lift (ws_parse_logon_response k.p.u logon_resp)
      let failure ← Eff.lift (ws_logon_failure k.p.u logon_resp)
      pure (attrs_ws, failure))
    complete_logon attrs_ws
    match failure with
    | some failure => throw failure
    | none => pure ()
  else pure ()

/-- SOURCE: connection.py:2906-2946, without an asynchronous core.  The request goes out
before the guard begins. -/
def sync_ping : Op ω χ Bool := do
  let c ← Eff.state
  if c.is_ws ∧ c.session.state = .WS_PENDING then do
    ensure_ws_session k
    pure true
  else
    in_call k (do
      let request_tlv ← Eff.lift (rfcping_request_tlv k)
      let frame ← invoke_frame request_tlv
      send_request k .ping (.frames (lit "RFCPING"))
        (if c.is_ws then request_tlv else wire_frame k frame)
      fail_closed k (lit "RFCPING") (do
        let resp ← read_reply k (.frames (lit "RFCPING"))
        Eff.lift (rfcping_ok resp)))

/-- Send a transactional request once.  The session is marked ready whatever happened. -/
def sync_submit (build : Except PyError Bytes) (func_name : PyStr) : Op ω χ Unit := do
  onSession (require_state k.p.u [.READY])
  onSession (mark_in_call k.p.u)
  Eff.andFinally (do
    let request_tlv ← Eff.lift build
    let request ← invoke_frame request_tlv
    let response ← wrapTransportError
      (exchange k .submit (.frames func_name) (wire_frame k request))
    Eff.lift (raise_for_rfc_error k.p.u (strip_gw_header response))) (onSession (mark_ready k.p.u))

/-- SOURCE: connection.py:3291-3369, without an asynchronous core. -/
def call_transactional (func_name tid : PyStr) (queue : Option PyStr) : Op ω χ Unit :=
  sync_submit k (build_trfc_request k.p.u tid func_name queue) func_name

/-- SOURCE: connection.py:3371-3418, without an asynchronous core. -/
def confirm_tid (tid : PyStr) : Op ω χ Unit :=
  sync_submit k (build_trfc_confirm_request k.p.u tid) ARFC_DEST_CONFIRM

/-- SOURCE: connection.py:3474-3519, without an asynchronous core. -/
def submit_unit (uid unit_type : PyStr) (queues : List PyStr) (buffered_calls : List Bytes) :
    Op ω χ Unit :=
  sync_submit k (build_bgrfc_request k.p.u uid unit_type queues buffered_calls) BGRFC_DEST_SHIP

end Sync

/-- The seam of a byte stream. -/
def wireSeam {π : Type} (u : Unicode) (l : Link π) : Seam (Wire π) where
  send_message := Wire.send_message l
  recv_message := Wire.recv_message l u
  sleep := Wire.sleep
  drain_queued_close := pure none
  close := pure ()

/-- A connection whose transport is a byte stream. -/
structure StreamClient (π χ V : Type) extends Client (Wire π) χ V where
  link : Link π
  seam_eq : seam = wireSeam p.u link

/-- A connection that keeps its stores in memory. -/
def plainClient {π : Type} (l : Link π) (max_retries : ℕ) : StreamClient π Tables Bytes where
  p := plainPlatform
  seam := wireSeam asciiTables l
  snc_mode := false
  strict_params := true
  max_retries := max_retries
  tid_store := some tablesTidStore
  unit_store := some tablesUnitStore
  fresh_hex := []
  hostname := []
  nonce := []
  redial := fun _ _ _ => throw (err .os (lit "unreachable"))
  link := l
  seam_eq := rfl

/-- A connection behind its logon. -/
def readyConn {ω χ : Type} (w : ω) (user : χ) : Conn ω χ where
  wire := w
  session := ⟨.READY, [], none, none, none⟩
  cache := []
  anon_cache_key := none
  struct_cache := []
  is_ws := false
  ws_auth := none
  user := user
  trips := []

end SapRfc.Program
