import SapRfc.Program.Logon
import SapRfc.Program.Metadata
import SapRfc.Program.Transport

/-!
# Sessions

The state machine of a session from `READY` on, and the deferred logon of a WebSocket
connection, which is the other way into `READY`.
-/

set_option autoImplicit false

namespace SapRfc.Program

open SapRfc.Library

/-- SOURCE: session.py:93-108. -/
inductive SessionState where
  | DISCONNECTED | CONNECTED | NI_VERSIONED | GW_CONNECTED | GW_DONE | LOGGED_IN | READY
  | IN_CALL | CLOSED | BROKEN | WS_PENDING
  deriving DecidableEq, Repr

/-- `SessionState.value` -/
def SessionState.value : SessionState → PyStr
  | DISCONNECTED => lit "DISCONNECTED"
  | CONNECTED => lit "CONNECTED"
  | NI_VERSIONED => lit "NI_VERSIONED"
  | GW_CONNECTED => lit "GW_CONNECTED"
  | GW_DONE => lit "GW_DONE"
  | LOGGED_IN => lit "LOGGED_IN"
  | READY => lit "READY"
  | IN_CALL => lit "IN_CALL"
  | CLOSED => lit "CLOSED"
  | BROKEN => lit "BROKEN"
  | WS_PENDING => lit "WS_PENDING"

/-- SOURCE: session.py:112-134. -/
structure ConnectionAttributes where
  sys_id : PyStr
  sys_number : PyStr
  partner_host : PyStr
  client : PyStr
  user : PyStr
  language : PyStr
  partner_rel : PyStr
  kernel_rel : PyStr
  codepage : PyStr
  unicode_mode : Bool
  deriving DecidableEq, Repr

/-- SOURCE: session.py:154-164. -/
structure Session where
  state : SessionState
  broken_reason : PyStr
  attributes : Option ConnectionAttributes
  codepage : Option PyStr
  handle : Option Bytes
  deriving DecidableEq, Repr

section Guards

variable (u : Unicode)

/-- `f"{[s.value for s in allowed]}"` -/
def reprStates (allowed : List SessionState) : PyStr :=
  lit "[" ++ joinWith (lit ", ") (allowed.map fun s => u.repr s.value) ++ lit "]"

/-- SOURCE: session.py:417-434. -/
def require_state (allowed : List SessionState) : Eff PyError Session Unit := do
  let s ← Eff.state
  if s.state = .BROKEN ∧ .BROKEN ∉ allowed then
    throw (err .value (lit "connection is unusable: " ++ s.broken_reason ++
      lit (". A request was sent whose reply could not be read to its end, so the position in " ++
        "the byte stream is unknown and any further call on this connection would read the " ++
        "previous reply's leftovers. Open a new connection.")))
  else if s.state ∉ allowed then
    throw (err .value (lit "operation not allowed in state " ++ u.repr s.state.value ++
      lit "; requires one of " ++ reprStates u allowed))
  else pure ()

/-- SOURCE: session.py:436-439. -/
def mark_in_call : Eff PyError Session Unit := do
  require_state u [.READY]
  Eff.update fun s => { s with state := .IN_CALL }

/-- SOURCE: session.py:441-444. -/
def mark_ready : Eff PyError Session Unit := do
  require_state u [.IN_CALL]
  Eff.update fun s => { s with state := .READY }

/-- SOURCE: session.py:446-466. -/
def mark_broken (reason : PyStr) : Eff PyError Session Unit :=
  Eff.update fun s => { s with
    state := .BROKEN
    broken_reason := reason }

/-- SOURCE: session.py:477-486. -/
def complete_ws_first_call (attributes : ConnectionAttributes) (codepage : PyStr) :
    Eff PyError Session Unit :=
  Eff.update fun s => { s with
    codepage := some codepage
    attributes := some attributes
    state := .READY }

/-- `if session.state is SessionState.IN_CALL: session.mark_ready()` -/
def restore_ready : Eff PyError Session Unit :=
  Eff.update fun s => if s.state = .IN_CALL then { s with state := .READY } else s

end Guards

/-- A state that is allowed passes. -/
theorem run_require_allowed (u : Unicode) {s : Session} {allowed : List SessionState}
    (h : s.state ∈ allowed) : Eff.run (require_state u allowed) s = (.ok (), s) := by
  have hb : ¬ (s.state = .BROKEN ∧ .BROKEN ∉ allowed) := fun hbroken => hbroken.2 (hbroken.1 ▸ h)
  unfold require_state
  rw [Eff.run_bind, Eff.run_state]
  dsimp only
  rw [if_neg hb, if_neg (not_not.mpr h)]
  rfl

theorem run_require_ready (u : Unicode) {s : Session} (h : s.state = .READY) :
    Eff.run (require_state u [.READY]) s = (.ok (), s) :=
  run_require_allowed u (List.mem_singleton.mpr h)

/-- From `READY` a call begins. -/
theorem run_mark_in_call (u : Unicode) {s : Session} (h : s.state = .READY) :
    Eff.run (mark_in_call u) s = (.ok (), { s with state := .IN_CALL }) := by
  unfold mark_in_call
  rw [Eff.run_bind_ok (run_require_ready u h)]
  rfl

/-- A state that is not allowed refuses, and nothing changes. -/
theorem run_require_refused (u : Unicode) {s : Session} {allowed : List SessionState}
    (h : s.state ∉ allowed) : ∃ e, Eff.run (require_state u allowed) s = (.error e, s) := by
  unfold require_state
  rw [Eff.run_bind, Eff.run_state]
  dsimp only
  by_cases hb : s.state = .BROKEN ∧ .BROKEN ∉ allowed
  · rw [if_pos hb]
    exact ⟨_, rfl⟩
  · rw [if_neg hb, if_pos h]
    exact ⟨_, rfl⟩

theorem run_require_ready_refused (u : Unicode) {s : Session} (h : s.state ≠ .READY) :
    ∃ e, Eff.run (require_state u [.READY]) s = (.error e, s) :=
  run_require_refused u (by simpa using h)

/-! ## The deferred logon of a WebSocket connection -/

/-- SOURCE: connection.py:1873-1883, what the logon was given. -/
structure WsAuth where
  user : PyStr
  passwd : PyStr
  client : PyStr
  lang : PyStr
  local_ip : PyStr
  server_host : PyStr
  sysnr : PyStr

/-- `s.encode("latin-1")` -/
def encodeLatin1 (s : PyStr) : Except PyError Bytes :=
  if s.all (· < 256) then .ok (s.map UInt8.ofNat)
  else .error (err .unicodeEncode (lit "'latin-1' codec can't encode: ordinal not in range(256)"))

/-- `_WS_TLV_CP` -/
def WS_TLV_CP : Bytes := [0x04, 0x01, 0x00, 0x03, 0x00, 0x0A, 0x02, 0x00, 0x00, 0x00, 0x23]

/-- `_MAX_FUNC_NAME_LEN` -/
def MAX_FUNC_NAME_LEN : ℕ := 30

/-- SOURCE: connection.py:310-335.  The seed is four random bytes. -/
def scramble_password_ws (passwd : PyStr) (nonce : Bytes) : Except PyError Bytes := do
  let seed := ofLE nonce % 2 ^ 32
  let body ← encodeLatin1 passwd
  .ok (toLE 4 seed ++ ab_scramble body seed)

/-- SOURCE: connection.py:338-451.  The host name and the random bytes are the machine's. -/
def build_ws_logon_message (u : Unicode) (hostname : PyStr) (nonce : Bytes) (func_name : PyStr)
    (auth : WsAuth) : Except PyError Bytes := do
  let fname := u.upper func_name
  if MAX_FUNC_NAME_LEN < fname.length then
    .error (err .value (lit "function name " ++ u.repr func_name ++ lit " is " ++
      dec fname.length ++ lit " characters; the maximum is " ++ dec MAX_FUNC_NAME_LEN))
  else do
    let pw_tlv ← scramble_password_ws auth.passwd nonce
    let parts ← [((0x0101 : ℕ), Except.ok TLV_CAPS), (0x0103, .ok TLV_VER), (0x0106, .ok WS_TLV_CP),
      (0x0114, encodeLatin1 auth.client), (0x0111, encodeLatin1 auth.user), (0x0117, .ok pw_tlv),
      (0x0115, encode_logon_language u auth.lang), (0x0501, .ok [0x01]),
      (0x0007, encodeLatin1 auth.local_ip), (0x0011, encode_logon_language u auth.lang),
      (0x0012, .ok TLV_REL), (0x0013, .ok TLV_REL), (0x0008, encodeLatin1 (hostname.take 32)),
      (0x0006, .ok TLV_PROG), (0x0130, encodeLatin1 (lit "PYTHON")), (0x0502, .ok []),
      (0x000B, .ok TLV_REL), (0x0102, encodeLatin1 fname)].mapM fun r => do
        let value ← r.2
        tlv_ext r.1 value
    .ok (parts.flatten ++ [0xFF, 0xFF, 0x00, 0x00, 0xFF, 0xFF])

/-- `v.decode("utf-16-le").rstrip("\x00 ")`, else as ASCII; empty where there is none. -/
def d16 : Option Bytes → PyStr
  | none => []
  | some v => if v = [] then [] else decode_utf16le v

/-- SOURCE: connection.py:500-552. -/
def ws_parse_logon_response (u : Unicode) (data : Bytes) :
    Except PyError ConnectionAttributes := do
  let tags ← session_parse_tlv data
  let sys_id := d16 (tags.get 0x0450)
  if sys_id ≠ [] then
    .ok {
      sys_id := sys_id
      sys_number := d16 (tags.get 0x0452)
      partner_host := d16 (tags.get 0x0453)
      client := []
      user := []
      language := []
      partner_rel := d16 (tags.get 0x0012)
      kernel_rel := d16 (tags.get 0x0013)
      codepage := lit "4103"
      unicode_mode := true }
  else
    match tags.get 0x0402 with
    | some text => .error (err .value (lit "wRFC logon failed: " ++ u.utf8Replace text))
    | none => .error (err .value (lit "wRFC logon response missing system ID (0x0450)"))

/-- `re.search(r"\bE=(\d+)", s)`, the digits. -/
def breadcrumb_code (u : Unicode) : PyStr → Option PyStr
  | [] => none
  | c :: rest =>
    let digits := fun (s : PyStr) => match s with
      | 69 :: 61 :: d =>
        if (d.takeWhile u.isDecimal) = [] then none else some (d.takeWhile u.isDecimal)
      | _ => none
    match rest with
    | 69 :: _ =>
      if u.isWord c then breadcrumb_code u rest
      else (digits rest).orElse fun _ => breadcrumb_code u rest
    | _ => breadcrumb_code u rest

/-- SOURCE: connection.py:454-497. -/
def ws_logon_failure (u : Unicode) (logon_resp : Bytes) : Except PyError (Option PyError) := do
  let tags ← session_parse_tlv logon_resp
  let first := decode_error_text (tags.get 0x0403)
  let key := if first = [] then decode_error_text (tags.get 0x0411) else first
  let text := decode_error_text (tags.get 0x0402)
  if key = [] ∧ text = [] then .ok none
  else
    let code := (breadcrumb_code u (0 :: decode_error_text (tags.get 0x0418))).getD []
    let parts := [code, key, text].filter (· ≠ [])
    .ok (some (AbapSystemFailure {
      key := none
      msg_class := orNone (decode_error_text (tags.get 0x0415))
      msg_type := orNone (decode_error_text (tags.get 0x0416))
      msg_number := orNone (decode_error_text (tags.get 0x0417))
      msg_v1 := none
      msg_v2 := none
      msg_v3 := none
      msg_v4 := none
      message := some (lit ("the wRFC LOGON authenticated but the function call embedded in it " ++
        "failed: ") ++ joinWith (lit ", ") parts) }))

end SapRfc.Program
