import SapRfc.Program.Transport

/-!
# SNC transport

The secured channel: frames of a fixed 24-byte header, a GSS token and application
data, behind a gateway envelope once a handle is known.  The GSS library and the
inner transport are parameters; what the library accepted is logged, so that a result
can say where a payload came from.
-/

set_option autoImplicit false

namespace SapRfc.Program

open SapRfc.Library

/-- SOURCE: snc.py:163-170. -/
inductive SncFrameType where
  | FR_INIT | FR_ACCEPT | PLAIN | INTEGRITY | PRIVACY
  deriving DecidableEq, Repr

/-- The type byte. -/
def SncFrameType.toByte : SncFrameType → ℕ
  | FR_INIT => 2
  | FR_ACCEPT => 4
  | PLAIN => 7
  | INTEGRITY => 8
  | PRIVACY => 9

/-- SOURCE: snc.py:173-192.  The levels that `validate_snc_qop` lets through. -/
inductive SncQop where
  | AUTH_ONLY | INTEGRITY | PRIVACY | DEFAULT | MAXIMUM
  deriving DecidableEq, Repr

/-- The number of a level. -/
def SncQop.value : SncQop → ℕ
  | AUTH_ONLY => 1
  | INTEGRITY => 2
  | PRIVACY => 3
  | DEFAULT => 8
  | MAXIMUM => 9

/-- SOURCE: snc.py:202-208, `_QOP_PROTECTION`. -/
def QOP_PROTECTION : SncQop → SncFrameType
  | .AUTH_ONLY => .PLAIN
  | .INTEGRITY => .INTEGRITY
  | .PRIVACY => .PRIVACY
  | .DEFAULT => .PRIVACY
  | .MAXIMUM => .PRIVACY

/-- SOURCE: snc.py:211-234.  A level outside the table is refused. -/
def validate_snc_qop (level : ℤ) : Except PyError SncQop :=
  match [SncQop.AUTH_ONLY, .INTEGRITY, .PRIVACY, .DEFAULT, .MAXIMUM].find?
      fun q => (q.value : ℤ) = level with
  | some q => .ok q
  | none =>
    .error (err .value (lit "snc_qop=" ++ lit (toString level) ++
      lit (" is not a protection level this library implements " ++
        "(accepted: 1, 2, 3, 8, 9). 1=authentication only, 2=integrity, " ++
        "3=privacy, 8=system default, 9=maximum. Refusing rather than " ++
        "guessing: the value decides whether payloads are encrypted.")))

/-- `_SNC_HEADER_SIZE` -/
def SNC_HEADER_SIZE : ℕ := 0x18

/-- `_SNC_VERSION` -/
def SNC_VERSION : ℕ := 6

/-- `_SNC_CTX_ID` -/
def SNC_CTX_ID : ℕ := 3

/-- `_SNC_HANDSHAKE_QOP` -/
def SNC_HANDSHAKE_QOP : ℕ := 0x7E

/-- A parsed SNC frame. -/
structure SncFrame where
  frame_type : ℕ
  ctx_id : ℕ
  qop : ℕ
  gss_token : Bytes
  app_data : Bytes
  deriving DecidableEq, Repr

/-- SOURCE: snc.py:237-264.  A field that does not fit its width makes `pack` raise. -/
def build_snc_frame (eye : Bytes) (frame_type ctx_id qop : ℕ)
    (gss_token app_data ext_header : Bytes) : Except PyError Bytes :=
  let hdrlen := SNC_HEADER_SIZE + ext_header.length
  if 256 ≤ frame_type ∨ 256 ^ 2 ≤ hdrlen ∨ 256 ^ 4 ≤ gss_token.length ∨
      256 ^ 4 ≤ app_data.length ∨ 256 ^ 2 ≤ ctx_id ∨ 256 ^ 2 ≤ qop then
    .error (err .structError (lit "argument out of range"))
  else
    .ok ((eye ++ List.replicate 8 0).take 8 ++ toBE 1 frame_type ++ toBE 1 SNC_VERSION ++
      toBE 2 hdrlen ++ toBE 4 gss_token.length ++ toBE 4 app_data.length ++ toBE 2 ctx_id ++
      toBE 2 qop ++ ext_header ++ gss_token ++ app_data)

/-- SOURCE: snc.py:267-291. -/
def parse_snc_frame (buf : Bytes) : Except PyError SncFrame :=
  if buf.length < SNC_HEADER_SIZE then
    .error (err .structError (lit "unpack_from requires a buffer of at least 24 bytes for " ++
      lit "unpacking 24 bytes at offset 0 (actual buffer size is " ++ dec buf.length ++ lit ")"))
  else
    let frame_type := ofBE (slice buf 8 9)
    let hdrlen := ofBE (slice buf 10 12)
    let token_len := ofBE (slice buf 12 16)
    let data_len := ofBE (slice buf 16 20)
    let ctx_id := ofBE (slice buf 20 22)
    let qop := ofBE (slice buf 22 24)
    if MAX_FRAME_BYTES < token_len + data_len then
      .error (err .value (lit "SNC frame payload " ++ dec (token_len + data_len) ++
        lit " exceeds cap " ++ dec MAX_FRAME_BYTES ++ lit " (DoS guard)"))
    else
      let token_start := if SNC_HEADER_SIZE ≤ hdrlen then hdrlen else SNC_HEADER_SIZE
      let data_start := token_start + token_len
      .ok {
        frame_type := frame_type
        ctx_id := ctx_id
        qop := qop
        gss_token := slice buf token_start data_start
        app_data := slice buf data_start (data_start + data_len) }

/-- SOURCE: snc.py:910-921. -/
def strip_gw_snc_frame (raw : Bytes) : Except PyError Bytes :=
  if raw.length < 80 + SNC_HEADER_SIZE then
    .error (err .communication (lit "GW-wrapped SNC frame too short: " ++ dec raw.length ++
      lit " bytes"))
  else .ok (raw.drop 80)

/-- SOURCE: snc.py:875-908. -/
def build_gw_snc_frame (gw_handle snc_frame : Bytes) : Except PyError Bytes :=
  if 256 ^ 4 ≤ snc_frame.length then
    .error (err .structError (lit "'I' format requires 0 <= number <= 4294967295"))
  else
    .ok ([0x06, 0xCB, 0x02, 0, 0xFF, 0xFF, 0, 0, 0, 0, 0x28] ++ List.replicate 15 0 ++
      [0x00, 0x08, 0, 0, 0x05, 0x0C] ++ List.replicate 8 0 ++ gw_handle ++
      [0x00, 0x00, 0x85, 0x00] ++ List.replicate 24 0 ++ [0xFF, 0xFF, 0x00, 0x09] ++
      snc_frame ++ toBE 4 snc_frame.length ++ [0x00, 0x00, 0x85, 0x00])

/-! ## The transport -/

/-- The functions of the GSS library over its own state. -/
structure GssBinding (γ : Type) where
  init_sec_context : Bytes → Eff PyError γ (ℕ × Bytes)
  wrap : Bytes → Eff PyError γ Bytes
  unwrap : Bytes → Eff PyError γ Bytes
  get_mic : Bytes → Eff PyError γ Bytes
  verify_mic : Bytes → Bytes → Eff PyError γ Unit

/-- What the GSS library accepted. -/
inductive GssEvent where
  | unwrapped (token payload : Bytes)
  | verified (message mic : Bytes)
  deriving DecidableEq, Repr

/-- What `__init__` fixes.  The eye catcher fills its field. -/
structure SncConfig where
  qop : SncQop
  eye : Bytes
  ext_header : Bytes
  adapter_info : Bytes

/-- What changes while the transport lives. -/
structure SncTransport (γ ι : Type) where
  gss : γ
  inner : ι
  established : Bool
  use_gw : Bool
  gw_handle : Bytes
  log : List GssEvent

section Transport

variable {γ ι : Type} (gss : GssBinding γ) (inner : InnerTransport ι) (cfg : SncConfig)

/-- Run a function of the GSS library. -/
def onGss {α : Type} (x : Eff PyError γ α) : Eff PyError (SncTransport γ ι) α := Eff.mk fun s =>
  let (r, g) := x.run s.gss
  (r, { s with gss := g })

/-- Run a method of the inner transport. -/
def onInner {α : Type} (x : Eff PyError ι α) : Eff PyError (SncTransport γ ι) α := Eff.mk fun s =>
  let (r, i) := x.run s.inner
  (r, { s with inner := i })

/-- `GSS_S_COMPLETE` -/
def GSS_S_COMPLETE : ℕ := 0

/-- SOURCE: snc.py:958-981. -/
def send_snc_frame (frame_type : SncFrameType) (gss_token app_data ext_header : Bytes)
    (qop : ℕ) : Eff PyError (SncTransport γ ι) Unit := do
  let s ← Eff.state
  let frame ← Eff.lift
    (build_snc_frame cfg.eye frame_type.toByte SNC_CTX_ID qop gss_token app_data ext_header)
  let wire ← Eff.lift (if s.use_gw then build_gw_snc_frame s.gw_handle frame else .ok frame)
  wrapTransportError (onInner (inner.send_message wire))

/-- SOURCE: snc.py:983-989. -/
def recv_snc_frame : Eff PyError (SncTransport γ ι) SncFrame := do
  let raw ← wrapTransportError (onInner inner.recv_message)
  let s ← Eff.state
  let snc_raw ← Eff.lift (if s.use_gw then strip_gw_snc_frame raw else .ok raw)
  Eff.lift (parse_snc_frame snc_raw)

/-- SOURCE: snc.py:923-954, the loop.  `none` says that it was still running after
`fuel` turns: a peer can keep it going. -/
def handshake_loop : ℕ → Bytes → Bool → Eff PyError (SncTransport γ ι) (Option Unit)
  | 0, _, _ => pure none
  | fuel + 1, input_token, first_round => do
    let (major, out_token) ← onGss (gss.init_sec_context input_token)
    (if out_token = [] then pure ()
      else send_snc_frame inner cfg .FR_INIT out_token cfg.adapter_info
        (if first_round then cfg.ext_header else []) SNC_HANDSHAKE_QOP)
    if major = GSS_S_COMPLETE then do
      Eff.update fun s => { s with established := true }
      pure (some ())
    else if major % 2 = 0 then throw (err .snc (lit "GSS error"))
    else do
      let frame ← recv_snc_frame inner
      handshake_loop fuel frame.gss_token (first_round && decide (out_token = []))

/-- SOURCE: snc.py:858-871.  With a handle, SNC frames travel in the gateway envelope. -/
def activate_snc (fuel : ℕ) (gw_handle : Option Bytes) :
    Eff PyError (SncTransport γ ι) (Option Unit) := do
  match gw_handle with
  | none => pure ()
  | some handle => Eff.update fun s => { s with gw_handle := handle, use_gw := true }
  handshake_loop gss inner cfg fuel [] true

/-- SOURCE: snc.py:993-1020. -/
def snc_send_message (payload : Bytes) : Eff PyError (SncTransport γ ι) Unit := do
  let s ← Eff.state
  if s.established = false then onInner (inner.send_message payload)
  else
    match QOP_PROTECTION cfg.qop with
    | .PRIVACY => do
      let wrapped ← onGss (gss.wrap payload)
      send_snc_frame inner cfg .PRIVACY wrapped [] [] cfg.qop.value
    | .INTEGRITY => do
      let mic ← onGss (gss.get_mic payload)
      send_snc_frame inner cfg .INTEGRITY mic payload [] cfg.qop.value
    | _ => send_snc_frame inner cfg .PLAIN [] payload [] cfg.qop.value

/-- `self._gss.unwrap(token)` -/
def unwrap (token : Bytes) : Eff PyError (SncTransport γ ι) Bytes := do
  let payload ← onGss (gss.unwrap token)
  Eff.update fun s => { s with log := s.log ++ [.unwrapped token payload] }
  pure payload

/-- `self._gss.verify_mic(message, mic)` -/
def verify_mic (message mic : Bytes) : Eff PyError (SncTransport γ ι) Unit := do
  onGss (gss.verify_mic message mic)
  Eff.update fun s => { s with log := s.log ++ [.verified message mic] }

/-- SOURCE: snc.py:1022-1049. -/
def snc_recv_message : Eff PyError (SncTransport γ ι) Bytes := do
  let raw ← wrapTransportError (onInner inner.recv_message)
  let s ← Eff.state
  if s.established = false then pure raw
  else if s.use_gw = false ∧ raw.take cfg.eye.length ≠ cfg.eye then pure raw
  else do
    let snc_raw ← Eff.lift (if s.use_gw then strip_gw_snc_frame raw else .ok raw)
    let frame ← Eff.lift (parse_snc_frame snc_raw)
    if frame.frame_type = SncFrameType.PRIVACY.toByte then unwrap gss frame.gss_token
    else if frame.frame_type = SncFrameType.INTEGRITY.toByte then do
      verify_mic gss frame.app_data frame.gss_token
      pure frame.app_data
    else pure frame.app_data

end Transport

end SapRfc.Program
