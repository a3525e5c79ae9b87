import SapRfc.Program.Params
import SapRfc.Program.Transport

/-!
# The message server client

A logon group is resolved on a side connection: an attach, a request for the list of
servers, a detach.  The frames have a header of 110 bytes with two names and an
operation; the list comes back as text, one record a line.
-/

set_option autoImplicit false

namespace SapRfc.Program

open SapRfc.Library

/-! ## Frames -/

/-- `_SAPMS_MAGIC_FULL` -/
def SAPMS_MAGIC_FULL : Bytes :=
  [0x2A, 0x2A, 0x4D, 0x45, 0x53, 0x53, 0x41, 0x47, 0x45, 0x2A, 0x2A, 0x00]

/-- `_SAPMS_HEADER_LEN` -/
def SAPMS_HEADER_LEN : ℕ := 0x6E

/-- `_SAPMS_VERSION` -/
def SAPMS_VERSION : UInt8 := 4

/-- `_OFF_ERRORNO` -/
def OFF_ERRORNO : ℕ := 0x0D

/-- `_OFF_TONAME` -/
def OFF_TONAME : ℕ := 0x0E

/-- `_OFF_MSGTYPE` -/
def OFF_MSGTYPE : ℕ := 0x36

/-- `_OFF_FROMNAME` -/
def OFF_FROMNAME : ℕ := 0x44

/-- `_NAME_LEN` -/
def NAME_LEN : ℕ := 40

/-- `_FLAG_CLIENT` -/
def FLAG_CLIENT : UInt8 := 0x02

/-- `_OP_ATTACH` -/
def OP_ATTACH : UInt8 := 0x08

/-- `_OP_REQUEST` -/
def OP_REQUEST : UInt8 := 0x01

/-- `_OP_DETACH` -/
def OP_DETACH : UInt8 := 0x04

/-- `_MS_OPCODE_BINARY` -/
def MS_OPCODE_BINARY : UInt8 := 0x05

/-- `_OPCODE_REQUEST` -/
def OPCODE_REQUEST : Bytes := [0x1E, 0x00, 0x01, 0x01]

/-- `_OPCODE_REPLY` -/
def OPCODE_REPLY : Bytes := [0x1E, 0x00, 0x01, 0x03]

/-- `_SEL_SERVER_LIST` -/
def SEL_SERVER_LIST : UInt8 := 0x1D

/-- SOURCE: router.py:719-721. -/
def ms_name (name : PyStr) : Bytes :=
  let field := (encodeAsciiReplace name).take NAME_LEN
  field ++ List.replicate (NAME_LEN - field.length) 0x20

/-- SOURCE: router.py:630-656.  The header and what follows it. -/
def build_sapms_frame (operation : UInt8) (toname fromname : PyStr) (flag msgtype : UInt8)
    (servno : UInt16) (version : UInt8) (body : Bytes) : Bytes :=
  SAPMS_MAGIC_FULL ++ [version, 0] ++ ms_name toname ++ [msgtype] ++ List.replicate 11 0 ++
    [flag, operation] ++ ms_name fromname ++ toBE 2 servno.toNat ++ body

/-- SOURCE: router.py:659-670. -/
def build_ms_list_request (selector : UInt8) : Bytes :=
  build_sapms_frame OP_REQUEST (lit "MSG_SERVER") (lit "-") FLAG_CLIENT 0 0 SAPMS_VERSION
    (OPCODE_REQUEST ++ [FLAG_CLIENT] ++ List.replicate 6 0 ++ [selector] ++ List.replicate 40 0)

/-- SOURCE: router.py:743-749.  Neither argument is used. -/
def build_sapms_login_frame (_group _sysid : PyStr) : Bytes :=
  build_sapms_frame OP_ATTACH (lit "-") (lit "-") FLAG_CLIENT 0 0 SAPMS_VERSION []

/-- SOURCE: router.py:752-754. -/
def build_sapms_server_list_request : Bytes := build_ms_list_request SEL_SERVER_LIST

/-- SOURCE: router.py:766-768. -/
def build_sapms_detach_frame : Bytes :=
  build_sapms_frame OP_DETACH (lit "-") (lit "-") FLAG_CLIENT 0 0 SAPMS_VERSION []

/-! ## Replies -/

/-- SOURCE: router.py:614-622.  The return code is one signed byte. -/
def decode_ms_errorno (body : Bytes) : Except PyError ℤ :=
  match body[OFF_ERRORNO]? with
  | none =>
    .error (err .value (lit "SAPMS frame too short to hold a return code: " ++
      dec body.length ++ lit " bytes"))
  | some raw => .ok (if 127 < raw.toNat then (raw.toNat : ℤ) - 256 else raw.toNat)

/-- SOURCE: router.py:606-611 and router.py:625-627. -/
def describe_ms_errorno (code : ℤ) : PyStr :=
  if code = -12 then lit "invalid client version"
  else if code = -18 then lit "message server shutdown"
  else if code = -20 then lit "access denied"
  else if code = -25 then lit "message server soft shutdown"
  else lit "message server error " ++ lit (toString code)

/-- The message behind an NI length, if one was left in front of it. -/
def without_ni_length (frame : Bytes) : Bytes :=
  if slice frame 4 16 = SAPMS_MAGIC_FULL then frame.drop 4 else frame

/-- `s.rstrip()` -/
def rstripSpace (u : Unicode) (s : PyStr) : PyStr := (s.reverse.dropWhile u.isSpace).reverse

/-- `repr(b)` of a byte string. -/
def reprBytes (b : Bytes) : PyStr :=
  let quote : ℕ := if 39 ∈ b.map UInt8.toNat ∧ 34 ∉ b.map UInt8.toNat then 34 else 39
  let escaped := b.flatMap fun x =>
    let c := x.toNat
    if c = quote ∨ c = 92 then [92, c]
    else if c = 9 then lit "\\t"
    else if c = 10 then lit "\\n"
    else if c = 13 then lit "\\r"
    else if 32 ≤ c ∧ c < 127 then [c]
    else lit "\\x" ++ [hexDigitLower (c / 16), hexDigitLower (c % 16)]
  lit "b" ++ [quote] ++ escaped ++ [quote]

/-- `b.hex(" ")` -/
def hexSpaced (b : Bytes) : PyStr :=
  joinWith (lit " ") (b.map fun x => [hexDigitLower (x.toNat / 16), hexDigitLower (x.toNat % 16)])

/-- SOURCE: router.py:724-740. -/
def parse_sapms_reply (u : Unicode) (frame : Bytes) : Except PyError (ℤ × PyStr × PyStr × UInt8) :=
  let body := without_ni_length frame
  if body.length < SAPMS_HEADER_LEN then
    .error (err .value (lit "SAPMS reply is " ++ dec body.length ++
      lit " bytes, expected at least " ++
      dec SAPMS_HEADER_LEN))
  else if body.take SAPMS_MAGIC_FULL.length ≠ SAPMS_MAGIC_FULL then
    .error (err .value (lit "not a SAPMS frame: magic is " ++ reprBytes (body.take 12)))
  else do
    let errorno ← decode_ms_errorno body
    pure (errorno,
      rstripSpace u (decodeAsciiReplace (slice body OFF_TONAME (OFF_TONAME + NAME_LEN))),
      rstripSpace u (decodeAsciiReplace (slice body OFF_FROMNAME (OFF_FROMNAME + NAME_LEN))),
      body.getD OFF_MSGTYPE 0)

/-- `s.splitlines()` -/
def splitLines : PyStr → List PyStr
  | [] => []
  | 13 :: 10 :: rest => [] :: splitLines rest
  | c :: rest =>
    if isLineBreak c then [] :: splitLines rest
    else
      match splitLines rest with
      | [] => [[c]]
      | line :: lines => (c :: line) :: lines

/-- The fields of one record, `KEY=VALUE` between bars; of a key given twice the later value
stays. -/
def ms_fields (u : Unicode) (line : PyStr) : List (PyStr × PyStr) :=
  (splitOn 124 line).foldl (fun fields pair =>
    if 61 ∈ pair then
      assocSet fields (strip u (pair.takeWhile (· ≠ 61)))
        (strip u ((pair.dropWhile (· ≠ 61)).drop 1))
    else fields) []

/-- SOURCE: router.py:673-716. -/
def parse_ms_list_reply (u : Unicode) (frame : Bytes) :
    Except PyError (List (List (PyStr × PyStr))) :=
  let body := without_ni_length frame
  if body.length < SAPMS_HEADER_LEN + 4 then
    .error (err .value (lit "SAPMS list reply too short: " ++ dec body.length ++ lit " bytes"))
  else
    let payload := body.drop SAPMS_HEADER_LEN
    if payload.take 4 ≠ OPCODE_REPLY then
      if payload.head? = some MS_OPCODE_BINARY then
        .error (err .value (lit ("this is an opcode 0x05 reply, whose payload is a " ++
          "binary entry table rather than KEY=VALUE text — use " ++
          "parse_sapms_server_list for that form")))
      else
        .error (err .value (lit "unexpected message-server opcode block " ++
          hexSpaced (payload.take 4) ++ lit ", expected " ++ hexSpaced OPCODE_REPLY))
    else
      let text := strip u (rstrip [0] (decodeLatin1 (payload.drop 4)))
      .ok (((splitLines text).filter fun line => strip u line ≠ []).map (ms_fields u) |>.filter
        (· ≠ []))

/-! ## The exchange -/

/-- Caught by `except OSError`. -/
def isOsError : ErrKind → Bool
  | .os => true
  | .timeout => true
  | _ => false

/-- SOURCE: router.py:477-506, the choice from the records of the reply. -/
def choose_server (u : Unicode) (group : PyStr) (records : List (List (PyStr × PyStr))) :
    Except PyError (PyStr × ℤ) :=
  match records with
  | [] =>
    .error (err .value (lit "message server returned no application server for group " ++
      u.repr (if group = [] then lit "PUBLIC" else group)))
  | chosen :: _ =>
    let ashost := (assocGet chosen (lit "HOSTNAME")).getD []
    let port_text := (assocGet chosen (lit "PORT")).getD []
    if ashost = [] ∨ ashost = lit "0.0.0.0" then
      .error (err .value (lit "message server returned an unusable application-server address " ++
        u.repr ashost ++ lit " — refusing to connect to an empty or unroutable host"))
    else
      match u.int port_text with
      | none =>
        .error (err .value (lit "message server returned a non-numeric PORT " ++
          u.repr port_text ++ lit " for " ++ u.repr ashost))
      | some port =>
        let sysnr := port - 3200
        if 0 ≤ sysnr ∧ sysnr ≤ 99 then .ok (ashost, sysnr)
        else
          .error (err .value (lit "message server returned dispatcher port " ++
            lit (toString port) ++ lit " for " ++ u.repr ashost ++ lit (", which " ++
            "is not 3200 + a system number (32<NN>). Connect with ashost/sysnr.")))

section Exchange

variable {ι : Type} (u : Unicode) (transport : InnerTransport ι)

/-- SOURCE: router.py:438-506. -/
def resolve_full (group _sysid : PyStr) : Eff PyError ι (PyStr × ℤ) := do
  transport.send_message (build_sapms_login_frame [] [])
  let attach_reply ← transport.recv_message
  let (errorno, _, _, _) ← Eff.lift (parse_sapms_reply u attach_reply)
  if errorno ≠ 0 then
    throw (err .sapRfc (lit "message server refused the attach: " ++ describe_ms_errorno errorno ++
      lit " (return code " ++ lit (toString errorno) ++ lit ")"))
  else do
    transport.send_message build_sapms_server_list_request
    let list_reply ← transport.recv_message
    let errorno ← Eff.lift (decode_ms_errorno (without_ni_length list_reply))
    if errorno ≠ 0 then
      throw (err .sapRfc (lit "message server refused the server-list request: " ++
        describe_ms_errorno errorno ++ lit " (return code " ++ lit (toString errorno) ++ lit ")"))
    else do
      let records ← Eff.lift (parse_ms_list_reply u list_reply)
      tryCatch (transport.send_message build_sapms_detach_frame)
        fun exc => if isOsError exc.kind then pure () else throw exc
      Eff.lift (choose_server u group records)

/-- SOURCE: router.py:427-436. -/
def resolve (group : PyStr) : Eff PyError ι (PyStr × ℤ) := resolve_full u transport group []

end Exchange

end SapRfc.Program
