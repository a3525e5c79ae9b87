import SapRfc.Program.Session

/-!
# The handshake

How a session gets from nothing to `READY`: the version frame it sends first, and one
handler for each of the four frames the server answers with.  A session reads frames and
gives frames; it owns no socket.
-/

set_option autoImplicit false

namespace SapRfc.Program

open SapRfc.Library

/-- SOURCE: session.py:154-164, the fields a new session starts with. -/
def Session.init : Session where
  state := .DISCONNECTED
  broken_reason := []
  attributes := none
  codepage := none
  handle := none

/-! ## The version frame -/

/-- `bytes((127, 0, 0, 1))` -/
def LOOPBACK : Bytes := [127, 0, 0, 1]

/-- SOURCE: session.py:500-517.  What is no IPv4 address falls back to the loopback one. -/
def ipv4_octets (u : Unicode) (local_ip : Option PyStr) : Bytes :=
  match local_ip with
  | none => LOOPBACK
  | some ip =>
    let parts := splitOn 46 ip
    if parts.length = 4 then
      let octets := (parts.mapM u.int).getD []
      if octets.length = 4 ∧ ∀ o ∈ octets, 0 ≤ o ∧ o ≤ 255 then
        octets.map fun o => UInt8.ofNat o.toNat
      else LOOPBACK
    else LOOPBACK

/-- SOURCE: session.py:214-240. -/
def build_ni_version_request (u : Unicode) (local_ip : Option PyStr) : Bytes :=
  toBE 2 0x0203 ++ ipv4_octets u local_ip ++ List.replicate 4 0 ++
    encodeAsciiReplace (lit "python3" ++ [0]) ++ List.replicate 2 0 ++
    encodeAsciiReplace (lit "1100") ++ List.replicate 4 0 ++ toBE 2 0x0006 ++
    encodeAsciiReplace (lit "titan   python3         ") ++ toBE 2 0x06CB ++ toBE 2 0xFFFF ++
    List.replicate 6 0

/-- SOURCE: session.py:186-194. -/
def start (u : Unicode) (local_ip : Option PyStr) : Eff PyError Session Bytes := do
  Eff.update fun s => { s with state := .CONNECTED }
  pure (build_ni_version_request u local_ip)

/-- The address always fills its field. -/
theorem length_ipv4_octets (u : Unicode) (local_ip : Option PyStr) :
    (ipv4_octets u local_ip).length = 4 := by
  unfold ipv4_octets
  cases local_ip with
  | none => rfl
  | some ip =>
    dsimp only
    split
    · split
      next h => rw [List.length_map, h.1]
      next => rfl
    · rfl

/-- The first frame has 64 bytes whatever the address is. -/
theorem length_build_ni_version_request (u : Unicode) (local_ip : Option PyStr) :
    (build_ni_version_request u local_ip).length = 64 := by
  unfold build_ni_version_request
  simp only [List.length_append, length_ipv4_octets, List.length_replicate]
  rfl

/-! ## What the server answers -/

/-- `b.decode("ascii")`; one byte that is not ASCII raises. -/
def decodeAscii (b : Bytes) : Except PyError PyStr :=
  match b.findIdx? fun x => 128 ≤ x.toNat with
  | none => .ok (b.map UInt8.toNat)
  | some i =>
    .error (err .value (lit "'ascii' codec can't decode byte 0x" ++
      [hexDigitLower ((b.getD i 0).toNat / 16), hexDigitLower ((b.getD i 0).toNat % 16)] ++
      lit " in position " ++ dec i ++ lit ": ordinal not in range(128)"))

/-- The text of a frame that ends before the last byte its handler reads. -/
def tooShort (frame : String) (data : Bytes) (least : ℕ) : PyError :=
  err .value (lit frame ++ lit " too short: " ++ dec data.length ++ lit " < " ++ dec least)

/-- SOURCE: session.py:242-254. -/
def handle_ni_version_response (data : Bytes) : Eff PyError Session Bytes :=
  if data.length < 24 then throw (tooShort "NI version response" data 24)
  else do
    let codepage ← Eff.lift (decodeAscii (slice data 20 24))
    Eff.update fun s => { s with codepage := some codepage }
    Eff.update fun s => { s with state := .NI_VERSIONED }
    pure []

/-- SOURCE: session.py:259-270. -/
def handle_gw_connect_response (data : Bytes) : Eff PyError Session Bytes :=
  if data.length < 48 then throw (tooShort "GW connect response" data 48)
  else do
    Eff.update fun s => { s with handle := some (slice data 40 48) }
    Eff.update fun s => { s with state := .GW_CONNECTED }
    pure []

/-- SOURCE: session.py:272-286. -/
def handle_gw_done (data : Bytes) : Eff PyError Session Bytes :=
  if data.length < 73 then throw (tooShort "GW done frame" data 73)
  else do
    Eff.update fun s => { s with state := .GW_DONE }
    pure []

/-- A live server puts a gateway header in front of its records. -/
def is_live (data : Bytes) : Bool := 2 ≤ data.length && ofBE (slice data 0 2) = 0x06CB

/-- The records of a logon reply, `tlv_data`. -/
def logon_records (data : Bytes) : Bytes := if is_live data then data.drop 80 else data

/-- SOURCE: invoke.py:1040-1126, when the caller has read the records already. -/
def raise_for_rfc_error_tags (u : Unicode) (resp : Bytes) (tags : Tags) : Except PyError Unit :=
  match parse_gateway_error u resp with
  | some text =>
    .error (err .communication (lit "the SAP gateway rejected the frame: " ++ text ++
      lit ". The conversation is gone; this connection should be discarded rather than retried."))
  | none => raise_for_tags tags

/-- `_TAG_EXCEPTION_NUMBER in tags or _TAG_ERROR_MSG in tags` -/
def has_error (tags : Tags) : Bool := (tags.get 0x0417).isSome || (tags.get 0x0402).isSome

/-- SOURCE: session.py:325-338.  What is no structured error is a rejected logon. -/
def check_logon_error (u : Unicode) (allow_restricted_logon : Bool) (records : Bytes)
    (tags : Tags) : Except PyError Unit :=
  if has_error tags then
    if allow_restricted_logon ∧ (tags.get 0x0420).isSome then .ok ()
    else do
      raise_for_rfc_error_tags u records tags
      .error (err .value (lit "logon failed: " ++ decode_error_text (tags.get 0x0402)))
  else .ok ()

/-- An error passes on a restricted logon only, and only with a return code. -/
theorem check_logon_error_eq_ok {u : Unicode} {allow : Bool} {records : Bytes} {tags : Tags} :
    check_logon_error u allow records tags = .ok () ↔
      (has_error tags = true → allow = true ∧ (tags.get 0x0420).isSome = true) := by
  unfold check_logon_error
  by_cases herr : has_error tags = true
  · rw [if_pos herr]
    by_cases hallow : allow = true ∧ (tags.get 0x0420).isSome = true
    · rw [if_pos hallow]
      exact ⟨fun _ _ => hallow, fun _ => rfl⟩
    · rw [if_neg hallow]
      refine ⟨fun h => ?_, fun h => absurd (h herr) hallow⟩
      cases hr : raise_for_rfc_error_tags u records tags with
      | error e =>
        rw [hr] at h
        cases h
      | ok _ =>
        rw [hr] at h
        cases h
  · rw [if_neg herr]
    exact ⟨fun _ h => absurd h herr, fun _ => rfl⟩

/-- `_CODEPAGE_UTF16LE` -/
def CODEPAGE_UTF16LE : PyStr := lit "4103"

/-- SOURCE: session.py:345-365.  Only the Unicode code page is read. -/
def check_codepage (u : Unicode) (live : Bool) (codepage : PyStr) : Except PyError Unit :=
  if live ∧ codepage ≠ [] ∧ codepage ≠ CODEPAGE_UTF16LE then
    .error (err .value (lit "server negotiated codepage " ++ u.repr codepage ++
      lit ", which is not the Unicode wire mode " ++ u.repr CODEPAGE_UTF16LE ++
      lit (". Non-Unicode systems are not supported: SAP ended support for them with NetWeaver " ++
        "7.5, and this library's character handling has never been validated against one. " ++
        "Continuing would decode every character field incorrectly rather than fail.")))
  else .ok ()

theorem check_codepage_eq_ok {u : Unicode} {live : Bool} {codepage : PyStr} :
    check_codepage u live codepage = .ok () ↔
      ¬ (live = true ∧ codepage ≠ [] ∧ codepage ≠ CODEPAGE_UTF16LE) := by
  unfold check_codepage
  split
  next h => exact ⟨nofun, fun hn => absurd h hn⟩
  next h => exact ⟨fun _ => h, fun _ => rfl⟩

/-- SOURCE: session.py:520-536, `_decode_utf16le` on a live Unicode reply, else
`_decode_ascii`. -/
def decode_attribute (live unicode_mode : Bool) : Option Bytes → PyStr
  | none => []
  | some value =>
    if live ∧ unicode_mode then decode_utf16le value else rstrip padding (decodeAsciiReplace value)

/-- SOURCE: session.py:366-378. -/
def logon_attributes (live : Bool) (codepage : PyStr) (tags : Tags) : ConnectionAttributes :=
  let unicode_mode := decide (codepage = CODEPAGE_UTF16LE)
  let dec := decode_attribute live unicode_mode
  { sys_id := dec (tags.get 0x0450)
    sys_number := dec (tags.get 0x0452)
    partner_host := dec (tags.get 0x0453)
    client := dec (tags.get 0x0151)
    user := dec (tags.get 0x0150)
    language := dec (tags.get 0x0152)
    partner_rel := dec (tags.get 0x0012)
    kernel_rel := dec (tags.get 0x0013)
    codepage := codepage
    unicode_mode := unicode_mode }

/-- SOURCE: session.py:298-381. -/
def handle_logon_response (u : Unicode) (allow_restricted_logon : Bool) (data : Bytes) :
    Eff PyError Session Bytes := do
  let tags ← Eff.lift (session_parse_tlv (logon_records data))
  Eff.lift (check_logon_error u allow_restricted_logon (logon_records data) tags)
  let s ← Eff.state
  let codepage := s.codepage.getD []
  Eff.lift (check_codepage u (is_live data) codepage)
  Eff.update fun s => { s with attributes := some (logon_attributes (is_live data) codepage tags) }
  Eff.update fun s => { s with state := .LOGGED_IN }
  Eff.update fun s => { s with state := .READY }
  pure []

/-- SOURCE: session.py:196-209. -/
def feed (u : Unicode) (allow_restricted_logon : Bool) (data : Bytes) :
    Eff PyError Session Bytes := do
  let s ← Eff.state
  match s.state with
  | .CONNECTED => handle_ni_version_response data
  | .NI_VERSIONED => handle_gw_connect_response data
  | .GW_CONNECTED => handle_gw_done data
  | .GW_DONE => handle_logon_response u allow_restricted_logon data
  | _ => throw (err .value (lit "unexpected feed in state SessionState." ++ s.state.value))

/-! ## Sessions of a WebSocket connection -/

/-- SOURCE: session.py:468-475. -/
def begin_ws_session : Eff PyError Session Unit :=
  Eff.update fun s => { s with state := .WS_PENDING }

/-- SOURCE: session.py:488-497. -/
def complete_ws_handshake (attributes : ConnectionAttributes) (codepage : PyStr) :
    Eff PyError Session Unit :=
  Eff.update fun s => { s with
    codepage := some codepage
    attributes := some attributes
    state := .READY }

end SapRfc.Program
