import SapRfc.Library.Dialogues
import SapRfc.Program.Leaves
import SapRfc.Program.MessageServer
import SapRfc.Program.Sockets

/-!
# The SOCKS5 proxy transport

The reply to a CONNECT request ends where its address type says, and for a domain name where the
length of the name says.  What follows it on the stream is already the tunnelled connection, so the
readers ask for no more than the reply.

A tunnel is opened in two or three exchanges: the method, the token where there is one, and the
destination.
-/

set_option autoImplicit false

namespace SapRfc.Program

open SapRfc.Library

/-- `SOCKS_VERSION` -/
def SOCKS_VERSION : UInt8 := 0x05

/-- `ATYP_IPV4` -/
def ATYP_IPV4 : UInt8 := 0x01

/-- `ATYP_DOMAIN` -/
def ATYP_DOMAIN : UInt8 := 0x03

/-- `ATYP_IPV6` -/
def ATYP_IPV6 : UInt8 := 0x04

/-- `_REP_MEANING` -/
def REP_MEANING : List PyStr :=
  [lit "succeeded", lit "general SOCKS server failure", lit "connection not allowed (forbidden)",
   lit "network unreachable", lit "host unreachable", lit "connection refused", lit "TTL expired",
   lit "command not supported", lit "address type not supported"]

/-- `_MAX_REPLY_FIELD` -/
def MAX_REPLY_FIELD : ℕ := 4096

/-- `ProxyError`, a `SapRfcError` of its own. -/
def proxyError (text : PyStr) : PyError := err .sapRfc text

/-- `f"{b:#04x}"` of a byte. -/
def hexByte (b : UInt8) : PyStr :=
  lit "0x" ++ [hexDigitLower (b.toNat / 16), hexDigitLower (b.toNat % 16)]

/-- SOURCE: socks5.py:250-265. -/
def bound_address_len (atyp : UInt8) (tail : Bytes) : Except PyError ℕ :=
  if atyp = ATYP_IPV4 then .ok (4 + 2)
  else if atyp = ATYP_IPV6 then .ok (16 + 2)
  else if atyp = ATYP_DOMAIN then
    match tail with
    | [] => .error (proxyError (lit "SOCKS5 CONNECT reply truncated before domain length"))
    | length :: _ => .ok (1 + length.toNat + 2)
  else .error (proxyError (lit "SOCKS5 CONNECT reply has unknown address type " ++ hexByte atyp))

/-- SOURCE: socks5.py:268-291. -/
def parse_connect_reply (data : Bytes) : Except PyError (UInt8 × ℕ) :=
  match data with
  | version :: rep :: _ :: atyp :: tail =>
    if version ≠ SOCKS_VERSION then
      .error (proxyError (lit "SOCKS5 version mismatch in CONNECT reply: " ++ hexByte version))
    else if rep ≠ 0 then
      .error (proxyError (lit "SOCKS5 CONNECT failed: " ++
        REP_MEANING.getD rep.toNat (lit "unknown error") ++ lit " (REP " ++ hexByte rep ++
        lit ")"))
    else do
      let addr_len ← bound_address_len atyp tail
      if tail.length < addr_len then
        .error (proxyError (lit "SOCKS5 CONNECT reply truncated in bound address"))
      else .ok (rep, ofBE (slice tail (addr_len - 2) addr_len))
  | _ => .error (proxyError (lit "SOCKS5 CONNECT reply too short: " ++ dec data.length ++
      lit " bytes"))

/-- The error of a stream that ends inside a field. -/
def proxy_closed (got n : ℕ) : PyError :=
  proxyError (lit "SOCKS5 proxy closed the connection after " ++ dec got ++ lit "/" ++ dec n ++
    lit " bytes")

/-- SOURCE: socks5.py:297-309. -/
def socks_recv_exactly (n : ℕ) : Eff PyError Socket Bytes :=
  if MAX_REPLY_FIELD < n then
    throw (proxyError (lit "SOCKS5 reply field " ++ dec n ++ lit " exceeds cap " ++
      dec MAX_REPLY_FIELD))
  else ChunkedReads.gather proxy_closed n

/-- The stages of a reply, for both readers. -/
def recv_connect_reply {σ : Type} (recv : ℕ → Eff PyError σ Bytes) :
    Eff PyError σ (UInt8 × ℕ) := do
  let head ← recv 4
  let atyp := head.getD 3 0
  if atyp = ATYP_DOMAIN then do
    let name_len ← recv 1
    let rest ← recv ((name_len.getD 0 0).toNat + 2)
    Eff.lift (parse_connect_reply (head ++ name_len ++ rest))
  else do
    let addr_len ← Eff.lift (bound_address_len atyp [0])
    let rest ← recv addr_len
    Eff.lift (parse_connect_reply (head ++ rest))

/-- SOURCE: socks5.py:312-321. -/
def recv_connect_reply_sync : Eff PyError Socket (UInt8 × ℕ) :=
  recv_connect_reply socks_recv_exactly

/-- SOURCE: socks5.py:377-385. -/
def recv_connect_reply_async : Eff PyError StreamReader (UInt8 × ℕ) :=
  recv_connect_reply readexactly

/-! ## Requests -/

/-- `CMD_CONNECT` -/
def CMD_CONNECT : UInt8 := 0x01

/-- `_RSV` -/
def SOCKS_RSV : UInt8 := 0x00

/-- `AUTH_NONE` -/
def AUTH_NONE : UInt8 := 0x00

/-- `AUTH_SAP_JWT` -/
def AUTH_SAP_JWT : UInt8 := 0x80

/-- `AUTH_NO_ACCEPTABLE` -/
def AUTH_NO_ACCEPTABLE : UInt8 := 0xFF

/-- `_JWT_SUBNEG_VERSION` -/
def JWT_SUBNEG_VERSION : UInt8 := 0x01

/-- `_AUTH_SUCCESS` -/
def AUTH_SUCCESS : UInt8 := 0x00

/-- SOURCE: socks5.py:124-133. -/
def build_greeting (methods : List UInt8) : Except PyError Bytes :=
  if methods = [] ∨ 255 < methods.length then
    .error (err .value (lit "SOCKS5 greeting needs between 1 and 255 methods"))
  else .ok (SOCKS_VERSION :: UInt8.ofNat methods.length :: methods)

/-- SOURCE: socks5.py:136-153. -/
def parse_method_selection (data : Bytes) : Except PyError UInt8 :=
  match data with
  | [version, method] =>
    if version ≠ SOCKS_VERSION then
      .error (proxyError (lit "SOCKS5 version mismatch: expected 0x05, got " ++ hexByte version))
    else if method = AUTH_NO_ACCEPTABLE then
      .error (proxyError (lit ("SOCKS5 proxy rejected every offered authentication method (0xFF). " ++
        "If the proxy requires SAP JWT authentication, supply proxy_jwt or the " ++
        "proxy_client_id/proxy_client_secret/proxy_token_url triple")))
    else .ok method
  | _ =>
    .error (proxyError (lit "SOCKS5 method selection must be 2 bytes, got " ++ dec data.length))

/-- The alphabet of base64. -/
def b64Alphabet : Bytes :=
  (lit "ABCDEFGHIJKLMNOPQRSTUVWXYZabcdefghijklmnopqrstuvwxyz0123456789+/").map UInt8.ofNat

/-- One digit of base64. -/
def b64Digit (n : ℕ) : UInt8 := b64Alphabet.getD n 0

/-- `base64.b64encode` -/
def b64encode : Bytes → Bytes
  | [] => []
  | [a] => [b64Digit (a.toNat / 4), b64Digit (a.toNat % 4 * 16), 61, 61]
  | [a, b] =>
    [b64Digit (a.toNat / 4), b64Digit (a.toNat % 4 * 16 + b.toNat / 16),
      b64Digit (b.toNat % 16 * 4), 61]
  | a :: b :: c :: rest =>
    b64Digit (a.toNat / 4) :: b64Digit (a.toNat % 4 * 16 + b.toNat / 16) ::
      b64Digit (b.toNat % 16 * 4 + c.toNat / 64) :: b64Digit (c.toNat % 64) :: b64encode rest

/-- SOURCE: socks5.py:159-193. -/
def build_jwt_auth (jwt scc_location_id : PyStr) : Except PyError Bytes := do
  let jwt_bytes ← encode_utf8 (.leaf (.str jwt))
  let loc_b64 ←
    if scc_location_id = [] then .ok []
    else (encode_utf8 (.leaf (.str scc_location_id))).map b64encode
  if 255 < loc_b64.length then
    .error (err .value (lit "base64 Cloud Connector location id exceeds 255 bytes"))
  else if 2 ^ 32 ≤ jwt_bytes.length then
    .error (err .structError (lit "'I' format requires 0 <= number <= 4294967295"))
  else
    .ok (JWT_SUBNEG_VERSION :: toBE 4 jwt_bytes.length ++ jwt_bytes ++
      UInt8.ofNat loc_b64.length :: loc_b64)

/-- SOURCE: socks5.py:196-210. -/
def parse_jwt_auth_reply (data : Bytes) : Except PyError Unit :=
  match data with
  | [version, status] =>
    if version ≠ JWT_SUBNEG_VERSION then
      .error (proxyError (lit "SOCKS5 JWT auth version mismatch: expected 0x01, got " ++
        hexByte version))
    else if status ≠ AUTH_SUCCESS then
      .error (proxyError (lit "SOCKS5 proxy rejected the JWT authentication (status " ++
        hexByte status ++ lit ")"))
    else .ok ()
  | _ =>
    .error (proxyError (lit "SOCKS5 JWT auth reply must be 2 bytes, got " ++ dec data.length))

/-- What the platform makes of host names: `socket.inet_pton` for both families, which packs into
four and sixteen bytes, and the `idna` codec. -/
structure HostCodec where
  inet_pton4 : PyStr → Except PyError { packed : Bytes // packed.length = 4 }
  inet_pton6 : PyStr → Except PyError { packed : Bytes // packed.length = 16 }
  idna : PyStr → Except PyError Bytes

/-- SOURCE: socks5.py:232-235. -/
def domain_address (codec : HostCodec) (host : PyStr) : Except PyError (UInt8 × Bytes) := do
  let name ← if host.all fun c => decide (c < 128) then encodeAscii host else codec.idna host
  if 255 < name.length then .error (err .value (lit "SOCKS5 domain name exceeds 255 bytes"))
  else .ok (ATYP_DOMAIN, UInt8.ofNat name.length :: name)

/-- SOURCE: socks5.py:216-235. -/
def address_type (codec : HostCodec) (host : PyStr) : Except PyError (UInt8 × Bytes) :=
  match codec.inet_pton4 host with
  | .ok packed => .ok (ATYP_IPV4, packed.val)
  | .error exc =>
    if isOsError exc.kind then
      match codec.inet_pton6 host with
      | .ok packed => .ok (ATYP_IPV6, packed.val)
      | .error exc => if isOsError exc.kind then domain_address codec host else .error exc
    else .error exc

/-- SOURCE: socks5.py:238-247. -/
def build_connect (codec : HostCodec) (host : PyStr) (port : ℤ) : Except PyError Bytes :=
  if 0 < port ∧ port ≤ 0xFFFF then do
    let (atyp, addr) ← address_type codec host
    .ok ([SOCKS_VERSION, CMD_CONNECT, SOCKS_RSV, atyp] ++ addr ++ toBE 2 port.toNat)
  else .error (err .value (lit "port out of range: " ++ lit (toString port)))

/-! ## The handshake -/

/-- The connection to the proxy. -/
abbrev ProxyLink (σ : Type) : Type := Dialogues.Link σ PyError UInt8

/-- The token and what goes with it. -/
structure ProxyCredential where
  jwt : Option PyStr
  scc_location_id : PyStr

/-- The method that is offered. -/
def ProxyCredential.method (credential : ProxyCredential) : UInt8 :=
  if credential.jwt.isSome then AUTH_SAP_JWT else AUTH_NONE

/-- The token's own exchange. -/
def jwt_subnegotiation {σ : Type} (recv : ℕ → Eff PyError σ Bytes)
    (credential : ProxyCredential) : Eff PyError (ProxyLink σ) Unit :=
  match credential.jwt with
  | none => pure ()
  | some jwt => do
    let auth ← Eff.lift (build_jwt_auth jwt credential.scc_location_id)
    Dialogues.send auth
    let answer ← Dialogues.receive (recv 2)
    Eff.lift (parse_jwt_auth_reply answer)

/-- The stages of opening a tunnel, for both transports.  `configured` is what setting the
options of the socket ends with. -/
def socks5_handshake {σ : Type} (recv : ℕ → Eff PyError σ Bytes) (codec : HostCodec)
    (configured : Except PyError Unit) (dest_host : PyStr) (dest_port : ℤ)
    (credential : ProxyCredential) : Eff PyError (ProxyLink σ) Unit :=
  Dialogues.closing do
    Eff.lift configured
    let greeting ← Eff.lift (build_greeting [credential.method])
    Dialogues.send greeting
    let answer ← Dialogues.receive (recv 2)
    let selected ← Eff.lift (parse_method_selection answer)
    if selected ≠ credential.method then
      throw (proxyError (lit "SOCKS5 proxy selected method " ++ hexByte selected ++
        lit ", not the offered " ++ hexByte credential.method))
    else do
      jwt_subnegotiation recv credential
      let request ← Eff.lift (build_connect codec dest_host dest_port)
      Dialogues.send request
      let _ ← Dialogues.receive (recv_connect_reply recv)
      pure ()

/-- SOURCE: socks5.py:324-371, on the connected socket. -/
def socks5_connect (codec : HostCodec) (configured : Except PyError Unit) (dest_host : PyStr)
    (dest_port : ℤ) (credential : ProxyCredential) : Eff PyError (ProxyLink Socket) Unit :=
  socks5_handshake socks_recv_exactly codec configured dest_host dest_port credential

/-- SOURCE: socks5.py:388-432, on the open streams. -/
def socks5_connect_async (codec : HostCodec) (configured : Except PyError Unit)
    (dest_host : PyStr) (dest_port : ℤ) (credential : ProxyCredential) :
    Eff PyError (ProxyLink StreamReader) Unit :=
  socks5_handshake readexactly codec configured dest_host dest_port credential

end SapRfc.Program
