import SapRfc.Library.Delimiters
import SapRfc.Program.Session
import SapRfc.Program.Socks5
import SapRfc.Program.WebSocket

/-!
# Opening the WebSocket transport

An HTTP proxy is asked for a tunnel where there is one, a TLS session is opened through it, and an
HTTP request asks the server to switch to WebSocket frames.  The server proves by a digest that it
has read the request; it may send the client on, once.  What arrived behind its answer belongs to
the frames.
-/

set_option autoImplicit false

namespace SapRfc.Program

open SapRfc.Library

/-- `hashlib.sha1`, and the request that `wsproto` builds for a host, a target and headers of its
caller.  Every request has a key drawn for it; the requests of one upgrade are told apart by their
number. -/
structure WsLibrary where
  sha1 : Bytes → Bytes
  request : ℕ → PyStr → PyStr → List (Bytes × Bytes) → Except PyError Bytes

/-- `_GUID` -/
def WS_GUID : Bytes := (lit "258EAFA5-E914-47DA-95CA-C5AB0DC85B11").map UInt8.ofNat

/-- `_DEFAULT_WS_PATH` -/
def DEFAULT_WS_PATH : PyStr := lit "/sap/bc/rfc?sap-apc-stateful=true"

/-- The blank line that ends an HTTP head. -/
def HEAD_END : Bytes := [13, 10, 13, 10]

/-- `WebSocketError(text)` -/
def wsError (text : PyStr) : PyError := err .webSocket text

/-! ## Bytes and text -/

/-- `b.split(b"\r\n")` -/
def split_crlf : Bytes → List Bytes
  | [] => [[]]
  | [x] => [[x]]
  | x :: y :: rest =>
    if x = 13 ∧ y = 10 then [] :: split_crlf rest
    else
      match split_crlf (y :: rest) with
      | [] => [[x]]
      | part :: parts => (x :: part) :: parts

/-- `b.lower()` -/
def lower_ascii (b : Bytes) : Bytes :=
  b.map fun x => if 65 ≤ x.toNat ∧ x.toNat ≤ 90 then x + 32 else x

/-- `b.strip()` -/
def strip_ascii (b : Bytes) : Bytes :=
  ((b.dropWhile isAsciiSpace).reverse.dropWhile isAsciiSpace).reverse

/-- `s.partition(sep)` for a separator of one element, without the separator. -/
def partition_at {α : Type} [DecidableEq α] (sep : α) (s : List α) : List α × List α :=
  (s.takeWhile (· ≠ sep), (s.dropWhile (· ≠ sep)).drop 1)

/-- `int(b)`: the bytes are ASCII, and are read as the text of them. -/
def int_of_ascii (u : Unicode) (b : Bytes) : Option ℤ :=
  if b.all fun x => x.toNat < 128 then u.int (decodeLatin1 b) else none

/-! ## HTTP heads -/

/-- SOURCE: ws.py:74-88.  What the last read took behind the head stays with it. -/
def read_http_head : Eff PyError Socket Bytes := do
  let parts ← Delimiters.readUntil HEAD_END 4096 MAX_FRAME_BYTES
    (wsError (lit "connection closed before HTTP response completed"))
    (wsError (lit "HTTP response head exceeded size cap"))
  pure (parts.1 ++ parts.2)

/-- SOURCE: ws.py:209-227. -/
def split_head_and_rest : Eff PyError Socket (Bytes × Bytes) :=
  Delimiters.readUntil HEAD_END 4096 MAX_FRAME_BYTES
    (wsError (lit "connection closed before WebSocket upgrade completed"))
    (wsError (lit "WebSocket upgrade response head exceeded size cap"))

/-- SOURCE: ws.py:91-97. -/
def status_code (u : Unicode) (head : Bytes) : Except PyError ℤ :=
  match (splitOn 32 ((split_crlf head).headD [])) with
  | _ :: number :: _ =>
    match int_of_ascii u number with
    | some code => .ok code
    | none => .error (wsError (lit "malformed HTTP status line in response"))
  | _ => .error (wsError (lit "malformed HTTP status line in response"))

/-- One line of a head. -/
def parse_http_header (headers : List (PyStr × PyStr)) (raw : Bytes) : List (PyStr × PyStr) :=
  if (58 : UInt8) ∈ raw then
    let parts := partition_at 58 raw
    assocSet headers (decodeLatin1 (lower_ascii (strip_ascii parts.1)))
      (decodeLatin1 (strip_ascii parts.2))
  else headers

/-- SOURCE: ws.py:198-206. -/
def parse_headers (head : Bytes) : List (PyStr × PyStr) :=
  ((split_crlf head).drop 1).foldl parse_http_header []

/-! ## The tunnel -/

/-- SOURCE: ws.py:122-125.  A password that is missing is printed. -/
def proxy_token (user : Option PyStr) (password : Option PyStr) : Except PyError (List PyStr) :=
  match user with
  | none => .ok []
  | some user => do
    let octets ← encode_utf8 (.leaf (.str (user ++ lit ":" ++ password.getD (lit "None"))))
    .ok [lit "Proxy-Authorization: Basic " ++ decodeLatin1 (b64encode octets)]

/-- SOURCE: ws.py:118-126. -/
def connect_request (target_host : PyStr) (target_port : ℕ) (user password : Option PyStr) :
    Except PyError Bytes := do
  let target := target_host ++ lit ":" ++ dec target_port
  let token ← proxy_token user password
  encodeAscii (joinWith (lit "\r\n")
    ([lit "CONNECT " ++ target ++ lit " HTTP/1.1", lit "Host: " ++ target] ++ token) ++
      lit "\r\n\r\n")

/-- SOURCE: ws.py:100-133. -/
def open_proxy_tunnel (u : Unicode) (target_host : PyStr) (target_port : ℕ)
    (user password : Option PyStr) : Eff PyError (ProxyLink Socket) Unit := do
  let request ← Eff.lift (connect_request target_host target_port user password)
  Dialogues.send request
  let head ← Dialogues.receive read_http_head
  let code ← Eff.lift (status_code u head)
  if 200 ≤ code ∧ code < 300 then pure ()
  else throw (wsError (lit "HTTP CONNECT proxy refused the tunnel (status " ++
    lit (toString code) ++ lit ")"))

/-! ## The upgrade -/

/-- SOURCE: ws.py:191-194. -/
def expected_accept (lib : WsLibrary) (key : Bytes) : PyStr :=
  decodeLatin1 (b64encode (lib.sha1 (key ++ WS_GUID)))

/-- The schemes that a location may begin with. -/
def LOCATION_SCHEMES : List PyStr := [lit "wss://", lit "ws://", lit "https://", lit "http://"]

/-- `s.lower().startswith(text)`, for a text of Latin-1 characters. -/
def starts_with_lower (text s : PyStr) : Bool :=
  text.isPrefixOf (s.map fun c => if 65 ≤ c ∧ c ≤ 90 then c + 32 else c)

/-- `x or y` -/
def or_else (x y : PyStr) : PyStr := if x = [] then y else x

/-- SOURCE: ws.py:230-240. -/
def parse_location (u : Unicode) (location default_host default_path : PyStr) : PyStr × PyStr :=
  let loc := strip u location
  match LOCATION_SCHEMES.find? fun scheme => starts_with_lower scheme loc with
  | some scheme =>
    let rest := loc.drop scheme.length
    let parts := partition_at 47 rest
    (or_else (partition_at 58 parts.1).1 default_host,
      if 47 ∈ rest then 47 :: parts.2 else default_path)
  | none => (default_host, if loc.head? = some 47 then loc else default_path)

/-- SOURCE: ws.py:243-248. -/
def extract_sec_key (request_bytes : Bytes) : Except PyError Bytes :=
  match (split_crlf request_bytes).find? fun line =>
      ((lit "sec-websocket-key:").map UInt8.ofNat).isPrefixOf (lower_ascii line) with
  | some line => .ok (strip_ascii (partition_at 58 line).2)
  | none => .error (wsError (lit "internal: generated upgrade request lacks Sec-WebSocket-Key"))

/-- SOURCE: ws.py:251-279. -/
def build_upgrade_request (lib : WsLibrary) (number : ℕ) (host : PyStr) (port : ℕ)
    (ws_path : PyStr) (extra_headers : List (Bytes × Bytes)) : Except PyError (Bytes × Bytes) := do
  let request_bytes ← lib.request number (host ++ lit ":" ++ dec port) ws_path extra_headers
  let key ← extract_sec_key request_bytes
  .ok (request_bytes, key)

/-- A header of ASCII texts. -/
def ws_header (name value : String) : Bytes × Bytes :=
  ((lit name).map UInt8.ofNat, (lit value).map UInt8.ofNat)

/-- The logon of the upgrade: a user, where one is given, and its password. -/
structure WsLogon where
  user : Option PyStr
  passwd : Option PyStr
  sap_client : Option PyStr
  lang : PyStr

/-- SOURCE: ws.py:318-321.  A password that is missing is printed. -/
def authorization (logon : WsLogon) : Except PyError (List (Bytes × Bytes)) :=
  match logon.user with
  | none => .ok []
  | some user => do
    let octets ← encodeLatin1 (user ++ lit ":" ++ logon.passwd.getD (lit "None"))
    .ok [((lit "authorization").map UInt8.ofNat,
      (lit "Basic ").map UInt8.ofNat ++ b64encode octets)]

/-- SOURCE: ws.py:316-317. -/
def client_header (logon : WsLogon) : Except PyError (List (Bytes × Bytes)) :=
  match logon.sap_client with
  | none => .ok []
  | some sap_client => do
    let client ← encodeAscii sap_client
    .ok [((lit "sap-client").map UInt8.ofNat, client)]

/-- SOURCE: ws.py:310-321. -/
def upgrade_headers (u : Unicode) (logon : WsLogon) : Except PyError (List (Bytes × Bytes)) := do
  let language ← encodeAscii (u.upper logon.lang)
  let client ← client_header logon
  let token ← authorization logon
  .ok ([ws_header "sap-rfc-options" "rfc-delta=off", ws_header "sap-rfc-subtype" "sync",
    ws_header "sap-session-priority" "high", ((lit "sap-language").map UInt8.ofNat, language)] ++
      client ++ token)

/-- What a server answers to an upgrade request. -/
inductive WsAnswer where
  | switched
  | moved (code : ℤ) (location : Option PyStr)
  deriving DecidableEq, Repr

/-- SOURCE: ws.py:336-358, the answer to a request with a key. -/
def read_answer (lib : WsLibrary) (u : Unicode) (key head : Bytes) : Except PyError WsAnswer := do
  let code ← status_code u head
  if code = 101 then
    if assocGet (parse_headers head) (lit "sec-websocket-accept") ≠
        some (expected_accept lib key) then
      .error (wsError (lit "WebSocket upgrade failed: bad Sec-WebSocket-Accept"))
    else .ok .switched
  else if code ∈ [301, 302, 307, 308] then
    .ok (.moved code (assocGet (parse_headers head) (lit "location")))
  else .error (wsError (lit "WebSocket upgrade failed with HTTP status " ++ lit (toString code)))

/-- One request and its answer, and what came behind the head of the answer. -/
def upgrade_turn (lib : WsLibrary) (u : Unicode) (port : ℕ) (extra_headers : List (Bytes × Bytes))
    (number : ℕ) (host path : PyStr) : Eff PyError (ProxyLink Socket) (WsAnswer × Bytes) := do
  let made ← Eff.lift (build_upgrade_request lib number host port path extra_headers)
  Dialogues.send made.1
  let parts ← Dialogues.receive split_head_and_rest
  let answer ← Eff.lift (read_answer lib u made.2 parts.1)
  pure (answer, parts.2)

/-- SOURCE: ws.py:323-358.  So many redirects are still followed; what came behind the head of one
is dropped. -/
def upgrade_turns (lib : WsLibrary) (u : Unicode) (port : ℕ) (extra_headers : List (Bytes × Bytes))
    (left : ℕ) (current_host current_path : PyStr) : Eff PyError (ProxyLink Socket) Bytes := do
  let turn ← upgrade_turn lib u port extra_headers left current_host current_path
  match turn.1 with
  | .switched => pure turn.2
  | .moved code location =>
    match left with
    | 0 => throw (wsError (lit "WebSocket upgrade failed: more than one redirect (D-21)"))
    | left + 1 =>
      if location.getD [] = [] then
        throw (wsError (lit "WebSocket upgrade redirect (status " ++ lit (toString code) ++
          lit ") missing Location header"))
      else
        let target := parse_location u (location.getD []) current_host current_path
        upgrade_turns lib u port extra_headers left target.1 target.2

/-- SOURCE: ws.py:282-358.  One redirect is followed. -/
def ws_upgrade (lib : WsLibrary) (u : Unicode) (host : PyStr) (port : ℕ) (ws_path : PyStr)
    (logon : WsLogon) : Eff PyError (ProxyLink Socket) Bytes := do
  let extra_headers ← Eff.lift (upgrade_headers u logon)
  upgrade_turns lib u port extra_headers 1 host ws_path

/-! ## The transport -/

/-- Where to, and by whom.  With a proxy the connection was made to it. -/
structure WsTarget where
  wshost : PyStr
  wsport : ℕ
  ws_path : PyStr := DEFAULT_WS_PATH
  ws_proxy : Bool := false
  ws_proxy_user : Option PyStr := none
  ws_proxy_pass : Option PyStr := none
  logon : WsLogon

/-- The connection to the peer, and the one that the TLS session over it carries. -/
structure WsSockets where
  raw : ProxyLink Socket
  tls : ProxyLink Socket

/-- A program over the connection to the peer. -/
def onRaw {α : Type} (x : Eff PyError (ProxyLink Socket) α) : Eff PyError WsSockets α :=
  Eff.zoom WsSockets.raw (fun link s => { s with raw := link }) x

/-- A program over the TLS session. -/
def onTls {α : Type} (x : Eff PyError (ProxyLink Socket) α) : Eff PyError WsSockets α :=
  Eff.zoom WsSockets.tls (fun link s => { s with tls := link }) x

/-- SOURCE: ws.py:605-612. -/
def through_proxy (u : Unicode) (target : WsTarget) : Eff PyError (ProxyLink Socket) Unit :=
  if target.ws_proxy then
    open_proxy_tunnel u target.wshost target.wsport target.ws_proxy_user target.ws_proxy_pass
  else pure ()

/-- SOURCE: ws.py:604-654, on the connected socket.  `wrapped` is what opening the TLS session ends
with.  The frame layer begins with the bytes that are returned. -/
def connect_ws (lib : WsLibrary) (u : Unicode) (target : WsTarget) (wrapped : Except PyError Unit) :
    Eff PyError WsSockets Bytes := do
  onRaw (Dialogues.closing do
    through_proxy u target
    Eff.lift wrapped)
  onTls (Dialogues.closing
    (ws_upgrade lib u target.wshost target.wsport target.ws_path target.logon))

end SapRfc.Program
