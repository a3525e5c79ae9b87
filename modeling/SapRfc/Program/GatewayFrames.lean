import SapRfc.Library.Layouts
import SapRfc.Program.Handshake

/-!
# Frames of a fixed size

Frames of the gateway protocol are buffers of a fixed size into which slices are assigned.  An
assignment resizes the buffer where the value is longer or shorter than the slice, so every value
has to be cut and filled to the width of its field first.
-/

set_option autoImplicit false

namespace SapRfc.Program

open SapRfc.Library SapRfc.Library.Layouts

/-! ## Texts -/

/-- `s.ljust(n)` -/
def ljust (n : ℕ) (s : PyStr) : PyStr := s ++ List.replicate (n - s.length) 32

/-- `f"{n:02d}"` -/
def format02d (n : ℤ) : PyStr :=
  if n < 0 then lit "-" ++ dec n.natAbs
  else if n < 10 then lit "0" ++ dec n.toNat
  else dec n.toNat

/-- A system number as a caller passes it. -/
inductive Sysnr where
  | str (s : PyStr)
  | int (n : ℤ)
  deriving DecidableEq, Repr

/-- SOURCE: connection.py:1455-1478. -/
def validate_sysnr (u : Unicode) (sysnr : Sysnr) : Except PyError ℤ := do
  let value ← match sysnr with
    | .int n => .ok n
    | .str s =>
      match u.int s with
      | some n => .ok n
      | none => .error (err .value (lit "system number " ++ u.repr s ++
          lit " is not a number; it is the two-digit instance number, e.g. 0 or '00'"))
  if value < 0 ∨ 99 < value then
    .error (err .value (lit "system number " ++ (if value < 0 then lit "-" else []) ++
      dec value.natAbs ++
      lit " is outside 0-99. SAP derives sapdp<NN>/sapgw<NN> from it with two-digit fields, so " ++
      lit "a larger value produces both a non-gateway port and a malformed connect frame."))
  else .ok value

/-- `f"sapdp{sysnr:02d}"` of the value that was passed; the format is one of numbers only. -/
def format_service : Sysnr → Except PyError PyStr
  | .int n => .ok (lit "sapdp" ++ format02d n)
  | .str _ => .error (err .value (lit "Unknown format code 'd' for object of type 'str'"))

/-! ## Frames of a client -/

/-- `_GW_TYPE_CONNECT` -/
def GW_TYPE_CONNECT : ℕ := 0x0601

/-- `_GW_TYPE_DONE` -/
def GW_TYPE_DONE : ℕ := 0x0605

/-- `_GW_TYPE_INFO` -/
def GW_TYPE_INFO : ℕ := 0x060F

/-- `_GW_VERSION` -/
def GW_VERSION : ℕ := 0x0200

/-- `_GW_FLAGS` -/
def GW_FLAGS : ℕ := 0xFFFF0000

/-- `_GW_CLIENT_TAIL` -/
def GW_CLIENT_TAIL : ℕ := 0xFFFF0004

/-- `_GW_CLIENT_TAIL_SNC` -/
def GW_CLIENT_TAIL_SNC : ℕ := 0xFFFF0009

/-- What a client takes from its host: 16 random bytes, and `gethostname()`, which may raise. -/
structure Host where
  random : Bytes
  random_length : random.length = 16
  hostname : Option PyStr

/-- The name of the host and a NUL. -/
def Host.hn (env : Host) : Bytes :=
  match env.hostname with
  | some name => encodeAsciiReplace name ++ [0]
  | none => encodeAsciiReplace (lit "saprfclib") ++ [0]

/-- The first assignments of the connect request, up to the byte that SNC changes. -/
def connect_head : List (ℕ × ℕ × Bytes) :=
  [(0, 2, toBE 2 GW_TYPE_CONNECT), (2, 4, toBE 2 GW_VERSION), (4, 8, toBE 4 GW_FLAGS),
   (8, 28, [0x00, 0x00, 0x01, 0x00, 0x00, 0x00, 0x00, 0x00, 0xC0, 0x00, 0x00, 0x00, 0x00, 0x04,
     0x00, 0x00, 0x00, 0x00, 0x01, 0x75])]

/-- The assignments behind it. -/
def connect_tail (host8 dp session_id ip_b hn svc : Bytes) : List (ℕ × ℕ × Bytes) :=
  [(28, 36, [0x00, 0x00, 0x05, 0x00, 0x00, 0x00, 0x00, 0x00]),
   (40, 48, encodeAsciiReplace (lit "        ")),
   (48, 56, encodeAsciiReplace (lit "NWRFC   ")),
   (56, 64, host8),
   (64, 72, dp),
   (72, 80, [0x49, 0x01, 0x00, 0x00, 0x00, 0x00, 0xFF, 0xFF]),
   (80, 85, encodeAsciiReplace (lit "NWRFC")),
   (85, 112, List.replicate 27 0x20),
   (112, 114, [0x01, 0x01]),
   (114, 118, encodeAsciiReplace (lit "CPIC")),
   (122, 154, session_id),
   (156, 172, [0x00, 0x01, 0xFF, 0xFF, 0xFF, 0xFE, 0xFF, 0xFF, 0xFF, 0xFE, 0x02, 0x00, 0x00, 0x00,
     0x00, 0x00]),
   (185, 185 + min ip_b.length 16, ip_b.take 16),
   (329, 329 + min hn.length 16, hn.take 16),
   (389, 389 + min svc.length 8, svc.take 8)]

/-- SOURCE: connection.py:2083-2149. -/
def build_gw_connect_request (u : Unicode) (env : Host) (gwhost : PyStr) (sysnr : Sysnr)
    (snc : Bool) : Except PyError Bytes := do
  let payload := assignAll (List.replicate 453 0) connect_head
  let payload := if snc then payload.modify 10 (· ||| 0x20) else payload
  let host8 ← encodeAscii (ljust 8 (gwhost.take 8))
  let number ← validate_sysnr u sysnr
  let dp ← encodeAscii (lit "sapdp" ++ format02d number ++ lit " ")
  let session_id ← encodeAscii (hexBytes env.random)
  let ip ← encodeAscii gwhost
  let service ← format_service sysnr
  let svc ← encodeAscii (service ++ [0])
  .ok (assignAll payload (connect_tail host8 dp session_id (ip ++ [0]) env.hn svc))

/-- The tail of a client's frames. -/
def client_tail (snc : Bool) : Bytes := toBE 4 (if snc then GW_CLIENT_TAIL_SNC else GW_CLIENT_TAIL)

/-- SOURCE: connection.py:2152-2190. -/
def build_gw_info (handle : Bytes) (gwhost : PyStr) (snc : Bool) : Except PyError Bytes := do
  let host8 ← encodeAscii (ljust 8 (gwhost.take 8))
  let length ← pack_u32 gwhost.length
  let ip_b ← encodeAscii gwhost
  let padded := ip_b ++ List.replicate (112 - ip_b.length) 0x20
  .ok (assignAll (List.replicate 224 0)
    [(0, 2, toBE 2 GW_TYPE_INFO), (2, 4, toBE 2 GW_VERSION), (4, 8, toBE 4 GW_FLAGS),
     (8, 12, [0x00, 0x00, 0x01, 0x00]),
     (24, 28, [0x00, 0x00, 0x00, 0x90]),
     (28, 32, [0x00, 0x00, 0x04, 0x00]),
     (40, 48, handle),
     (48, 56, host8),
     (56, 60, length),
     (76, 80, client_tail snc),
     (80, 192, padded.take 112)])

/-- SOURCE: connection.py:2193-2216. -/
def build_gw_done_client (handle : Bytes) (snc : Bool) : Bytes :=
  assignAll (List.replicate 80 0)
    [(0, 2, toBE 2 GW_TYPE_DONE), (2, 4, toBE 2 GW_VERSION), (4, 8, toBE 4 GW_FLAGS),
     (28, 32, [0x00, 0x00, 0x01, 0x00]),
     (40, 48, handle),
     (76, 80, client_tail snc)]

/-! ## The frame of a registered server -/

/-- SOURCE: server_session.py:110-115, what a registration takes from its acknowledgement. -/
structure Registration where
  handle : Option Bytes
  ack_tail : Bytes
  deriving DecidableEq, Repr

/-- A registration before its acknowledgement. -/
def Registration.init : Registration := ⟨none, [0, 0]⟩

/-- SOURCE: server_session.py:312-330. -/
def handle_registration_ack (data : Bytes) : Except PyError Registration :=
  if data.length < 80 then
    .error (err .value (lit "registration ACK GW payload too short: " ++ dec data.length ++
      lit " < 80"))
  else .ok ⟨some (slice data 40 48), slice data 78 80⟩

/-- `_POST_REG_A_HOST_MAX` -/
def POST_REG_A_HOST_MAX : ℕ := 208 - 80

/-- `self._handle or b"        "` -/
def Registration.handle_or_blank (r : Registration) : Bytes :=
  match r.handle with
  | some (b :: rest) => b :: rest
  | _ => encodeAsciiReplace (lit "        ")

/-- SOURCE: server_session.py:229-287. -/
def build_post_reg_a (u : Unicode) (r : Registration) (gw_ip : PyStr) : Except PyError Bytes :=
  match encodeAscii gw_ip with
  | .error _ =>
    .error (err .value (lit "gateway host " ++ u.repr gw_ip ++
      lit " is not ASCII; the 0x060f frame field is a fixed-width ASCII region"))
  | .ok ip_enc =>
    let ip_len := ip_enc.length
    if POST_REG_A_HOST_MAX < ip_len then
      .error (err .value (lit "gateway host " ++ u.repr gw_ip ++ lit " is " ++ dec ip_len ++
        lit " bytes; the 0x060f frame reserves " ++ dec POST_REG_A_HOST_MAX ++ lit " for it"))
    else
      let ip_first8 := ip_enc.take 8 ++ List.replicate (8 - (ip_enc.take 8).length) 0x20
      .ok (assignAll (List.replicate 224 0)
        [(0, 2, [0x06, 0x0F]), (2, 4, [0x02, 0x00]), (4, 6, [0xFF, 0xFF]),
         (8, 12, [0x00, 0x00, 0x01, 0x00]),
         (20, 24, toBE 4 0x00009000),
         (24, 28, toBE 4 0x00040000),
         (40, 48, r.handle_or_blank),
         (48, 56, ip_first8),
         (56, 60, toBE 4 ip_len),
         (76, 78, [0xFF, 0xFF]),
         (78, 80, r.ack_tail),
         (80, 80 + ip_len, ip_enc),
         (80 + ip_len, 208, List.replicate (208 - 80 - ip_len) 0x20)])

end SapRfc.Program
