import SapRfc.Program.Python

/-!
# The logon frame

How a client puts its logon together: the scrambled password, the records of the
logon body, and the gateway frame around it.  What the builder takes from the machine
(host name, random bytes) is an argument.
-/

set_option autoImplicit false

namespace SapRfc.Program

open SapRfc.Library

/-! ## Logon language -/

/-- `_SAP_TO_ISO` -/
def SAP_TO_ISO : List (String × String) :=
  [("A", "AR"), ("B", "HE"), ("C", "CS"), ("D", "DE"), ("E", "EN"), ("F", "FR"), ("G", "EL"),
   ("H", "HU"), ("I", "IT"), ("J", "JA"), ("K", "DA"), ("L", "PL"), ("M", "ZF"), ("N", "NL"),
   ("O", "NO"), ("P", "PT"), ("Q", "SK"), ("R", "RU"), ("S", "ES"), ("T", "TR"), ("U", "FI"),
   ("V", "SV"), ("W", "BG"), ("X", "LT"), ("Y", "LV"), ("0", "SR"), ("1", "ZH"), ("2", "TH"),
   ("3", "KO"), ("4", "RO"), ("5", "SL"), ("6", "HR"), ("7", "MS"), ("8", "UK"), ("9", "ET")]

/-- `', '.join(sorted(_ISO_TO_SAP))` -/
def knownIsoCodes : PyStr :=
  lit ("AR, BG, CS, DA, DE, EL, EN, ES, ET, FI, FR, HE, HR, HU, IT, JA, KO, LT, LV, MS, " ++
    "NL, NO, PL, PT, RO, RU, SK, SL, SR, SV, TH, TR, UK, ZF, ZH")

/-- SOURCE: language.py:83-110. -/
def language_iso_to_sap (u : Unicode) (iso_code : PyStr) : Except PyError PyStr :=
  let code := u.upper (strip u iso_code)
  if code.length ≠ 2 then
    .error (err .value (lit "ISO language code must be exactly two characters, got " ++
      u.repr iso_code))
  else
    match SAP_TO_ISO.find? fun e => lit e.2 = code with
    | some e => .ok (lit e.1)
    | none =>
      .error (err .value (lit "unknown ISO language code " ++ u.repr iso_code ++
        lit "; known codes are " ++ knownIsoCodes))

/-- SOURCE: language.py:142-174. -/
def normalize_logon_language (u : Unicode) (lang : PyStr) : Except PyError PyStr := do
  let code := u.upper (strip u lang)
  let code ←
    if code.length = 2 then language_iso_to_sap u code
    else if code.length ≠ 1 then
      .error (err .value (lit ("lang must be a one-character SAP language code or a " ++
        "two-character ISO code, got ") ++ u.repr lang))
    else .ok code
  if code.all (· < 128) then .ok code
  else .error (err .value (lit "lang must be an ASCII SAP language code, got " ++ u.repr lang))

/-- SOURCE: connection.py:246-257.  The normalised code is ASCII. -/
def encode_logon_language (u : Unicode) (lang : PyStr) : Except PyError Bytes := do
  let code ← normalize_logon_language u lang
  .ok (code.map UInt8.ofNat)

/-! ## Scrambled password -/

/-- `_AB_SCRAMBLE_KT` -/
def AB_SCRAMBLE_KT : Bytes :=
  [0xF0, 0xED, 0x53, 0xB8, 0x32, 0x44, 0xF1, 0xF8, 0x76, 0xC6, 0x79, 0x59,
   0xFD, 0x4F, 0x13, 0xA2, 0xC1, 0x51, 0x95, 0xEC, 0x54, 0x83, 0xC2, 0x34,
   0x77, 0x49, 0x43, 0xA2, 0x7D, 0xE2, 0x65, 0x96, 0x5E, 0x53, 0x98, 0x78,
   0x9A, 0x17, 0xA3, 0x3C, 0xD3, 0x83, 0xA8, 0xB8, 0x29, 0xFB, 0xDC, 0xA5,
   0x55, 0xD7, 0x02, 0x77, 0x84, 0x13, 0xAC, 0xDD, 0xF9, 0xB8, 0x31, 0x16,
   0x61, 0x0E, 0x6D, 0xFA]

/-- SOURCE: connection.py:280-285, the loop on the bytes of the buffer. -/
def ab_scramble_loop (seed : ℕ) : Bytes → ℕ → ℕ → ℕ → Bytes
  | [], _, _, _ => []
  | b :: rest, i, k, ck =>
    let ks := ck * i % 2 ^ 32
    let kb := UInt8.ofNat ks ^^^ AB_SCRAMBLE_KT.getD k 0
    (b ^^^ kb) :: ab_scramble_loop seed rest (i + 1) ((k + 1) % 64) ((ck + seed) % 2 ^ 32)

/-- SOURCE: connection.py:266-285. -/
def ab_scramble (buf : Bytes) (seed : ℕ) : Bytes :=
  let k := (seed >>> 5 ^^^ seed * 2 % 2 ^ 32 ^^^ seed) % 64
  ab_scramble_loop seed buf 0 k 0xFFFFFFFF

/-- SOURCE: connection.py:288-307.  The seed is taken modulo `2 ^ 32`; without one the
nonce is read little-endian. -/
def scramble_password (passwd : PyStr) (seed : Option ℤ) (nonce : Bytes) : Bytes :=
  let seed := match seed with
    | some n => (n % 2 ^ 32).toNat
    | none => ofLE nonce % 2 ^ 32
  toLE 4 seed ++ ab_scramble (encodeLatin1Replace passwd) seed

/-! ## The body -/

/-- SOURCE: connection.py:260-263.  The length has two bytes. -/
def tlv_ext (tag : ℕ) (value : Bytes) : Except PyError Bytes :=
  if 256 ^ 2 ≤ value.length then .error (err .overflow (lit "int too big to convert"))
  else .ok (toBE 2 tag ++ toBE 2 value.length ++ value ++ toBE 2 tag)

/-- `_TLV_CAPS` -/
def TLV_CAPS : Bytes := [0x03, 0x01, 0x01, 0x01, 0x01, 0x01, 0x00, 0x00]

/-- `_TLV_VER` -/
def TLV_VER : Bytes := [0x00, 0x00, 0x0E, 0x0B]

/-- `_TLV_CP` -/
def TLV_CP : Bytes := [0x04, 0x01, 0x00, 0x03, 0x00, 0x0A, 0x02, 0x00, 0x00, 0x00, 0x23]

/-- `_TLV_REL`, `b"754"` -/
def TLV_REL : Bytes := [0x37, 0x35, 0x34]

/-- `_TLV_PROG`, `b"<unknown>"` -/
def TLV_PROG : Bytes := [0x3C, 0x75, 0x6E, 0x6B, 0x6E, 0x6F, 0x77, 0x6E, 0x3E]

/-- `_RFCPING_NAME`, `b"RFCPING"` -/
def RFCPING_NAME : Bytes := [0x52, 0x46, 0x43, 0x50, 0x49, 0x4E, 0x47]

/-- `b"127.0.0.1"` -/
def LOCALHOST : Bytes := [0x31, 0x32, 0x37, 0x2E, 0x30, 0x2E, 0x30, 0x2E, 0x31]

/-- The arguments of a logon that do not depend on the password. -/
structure LogonParams where
  client : PyStr
  user : Option PyStr
  program_name : Bytes
  lang : PyStr

/-- What a logon takes from the machine: the host name, and random bytes. -/
structure LogonEnv where
  hostname : Option PyStr
  session_token : Bytes
  nonce : Bytes

/-- SOURCE: connection.py:2317-2320.  Without a host name the library's own is sent. -/
def LogonEnv.hn (env : LogonEnv) : Bytes :=
  match env.hostname with
  | some name => encodeAsciiReplace name
  | none => [0x73, 0x61, 0x70, 0x72, 0x66, 0x63, 0x6C, 0x69, 0x62]

/-- The records before the password. -/
def logon_head (env : LogonEnv) (p : LogonParams) : Except PyError Bytes := do
  let r1 ← tlv_ext 0x0101 TLV_CAPS
  let r2 ← tlv_ext 0x0103 TLV_VER
  let r3 ← tlv_ext 0x0106 TLV_CP
  let r4 ← tlv_ext 0x0514 env.session_token
  let r5 ← tlv_ext 0x0114 (encodeAsciiReplace p.client)
  let r6 ← match p.user with
    | some user => tlv_ext 0x0111 (encodeAsciiReplace user)
    | none => .ok []
  .ok (r1 ++ r2 ++ r3 ++ r4 ++ r5 ++ r6)

/-- The records behind the password, the terminator and the call-frame marker. -/
def logon_tail (u : Unicode) (env : LogonEnv) (p : LogonParams) : Except PyError Bytes := do
  let lang1 ← encode_logon_language u p.lang
  let r1 ← tlv_ext 0x0115 lang1
  let r2 ← tlv_ext 0x0501 [0x01]
  let r3 ← tlv_ext 0x0007 LOCALHOST
  let lang2 ← encode_logon_language u p.lang
  let r4 ← tlv_ext 0x0011 lang2
  let r5 ← tlv_ext 0x0012 TLV_REL
  let r6 ← tlv_ext 0x0013 TLV_REL
  let r7 ← tlv_ext 0x0008 env.hn
  let r8 ← tlv_ext 0x0006 TLV_PROG
  let r9 ← tlv_ext 0x0130 p.program_name
  let r10 ← tlv_ext 0x0502 []
  let r11 ← tlv_ext 0x000B TLV_REL
  let r12 ← tlv_ext 0x0102 RFCPING_NAME
  .ok (r1 ++ r2 ++ r3 ++ r4 ++ r5 ++ r6 ++ r7 ++ r8 ++ r9 ++ r10 ++ r11 ++ r12 ++
    [0xFF, 0xFF, 0x00, 0x00] ++
    [0xFF, 0xFF, 0x00, 0x00, 0x00, 0xF8, 0x00, 0x00, 0x85, 0x00])

/-- The password record; without a password it is left out. -/
def logon_password (env : LogonEnv) (passwd : Option PyStr) (seed : Option ℤ) :
    Except PyError Bytes :=
  match passwd with
  | some passwd => tlv_ext 0x0117 (scramble_password passwd seed env.nonce)
  | none => .ok []

/-- SOURCE: connection.py:2299-2360.  The records are built in the order they are sent,
so the first that does not fit its length field raises. -/
def build_logon_request (u : Unicode) (env : LogonEnv) (p : LogonParams)
    (passwd : Option PyStr) (seed : Option ℤ) : Except PyError Bytes := do
  let head ← logon_head env p
  let password ← logon_password env passwd seed
  let tail ← logon_tail u env p
  .ok (head ++ password ++ tail)

/-! ## The frame -/

/-- `_COM_HEAD`, `RFC000000000` in EBCDIC. -/
def COM_HEAD : Bytes :=
  [0xD9, 0xC6, 0xC3, 0xF0, 0xF0, 0xF0, 0xF0, 0xF0, 0xF0, 0xF0, 0xF0, 0xF0]

/-- The 76-byte gateway header of an RFC frame. -/
def gw_rfc_header (handle : Bytes) : Bytes :=
  [0x06, 0xCB, 0x02, 0x00, 0xFF, 0xFF, 0x00, 0x00] ++ List.replicate 16 0 ++
    [0x00, 0x00, 0x00, 0x08, 0x00, 0x00, 0x05, 0x0C] ++ List.replicate 8 0 ++ handle ++
    List.replicate 28 0

/-- `_GW_CLIENT_TAIL` and `_GW_CLIENT_TAIL_SNC` -/
def gw_client_tail (snc : Bool) : Bytes := [0xFF, 0xFF, 0x00, if snc then 0x09 else 0x04]

/-- SOURCE: connection.py:2219-2240. -/
def build_logon_frame (handle tlv_body : Bytes) (snc : Bool) : Bytes :=
  gw_rfc_header handle ++ gw_client_tail snc ++ COM_HEAD ++ tlv_body

/-- SOURCE: connection.py:2243-2278.  The length of the body stands in front of the
footer's constant. -/
def build_invoke_frame (handle tlv_body : Bytes) : Except PyError Bytes :=
  if 256 ^ 4 ≤ tlv_body.length then
    .error (err .structError (lit "'I' format requires 0 <= number <= 4294967295"))
  else
    .ok (gw_rfc_header handle ++ gw_client_tail false ++ tlv_body ++ toBE 4 tlv_body.length ++
      [0x00, 0x00, 0x85, 0x00])

end SapRfc.Program
