import SapRfc.Library.Records
import SapRfc.Program.Python

/-!
# Response streams

The readers and the writer of `invoke.py` that every request and every reply goes
through: one record, the tag table of a stream, how far a stream has arrived, and
the error a reply carries.
-/

set_option autoImplicit false

namespace SapRfc.Program

open SapRfc.Library

namespace Tag

def PARAM_NAME : ℕ := 0x0201
def PARAM_VALUE : ℕ := 0x0203
def RESPONSE_START : ℕ := 0x0500
def RETURN_CODE : ℕ := 0x0420
def EXCEPTION_NUMBER : ℕ := 0x0417
def EXCEPTION_KEY : ℕ := 0x0401
def EXCEPTION_KEY_ALT : ℕ := 0x0403
def EXCEPTION_TEXT : ℕ := 0x0402
def EXCEPTION_MSG_CLASS : ℕ := 0x0415
def EXCEPTION_MSG_TYPE : ℕ := 0x0416
def EXCEPTION_MSG_NUMBER : ℕ := 0x0417
def EXCEPTION_MSG_V1 : ℕ := 0x0411
def EXCEPTION_MSG_V2 : ℕ := 0x0412
def EXCEPTION_MSG_V3 : ℕ := 0x0413
def EXCEPTION_MSG_V4 : ℕ := 0x0414
def TERMINATOR : ℕ := 0xFFFF

end Tag

/-- SOURCE: invoke.py:238-254.  A tag or a length that does not fit its field raises. -/
def tlv_record (tag : ℕ) (data : Bytes) : Except PyError Bytes :=
  if 256 ^ 2 ≤ tag then .error (err .overflow (lit "int too big to convert"))
  else if 256 ^ 4 ≤ data.length then
    .error (err .structError (lit "'I' format requires 0 <= number <= 4294967295"))
  else .ok (Records.encode tag data)

/-- The records of a stream, as a table; the last value of a repeated tag wins. -/
abbrev Tags : Type := List (ℕ × Bytes)

/-- `tags.get(tag)` -/
def Tags.get (tags : Tags) (tag : ℕ) : Option Bytes :=
  (tags.reverse.find? (·.1 = tag)).map (·.2)

/-- SOURCE: invoke.py:1229-1276.  `pos` in the messages is counted from the end: what
is left of the stream starts there. -/
def parse_tlv_stream (data : Bytes) : Except PyError Tags :=
  let w := Records.walk Tag.TERMINATOR data
  match w.ending with
  | .headless tag left =>
    .error (err .value (lit "malformed TLV: tag 0x" ++ hex4 tag ++
      lit " extended form but buffer too short for ext_len field (pos=" ++
      dec (data.length - left) ++ lit ", remaining=" ++ dec left ++ lit ")"))
  | .overrun tag extended declared left =>
    .error (err .value (lit "malformed TLV: tag 0x" ++ hex4 tag ++
      (if extended then lit " extended length " else lit " length ") ++ dec declared ++
      lit " exceeds remaining payload (" ++ dec left ++ lit " bytes)"))
  | _ => .ok w.records

/-- How far a stream has arrived. -/
inductive TlvStatus where
  | complete | truncated | not_tlv
  deriving DecidableEq, Repr

/-- SOURCE: invoke.py:1820-1862. -/
def tlv_stream_status (tlv : Bytes) : TlvStatus :=
  let w := Records.walk Tag.TERMINATOR tlv
  if w.ending = .terminator then .complete
  else if w.records.isEmpty then .not_tlv
  else .truncated

/-- SOURCE: invoke.py:1712-1721.  Text of a UTF-16LE value, else of an ASCII one. -/
def decode_utf16le (value : Bytes) : PyStr :=
  match decodeUtf16le? value with
  | some s => rstrip padding s
  | none => rstrip padding (decodeAsciiReplace value)

/-! ## System functions -/

def ARFC_DEST_SHIP : PyStr := lit "ARFC_DEST_SHIP"
def ARFC_DEST_CONFIRM : PyStr := lit "ARFC_DEST_CONFIRM"
def BGRFC_DEST_SHIP : PyStr := lit "BGRFC_DEST_SHIP"
def BGRFC_DEST_CONFIRM : PyStr := lit "BGRFC_DEST_CONFIRM"
def BGRFC_CHECK_UNIT_STATE_SERVER : PyStr := lit "BGRFC_CHECK_UNIT_STATE_SERVER"

/-- `_TID_LN` -/
def TID_LN : ℕ := 24

/-- `_TID_ALPHABET` -/
def TID_ALPHABET : PyStr := lit "ABCDEFGHIJKLMNOPQRSTUVWXYZ0123456789/_=@-"

/-- `_UNITID_LN` -/
def UNITID_LN : ℕ := 32

/-- `_UNITID_CHARSET` -/
def UNITID_CHARSET : PyStr := lit "0123456789ABCDEF"

/-! ## The error a reply carries -/

/-- `b"*ERR*"` -/
def gatewayErrorMarker : Bytes := [0x2A, 0x45, 0x52, 0x52, 0x2A]

/-- SOURCE: invoke.py:948-974. -/
def parse_gateway_error (u : Unicode) (payload : Bytes) : Option PyStr :=
  if payload.take 5 = gatewayErrorMarker then
    let fields := splitOn 0 payload
    let parts := ([2, 4, 5].filterMap fun idx =>
      (fields[idx]?).map fun f => strip u (u.utf8Replace f)).filter (· ≠ [])
    if parts = [] then some ((u.utf8Replace payload).take 200)
    else some (joinWith (lit " | ") parts)
  else none

/-- `[A-Za-z]` -/
def isLetter (c : ℕ) : Bool := decide (65 ≤ c ∧ c ≤ 90 ∨ 97 ≤ c ∧ c ≤ 122)

/-- Four letters in a row, `re.search(r"[A-Za-z]{4,}", s)`. -/
def hasWord : PyStr → Bool
  | [] => false
  | c :: cs => (4 ≤ (c :: cs).length && ((c :: cs).take 4).all isLetter) || hasWord cs

/-- SOURCE: invoke.py:980-1017.  The ratio of printable characters is compared with
7/10 without rounding. -/
def parse_cpic_error (u : Unicode) (payload : Bytes) : Option PyStr :=
  let raw := rstrip [0x00, 0x20, 0x40] payload
  if raw = [] then none
  else
    let text := decodeCp500 raw
    if (text.filter u.isPrintable).length * 10 < text.length * 7 then none
    else
      let ws := joinWith [32] (words u (text.map fun c => if u.isPrintable c then c else 32))
      if ws = [] ∨ hasWord ws = false then none else some ws

/-- Every second byte, `value[1::2]`. -/
def oddBytes : Bytes → Bytes
  | _ :: b :: rest => b :: oddBytes rest
  | _ => []

/-- SOURCE: invoke.py:1020-1037. -/
def decode_error_text : Option Bytes → PyStr
  | none => []
  | some value =>
    if value = [] then []
    else if 2 ≤ value.length ∧ value.length % 2 = 0 ∧ (oddBytes value).all (· = 0) then
      rstrip padding (decodeUtf16leReplace value)
    else rstrip padding (decodeLatin1 value)

/-- `text or None` -/
def orNone (s : PyStr) : Option PyStr := if s = [] then none else some s

/-- The message fields of an ABAP error, as the reply carries them. -/
def abapDetail (tags : Tags) (key : Option PyStr) (message : Option PyStr) : AbapDetail where
  key := key
  msg_class := orNone (decode_error_text (tags.get Tag.EXCEPTION_MSG_CLASS))
  msg_type := orNone (decode_error_text (tags.get Tag.EXCEPTION_MSG_TYPE))
  msg_number := orNone (decode_error_text (tags.get Tag.EXCEPTION_MSG_NUMBER))
  msg_v1 := orNone (decode_error_text (tags.get Tag.EXCEPTION_MSG_V1))
  msg_v2 := orNone (decode_error_text (tags.get Tag.EXCEPTION_MSG_V2))
  msg_v3 := orNone (decode_error_text (tags.get Tag.EXCEPTION_MSG_V3))
  msg_v4 := orNone (decode_error_text (tags.get Tag.EXCEPTION_MSG_V4))
  message := message

/-- SOURCE: exceptions.py:66-114.  The text of an application error is put together
from the fields that are there. -/
def AbapApplicationError (d : AbapDetail) : PyError :=
  let present := fun (fields : List (Option PyStr)) => fields.filterMap id |>.filter (· ≠ [])
  let typed := match present [d.msg_type] with
    | [t] => lit " type " ++ t
    | _ => []
  let numbered := match present [d.msg_class], present [d.msg_number] with
    | [c], [n] => [lit "message " ++ c ++ lit "/" ++ n ++ typed]
    | _, _ => []
  let texts := present [d.msg_v1, d.msg_v2, d.msg_v3, d.msg_v4]
  let assembled := match d.message with
    | some _ => []
    | none => numbered ++ if texts = [] then [] else [joinWith [32] texts]
  ⟨.abapApplication, joinWith (lit ": ") (present [d.key, d.message] ++ assembled), some d⟩

/-- SOURCE: exceptions.py:117-146. -/
def AbapSystemFailure (d : AbapDetail) : PyError :=
  ⟨.abapSystem, d.message.getD [], some d⟩

/-- SOURCE: invoke.py:1085-1126, the classification of a reply whose records are known. -/
def raise_for_tags (tags : Tags) : Except PyError Unit :=
  match tags.get Tag.EXCEPTION_NUMBER with
  | some _ =>
    let key := decode_error_text (tags.get Tag.EXCEPTION_KEY)
    let key := if key = [] then decode_error_text (tags.get Tag.EXCEPTION_KEY_ALT) else key
    .error (AbapApplicationError
      (abapDetail tags (orNone key) (orNone (decode_error_text (tags.get Tag.EXCEPTION_TEXT)))))
  | none =>
    match tags.get Tag.RETURN_CODE with
    | none => .ok ()
    | some rc_bytes =>
      if rc_bytes.length ≠ 4 then
        .error (err .value (lit "return-code TLV 0x0420 has length " ++ dec rc_bytes.length ++
          lit ", expected 4"))
      else if ofBE rc_bytes = 0 then .ok ()
      else
        let text := decode_error_text (tags.get Tag.EXCEPTION_TEXT)
        let message := if text = [] then lit "RFC return code " ++ dec (ofBE rc_bytes) else text
        .error (AbapSystemFailure (abapDetail tags none (some message)))

/-- SOURCE: invoke.py:1040-1126. -/
def raise_for_rfc_error (u : Unicode) (resp : Bytes) : Except PyError Unit :=
  match parse_gateway_error u resp with
  | some text =>
    .error (err .communication (lit "the SAP gateway rejected the frame: " ++ text ++
      lit ". The conversation is gone; this connection should be discarded rather than retried."))
  | none =>
    match parse_tlv_stream resp with
    | .ok tags => raise_for_tags tags
    | .error exc =>
      match parse_cpic_error u resp with
      | some cpic =>
        .error (err .communication (lit "the connection failed below the RFC layer: " ++ cpic))
      | none =>
        .error (err .communication (lit "the response is not a readable RFC message (" ++
          dec resp.length ++ lit " bytes, starting " ++ u.repr (u.utf8Replace (resp.take 40)) ++
          lit "): " ++ exc.text))

/-! ## What the readers make of a stream -/

/-- A record is written as `encode` says exactly when the tag and the length fit. -/
theorem tlv_record_eq_ok {tag : ℕ} {data out : Bytes} :
    tlv_record tag data = .ok out ↔
      tag < 256 ^ 2 ∧ data.length < 256 ^ 4 ∧ out = Records.encode tag data := by
  unfold tlv_record
  split
  · exact ⟨nofun, fun h => absurd h.1 (by omega)⟩
  · split
    · exact ⟨nofun, fun h => absurd h.2.1 (by omega)⟩
    · constructor
      · intro h
        cases h
        exact ⟨by omega, by omega, rfl⟩
      · rintro ⟨-, -, rfl⟩
        rfl

theorem tlv_stream_status_complete {tlv : Bytes} :
    tlv_stream_status tlv = .complete ↔
      (Records.walk Tag.TERMINATOR tlv).ending = .terminator := by
  unfold tlv_stream_status
  constructor
  · intro h
    by_contra hne
    simp only [hne, if_false] at h
    split at h <;> cases h
  · intro h
    simp only [h, if_true]

theorem tlv_stream_status_truncated {tlv : Bytes} :
    tlv_stream_status tlv = .truncated ↔
      (Records.walk Tag.TERMINATOR tlv).ending ≠ .terminator ∧
        (Records.walk Tag.TERMINATOR tlv).records ≠ [] := by
  unfold tlv_stream_status
  by_cases hend : (Records.walk Tag.TERMINATOR tlv).ending = .terminator
  · simp [hend]
  · by_cases hrec : (Records.walk Tag.TERMINATOR tlv).records = []
    · simp [hend, hrec]
    · simp [hend, hrec]

end SapRfc.Program
