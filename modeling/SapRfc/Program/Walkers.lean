import SapRfc.Library.Walkers
import SapRfc.Program.Metadata
import SapRfc.Program.Server
import SapRfc.Program.Trace

/-!
# The record walkers

The six loops over a record stream that the source has, each with its own state, its own
visit of a record and its own end.  Five of them read the four-byte length that a length field
of `0xFFFF` announces; `Session._parse_tlv` takes `0xFFFF` for a length.
-/

set_option autoImplicit false

namespace SapRfc.Program

open SapRfc.Library SapRfc.Library.Records

/-- SOURCE: session.py:396-406, the header. -/
def session_read (payload : Bytes) (pos : ℕ) : Turn :=
  if payload.length < pos + 4 then .short
  else
    let tag := numberAt payload pos 2
    let length := numberAt payload (pos + 2) 2
    let pos := pos + 4
    if tag = Tag.TERMINATOR then .terminator
    else if payload.length < pos + length then .overrun tag false length (payload.length - pos)
    else .record ⟨tag, pos, length⟩

/-- SOURCE: session.py:384-412. -/
def session_walker (payload : Bytes) : Walker Tags PyError Tags where
  read := fun _ => session_read payload
  next := fun _ => Span.next payload
  visit := fun out s => .ok (.inl (out ++ [(s.tag, s.value payload)]))
  finish := fun out ending =>
    match ending with
    | .overrun tag _ declared left =>
      .error (err .value (lit "malformed TLV: tag 0x" ++ hex4 tag ++ lit " length " ++
        dec declared ++ lit " exceeds remaining payload (" ++ dec left ++ lit " bytes)"))
    | _ => .ok out

/-- SOURCE: invoke.py:1229-1276. -/
def tlv_stream_walker (data : Bytes) : Walker Tags PyError Tags where
  read := fun _ => readAt Tag.TERMINATOR data
  next := fun _ => Span.next data
  visit := fun out s => .ok (.inl (out ++ [(s.tag, s.value data)]))
  finish := fun out ending =>
    match ending with
    | .headless tag left =>
      .error (err .value (lit "malformed TLV: tag 0x" ++ hex4 tag ++
        lit " extended form but buffer too short for ext_len field (pos=" ++
        dec (data.length - left) ++ lit ", remaining=" ++ dec left ++ lit ")"))
    | .overrun tag extended declared left =>
      .error (err .value (lit "malformed TLV: tag 0x" ++ hex4 tag ++
        (if extended then lit " extended length " else lit " length ") ++ dec declared ++
        lit " exceeds remaining payload (" ++ dec left ++ lit " bytes)"))
    | _ => .ok out

/-- SOURCE: invoke.py:1820-1862.  The state is `records`. -/
def status_walker (tlv : Bytes) : Walker ℕ PyError TlvStatus where
  read := fun _ => readAt Tag.TERMINATOR tlv
  next := fun _ => Span.next tlv
  visit := fun records _ => .ok (.inl (records + 1))
  finish := fun records ending =>
    match ending with
    | .terminator => .ok .complete
    | _ => if records = 0 then .ok .not_tlv else .ok .truncated

section Pairs

variable {V : Type} (codec : Codec V) (dm_table_names : List (ℕ × PyStr))

/-- SOURCE: invoke.py:1505-1709. -/
def pairs_walker (data : Bytes) : Walker PairState PyError NamedValues where
  read := fun _ => readAt Tag.TERMINATOR data
  next := fun _ => Span.next data
  visit := fun s span => do
    let s ← pair_record codec dm_table_names s (span.tag, span.value data)
    .ok (.inl s)
  finish := fun s ending =>
    match ending with
    | .headless tag _ =>
      .error (err .value (lit "malformed TLV: tag 0x" ++ hex4 tag ++
        lit " extended form truncated"))
    | .overrun tag extended declared left =>
      .error (err .value (lit "malformed TLV: tag 0x" ++ hex4 tag ++
        (if extended then lit " extended length " else lit " length ") ++ dec declared ++
        lit " exceeds remaining payload (" ++ dec left ++ lit " bytes)"))
    | _ => do
      let pairs ← s.flushed codec
      .ok {
        pairs := pairs
        basxml := s.basxml_chunks.map fun e => (e.1, e.2.flatten)
        row_counts := s.row_counts }

end Pairs

/-- SOURCE: trace.py:54-86.  The state is `out`, and the headers are read from it. -/
def redact_walker : Walker Bytes PyError Bytes where
  read := readAt 0xFFFF
  next := Span.next
  visit := fun out s =>
    .ok (.inl (if s.tag = TAG_PASSWORD then zeroFill out s.start s.length else out))
  finish := fun out _ => .ok out

/-- `body_at` -/
def body_at (payload : Bytes) : ℕ :=
  if payload.take 1 = [0x06] ∧ GW_HEADER_LEN < payload.length then GW_HEADER_LEN else 0

/-- SOURCE: server.py:1228-1271.  The state is `current_name`. -/
def raw_param_walker {V : Type} (p : Platform V) (tlv : Bytes) (param_name : PyStr) :
    Walker (Option PyStr) PyError (Option Bytes) where
  read := fun _ => readAt Tag.TERMINATOR tlv
  next := fun _ => Span.next tlv
  visit := fun current_name s =>
    if s.tag = Tag.PARAM_NAME then .ok (.inl (some (decode_utf16le (s.value tlv))))
    else if s.tag = Tag.PARAM_VALUE then
      match current_name with
      | some name =>
        if p.u.upper name = p.u.upper param_name then .ok (.inr (some (s.value tlv)))
        else .ok (.inl none)
      | none => .ok (.inl none)
    else .ok (.inl current_name)
  finish := fun _ _ => .ok none

/-- The loop from an offset to the end of the bytes.  Every record takes four bytes at least,
so one turn for each byte is enough. -/
def walk_from {σ ρ : Type} (w : Walker σ PyError ρ) (n pos : ℕ) (s : σ) :
    List Span × Except PyError ρ :=
  w.loop (n + 1) pos s

/-- `tlv_record(tag, value)` for each record, one behind the other, and `tlv_record(0xFFFF)`. -/
def write_stream (rs : List (ℕ × Bytes)) : Except PyError Bytes :=
  write_records (rs.map (fun r => (r.1, .ok r.2)) ++ [(Tag.TERMINATOR, .ok [])])

end SapRfc.Program
