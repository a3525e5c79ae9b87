import SapRfc.Program.Python

/-!
# Trace files

What a trace writes for a frame: the frame is redacted and then dumped, sixteen bytes
a line.  `redact` is the loop of the source on an offset into the bytes it is
blanking.
-/

set_option autoImplicit false

namespace SapRfc.Program

open SapRfc.Library

/-- `TRACE_FULL`: hex dumps of every frame. -/
def TRACE_FULL : ℕ := 3

/-- `_TAG_PASSWORD` -/
def TAG_PASSWORD : ℕ := 0x0117

/-- `_GW_HEADER_LEN` -/
def GW_HEADER_LEN : ℕ := 80

/-- SOURCE: trace.py:79-85.  The value at `pos`: blank it where it is a password, and go
on behind it and behind its closing tag. -/
def redact_value (out : Bytes) (tag pos length : ℕ) : Option (Bytes × ℕ) :=
  if out.length < pos + length then none
  else
    let out := if tag = TAG_PASSWORD then zeroFill out pos length else out
    let pos := pos + length
    some (out,
      if pos + 2 ≤ out.length ∧ ofBE (slice out pos (pos + 2)) = tag then pos + 2 else pos)

/-- SOURCE: trace.py:69-85, one turn of the loop; `none` leaves it. -/
def redact_turn (out : Bytes) (pos : ℕ) : Option (Bytes × ℕ) :=
  if out.length < pos + 4 then none
  else
    let tag := ofBE (slice out pos (pos + 2))
    let length := ofBE (slice out (pos + 2) (pos + 4))
    let pos := pos + 4
    if tag = 0xFFFF then none
    else if length = 0xFFFF then
      if out.length < pos + 4 then none
      else redact_value out tag (pos + 4) (ofBE (slice out pos (pos + 4)))
    else redact_value out tag pos length

/-- SOURCE: trace.py:69-86, the loop.  Every turn moves `pos` on by four at least, so
one turn for each byte is enough. -/
def redact_loop : ℕ → Bytes → ℕ → Bytes
  | 0, out, _ => out
  | fuel + 1, out, pos =>
    match redact_turn out pos with
    | none => out
    | some (out, pos) => redact_loop fuel out pos

/-- SOURCE: trace.py:54-86. -/
def redact (payload : Bytes) : Bytes :=
  let body_at := if payload.take 1 = [0x06] ∧ GW_HEADER_LEN < payload.length
    then GW_HEADER_LEN else 0
  redact_loop (payload.length + 1) payload body_at

/-- A number in upper-case hexadecimal, at least `width` digits. -/
def hexUpper (width n : ℕ) : PyStr :=
  let digits := (Nat.toDigits 16 n).map fun c =>
      hexDigit (c.toNat - if c.toNat < 58 then 48 else 87)
  List.replicate (width - digits.length) 48 ++ digits

/-- SOURCE: trace.py:89-97, one line of the dump. -/
def hexdump_line (data : Bytes) (off : ℕ) : PyStr :=
  let raw := slice data off (off + 16)
  let chunk := raw ++ List.replicate (16 - raw.length) 0
  let groups := joinWith [32] ([0, 4, 8, 12].map fun i => hexBytes (slice chunk i (i + 4)))
  let text : PyStr := raw.map fun b => if 32 ≤ b.toNat ∧ b.toNat < 127 then b.toNat else 46
  hexUpper 6 off ++ lit " | " ++ groups ++ lit " |" ++ text ++
    List.replicate (16 - text.length) 32 ++ lit "|"

/-- SOURCE: trace.py:89-97. -/
def hexdump (data : Bytes) : List PyStr :=
  (List.range ((data.length + 15) / 16)).map fun i => hexdump_line data (16 * i)

/-- What the clock and the thread put into a line, and the arguments of `frame` that are
not the frame. -/
structure TraceContext where
  level : ℕ
  now : PyStr
  ident : ℕ
  direction : PyStr
  socket_id : ℕ

/-- SOURCE: trace.py:171-188, the lines written. -/
def RfcTrace_frame (ctx : TraceContext) (payload : Bytes) : List PyStr :=
  if ctx.level < TRACE_FULL then []
  else
    let safe := redact payload
    [lit ">> HEXDUMP",
      ctx.now ++ lit " [" ++ dec ctx.ident ++ lit "] " ++ ctx.direction ++ lit " " ++
        dec payload.length ++ lit " bytes on Socket " ++ dec ctx.socket_id] ++
    hexdump safe ++ [lit "<< HEXDUMP", []]

end SapRfc.Program
