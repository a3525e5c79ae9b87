import SapRfc.Library.CountedLoops
import SapRfc.Program.Compress

/-!
# LZ4

`lz4_block_decompress` and the frame around a block.  A turn of the block's loop reads one
sequence: a token, literals, and a match unless the input ends behind the literals.  The loop's
counter is above the number of bytes left, and each turn reads its token.
-/

set_option autoImplicit false

namespace SapRfc.Program

open SapRfc.Library SapRfc.Library.CountedLoops

def SAP_LZ4_MARKER : UInt8 := 0x34

/-- SOURCE: compress.py:907-909.  `left` are the bytes from `pos` on, so that `pos` is
`n - left.length`. -/
structure Lz4Block where
  left : Bytes
  out : Bytes
  deriving DecidableEq, Repr

namespace Lz4Block

/-- SOURCE: compress.py:919-924 and compress.py:947-952, the loop. -/
def read_extra : ℕ → Bytes → ℕ × Bytes
  | len, [] => (len, [])
  | len, extra :: left =>
    if extra ≠ 255 then (len + extra.toNat, left) else read_extra (len + extra.toNat) left

/-- SOURCE: compress.py:917-924 and compress.py:945-952.  `len` starts at the nibble, or above
it. -/
def read_length (nibble len : ℕ) (left : Bytes) : ℕ × Bytes :=
  if nibble = 15 then read_extra len left else (len, left)

/-- `out.append(out[copy_from + i])` -/
def append_copy (copy_from : ℕ) (out : Bytes) (i : ℕ) : Except LzError Bytes :=
  match out[copy_from + i]? with
  | some b => .ok (out ++ [b])
  | none => .error (.other (lit "bytearray index out of range"))

/-- SOURCE: compress.py:955-961. -/
def copy_match (offset match_len : ℕ) (out : Bytes) : Except LzError Bytes :=
  if out.length < offset then
    .error (.decompress (lit "LZ4 block: offset " ++ dec offset ++ lit " exceeds output length " ++
      dec out.length))
  else (List.range match_len).foldlM (append_copy (out.length - offset)) out

/-- SOURCE: compress.py:933-961.  What follows the literals. -/
def read_match (n : ℕ) (token : UInt8) (out : Bytes) : Bytes → Except LzError (Bool × Lz4Block)
  | [] => .ok (false, ⟨[], out⟩)
  | [_] => .error (.decompress (lit "offset bytes truncated at pos=" ++ dec (n - 1)))
  | low :: high :: left => do
    let offset := low.toNat ||| high.toNat <<< 8
    if offset = 0 then
      .error (.decompress (lit "LZ4 block: match offset 0 is invalid"))
    let (match_len, left) :=
      read_length (token.toNat &&& 0xF) ((token.toNat &&& 0xF) + 4) left
    let out ← copy_match offset match_len out
    .ok (true, ⟨left, out⟩)

/-- SOURCE: compress.py:912-961.  A turn of the loop, and whether there may be another. -/
def turn (n : ℕ) (s : Lz4Block) : Except LzError (Bool × Lz4Block) :=
  match s.left with
  | [] => .ok (false, s)
  | token :: left =>
    let (lit_len, left) :=
      read_length (token.toNat >>> 4 &&& 0xF) (token.toNat >>> 4 &&& 0xF) left
    if left.length < lit_len then
      .error (.decompress (lit "literal overrun at pos=" ++ dec (n - left.length) ++
        lit " lit_len=" ++ dec lit_len))
    else read_match n token (s.out ++ left.take lit_len) (left.drop lit_len)

end Lz4Block

/-- SOURCE: compress.py:900-968.  `max_output` is not read. -/
def lz4_block_decompress (src : Bytes) (_max_output : ℕ) : Except LzError Bytes :=
  wrapped (lit "LZ4 block decompression error: ")
    (Lz4Block.out <$> counted (Lz4Block.turn src.length) (src.length + 1) ⟨src, []⟩)

/-- SOURCE: compress.py:978-1005. -/
def sap_lz4_frame_decompress (data : Bytes) : Except LzError Bytes := do
  if data = [] then .error (.decompress (lit "empty SAP LZ4 frame"))
  if data.headD 0 ≠ SAP_LZ4_MARKER then
    .error (.decompress (lit "SAP LZ4 frame: expected marker 0x34, got 0x" ++
      hexLower [data.headD 0]))
  if data.length < 9 then
    .error (.decompress (lit "SAP LZ4 frame too short: " ++ dec data.length ++ lit " bytes"))
  let uncomp_len := ofLE (slice data 1 5)
  let comp_len := ofLE (slice data 5 9)
  if data.length < 9 + comp_len then
    .error (.decompress (lit "SAP LZ4 frame truncated: need " ++ dec (9 + comp_len) ++
      lit " bytes, have " ++ dec data.length))
  let result ← lz4_block_decompress (slice data 9 (9 + comp_len)) uncomp_len
  if result.length ≠ uncomp_len then
    .error (.decompress (lit "SAP LZ4 decompressed " ++ dec result.length ++
      lit " bytes, expected " ++ dec uncomp_len))
  .ok result

end SapRfc.Program
