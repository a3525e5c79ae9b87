import SapRfc.Program.Python

/-!
# LZC

`_LZCCompress`, `_LZCDecompress` and the bit reader between them.  The two classes keep a
dictionary, a counter and a code width each.  Codes are written in groups of eight, a group is
as many bytes as a code has bits, and a group is abandoned where the width grows.  The other
algorithm of the format is a parameter.
-/

set_option autoImplicit false

namespace SapRfc.Program

open SapRfc.Library

/-- The exceptions of the module, and any other one that is raised inside. -/
inductive LzError where
  | decompress (text : PyStr)
  | compress (text : PyStr)
  | other (text : PyStr)
  deriving DecidableEq, Repr

def HDR_SIZE : ℕ := 8
def HDR_MAGIC : Bytes := [0x1F, 0x9D]
def HDR_ALG_LZC : ℕ := 1
def HDR_ALG_LZH : ℕ := 2
def LZC_MIN_CODE_LEN : ℕ := 9
def LZC_MAX_CODE_LEN : ℕ := 16
def LZC_LITERAL_COUNT : ℕ := 256
def LZC_CODE_END_BLOCK : ℕ := 256
def LZC_SINGLE_BLOCK : ℕ := 0
def LZC_MULTI_BLOCK : ℕ := 1

/-- `data.hex()` -/
def hexLower (b : Bytes) : PyStr :=
  b.flatMap fun x => [hexDigitLower (x.toNat / 16), hexDigitLower (x.toNat % 16)]

/-! ## Reading bits -/

/-- SOURCE: compress.py:159-211.  `left` are the bytes from `_pos` on. -/
structure BitReader where
  left : Bytes
  bits : ℕ
  bits_count : ℕ
  deriving DecidableEq, Repr

namespace BitReader

def new (data : Bytes) : BitReader := ⟨data, 0, 0⟩

def bits_left (r : BitReader) : ℕ := r.left.length * 8 + r.bits_count

/-- SOURCE: compress.py:198-201, the loop of `peek_bits`. -/
def fill (n : ℕ) : Bytes → ℕ → ℕ → Except LzError BitReader
  | [], bits, bits_count =>
    if bits_count < n then .error (.decompress (lit "unexpected end of compressed data"))
    else .ok ⟨[], bits, bits_count⟩
  | b :: left, bits, bits_count =>
    if bits_count < n then fill n left (bits ||| b.toNat <<< bits_count) (bits_count + 8)
    else .ok ⟨b :: left, bits, bits_count⟩

/-- SOURCE: compress.py:197-208. -/
def read_bits (n : ℕ) (r : BitReader) : Except LzError (ℕ × BitReader) := do
  let r ← fill n r.left r.bits r.bits_count
  .ok (r.bits &&& (1 <<< n - 1), { r with bits := r.bits >>> n, bits_count := r.bits_count - n })

end BitReader

/-! ## The header -/

/-- SOURCE: compress.py:236-247. -/
def parse_header (data : Bytes) : Except LzError (ℕ × ℕ × ℕ × ℕ) :=
  if data.length < HDR_SIZE then .error (.decompress (lit "header truncated"))
  else
    let uncomp_len := ofLE (data.take 4)
    let algo_byte := (data.getD 4 0).toNat
    let algo_id := algo_byte &&& 0x0F
    let version := (algo_byte >>> 4) &&& 0x0F
    if slice data 5 7 ≠ HDR_MAGIC then
      .error (.decompress (lit "bad SAPCOMPRESS magic: " ++ hexLower (slice data 5 7)))
    else .ok (uncomp_len, algo_id, version, (data.getD 7 0).toNat)

/-- `_first_seq_code` -/
def first_seq_code (block_mode : ℕ) : ℕ :=
  if block_mode = LZC_SINGLE_BLOCK then LZC_LITERAL_COUNT else LZC_LITERAL_COUNT + 1

/-- The `_max_code` of a code length. -/
def max_code_of (code_len_limit code_limit n : ℕ) : ℕ :=
  if n = code_len_limit then code_limit else 1 <<< n - 1

/-! ## The decompressor -/

/-- An entry of `codes`. -/
structure CodeDef where
  base : ℕ
  next : UInt8
  chain_index : ℕ
  deriving DecidableEq, Repr

/-- SOURCE: compress.py:258-268 and compress.py:319-328.  `left` are the bytes that the reader
has not handed out, `written` are those of the writer. -/
structure LZCDecompress where
  left : Bytes
  written : Bytes
  block_mode : ℕ
  code_len_limit : ℕ
  code_limit : ℕ
  code_len : ℕ
  max_code : ℕ
  next_free : ℕ
  chunk : Option BitReader
  codes : ℕ → Option CodeDef
  chain_buf : Bytes
  prev_code : Option ℕ
  prev_cdef : Option CodeDef
  decomp_left : ℤ

namespace LZCDecompress

/-- SOURCE: compress.py:276-278. -/
def set_code_len (n : ℕ) (s : LZCDecompress) : LZCDecompress :=
  { s with code_len := n, max_code := max_code_of s.code_len_limit s.code_limit n }

/-- SOURCE: compress.py:292-294. -/
def start_chunk (s : LZCDecompress) : LZCDecompress :=
  let n := min s.code_len s.left.length
  { s with
    left := s.left.drop n
    chunk := if n = 0 then none else some (BitReader.new (s.left.take n)) }

/-- SOURCE: compress.py:296-299. -/
def start_block (s : LZCDecompress) : LZCDecompress :=
  start_chunk (set_code_len LZC_MIN_CODE_LEN { s with next_free := first_seq_code s.block_mode })

/-- `self._chunk is None or self._chunk.bits_left < self._code_len` -/
def exhausted (s : LZCDecompress) : Bool :=
  match s.chunk with
  | none => true
  | some chunk => decide (chunk.bits_left < s.code_len)

/-- SOURCE: compress.py:302-310, the chunk that the next code is read from. -/
def next_chunk (s : LZCDecompress) : LZCDecompress :=
  if s.exhausted ∨ s.max_code < s.next_free then
    start_chunk (if s.max_code < s.next_free then set_code_len (s.code_len + 1) s else s)
  else s

/-- SOURCE: compress.py:301-313. -/
def read_code (s : LZCDecompress) : Except LzError (Option ℕ × LZCDecompress) :=
  let s := next_chunk s
  match s.chunk with
  | none => .ok (none, s)
  | some chunk =>
    if chunk.bits_left < s.code_len then .ok (none, s)
    else do
      let (code, chunk) ← chunk.read_bits s.code_len
      .ok (some code, { s with chunk := some chunk })

/-- `chain_buf[i] = b` -/
def set_char (chain_buf : Bytes) (i : ℕ) (b : UInt8) : Except LzError Bytes :=
  if i < chain_buf.length then .ok (chain_buf.set i b)
  else .error (.other (lit "bytearray index out of range"))

/-- SOURCE: compress.py:352-363, the walk back to the literal.  The base of an entry is a smaller
code than the entry, so `resolve + 1` turns are enough. -/
def walk_chain (next_free : ℕ) (codes : ℕ → Option CodeDef) :
    ℕ → ℕ → ℕ → Bytes → Except LzError (ℕ × Bytes)
  | 0, resolve, _, _ => .error (.decompress (lit "unresolvable code " ++ dec resolve))
  | fuel + 1, resolve, chain_len, chain_buf =>
    if resolve < LZC_LITERAL_COUNT then do
      let chain_buf ← set_char chain_buf 0 (UInt8.ofNat resolve)
      .ok (chain_len + 1, chain_buf)
    else if next_free ≤ resolve then
      .error (.decompress (lit "unresolvable code " ++ dec resolve))
    else
      match codes resolve with
      | none => .error (.decompress (lit "missing code entry " ++ dec resolve))
      | some cdef => do
        let chain_buf ← set_char chain_buf cdef.chain_index cdef.next
        walk_chain next_free codes fuel cdef.base (chain_len + 1) chain_buf

/-- `prev_cdef["chain_index"] if prev_cdef else 0` -/
def prev_ci (s : LZCDecompress) : ℕ :=
  match s.prev_cdef with
  | some cdef => cdef.chain_index
  | none => 0

/-- SOURCE: compress.py:346-370.  The length of the sequence of a code, and the buffer with it. -/
def resolve_code (code : ℕ) (s : LZCDecompress) : Except LzError (ℕ × Bytes) :=
  if s.prev_code = some code then .ok (s.prev_ci + 1, s.chain_buf)
  else if code < s.next_free then
    walk_chain s.next_free s.codes (code + 1) code 0 s.chain_buf
  else if code = s.next_free ∧ s.prev_code ≠ none then do
    let chain_buf ← set_char s.chain_buf (s.prev_ci + 1) (s.chain_buf.headD 0)
    .ok (s.prev_ci + 2, chain_buf)
  else
    .error (.decompress (lit "code " ++ dec code ++ lit " out of range (next_free=" ++
      dec s.next_free ++ lit ")"))

/-- SOURCE: compress.py:375-382, the entry that a code adds behind the previous one. -/
def add_entry (s : LZCDecompress) : LZCDecompress :=
  match s.prev_code with
  | none => s
  | some prev_code =>
    if s.next_free < s.code_limit then
      { s with
        codes := Function.update s.codes s.next_free
          (some ⟨prev_code, s.chain_buf.headD 0, s.prev_ci + 1⟩)
        next_free := s.next_free + 1 }
    else s

/-- SOURCE: compress.py:372-385.  What follows the sequence of a code. -/
def wrote (code chain_len : ℕ) (chain_buf : Bytes) (s : LZCDecompress) : LZCDecompress :=
  let s := add_entry { s with
    written := s.written ++ chain_buf.take chain_len
    decomp_left := s.decomp_left - chain_len
    chain_buf := chain_buf }
  { s with prev_code := some code, prev_cdef := s.codes code }

/-- SOURCE: compress.py:332-387.  A turn reads a code of nine bits at least, so eight turns for
each byte are enough. -/
def loop (compat_mode : Bool) : ℕ → LZCDecompress → Except LzError Bytes
  | 0, s => .ok s.written
  | fuel + 1, s =>
    if s.decomp_left ≤ 0 then .ok s.written
    else do
      let (code, s) ← read_code s
      match code with
      | none =>
        if compat_mode then .ok s.written
        else .error (.decompress (lit "unexpected end of compressed data"))
      | some code =>
        if s.block_mode = LZC_MULTI_BLOCK ∧ code = LZC_CODE_END_BLOCK then
          loop compat_mode fuel { start_block s with prev_code := none, prev_cdef := none }
        else if s.code_limit ≤ code then
          .error (.decompress (lit "code " ++ dec code ++ lit " >= limit " ++ dec s.code_limit))
        else do
          let (chain_len, chain_buf) ← resolve_code code s
          loop compat_mode fuel (wrote code chain_len chain_buf s)

/-- SOURCE: compress.py:316-330.  The state before the loop. -/
def start (data : Bytes) : Except LzError LZCDecompress := do
  if data.length < HDR_SIZE then
    .error (.decompress (lit "unexpected end of compressed data"))
  let (uncomp_len, algo_id, _, config) ← parse_header (data.take HDR_SIZE)
  if algo_id ≠ HDR_ALG_LZC then
    .error (.decompress (lit "expected LZC algo (1), got " ++ dec algo_id))
  let limit := config &&& 0x1F
  if ¬ (LZC_MIN_CODE_LEN ≤ limit ∧ limit ≤ LZC_MAX_CODE_LEN) then
    .error (.decompress (lit "code_len_limit " ++ dec limit ++ lit " out of range"))
  .ok (start_chunk {
    left := data.drop HDR_SIZE
    written := []
    block_mode := config >>> 7
    code_len_limit := limit
    code_limit := 1 <<< limit
    code_len := LZC_MIN_CODE_LEN
    max_code := 1 <<< LZC_MIN_CODE_LEN - 1
    next_free := first_seq_code (config >>> 7)
    chunk := none
    codes := fun _ => none
    chain_buf := List.replicate (1 <<< limit) 0
    prev_code := none
    prev_cdef := none
    decomp_left := uncomp_len })

/-- SOURCE: compress.py:315-391. -/
def decompress_data (data : Bytes) (compat_mode : Bool) : Except LzError Bytes := do
  let s ← start data
  loop compat_mode (8 * data.length + 1) s

end LZCDecompress

/-! ## The compressor -/

/-- SOURCE: compress.py:415-425 and compress.py:477-485. -/
structure LZCCompress where
  code_len_limit : ℕ
  code_limit : ℕ
  out : Bytes
  group : List ℕ
  code_len : ℕ
  max_code : ℕ
  table : ℕ × UInt8 → Option ℕ
  next_free : ℕ
  emitted : ℕ
  pending : Option (ℕ × UInt8)

namespace LZCCompress

/-- SOURCE: compress.py:452-455.  Each turn of the `while` takes eight bits. -/
def spill : ℕ → ℕ → ℕ → Bytes → ℕ × ℕ × Bytes
  | 0, bits, nbits, packed => (bits, nbits, packed)
  | fuel + 1, bits, nbits, packed =>
    if 8 ≤ nbits then
      spill fuel (bits >>> 8) (nbits - 8) (packed ++ [UInt8.ofNat (bits &&& 0xFF)])
    else (bits, nbits, packed)

/-- SOURCE: compress.py:446-459. -/
def pack_codes (code_len : ℕ) : List ℕ → ℕ → ℕ → Bytes → Bytes
  | [], bits, nbits, packed =>
    if nbits ≠ 0 then packed ++ [UInt8.ofNat (bits &&& 0xFF)] else packed
  | code :: group, bits, nbits, packed =>
    let (bits, nbits, packed) :=
      spill (nbits + code_len) (bits ||| code <<< nbits) (nbits + code_len) packed
    pack_codes code_len group bits nbits packed

/-- SOURCE: compress.py:437-460. -/
def flush_group (s : LZCCompress) : LZCCompress :=
  if s.group = [] then s
  else
    let packed := pack_codes s.code_len s.group 0 0 []
    let packed := packed ++ List.replicate (s.code_len - packed.length) 0
    { s with out := s.out ++ packed.take s.code_len, group := [] }

/-- SOURCE: compress.py:433-435. -/
def set_code_len (n : ℕ) (s : LZCCompress) : LZCCompress :=
  { s with code_len := n, max_code := max_code_of s.code_len_limit s.code_limit n }

/-- SOURCE: compress.py:462-465. -/
def emit (code : ℕ) (s : LZCCompress) : LZCCompress :=
  let s := { s with group := s.group ++ [code] }
  if s.group.length = 8 then flush_group s else s

/-- SOURCE: compress.py:500-502. -/
def widen (s : LZCCompress) : LZCCompress :=
  if s.max_code < s.next_free then
    let s := flush_group s
    set_code_len (s.code_len + 1) s
  else s

/-- SOURCE: compress.py:487-503. -/
def account_for (code : ℕ) (s : LZCCompress) : LZCCompress :=
  let s := emit code s
  let s := { s with emitted := s.emitted + 1 }
  let s :=
    match s.pending with
    | some key =>
      if 2 ≤ s.emitted ∧ s.next_free < s.code_limit then
        widen { s with
          table := Function.update s.table key (some s.next_free)
          next_free := s.next_free + 1 }
      else s
    | none => s
  { s with pending := none }

/-- SOURCE: compress.py:505-515. -/
def loop : Bytes → ℕ → LZCCompress → LZCCompress
  | [], prev, s => flush_group (account_for prev s)
  | ch :: data, prev, s =>
    match s.table (prev, ch) with
    | some found => loop data found s
    | none => loop data ch.toNat { account_for prev s with pending := some (prev, ch) }

/-- The state before the loop. -/
def new (code_len_limit block_mode : ℕ) : LZCCompress where
  code_len_limit := code_len_limit
  code_limit := 1 <<< code_len_limit
  out := []
  group := []
  code_len := LZC_MIN_CODE_LEN
  max_code := 1 <<< LZC_MIN_CODE_LEN - 1
  table := fun _ => none
  next_free := first_seq_code block_mode
  emitted := 0
  pending := none

end LZCCompress

/-- SOURCE: compress.py:412-536. -/
def sapcompress_compress_lzc (data : Bytes) (code_len_limit block_mode : ℕ) :
    Except LzError Bytes :=
  if ¬ (LZC_MIN_CODE_LEN ≤ code_len_limit ∧ code_len_limit ≤ LZC_MAX_CODE_LEN) then
    .error (.compress (lit "code_len_limit " ++ dec code_len_limit ++ lit " out of range"))
  else if 2 ^ 32 ≤ data.length then
    .error (.other (lit "'I' format requires 0 <= number <= 4294967295"))
  else
    let config := block_mode <<< 7 ||| code_len_limit
    if 256 ≤ config then .error (.other (lit "bytes must be in range(0, 256)"))
    else
      let header := toLE 4 data.length ++ [UInt8.ofNat (1 <<< 4 ||| HDR_ALG_LZC)] ++ HDR_MAGIC ++
        [UInt8.ofNat config]
      match data with
      | [] => .ok header
      | ch :: data =>
        .ok (header ++ (LZCCompress.loop data ch.toNat
          (LZCCompress.new code_len_limit block_mode)).out)

/-- `except Exception as exc: raise DecompressError(f"... {exc}")`, behind a
`except DecompressError: raise` -/
def wrapped (what : PyStr) {α : Type} : Except LzError α → Except LzError α
  | .error (.other text) => .error (.decompress (what ++ text))
  | .error (.compress text) => .error (.decompress (what ++ text))
  | result => result

/-- SOURCE: compress.py:857-892.  `lzh` is `_LZHDecompress.decompress_data`. -/
def sapcompress_decompress (lzh : Bytes → Except LzError Bytes) (data : Bytes) (out_length : ℤ) :
    Except LzError Bytes := do
  if data.length < HDR_SIZE then
    .error (.decompress (lit "SAPCOMPRESS data too short: " ++ dec data.length ++ lit " bytes"))
  let (hdr_uncomp, algo_id, _, _) ← wrapped (lit "header parse error: ") (parse_header data)
  if (hdr_uncomp : ℤ) ≠ out_length then
    .error (.decompress (lit "SAPCOMPRESS header length " ++ dec hdr_uncomp ++
      lit " != expected " ++ lit (toString out_length)))
  let result ← wrapped (lit "decompression error: ")
    (if algo_id = HDR_ALG_LZC then LZCDecompress.decompress_data data true
      else if algo_id = HDR_ALG_LZH then lzh data
      else .error (.decompress (lit "unknown SAPCOMPRESS algo_id " ++ dec algo_id)))
  if (result.length : ℤ) ≠ out_length then
    .error (.decompress (lit "decompressed " ++ dec result.length ++ lit " bytes, expected " ++
      lit (toString out_length)))
  .ok result

end SapRfc.Program
