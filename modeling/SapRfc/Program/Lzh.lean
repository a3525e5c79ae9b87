import SapRfc.Program.Compress

/-!
# LZH

`_LZHDecompress`: blocks of literals and matches under two Huffman codes, with a window of the
last `0x4000` bytes as a ring.  A code is decoded by a look-up of as many bits as the longest
code has.  The loops take a counter: a turn of each reads a bit, or adds a length or a byte.
-/

set_option autoImplicit false

namespace SapRfc.Program

open SapRfc.Library

def LZH_WINDOW_SIZE : ℕ := 0x4000
def LZH_MIN_MATCH : ℕ := 3
def LZH_MAX_MATCH : ℕ := 258
def LZH_END_BLOCK : ℕ := 256
def LZH_LIT_LAST : ℕ := 255
def LZH_LENGTH_FIRST : ℕ := 257
def LZH_LITLEN_COUNT : ℕ := 286
def LZH_DIST_COUNT : ℕ := 30
def LZH_BITLEN_COUNT : ℕ := 19
def LZH_TREETYPE_STATIC : ℕ := 1
def LZH_TREETYPE_DYNAMIC : ℕ := 2
def LZH_LEN_EXTRA : List ℕ :=
  [0, 0, 0, 0, 0, 0, 0, 0, 1, 1, 1, 1, 2, 2, 2, 2, 3, 3, 3, 3, 4, 4, 4, 4, 5, 5, 5, 5, 0, 99, 99]
def LZH_DIST_EXTRA : List ℕ :=
  [0, 0, 0, 0, 1, 1, 2, 2, 3, 3, 4, 4, 5, 5, 6, 6, 7, 7, 8, 8, 9, 9, 10, 10, 11, 11, 12, 12, 13, 13]
def LZH_BITLEN_RANKING : List ℕ :=
  [16, 17, 18, 0, 8, 7, 9, 6, 10, 5, 11, 4, 12, 3, 13, 2, 14, 1, 15]
def LZH_BITLEN_REPEAT_NZ : ℕ := 16
def LZH_BITLEN_REPEAT_Z3 : ℕ := 17
def LZH_BITLEN_REPEAT_Z11 : ℕ := 18

/-- SOURCE: compress.py:197-202. -/
def BitReader.peek_bits (n : ℕ) (r : BitReader) : Except LzError (ℕ × BitReader) := do
  let r ← BitReader.fill n r.left r.bits r.bits_count
  .ok (r.bits &&& (1 <<< n - 1), r)

/-! ## Trees -/

/-- SOURCE: compress.py:547-549, the loop. -/
def reverse_bits : ℕ → ℕ → ℕ → ℕ
  | 0, rev, _ => rev
  | n + 1, rev, value => reverse_bits n (rev <<< 1 ||| value &&& 1) (value >>> 1)

/-- SOURCE: compress.py:544-550. -/
def reverse_int (value length : ℕ) : ℕ := reverse_bits length 0 value

/-- A node.  The code of a node without one, -1 in the source, is never read, and 0 here. -/
structure HuffNode where
  value : ℕ
  code : ℕ
  code_length : ℕ
  deriving DecidableEq, Repr

/-- SOURCE: compress.py:556-559. -/
structure HuffTree where
  nodes : List HuffNode
  deriving DecidableEq, Repr

namespace HuffTree

/-- `max((n["code_length"] for n in nodes), default=0)` -/
def max_length (nodes : List HuffNode) : ℕ :=
  nodes.foldl (fun m n => max m n.code_length) 0

/-- SOURCE: compress.py:561-564. -/
def get_max_bits (t : HuffTree) : ℕ := max_length t.nodes

/-- SOURCE: compress.py:570-579, one node. -/
def enter (max_bits : ℕ) (luts : List ℕ × List (Option HuffNode)) (nd : HuffNode) :
    List ℕ × List (Option HuffNode) :=
  if nd.code_length ≤ 0 then luts
  else
    (List.range (1 <<< (max_bits - nd.code_length))).foldl
      (fun luts i =>
        let idx := nd.code ||| i <<< nd.code_length
        (luts.1.set idx nd.code_length, luts.2.set idx (some nd)))
      luts

/-- SOURCE: compress.py:566-580.  `length_lut` and `node_lut`. -/
def build_lookup (t : HuffTree) : List ℕ × List (Option HuffNode) :=
  let max_bits := t.get_max_bits
  t.nodes.foldl (enter max_bits)
    (List.replicate (1 <<< max_bits) 0, List.replicate (1 <<< max_bits) none)

/-- SOURCE: compress.py:582-592. -/
def read_code (t : HuffTree) (reader : BitReader) : Except LzError (HuffNode × BitReader) := do
  let (raw, reader) ← reader.peek_bits t.get_max_bits
  match t.build_lookup.2.getD raw none with
  | none =>
    .error (.decompress (lit "no Huffman node for bit pattern 0x" ++
      (Nat.toDigits 16 raw).map Char.toNat))
  | some nd =>
    let (_, reader) ← reader.read_bits nd.code_length
    .ok (nd, reader)

/-- SOURCE: compress.py:594-611. -/
def read_code_two_staged (t : HuffTree) (reader : BitReader) (first_len : ℕ) :
    Except LzError (HuffNode × BitReader) :=
  if t.get_max_bits ≤ first_len then t.read_code reader
  else do
    let length_lut := t.build_lookup.1
    let node_lut := t.build_lookup.2
    let (raw_short, reader) ← reader.peek_bits first_len
    let (nd, reader) ←
      (if length_lut.getD raw_short 0 = first_len ∧ node_lut.getD raw_short none ≠ none then
        .ok (node_lut.getD raw_short none, reader)
      else do
        let (raw, reader) ← reader.peek_bits t.get_max_bits
        .ok (node_lut.getD raw none, reader))
    match nd with
    | none => .error (.decompress (lit "no Huffman node"))
    | some nd =>
      let (_, reader) ← reader.read_bits nd.code_length
      .ok (nd, reader)

/-- SOURCE: compress.py:618-622.  How many codes have a length. -/
def length_count (nodes : List HuffNode) (length : ℕ) : ℕ :=
  nodes.countP fun n => decide (n.code_length = length ∧ 0 < length)

/-- SOURCE: compress.py:624-629.  The first code of each length. -/
def next_codes (nodes : List HuffNode) : ℕ → ℕ
  | 0 => 0
  | cl + 1 => (next_codes nodes cl + length_count nodes cl) <<< 1

/-- SOURCE: compress.py:631-635. -/
def number_nodes : (ℕ → ℕ) → List HuffNode → List HuffNode
  | _, [] => []
  | next, nd :: nodes =>
    if 0 < nd.code_length then
      { nd with code := reverse_int (next nd.code_length) nd.code_length } ::
        number_nodes (Function.update next nd.code_length (next nd.code_length + 1)) nodes
    else nd :: number_nodes next nodes

/-- SOURCE: compress.py:614-635. -/
def assign_codes (nodes : List HuffNode) : List HuffNode :=
  number_nodes (next_codes nodes) nodes

/-- SOURCE: compress.py:638-642. -/
def from_distribution (dist : List ℕ) : HuffTree :=
  ⟨assign_codes (dist.mapIdx fun i cl => ⟨i, 0, cl⟩)⟩

end HuffTree

/-- SOURCE: compress.py:654-667. -/
def get_static_litlen : HuffTree :=
  ⟨HuffTree.assign_codes
    ((List.range' 0 144).map (⟨·, 0, 8⟩) ++ (List.range' 144 112).map (⟨·, 0, 9⟩) ++
      (List.range' 256 24).map (⟨·, 0, 7⟩) ++ (List.range' 280 8).map (⟨·, 0, 8⟩))⟩

/-- SOURCE: compress.py:670-674. -/
def get_static_dist : HuffTree :=
  ⟨(List.range 30).map fun c => ⟨c, reverse_int c 5, 5⟩⟩

/-- SOURCE: compress.py:677-691.  `starts`; the table of the lengths is read by no decoder. -/
def len_starts : List ℕ :=
  ((List.range 28).foldl
    (fun acc code => (acc.1.set code acc.2, acc.2 + 1 <<< LZH_LEN_EXTRA.getD code 0))
    (List.replicate 29 0, LZH_MIN_MATCH)).1.set 28 LZH_MAX_MATCH

/-- SOURCE: compress.py:694-706.  `starts`, as for the lengths. -/
def dist_starts : List ℕ :=
  ((List.range 30).foldl
    (fun acc code => (acc.1.set code acc.2, acc.2 + 1 <<< LZH_DIST_EXTRA.getD code 0))
    (List.replicate 30 0, 1)).1

/-! ## The decompressor -/

/-- SOURCE: compress.py:712-716.  `written` are the bytes of the writer. -/
structure LZHDecompress where
  reader : BitReader
  written : Bytes
  window : Bytes
  wpos : ℕ
  deriving DecidableEq, Repr

namespace LZHDecompress

/-- SOURCE: compress.py:712-716. -/
def new (data : Bytes) : LZHDecompress :=
  ⟨BitReader.new data, [], List.replicate LZH_WINDOW_SIZE 0, 0⟩

/-- SOURCE: compress.py:734-741. -/
def read_head (data : Bytes) : Except LzError BitReader :=
  if data.length < HDR_SIZE then
    .error (.decompress (lit "unexpected end of compressed data"))
  else do
    let (_, algo_id, _, _) ← parse_header (data.take HDR_SIZE)
    if algo_id ≠ HDR_ALG_LZH then
      .error (.decompress (lit "expected LZH algo (2), got " ++ dec algo_id))
    else do
      let (noise, reader) ← (BitReader.new (data.drop HDR_SIZE)).read_bits 2
      let (_, reader) ← (if noise ≠ 0 then reader.read_bits noise else .ok (0, reader))
      .ok reader

/-- SOURCE: compress.py:769-792, a turn of the loop. -/
def read_length (bl_tree : HuffTree) (count : ℕ) (r : BitReader) (codes : List ℕ) (lastlen : ℕ) :
    Except LzError (BitReader × List ℕ × ℕ) := do
  let (nd, r) ← bl_tree.read_code r
  let bl_code := nd.value
  if bl_code < 16 then .ok (r, codes ++ [bl_code], bl_code)
  else if bl_code = LZH_BITLEN_REPEAT_NZ then
    let (extra, r) ← r.read_bits 2
    let rep := 3 + extra
    if count - codes.length < rep then .error (.decompress (lit "repeat overflow"))
    else .ok (r, codes ++ List.replicate rep lastlen, lastlen)
  else if bl_code = LZH_BITLEN_REPEAT_Z3 then
    let (extra, r) ← r.read_bits 3
    let rep := 3 + extra
    if count - codes.length < rep then .error (.decompress (lit "repeat overflow"))
    else .ok (r, codes ++ List.replicate rep 0, 0)
  else if bl_code = LZH_BITLEN_REPEAT_Z11 then
    let (extra, r) ← r.read_bits 7
    let rep := 11 + extra
    if count - codes.length < rep then .error (.decompress (lit "repeat overflow"))
    else .ok (r, codes ++ List.replicate rep 0, 0)
  else .error (.decompress (lit "unknown bitlen code " ++ dec bl_code))

/-- SOURCE: compress.py:768-793, the loop. -/
def read_lengths (bl_tree : HuffTree) (count : ℕ) :
    ℕ → BitReader → List ℕ → ℕ → Except LzError (BitReader × List ℕ)
  | 0, r, codes, _ => .ok (r, codes)
  | fuel + 1, r, codes, lastlen =>
    if codes.length < count then do
      let (r, codes, lastlen) ← read_length bl_tree count r codes lastlen
      read_lengths bl_tree count fuel r codes lastlen
    else .ok (r, codes)

/-- SOURCE: compress.py:765-793. -/
def read_encoded_lengths (r : BitReader) (bl_tree : HuffTree) (count : ℕ) :
    Except LzError (BitReader × List ℕ) :=
  read_lengths bl_tree count count r [] 0

/-- SOURCE: compress.py:755-756. -/
def read_bitlens : List ℕ → BitReader → List ℕ → Except LzError (BitReader × List ℕ)
  | [], r, bl_dist => .ok (r, bl_dist)
  | i :: ranking, r, bl_dist => do
    let (bits, r) ← r.read_bits 3
    read_bitlens ranking r (bl_dist.set i bits)

/-- SOURCE: compress.py:743-762. -/
def read_dynamic_trees (r : BitReader) : Except LzError (BitReader × HuffTree × HuffTree) := do
  let (hlit, r) ← r.read_bits 5
  let (hdist, r) ← r.read_bits 5
  let (hclen, r) ← r.read_bits 4
  let litlen_count := 257 + hlit
  let dist_count := 1 + hdist
  let bitlen_count := 4 + hclen
  if LZH_LITLEN_COUNT < litlen_count then
    .error (.decompress (lit "litlen_count " ++ dec litlen_count ++ lit " > " ++
      dec LZH_LITLEN_COUNT))
  else if LZH_DIST_COUNT < dist_count then
    .error (.decompress (lit "dist_count " ++ dec dist_count ++ lit " > " ++ dec LZH_DIST_COUNT))
  else do
    let (r, bl_dist) ← read_bitlens (LZH_BITLEN_RANKING.take bitlen_count) r
      (List.replicate LZH_BITLEN_COUNT 0)
    let bl_tree := HuffTree.from_distribution bl_dist
    let (r, litlen_cl) ← read_encoded_lengths r bl_tree litlen_count
    let (r, dist_cl) ← read_encoded_lengths r bl_tree dist_count
    .ok (r, HuffTree.from_distribution litlen_cl, HuffTree.from_distribution dist_cl)

/-- SOURCE: compress.py:811-815, a literal. -/
def write_literal (val : ℕ) (s : LZHDecompress) : LZHDecompress :=
  { s with
    window := s.window.set s.wpos (UInt8.ofNat val)
    written := s.written ++ [UInt8.ofNat val]
    wpos := (s.wpos + 1) % LZH_WINDOW_SIZE }

/-- SOURCE: compress.py:840-841. -/
def copy_chunk (src wpos chunk : ℕ) (window : Bytes) : Bytes :=
  (List.range chunk).foldl (fun window i => window.set (wpos + i) (window.getD (src + i) 0)) window

/-- SOURCE: compress.py:833-845. -/
def copy_chunks : ℕ → ℕ → ℕ → LZHDecompress → LZHDecompress
  | 0, _, _, s => s
  | fuel + 1, copy_left, src, s =>
    if 0 < copy_left then
      let wpos := s.wpos
      let chunk := min (LZH_WINDOW_SIZE - max src wpos) copy_left
      let window := copy_chunk src wpos chunk s.window
      copy_chunks fuel (copy_left - chunk) ((src + chunk) % LZH_WINDOW_SIZE)
        { s with
          window := window
          written := s.written ++ slice window wpos (wpos + chunk)
          wpos := (wpos + chunk) % LZH_WINDOW_SIZE }
    else s

/-- SOURCE: compress.py:831-845. -/
def copy_match (length distance : ℕ) (s : LZHDecompress) : LZHDecompress :=
  copy_chunks length length ((s.wpos + LZH_WINDOW_SIZE - distance) % LZH_WINDOW_SIZE) s

/-- SOURCE: compress.py:819-829.  The length and the distance of a match. -/
def read_match (dist_tree : HuffTree) (val : ℕ) (r : BitReader) :
    Except LzError (ℕ × ℕ × BitReader) :=
  let lc := val - LZH_LENGTH_FIRST
  if len_starts.length ≤ lc then .error (.other (lit "list index out of range"))
  else do
    let (extra, r) ← r.read_bits (LZH_LEN_EXTRA.getD lc 0)
    let length := len_starts.getD lc 0 + extra
    if LZH_MAX_MATCH < length then
      .error (.decompress (lit "match length " ++ dec length ++ lit " > " ++ dec LZH_MAX_MATCH))
    else do
      let (dnd, r) ← dist_tree.read_code r
      let dc := dnd.value
      if dist_starts.length ≤ dc then .error (.other (lit "list index out of range"))
      else do
        let (extra, r) ← r.read_bits (LZH_DIST_EXTRA.getD dc 0)
        let distance := dist_starts.getD dc 0 + extra
        if LZH_WINDOW_SIZE < distance then
          .error (.decompress (lit "distance " ++ dec distance ++ lit " > window " ++
            dec LZH_WINDOW_SIZE))
        else .ok (length, distance, r)

/-- SOURCE: compress.py:802-806. -/
def eob_len (litlen_tree : HuffTree) : ℕ :=
  match litlen_tree.nodes.filter fun n => n.value = LZH_END_BLOCK ∧ 0 < n.code_length with
  | nd :: _ => nd.code_length
  | [] => litlen_tree.get_max_bits

/-- SOURCE: compress.py:808-845, a turn of the loop, and whether it goes on. -/
def next_token (litlen_tree dist_tree : HuffTree) (s : LZHDecompress) :
    Except LzError (Bool × LZHDecompress) := do
  let (nd, r) ← litlen_tree.read_code_two_staged s.reader (eob_len litlen_tree)
  let val := nd.value
  if val ≤ LZH_LIT_LAST then .ok (true, write_literal val { s with reader := r })
  else if val = LZH_END_BLOCK then .ok (false, { s with reader := r })
  else
    let (length, distance, r) ← read_match dist_tree val r
    .ok (true, copy_match length distance { s with reader := r })

/-- SOURCE: compress.py:808-845, the loop. -/
def read_tokens (litlen_tree dist_tree : HuffTree) :
    ℕ → LZHDecompress → Except LzError LZHDecompress
  | 0, s => .ok s
  | fuel + 1, s => do
    let (more, s) ← next_token litlen_tree dist_tree s
    if more then read_tokens litlen_tree dist_tree fuel s else .ok s

/-- SOURCE: compress.py:795-845. -/
def read_block (litlen_tree dist_tree : HuffTree) (s : LZHDecompress) :
    Except LzError LZHDecompress :=
  read_tokens litlen_tree dist_tree (s.reader.bits_left + 1) s

/-- SOURCE: compress.py:720-731. -/
def read_blocks : ℕ → LZHDecompress → Except LzError LZHDecompress
  | 0, s => .ok s
  | fuel + 1, s => do
    let (last, r) ← s.reader.read_bits 1
    let (btype, r) ← r.read_bits 2
    let s ←
      (if btype = LZH_TREETYPE_STATIC then
        read_block get_static_litlen get_static_dist { s with reader := r }
      else if btype = LZH_TREETYPE_DYNAMIC then do
        let (r, litlen_tree, dist_tree) ← read_dynamic_trees r
        read_block litlen_tree dist_tree { s with reader := r }
      else .error (.decompress (lit "unknown LZH block type " ++ dec btype)))
    if last ≠ 0 then .ok s else read_blocks fuel s

/-- SOURCE: compress.py:718-732. -/
def decompress (data : Bytes) : Except LzError Bytes := do
  let r ← read_head data
  let s ← read_blocks (r.bits_left + 1) { new data with reader := r }
  .ok s.written

/-- SOURCE: compress.py:848-849. -/
def decompress_data (data : Bytes) : Except LzError Bytes := decompress data

end LZHDecompress

end SapRfc.Program
