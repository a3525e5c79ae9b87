import SapRfc.Program.Invoke

/-!
# Parameters of a call

The descriptors of a function module, and the readers that take named values out of a
request or a reply: the table protocol of `_extract_name_value_pairs`, and the compact
block `0x5001` of a registered server.  Encoding and decoding of one value, and the
decompression of table rows, are fields of `Codec`.
-/

set_option autoImplicit false

namespace SapRfc.Program

open SapRfc.Library

mutual

/-- SOURCE: types.py:40-69. -/
structure FieldDesc where
  name : PyStr
  rfctype : ℕ
  nuc_length : ℤ
  nuc_offset : ℤ
  uc_length : ℤ
  uc_offset : ℤ
  decimals : ℤ
  unicode_mode : Bool := true
  type_desc : Option TypeDesc := none
  direction : ℕ := 1
  optional : Bool := false
  default_value : Option PyStr := none
  param_text : Option PyStr := none

/-- SOURCE: types.py:73-83. -/
structure TypeDesc where
  name : PyStr
  fields : List FieldDesc
  nuc_size : ℤ
  uc_size : ℤ

end

/-- SOURCE: types.py:87-95. -/
structure FunctionDesc where
  name : PyStr
  parameters : List FieldDesc

def RFC_IMPORT : ℕ := 1
def RFC_EXPORT : ℕ := 2
def RFC_CHANGING : ℕ := 3
def RFC_TABLES : ℕ := 7

def RFCTYPE_TABLE : ℕ := 5

/-- The codec and the decompressor, over a type of typed values. -/
structure Codec (V : Type) where
  /-- with the number of rows that the reply declares for a table, if it does -/
  decode : ℕ → Bytes → FieldDesc → Option ℕ → Except PyError V
  encode : ℕ → V → FieldDesc → Except PyError Bytes
  /-- a string as a value -/
  ofStr : PyStr → V
  /-- `bool(value)` -/
  truth : V → Bool
  /-- `len(value)` -/
  size : V → Except PyError ℕ
  /-- the rows of a table value; nothing for a value that is false -/
  rows : V → Except PyError (List V)
  /-- rows as a table value -/
  ofRows : List V → V
  /-- `decompress_table_stream` -/
  decompress : List Bytes → PyStr → Except PyError Bytes
  /-- `decode_basxml_table` -/
  decodeBasxml : Bytes → PyStr → Except PyError V
  /-- the calendar date or the time of day that a string spells; any other value as it is -/
  date : V → V
  time : V → V

/-- The Unicode tables and the codec, which every party of a conversation uses. -/
structure Platform (V : Type) where
  u : Unicode
  codec : Codec V
  /-- `type(exc).__name__` -/
  typeName : PyError → PyStr

/-- A platform for ASCII text that carries values as they are on the wire and
decompresses nothing. -/
def plainPlatform : Platform Bytes where
  u := asciiTables
  codec := {
    decode := fun _ raw _ _ => .ok raw
    encode := fun _ value _ => .ok value
    ofStr := encodeLatin1Replace
    truth := fun value => value ≠ []
    size := fun _ => .ok 1
    rows := fun value => .ok [value]
    ofRows := List.flatten
    decompress := fun chunks _ => .ok chunks.flatten
    decodeBasxml := fun payload _ => .ok payload
    date := id
    time := id }
  typeName := fun _ => lit "Exception"

/-- A dict of a request or of a result. -/
abbrev Values (V : Type) : Type := List (PyStr × V)

/-- `struct.pack(">I", n)` -/
def pack_u32 (n : ℤ) : Except PyError Bytes :=
  if n < 0 ∨ 256 ^ 4 ≤ n then
    .error (err .structError (lit "'I' format requires 0 <= number <= 4294967295"))
  else .ok (toBE 4 n.toNat)

/-- A count is packed where it fits four bytes. -/
theorem pack_u32_natCast_eq_ok {n : ℕ} {b : Bytes} :
    pack_u32 (n : ℤ) = .ok b ↔ n < 256 ^ 4 ∧ b = toBE 4 n := by
  unfold pack_u32
  rw [Int.toNat_natCast]
  split
  · exact ⟨nofun, fun h => absurd h.1 (by omega)⟩
  · exact ⟨fun h => ⟨by omega, (Except.ok.inj h).symm⟩, fun h => congrArg Except.ok h.2.symm⟩

/-- `data[i * size : (i + 1) * size]` for the size of a row, which was packed before. -/
def row_slice (data : Bytes) (size : ℤ) (i : ℕ) : Bytes :=
  slice data (i * size.toNat) ((i + 1) * size.toNat)

/-- `{f.name.upper(): f for f in fields}.get(name.upper())` -/
def field_of (u : Unicode) (fields : List FieldDesc) (name : PyStr) : Option FieldDesc :=
  fields.reverse.find? fun f => u.upper f.name = u.upper name

/-! ## Name and value pairs -/

namespace Tag

def FUNC_NAME : ℕ := 0x0102
def TABLE_NAME : ℕ := 0x0301
def TABLE_INFO : ℕ := 0x0302
def TABLE_CONTENT : ℕ := 0x0303
def TABLE_CONTENT_ALT : ℕ := 0x0304
def TABLE_CONTENT_LZ : ℕ := 0x0305
def TABLE_END : ℕ := 0x0306
def TABLE_DELTA : ℕ := 0x0335
def TABLE_DELTA_END : ℕ := 0x0336
def DM_TABLE_ID : ℕ := 0x0330
def BASXML_MARKER : ℕ := 0x3C02
def BASXML_DATA : ℕ := 0x3C05

end Tag

/-- Where the walker stands in a table that is sent as XML. -/
inductive Basxml where
  | outside | pending | named (name : PyStr)
  deriving DecidableEq, Repr

/-- The local variables of the walker. -/
structure PairState where
  pairs : List (PyStr × Bytes)
  current_name : Option PyStr
  in_table : Bool
  table_rows : Bytes
  table_lz : List Bytes
  basxml_current : Basxml
  basxml_chunks : List (PyStr × List Bytes)
  row_counts : List (PyStr × ℕ)

/-- `d[key] = value` on a dict in insertion order. -/
def assocSet {α β : Type} [DecidableEq α] (d : List (α × β)) (key : α) (value : β) : List (α × β) :=
  if d.any (·.1 = key) then d.map fun e => if e.1 = key then (key, value) else e
  else d ++ [(key, value)]

/-- `d.get(key)` -/
def assocGet {α β : Type} [DecidableEq α] (d : List (α × β)) (key : α) : Option β :=
  (d.find? (·.1 = key)).map (·.2)

/-- `d.setdefault(key, []).append(value)` -/
def assocPush {α β : Type} [DecidableEq α] (d : List (α × List β)) (key : α) (value : β) :
    List (α × List β) :=
  assocSet d key ((assocGet d key).getD [] ++ [value])

/-- `{k.upper(): v for k, v in result.items()}` -/
def upper_keys {V : Type} (u : Unicode) (result : Values V) : Values V :=
  result.foldl (fun d e => assocSet d (u.upper e.1) e.2) []

/-- SOURCE: invoke.py:1493-1502. -/
def basxml_open_tag (chunk : Bytes) : Option PyStr :=
  match decodeAsciiReplace chunk with
  | [] => none
  | c :: text =>
    if c ≠ 60 then none
    else if 62 ∉ text then none
    else
      let name := text.takeWhile (· ≠ 62)
      if name = [] ∨ name.take 1 = [47] then none else some name

section Pairs

variable {V : Type} (codec : Codec V)

/-- SOURCE: invoke.py:1550-1554, `_payload`. -/
def PairState.payload (s : PairState) : Except PyError Bytes :=
  if s.table_lz = [] then .ok s.table_rows
  else codec.decompress s.table_lz (s.current_name.getD [])

/-- The table just read, if there is one with a name. -/
def PairState.flushed (s : PairState) : Except PyError (List (PyStr × Bytes)) :=
  match s.in_table, s.current_name with
  | true, some name => do
    let rows ← s.payload codec
    .ok (s.pairs ++ [(name, rows)])
  | _, _ => .ok s.pairs

/-- SOURCE: invoke.py:1589-1696, the branches on the tag of one record. -/
def pair_record (dm_table_names : List (ℕ × PyStr)) (s : PairState) (r : ℕ × Bytes) :
    Except PyError PairState :=
  let (tag, value) := r
  if tag = Tag.PARAM_NAME then
    match s.in_table, s.current_name with
    | true, some _ => do
      let pairs ← s.flushed codec
      .ok { s with
        pairs := pairs
        in_table := false
        table_rows := []
        table_lz := []
        current_name := some (decode_utf16le value) }
    | _, _ => .ok { s with table_lz := [], current_name := some (decode_utf16le value) }
  else if tag = Tag.PARAM_VALUE ∧ s.current_name ≠ none ∧ s.in_table = false then
    .ok { s with pairs := s.pairs ++ [(s.current_name.getD [], value)], current_name := none }
  else if tag = Tag.TABLE_NAME then do
    let pairs ← s.flushed codec
    .ok { s with
      pairs := pairs
      current_name := if value = [] then s.current_name else some (decode_utf16le value)
      in_table := true
      table_rows := []
      table_lz := [] }
  else if tag = Tag.BASXML_MARKER then
    .ok { s with basxml_current := if s.basxml_current = .outside then .pending else .outside }
  else if tag = Tag.BASXML_DATA ∧ s.basxml_current ≠ .outside then
    match s.basxml_current with
    | .named name => .ok { s with basxml_chunks := assocPush s.basxml_chunks name value }
    | _ =>
      match basxml_open_tag value with
      | none => .ok s
      | some name =>
        .ok { s with
          basxml_current := .named name
          basxml_chunks := assocPush s.basxml_chunks name value }
  else if tag = Tag.TABLE_INFO ∧ s.in_table = true then
    match s.current_name with
    | some name =>
      if 8 ≤ value.length ∧ 0 < ofBE (slice value 4 8) then
        .ok { s with row_counts := assocSet s.row_counts name (ofBE (slice value 4 8)) }
      else .ok s
    | none => .ok s
  else if (tag = Tag.TABLE_CONTENT ∨ tag = Tag.TABLE_CONTENT_ALT) ∧ s.in_table = true then
    .ok { s with table_rows := s.table_rows ++ value }
  else if tag = Tag.TABLE_CONTENT_LZ ∧ s.in_table = true then
    .ok { s with table_lz := s.table_lz ++ [value] }
  else if tag = Tag.TABLE_DELTA then do
    let pairs ← s.flushed codec
    let name := if 12 ≤ value.length then assocGet dm_table_names (ofBE (slice value 4 8)) else none
    .ok { s with
      pairs := pairs
      current_name := name
      table_rows := []
      table_lz := []
      in_table := name.isSome }
  else if (tag = Tag.TABLE_END ∨ tag = Tag.TABLE_DELTA_END) ∧ s.in_table = true ∧
      s.current_name ≠ none then do
    let pairs ← s.flushed codec
    .ok { s with
      pairs := pairs
      current_name := none
      in_table := false
      table_rows := []
      table_lz := [] }
  else .ok s

/-- The walker before its first record. -/
def PairState.init : PairState where
  pairs := []
  current_name := none
  in_table := false
  table_rows := []
  table_lz := []
  basxml_current := .outside
  basxml_chunks := []
  row_counts := []

/-- What the walker reports: the pairs, the XML tables and the row counts. -/
structure NamedValues where
  pairs : List (PyStr × Bytes)
  basxml : List (PyStr × Bytes)
  row_counts : List (PyStr × ℕ)

/-- SOURCE: invoke.py:1505-1709. -/
def extract_named_values (data : Bytes) (dm_table_names : List (ℕ × PyStr)) :
    Except PyError NamedValues := do
  let w := Records.walk Tag.TERMINATOR data
  let s ← w.records.foldlM (pair_record codec dm_table_names) PairState.init
  match w.ending with
  | .headless tag _ =>
    .error (err .value (lit "malformed TLV: tag 0x" ++ hex4 tag ++ lit " extended form truncated"))
  | .overrun tag extended declared left =>
    .error (err .value (lit "malformed TLV: tag 0x" ++ hex4 tag ++
      (if extended then lit " extended length " else lit " length ") ++ dec declared ++
      lit " exceeds remaining payload (" ++ dec left ++ lit " bytes)"))
  | _ => do
    let pairs ← s.flushed codec
    .ok {
      pairs := pairs
      basxml := s.basxml_chunks.map fun e => (e.1, e.2.flatten)
      row_counts := s.row_counts }

/-- The pairs alone. -/
def extract_name_value_pairs (data : Bytes) : Except PyError (List (PyStr × Bytes)) := do
  let v ← extract_named_values codec data []
  .ok v.pairs

end Pairs

/-! ## The compact block of a registered server -/

/-- SOURCE: server.py:298-311, the declarations: the names that a value follows, and
the offset behind the last declaration. -/
def scan_5001_declarations (data : Bytes) : ℕ → ℕ → List PyStr × ℕ
  | 0, pos => ([], pos)
  | fuel + 1, pos =>
    if data.length ≤ pos + 1 then ([], pos)
    else
      let entry_type := data.getD pos 0
      if entry_type ≠ 0x54 ∧ entry_type ≠ 0x51 then ([], pos)
      else if data.length < pos + 2 then ([], pos)
      else
        let name_len := (data.getD (pos + 1) 0).toNat
        let pos := pos + 2
        if data.length < pos + name_len then ([], pos)
        else
          let name := decodeAsciiReplace (slice data pos (pos + name_len))
          let (names, stop) := scan_5001_declarations data fuel (pos + name_len)
          (if entry_type = 0x51 then name :: names else names, stop)

/-- SOURCE: server.py:329-339, the search for the next value from offset `i` on. -/
def find_5001_value (data : Bytes) : ℕ → ℕ → Option (PyStr × ℕ)
  | 0, _ => none
  | fuel + 1, i =>
    if data.length ≤ i + 3 then none
    else if data.getD i 0 = 0x43 ∧ data.getD (i + 2) 0 = 0x80 then
      let val_end := i + 3 + (data.getD (i + 1) 0).toNat
      if val_end < data.length ∧ data.getD val_end 0 = 0x45 then
        some (decodeAsciiReplace (slice data (i + 3) val_end), val_end + 1)
      else find_5001_value data fuel (i + 1)
    else find_5001_value data fuel (i + 1)

/-- SOURCE: server.py:327-341.  A search that fails ends the scan. -/
def scan_5001_pending (data : Bytes) : List PyStr → ℕ → List (PyStr × PyStr)
  | [], _ => []
  | name :: names, pos =>
    match find_5001_value data data.length pos with
    | none => []
    | some (value, pos) => (name, value) :: scan_5001_pending data names pos

/-- SOURCE: server.py:272-343. -/
def extract_5001_params (data : Bytes) : List (PyStr × PyStr) :=
  let (names, pos) := scan_5001_declarations data data.length 14
  (scan_5001_pending data names pos).foldl (fun d e => assocSet d e.1 e.2) []

/-- SOURCE: server.py:350-368.  Offset, length and bytes of every CHAR value. -/
def scan_5001_char_values (data : Bytes) : ℕ → ℕ → List (ℕ × ℕ × Bytes)
  | 0, _ => []
  | fuel + 1, i =>
    if data.length ≤ i + 2 then []
    else if data.getD i 0 = 0x43 ∧ data.getD (i + 2) 0 = 0x80 ∧
        i + 3 + (data.getD (i + 1) 0).toNat ≤ data.length then
      let vlen := (data.getD (i + 1) 0).toNat
      (i, vlen, slice data (i + 3) (i + 3 + vlen)) :: scan_5001_char_values data fuel (i + 3 + vlen)
    else scan_5001_char_values data fuel (i + 1)

/-- `b in b"0123456789ABCDEF"` -/
def isHexByte (b : UInt8) : Bool :=
  decide (0x30 ≤ b ∧ b ≤ 0x39 ∨ 0x41 ≤ b ∧ b ≤ 0x46)

/-- `b in b"ABCDEFGHIJKLMNOPQRSTUVWXYZ0123456789_"` -/
def isNameByte (b : UInt8) : Bool :=
  decide (0x41 ≤ b ∧ b ≤ 0x5A ∨ 0x30 ≤ b ∧ b ≤ 0x39 ∨ b = 0x5F)

/-- SOURCE: server.py:385-407.  The first four adjacent values of 8, 4, 8 and 4
hexadecimal digits, and the values behind them; all values where there are none. -/
def find_5001_tid : List (ℕ × ℕ × Bytes) → Option (PyStr × List (ℕ × ℕ × Bytes))
  | (o0, l0, v0) :: (o1, l1, v1) :: (o2, l2, v2) :: (o3, l3, v3) :: rest =>
    if l0 = 8 ∧ l1 = 4 ∧ l2 = 8 ∧ l3 = 4 ∧ v0.all isHexByte ∧ v1.all isHexByte ∧
        v2.all isHexByte ∧ v3.all isHexByte ∧ o1 = o0 + 3 + l0 ∧ o2 = o1 + 3 + l1 ∧
        o3 = o2 + 3 + l2 then
      some (decodeLatin1 (v0 ++ v1 ++ v2 ++ v3), rest)
    else find_5001_tid ((o1, l1, v1) :: (o2, l2, v2) :: (o3, l3, v3) :: rest)
  | _ => none

/-- SOURCE: server.py:371-417.  The TID and the name of the wrapped function; empty
where the block has none. -/
def extract_trfc_params_from_5001 (raw_5001 : Bytes) : PyStr × PyStr :=
  let values := scan_5001_char_values raw_5001 (raw_5001.length + 1) 0
  let (tid, rest) := (find_5001_tid values).getD ([], values)
  let arfcfnam := match rest.find? fun e =>
      1 ≤ e.2.1 && e.2.1 ≤ 30 && e.2.2.all isNameByte && e.2.2.contains 0x5F with
    | some e => decodeLatin1 e.2.2
    | none => []
  (tid, arfcfnam)

end SapRfc.Program
