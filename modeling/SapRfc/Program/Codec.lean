import SapRfc.Program.Basxml
import SapRfc.Program.Compress
import SapRfc.Program.Metadata

/-!
# The type codec

`codec.py`: structures and tables are laid out by their descriptors, and everything else is
a scalar.  A value is a scalar, a dict, or a list; the scalar types themselves, and what the
language does with a scalar where a dict or a list is expected, are fields of `Scalars`.

The sources set `unicode_mode` of a field from the structure it stands in before they use it;
here it is an argument.
-/

set_option autoImplicit false

namespace SapRfc.Program

open SapRfc.Library

/-- A value of a call, with scalars of type `L`. -/
inductive PyVal (L : Type) where
  | leaf (a : L)
  | dict (entries : List (PyStr × PyVal L))
  | list (items : List (PyVal L))

section Equal

variable {L : Type} [DecidableEq L]

mutual

def PyVal.decEq : (a b : PyVal L) → Decidable (a = b)
  | .leaf a, .leaf b => decidable_of_iff (a = b) ⟨congrArg _, PyVal.leaf.inj⟩
  | .dict a, .dict b =>
    match PyVal.entriesDecEq a b with
    | .isTrue h => .isTrue (congrArg _ h)
    | .isFalse h => .isFalse fun heq => h (PyVal.dict.inj heq)
  | .list a, .list b =>
    match PyVal.itemsDecEq a b with
    | .isTrue h => .isTrue (congrArg _ h)
    | .isFalse h => .isFalse fun heq => h (PyVal.list.inj heq)
  | .leaf _, .dict _ => .isFalse nofun
  | .leaf _, .list _ => .isFalse nofun
  | .dict _, .leaf _ => .isFalse nofun
  | .dict _, .list _ => .isFalse nofun
  | .list _, .leaf _ => .isFalse nofun
  | .list _, .dict _ => .isFalse nofun

def PyVal.entriesDecEq : (a b : List (PyStr × PyVal L)) → Decidable (a = b)
  | [], [] => .isTrue rfl
  | [], _ :: _ => .isFalse nofun
  | _ :: _, [] => .isFalse nofun
  | (key, x) :: a, (key', y) :: b =>
    match (inferInstance : Decidable (key = key')), PyVal.decEq x y, PyVal.entriesDecEq a b with
    | .isTrue hkey, .isTrue hx, .isTrue ha => .isTrue (by rw [hkey, hx, ha])
    | .isFalse h, _, _ => .isFalse fun heq => h (Prod.mk.inj (List.cons.inj heq).1).1
    | _, .isFalse h, _ => .isFalse fun heq => h (Prod.mk.inj (List.cons.inj heq).1).2
    | _, _, .isFalse h => .isFalse fun heq => h (List.cons.inj heq).2

def PyVal.itemsDecEq : (a b : List (PyVal L)) → Decidable (a = b)
  | [], [] => .isTrue rfl
  | [], _ :: _ => .isFalse nofun
  | _ :: _, [] => .isFalse nofun
  | x :: a, y :: b =>
    match PyVal.decEq x y, PyVal.itemsDecEq a b with
    | .isTrue hx, .isTrue ha => .isTrue (by rw [hx, ha])
    | .isFalse h, _ => .isFalse fun heq => h (List.cons.inj heq).1
    | _, .isFalse h => .isFalse fun heq => h (List.cons.inj heq).2

end

instance : DecidableEq (PyVal L) := PyVal.decEq

end Equal

def RFCTYPE_BCD : ℕ := 2
def RFCTYPE_BYTE : ℕ := 4
def RFCTYPE_FLOAT : ℕ := 7
def RFCTYPE_INT1 : ℕ := 10
def RFCTYPE_XSTRING : ℕ := 30

/-- The keys of `_INT_FORMATS` -/
def INT_TYPES : List ℕ := [8, 9, 31, 32, 33, 34, 35, 36, 37, 38, 39, 40]

/-- The scalars of a codec. -/
structure Scalars (L : Type) where
  /-- the branches of `decode` on the scalar types -/
  decode : ℕ → Bytes → FieldDesc → Except PyError L
  /-- the branches of `encode` on the scalar types -/
  encode : ℕ → PyVal L → FieldDesc → Except PyError Bytes
  /-- a string as a value -/
  ofStr : PyStr → L
  /-- `bool(a)` -/
  truth : L → Bool
  /-- `list(a)`; it has a length exactly where this does not raise -/
  items : L → Except PyError (List L)
  /-- `a[name]` where `name in a` -/
  lookup : L → PyStr → Except PyError (Option L)
  /-- `a == name` -/
  eqStr : L → PyStr → Bool
  /-- `b""`, `0.0`, `Decimal(0)` and `0` -/
  emptyBytes : L
  zeroFloat : L
  zeroDecimal : L
  zeroInt : L
  /-- `_LZHDecompress.decompress_data` -/
  lzh : Bytes → Except LzError Bytes
  /-- `int(s, 16)`; `none` where it raises -/
  int16 : PyStr → Option ℤ
  /-- the calendar date or the time of day that a string spells; any other value as it is -/
  date : PyVal L → PyVal L
  time : PyVal L → PyVal L

/-! ## Layouts -/

/-- The index that a slice bound stands for. -/
def pyIndex (len : ℕ) (i : ℤ) : ℕ := if i < 0 then (len + i).toNat else min i.toNat len

/-- `b[lo:hi]` -/
def pySlice (b : Bytes) (lo hi : ℤ) : Bytes := slice b (pyIndex b.length lo) (pyIndex b.length hi)

/-- `b[lo:hi] = raw` -/
def setSlice (b : Bytes) (lo hi : ℤ) (raw : Bytes) : Bytes :=
  b.take (pyIndex b.length lo) ++ raw ++ b.drop (max (pyIndex b.length lo) (pyIndex b.length hi))

/-- SOURCE: codec.py:693-696.  The buffer grows where a field ends behind it. -/
def lay (buf : Bytes) (offset : ℤ) (raw : Bytes) : Bytes :=
  let stop := offset + raw.length
  setSlice (buf ++ List.replicate (stop - buf.length).toNat 0) offset stop raw

/-- SOURCE: codec.py:336-347, the offset and the length of a field. -/
def FieldDesc.span (field : FieldDesc) (unicode_mode : Bool) : ℤ × ℤ :=
  if unicode_mode then (field.uc_offset, field.uc_length) else (field.nuc_offset, field.nuc_length)

/-- SOURCE: codec.py:520-522. -/
def TypeDesc.row_size (type_desc : TypeDesc) (unicode_mode : Bool) : ℤ :=
  if unicode_mode then type_desc.uc_size else type_desc.nuc_size

/-- SOURCE: codec.py:636-653, the error. -/
def missing_type_desc (u : Unicode) (field : FieldDesc) (action : String) : PyError :=
  err .incompleteDescriptor (lit "cannot " ++ lit action ++ lit " " ++
    lit (if field.rfctype = RFCTYPE_TABLE then "TABLE" else "STRUCTURE") ++ lit " parameter " ++
    u.repr field.name ++ lit (": its row layout was never resolved (type_desc is None). " ++
      "The RFC_GET_STRUCTURE_DEFINITION lookup for its DDIC type did not complete."))

/-- SOURCE: codec.py:600-628.  The width of a row: measured where the number of rows is
known, else the one of the layout. -/
def table_row_size (u : Unicode) (name : PyStr) (declared : ℤ) (length : ℕ) :
    Option ℕ → Except PyError ℤ
  | some (n + 1) =>
    if length % (n + 1) ≠ 0 then
      .error (err .value (lit "TABLE " ++ u.repr name ++ lit ": " ++ dec length ++
        lit " bytes does not divide into the " ++ dec (n + 1) ++
        lit " rows the server declared (remainder " ++ dec (length % (n + 1)) ++
        lit "); refusing to guess the row width"))
    else if ((length / (n + 1) : ℕ) : ℤ) < declared then
      .error (err .value (lit "TABLE " ++ u.repr name ++ lit ": " ++ dec length ++
        lit " bytes over " ++ dec (n + 1) ++ lit " rows gives a " ++ dec (length / (n + 1)) ++
        lit "-byte row, narrower than the " ++ lit (toString declared) ++
        lit "-byte layout its descriptor requires; refusing to decode misaligned bytes"))
    else .ok (length / (n + 1) : ℕ)
  | _ => .ok declared

/-- SOURCE: codec.py:558-633, with the reader of one row. -/
def table_rows {α : Type} (u : Unicode) (name : PyStr) (declared : ℤ)
    (decode_row : Bytes → Except PyError α) (data : Bytes) (row_count : Option ℕ) :
    Except PyError (List α) :=
  if row_count.getD 0 = 0 ∧ data = [] then .ok []
  else do
    let row_size ← table_row_size u name declared data.length row_count
    if row_size ≤ 0 then
      .error (err .value (lit "TABLE row size must be positive, got " ++ lit (toString row_size)))
    else (List.range (data.length / row_size.toNat)).mapM fun i =>
      decode_row (row_slice data row_size i)

namespace Scalars

variable {L : Type} (u : Unicode) (s : Scalars L)

/-- SOURCE: codec.py:283-311. -/
def default_field_value (rfctype : ℕ) : PyVal L :=
  if rfctype = RFCTYPE_STRUCTURE then .dict []
  else if rfctype = RFCTYPE_TABLE then .list []
  else if rfctype ∈ [RFCTYPE_BYTE, RFCTYPE_XSTRING] then .leaf s.emptyBytes
  else if rfctype = RFCTYPE_FLOAT then .leaf s.zeroFloat
  else if rfctype = RFCTYPE_BCD then .leaf s.zeroDecimal
  else if rfctype ∈ INT_TYPES ∨ rfctype = RFCTYPE_INT1 then .leaf s.zeroInt
  else .leaf (s.ofStr [])

/-- `value[name]` where `name in value` -/
def lookup_name (name : PyStr) : PyVal L → Except PyError (Option (PyVal L))
  | .dict entries => .ok (assocGet entries name)
  | .list items =>
    if items.any fun v => match v with
      | .leaf a => s.eqStr a name
      | _ => false
    then .error (err .type (lit "list indices must be integers or slices, not str"))
    else .ok none
  | .leaf a => (s.lookup a name).map (Option.map .leaf)

/-- `list(value)` -/
def items_of : PyVal L → Except PyError (List (PyVal L))
  | .dict entries => .ok (entries.map fun e => .leaf (s.ofStr e.1))
  | .list items => .ok items
  | .leaf a => (s.items a).map (List.map .leaf)

/-- `bool(value)` -/
def truth_of : PyVal L → Bool
  | .dict entries => entries ≠ []
  | .list items => items ≠ []
  | .leaf a => s.truth a

/-! ## Decoding -/

mutual

/-- SOURCE: codec.py:525-555. -/
def decode_structure (unicode_mode : Bool) : TypeDesc → Bytes → Except PyError (PyVal L)
  | ⟨_, fields, _, _⟩, data => do
    let entries ← decode_fields unicode_mode fields data []
    .ok (.dict entries)

/-- The fields of a structure, one after the other. -/
def decode_fields (unicode_mode : Bool) :
    List FieldDesc → Bytes → List (PyStr × PyVal L) → Except PyError (List (PyStr × PyVal L))
  | [], _, result => .ok result
  | child :: rest, data, result => do
    let value ← decode_child unicode_mode child data
    decode_fields unicode_mode rest data (assocSet result child.name value)

/-- One field. -/
def decode_child (unicode_mode : Bool) : FieldDesc → Bytes → Except PyError (PyVal L)
  | ⟨name, rfctype, nuc_length, nuc_offset, uc_length, uc_offset, decimals, _, type_desc,
      direction, optional, default_value, param_text⟩, data =>
    let child : FieldDesc := ⟨name, rfctype, nuc_length, nuc_offset, uc_length, uc_offset, decimals,
      unicode_mode, type_desc, direction, optional, default_value, param_text⟩
    let (offset, length) := child.span unicode_mode
    if (data.length : ℤ) < offset + length then
      .error (err .value (lit "STRUCTURE field " ++ u.repr name ++ lit " span [" ++
        lit (toString offset) ++ lit ":" ++ lit (toString (offset + length)) ++
        lit "] exceeds buffer length " ++ dec data.length))
    else
      let span := pySlice data offset (offset + length)
      if rfctype = RFCTYPE_STRUCTURE then
        match type_desc with
        | none => .error (missing_type_desc u child "decode")
        | some type_desc => decode_structure unicode_mode type_desc span
      else if rfctype = RFCTYPE_TABLE then
        match type_desc with
        | none => .error (missing_type_desc u child "decode")
        | some type_desc => do
          let rows ← table_rows u name (type_desc.row_size unicode_mode)
            (fun row => decode_structure unicode_mode type_desc row) span none
          .ok (.list rows)
      else (s.decode rfctype span child).map .leaf

end

/-- SOURCE: codec.py:717-791. -/
def decode_value (rfctype : ℕ) (data : Bytes) (field : FieldDesc) (row_count : Option ℕ) :
    Except PyError (PyVal L) :=
  if rfctype = RFCTYPE_STRUCTURE then
    match field.type_desc with
    | none => .error (missing_type_desc u field "decode")
    | some type_desc => s.decode_structure u field.unicode_mode type_desc data
  else if rfctype = RFCTYPE_TABLE then
    match field.type_desc with
    | none => .error (missing_type_desc u field "decode")
    | some type_desc => do
      let rows ← table_rows u field.name (type_desc.row_size field.unicode_mode)
        (s.decode_structure u field.unicode_mode type_desc) data row_count
      .ok (.list rows)
  else (s.decode rfctype data field).map .leaf

/-! ## Encoding -/

mutual

/-- SOURCE: codec.py:656-697. -/
def encode_structure (unicode_mode : Bool) : TypeDesc → PyVal L → Except PyError Bytes
  | ⟨_, fields, nuc_size, uc_size⟩, value =>
    let size := if unicode_mode then uc_size else nuc_size
    if size < 0 then .error (err .value (lit "negative count"))
    else encode_fields unicode_mode fields value (List.replicate size.toNat 0)

/-- The fields of a structure, one after the other. -/
def encode_fields (unicode_mode : Bool) :
    List FieldDesc → PyVal L → Bytes → Except PyError Bytes
  | [], _, buf => .ok buf
  | child :: rest, value, buf => do
    let raw ← encode_child unicode_mode child value
    match raw with
    | none => encode_fields unicode_mode rest value buf
    | some raw =>
      encode_fields unicode_mode rest value (lay buf (child.span unicode_mode).1 raw)

/-- One field.  A structure or a table without a layout is left out where it is not given. -/
def encode_child (unicode_mode : Bool) : FieldDesc → PyVal L → Except PyError (Option Bytes)
  | ⟨name, rfctype, nuc_length, nuc_offset, uc_length, uc_offset, decimals, _, type_desc,
      direction, optional, default_value, param_text⟩, value => do
    let child : FieldDesc := ⟨name, rfctype, nuc_length, nuc_offset, uc_length, uc_offset, decimals,
      unicode_mode, type_desc, direction, optional, default_value, param_text⟩
    let given ← s.lookup_name name value
    if given.isNone = true ∧ rfctype ∈ [RFCTYPE_STRUCTURE, RFCTYPE_TABLE] ∧
        type_desc.isNone = true then .ok none
    else
      let child_value := given.getD (s.default_field_value rfctype)
      if rfctype = RFCTYPE_STRUCTURE then
        match type_desc with
        | none => .error (missing_type_desc u child "encode")
        | some type_desc => (encode_structure unicode_mode type_desc child_value).map some
      else if rfctype = RFCTYPE_TABLE then
        match type_desc with
        | none => .error (missing_type_desc u child "encode")
        | some type_desc => do
          let rows ← s.items_of child_value
          let raws ← rows.mapM fun row => encode_structure unicode_mode type_desc row
          .ok (some raws.flatten)
      else (s.encode rfctype child_value child).map some

end

/-- SOURCE: codec.py:799-863. -/
def encode_value (rfctype : ℕ) (value : PyVal L) (field : FieldDesc) : Except PyError Bytes :=
  if rfctype = RFCTYPE_STRUCTURE then
    match field.type_desc with
    | none => .error (missing_type_desc u field "encode")
    | some type_desc => s.encode_structure u field.unicode_mode type_desc value
  else if rfctype = RFCTYPE_TABLE then
    match field.type_desc with
    | none => .error (missing_type_desc u field "encode")
    | some type_desc => do
      let rows ← s.items_of value
      let raws ← rows.mapM (s.encode_structure u field.unicode_mode type_desc)
      .ok raws.flatten
  else s.encode rfctype value field

/-! ## The compressed form of a table -/

/-- `_SAPCOMPRESS_HDR` -/
def SAPCOMPRESS_HDR : ℕ := 8

/-- `_LZ_WRAPPER` -/
def LZ_WRAPPER : ℕ := 8

/-- SOURCE: invoke.py:1451-1490. -/
def decompress_table_stream (chunks : List Bytes) (param_name : PyStr) : Except PyError Bytes :=
  let blob := chunks.flatten
  let decompress (stream : Bytes) : Except PyError Bytes :=
    match sapcompress_decompress s.lzh stream (ofLE (stream.take 4)) with
    | .ok out => .ok out
    | .error (.decompress text) =>
      .error (err .value (lit "SAPCOMPRESS decompression failed for TABLE param " ++
        u.repr param_name ++ lit ": " ++ text))
    | .error (.compress text) => .error (err .other text)
    | .error (.other text) => .error (err .other text)
  if blob.length < SAPCOMPRESS_HDR then
    .error (err .value (lit "SAPCOMPRESS payload for TABLE param " ++ u.repr param_name ++
      lit " is too short: " ++ dec blob.length ++ lit " byte(s)"))
  else if slice blob (LZ_WRAPPER + 5) (LZ_WRAPPER + 7) = HDR_MAGIC then
    decompress (blob.drop LZ_WRAPPER)
  else if slice blob 5 7 = HDR_MAGIC then decompress blob
  else
    .error (err .value (lit "SAPCOMPRESS header not found for TABLE param " ++ u.repr param_name ++
      lit ": no 1f9d magic at offset 5 or " ++ dec (LZ_WRAPPER + 5)))

/-- The codec. -/
def codec : Codec (PyVal L) where
  decode := s.decode_value u
  encode := s.encode_value u
  ofStr name := .leaf (s.ofStr name)
  truth := s.truth_of
  size value := (s.items_of value).map List.length
  rows value := if s.truth_of value then s.items_of value else .ok []
  ofRows := .list
  decompress := s.decompress_table_stream u
  decodeBasxml payload name := do
    let rows ← decode_basxml_table u s.int16 payload name
    .ok (.list (rows.map fun row => .dict (row.map fun e => (e.1, .leaf (s.ofStr e.2)))))
  date := s.date
  time := s.time

/-- A platform with this codec. -/
def platform (typeName : PyError → PyStr) : Platform (PyVal L) where
  u := u
  codec := s.codec u
  typeName := typeName

end Scalars

/-- Byte strings as they are: `RFCTYPE_BYTE` and `RFCTYPE_XSTRING`. -/
def byteScalars : Scalars Bytes where
  decode := fun _ data _ => .ok data
  encode := fun _ value _ =>
    match value with
    | .leaf data => .ok data
    | _ => .error (err .type (lit "cannot convert to bytes"))
  ofStr := encodeLatin1Replace
  truth := fun data => data ≠ []
  items := fun _ => .error (err .type (lit "not a row"))
  lookup := fun _ _ => .error (err .type (lit "a bytes-like object is required, not 'str'"))
  eqStr := fun _ _ => false
  emptyBytes := []
  zeroFloat := []
  zeroDecimal := []
  zeroInt := []
  lzh := fun _ => .error (.decompress (lit "LZH"))
  int16 := fun digits =>
    if digits ≠ [] ∧ digits.all (fun c => 48 ≤ c ∧ c ≤ 57) then
      some (digits.foldl (fun n c => 16 * n + (c - 48)) 0 : ℕ)
    else none
  date := id
  time := id

end SapRfc.Program
