import SapRfc.Program.Reply
import SapRfc.Program.Requests

/-!
# Metadata replies

How the interface of a function module and the layout of a dictionary type are read
from the replies of the three lookups.  A row the server sends is untrusted: one that
cannot be read is left out, and so is a parameter of an unknown type.
-/

set_option autoImplicit false

namespace SapRfc.Program

open SapRfc.Library

def RFCTYPE_CHAR : ℕ := 0
def RFCTYPE_NUM : ℕ := 6
def RFCTYPE_STRUCTURE : ℕ := 17
def RFCTYPE_STRING : ℕ := 29

/-- `_CHAR_LIKE_TYPES` -/
def CHAR_LIKE_TYPES : List ℕ :=
  [RFCTYPE_CHAR, RFCTYPE_DATE, RFCTYPE_TIME, RFCTYPE_NUM, RFCTYPE_STRING]

/-- `_EXID_TO_RFCTYPE` -/
def EXID_TO_RFCTYPE : List (PyStr × ℕ) :=
  [(lit "C", 0), (lit "D", 1), (lit "P", 2), (lit "T", 3), (lit "X", 4), (lit "h", 5),
   (lit "N", 6), (lit "F", 7), (lit "I", 8), (lit "s", 9), (lit "b", 10), (lit "u", 17),
   (lit "a", 23), (lit "v", 23), (lit "e", 24), (lit "g", 29), (lit "y", 30), (lit "8", 31)]

/-- `_PARAMCLASS_TO_DIRECTION` -/
def PARAMCLASS_TO_DIRECTION : List (PyStr × ℕ) :=
  [(lit "I", RFC_IMPORT), (lit "E", RFC_EXPORT), (lit "C", RFC_CHANGING), (lit "T", RFC_TABLES)]

/-- `_DATATYPE_TO_RFCTYPE` -/
def DATATYPE_TO_RFCTYPE : List (PyStr × ℕ) :=
  [(lit "CHAR", 0), (lit "CLNT", 0), (lit "LANG", 0), (lit "CUKY", 0), (lit "UNIT", 0),
   (lit "LCHR", 0), (lit "NUMC", 6), (lit "ACCP", 6), (lit "DATS", 1), (lit "TIMS", 3),
   (lit "DEC", 2), (lit "CURR", 2), (lit "QUAN", 2), (lit "INT1", 10), (lit "INT2", 9),
   (lit "INT4", 8), (lit "INT8", 31), (lit "FLTP", 7), (lit "RAW", 4), (lit "LRAW", 4),
   (lit "PREC", 4), (lit "STRG", 29), (lit "SSTR", 29), (lit "RSTR", 30), (lit "D16D", 23),
   (lit "D16R", 23), (lit "D16N", 23), (lit "D34D", 24), (lit "D34R", 24), (lit "D34N", 24),
   (lit "UTCL", 32), (lit "STRU", 17), (lit "TTYP", 5)]

/-- `_DOUBLED_DATATYPES` -/
def DOUBLED_DATATYPES : List PyStr :=
  [lit "CHAR", lit "CLNT", lit "LANG", lit "CUKY", lit "UNIT", lit "LCHR", lit "NUMC",
   lit "ACCP", lit "DATS", lit "TIMS"]

/-! ## Rows of a result table -/

/-- What the walk of `_table_row_buffers` has seen. -/
structure RowWalk where
  row_size : ℕ
  row_count : ℕ
  per_record : List Bytes
  lz_chunks : List Bytes

/-- One record of the walk. -/
def RowWalk.record (s : RowWalk) (r : ℕ × Bytes) : RowWalk :=
  let (tag, data) := r
  if tag = Tag.TABLE_INFO ∧ data.length = 8 then
    { s with row_size := ofBE (data.take 4), row_count := ofBE (data.drop 4) }
  else if tag = Tag.TABLE_CONTENT ∨ tag = Tag.TABLE_CONTENT_ALT then
    { s with per_record := s.per_record ++ [data] }
  else if tag = Tag.TABLE_CONTENT_LZ then { s with lz_chunks := s.lz_chunks ++ [data] }
  else s

/-- SOURCE: connection.py:860-876.  The rows of a decompressed table.  No bytes for a
positive number of rows make a step of zero. -/
def sliceRows (row_size row_count : ℕ) (blob : Bytes) : Except PyError (List Bytes) :=
  let rows := fun (stride : ℕ) =>
    if stride = 0 then .error (err .value (lit "range() arg 3 must not be zero"))
    else .ok ((List.range (blob.length / stride)).map fun i =>
      slice blob (i * stride) (i * stride + stride))
  if 0 < row_count ∧ blob.length % row_count = 0 then rows (blob.length / row_count)
  else if 0 < row_size then rows row_size
  else .ok []

section Rows

variable {V : Type} (p : Platform V)

/-- SOURCE: connection.py:791-881.  A malformed record ends the walk without an error;
a stream that cannot be decompressed has no rows. -/
def table_row_buffers (response : Bytes) (table : PyStr) : Except PyError (List Bytes) :=
  let walk := Records.walk Tag.TERMINATOR response
  let s := walk.records.foldl RowWalk.record ⟨0, 0, [], []⟩
  if s.lz_chunks = [] then .ok (s.per_record.filter (· ≠ []))
  else
    match p.codec.decompress s.lz_chunks table with
    | .error exc => if exc.kind.isValueError then .ok [] else .error exc
    | .ok blob => sliceRows s.row_size s.row_count blob

/-- `data[lo:hi].decode("utf-16-le").rstrip(" \x00")` -/
def text_column (data : Bytes) (lo hi : ℕ) : Option PyStr :=
  (decodeUtf16le? (slice data lo hi)).map (rstrip padding)

/-- `struct.unpack_from("<I", data, lo)[0]`, or a shorter number -/
def number_column (data : Bytes) (lo width : ℕ) : Option ℕ :=
  if data.length < lo + width then none else some (ofLE (slice data lo (lo + width)))

/-- `int(data[lo:hi].decode("utf-16-le").strip() or "0")` -/
def decimal_column (data : Bytes) (lo hi : ℕ) : Option ℤ := do
  let text ← decodeUtf16le? (slice data lo hi)
  let digits := strip p.u text
  p.u.int (if digits = [] then lit "0" else digits)

/-! ## The interface of a function module -/

/-- A row of the `PARAMS` table. -/
structure ParamsRow where
  PARAMCLASS : PyStr
  PARAMETER : PyStr
  TABNAME : PyStr
  FIELDNAME : PyStr
  EXID : PyStr
  POSITION : ℕ
  OFFSET : ℕ
  INTLENGTH : ℕ
  DECIMALS : ℕ
  DEFAULT : PyStr
  PARAMTEXT : PyStr
  OPTIONAL : PyStr

/-- SOURCE: connection.py:927-1004, the columns of one row; nothing where one cannot be
read. -/
def read_params_row (data : Bytes) (unicode_mode : Bool) : Option ParamsRow := do
  let paramclass ← text_column data 0 2
  let parameter ← text_column data 2 62
  let tabname ← text_column data 62 122
  let fieldname ← text_column data 122 182
  let exid ← text_column data 182 184
  let position ← number_column data 184 4
  let offset_nuc ← number_column data 188 4
  let intlen_nuc ← number_column data 192 4
  let decimals ← number_column data 196 4
  let default ← text_column data 200 242
  let paramtext ← text_column data 242 400
  let optional ← text_column data 400 402
  let doubled := exid ∈ [lit "C", lit "D", lit "T", lit "N", lit "g"] ∧ unicode_mode = false
  some {
    PARAMCLASS := paramclass
    PARAMETER := parameter
    TABNAME := tabname
    FIELDNAME := fieldname
    EXID := exid
    POSITION := position
    OFFSET := if doubled then offset_nuc * 2 else offset_nuc
    INTLENGTH := if doubled then intlen_nuc * 2 else intlen_nuc
    DECIMALS := decimals
    DEFAULT := default
    PARAMTEXT := paramtext
    OPTIONAL := optional }

/-- SOURCE: connection.py:884-1006. -/
def parse_gfi_params_rows (response : Bytes) (unicode_mode : Bool) :
    Except PyError (List ParamsRow) := do
  let buffers ← table_row_buffers p (strip_gw_header response) (lit "PARAMS")
  .ok (buffers.filterMap fun data => read_params_row data unicode_mode)

/-- SOURCE: metadata.py:317-329. -/
def text_or_none (value : PyStr) : Option PyStr := orNone (strip p.u value)

/-- SOURCE: metadata.py:332-400.  The numbers of a row are numbers already. -/
def parse_params_row (row : ParamsRow) : Except PyError FieldDesc :=
  if row.PARAMETER = [] then
    .error (err .value (lit "malformed PARAMS row: missing/blank 'PARAMETER'"))
  else
    match assocGet EXID_TO_RFCTYPE row.EXID with
    | none =>
      .error (err .value (lit "malformed PARAMS row: unknown EXID code " ++ p.u.repr row.EXID))
    | some rfctype =>
      match assocGet PARAMCLASS_TO_DIRECTION row.PARAMCLASS with
      | none =>
        .error (err .value (lit "malformed PARAMS row: unknown PARAMCLASS code " ++
          p.u.repr row.PARAMCLASS))
      | some direction =>
        let rfctype := if direction = RFC_TABLES then RFCTYPE_TABLE else rfctype
        let narrow := fun n : ℕ => if rfctype ∈ CHAR_LIKE_TYPES then n / 2 else n
        .ok {
          name := row.PARAMETER
          rfctype := rfctype
          nuc_length := narrow row.INTLENGTH
          nuc_offset := narrow row.OFFSET
          uc_length := row.INTLENGTH
          uc_offset := row.OFFSET
          decimals := row.DECIMALS
          direction := direction
          optional := p.u.upper (strip p.u row.OPTIONAL) = lit "X"
          default_value := text_or_none p row.DEFAULT
          param_text := text_or_none p row.PARAMTEXT }

/-- A row of nested `PARAMS` rows, with the rows of its fields. -/
inductive ParamsNode where
  | node (row : ParamsRow) (fields : List ParamsNode)

def ParamsNode.row : ParamsNode → ParamsRow
  | node row _ => row

def ParamsNode.fields : ParamsNode → List ParamsNode
  | node _ fields => fields

/-- `_MAX_RECURSION_DEPTH` -/
def MAX_RECURSION_DEPTH : ℕ := 32

/-- `_MAX_ROWS` -/
def MAX_ROWS : ℕ := 10000

/-- SOURCE: metadata.py:412-415. -/
def nesting_guard (depth rows : ℕ) : Except PyError Unit :=
  if MAX_RECURSION_DEPTH < depth then
    .error (err .value (lit "metadata nesting depth exceeds cap " ++ dec MAX_RECURSION_DEPTH ++
      lit " (DoS guard)"))
  else if MAX_ROWS < rows then
    .error (err .value (lit "metadata row count " ++ dec rows ++ lit " exceeds cap " ++
      dec MAX_ROWS ++ lit " (DoS guard)"))
  else .ok ()

/-- SOURCE: metadata.py:425-427. -/
def type_desc_of (name : PyStr) (fields : List FieldDesc) : TypeDesc where
  name := name
  fields := fields
  nuc_size := (fields.map (·.nuc_length)).sum
  uc_size := (fields.map (·.uc_length)).sum

mutual

/-- SOURCE: metadata.py:418-423, one node. -/
def build_field (depth : ℕ) : ParamsNode → Except PyError FieldDesc
  | .node row children => do
    let field_desc ← parse_params_row p row
    if field_desc.rfctype ∈ [RFCTYPE_STRUCTURE, RFCTYPE_TABLE] then do
      nesting_guard (depth + 1) children.length
      let fields ← build_fields (depth + 1) children
      .ok { field_desc with type_desc := some (type_desc_of field_desc.name fields) }
    else .ok field_desc

/-- SOURCE: metadata.py:417-423. -/
def build_fields (depth : ℕ) : List ParamsNode → Except PyError (List FieldDesc)
  | [] => .ok []
  | node :: nodes => do
    let field_desc ← build_field depth node
    let fields ← build_fields depth nodes
    .ok (field_desc :: fields)

end

/-- SOURCE: metadata.py:403-427. -/
def build_type_desc (depth : ℕ) (name : PyStr) (nodes : List ParamsNode) :
    Except PyError TypeDesc := do
  nesting_guard depth nodes.length
  let fields ← build_fields p depth nodes
  .ok (type_desc_of name fields)

/-- SOURCE: session.py:384-412, the walk.  A length of `0xFFFF` is a length here. -/
def session_tlv_loop : ℕ → Bytes → Except PyError Tags
  | 0, _ => .ok []
  | fuel + 1, b =>
    if b.length < 4 then .ok []
    else
      let tag := ofBE (b.take 2)
      let length := ofBE ((b.drop 2).take 2)
      let body := b.drop 4
      if tag = Tag.TERMINATOR then .ok []
      else if body.length < length then
        .error (err .value (lit "malformed TLV: tag 0x" ++ hex4 tag ++ lit " length " ++
          dec length ++ lit " exceeds remaining payload (" ++ dec body.length ++ lit " bytes)"))
      else do
        let rest ← session_tlv_loop fuel (Records.skipClose tag (body.drop length))
        .ok ((tag, body.take length) :: rest)

/-- SOURCE: session.py:384-412, `Session._parse_tlv`. -/
def session_parse_tlv (payload : Bytes) : Except PyError Tags :=
  session_tlv_loop (payload.length + 1) payload

/-- SOURCE: connection.py:596-622. -/
def metadata_reply_succeeded (response : Bytes) : Except PyError Bool := do
  let tags ← session_parse_tlv (strip_gw_header response)
  let failed := (tags.get Tag.RETURN_CODE).any fun rc => rc.length = 4 && ofBE rc ≠ 0
  .ok ((tags.get Tag.EXCEPTION_NUMBER).isNone && !failed &&
    ((tags.get 0x0503).isSome || (tags.get Tag.RETURN_CODE).isSome))

/-! ## The layout of a dictionary type -/

/-- SOURCE: connection.py:1176-1199, from offset `b` on.  `start` is what follows the
name record of the table, once it was found. -/
def slice_named_loop (name : PyStr) : ℕ → Bytes → Option Bytes → Bytes
  | 0, _, start => start.getD []
  | fuel + 1, b, start =>
    match Records.scan Tag.TERMINATOR b with
    | .record tag value rest =>
      if tag = Tag.TABLE_NAME then
        if rstrip padding (decodeUtf16leReplace value) = name then
          slice_named_loop name fuel rest (some rest)
        else
          match start with
          | some s => s.take (s.length - b.length)
          | none => slice_named_loop name fuel rest none
      else slice_named_loop name fuel rest start
    | _ => start.getD []

/-- SOURCE: connection.py:1162-1199. -/
def slice_named_table (response : Bytes) (name : PyStr) : Bytes :=
  slice_named_loop name (response.length + 1) response none

/-- A row of the `DFIES_TAB` table. -/
structure DdifRow where
  fieldname : PyStr
  position : ℤ
  offset : ℤ
  leng : ℤ
  intlen : ℤ
  decimals : ℤ
  datatype : PyStr

/-- SOURCE: connection.py:1216-1231, one row. -/
def read_ddif_row (data : Bytes) : Option DdifRow :=
  if data.length < 380 then none
  else do
    let fieldname ← text_column data 60 120
    let position ← decimal_column p data 122 130
    let offset ← decimal_column p data 130 142
    let leng ← decimal_column p data 322 334
    let intlen ← decimal_column p data 334 346
    let decimals ← decimal_column p data 358 370
    let datatype ← text_column data 370 378
    if fieldname = [] ∨ (assocGet DATATYPE_TO_RFCTYPE datatype).isNone then none
    else some ⟨fieldname, position, offset, leng, intlen, decimals, datatype⟩

/-- SOURCE: connection.py:1202-1231. -/
def parse_ddif_dfies_rows (response : Bytes) : Except PyError (List DdifRow) := do
  let segment := slice_named_table (strip_gw_header response) (lit "DFIES_TAB")
  let buffers ← table_row_buffers p segment (lit "DFIES_TAB")
  .ok (buffers.filterMap (read_ddif_row p))

/-- SOURCE: connection.py:1262-1289.  The fields so far, the sums of the packed widths and
the largest end. -/
def ddif_field (unicode_reply : Bool) (s : List FieldDesc × ℤ × ℤ × ℤ) (row : DdifRow) :
    List FieldDesc × ℤ × ℤ × ℤ :=
  let (fields, packed_nuc, packed_uc, max_end) := s
  let doubled := row.datatype ∈ DOUBLED_DATATYPES
  let nuc_len := if doubled then row.leng else row.intlen
  let uc_len := if doubled then row.leng * 2 else row.intlen
  let uc_off := if unicode_reply then row.offset else packed_uc
  (fields ++ [{
      name := row.fieldname
      rfctype := (assocGet DATATYPE_TO_RFCTYPE row.datatype).getD 0
      nuc_length := nuc_len
      nuc_offset := packed_nuc
      uc_length := uc_len
      uc_offset := uc_off
      decimals := row.decimals }],
    packed_nuc + nuc_len, packed_uc + uc_len, max max_end (uc_off + uc_len))

/-- `f"no DFIES rows for {tabname!r}"` -/
def no_rows {α : Type} (tabname : PyStr) : Except PyError α :=
  .error (err .value (lit "no DFIES rows for " ++ p.u.repr tabname))

/-- SOURCE: connection.py:1250-1256.  The first row of a doubled type with a length says
whether the reply counts bytes of Unicode text. -/
def ddif_unicode_reply (rows : List DdifRow) : Bool :=
  match rows.find? fun r => r.datatype ∈ DOUBLED_DATATYPES && 0 < r.leng with
  | some r => decide (r.intlen = r.leng * 2)
  | none => true

/-- SOURCE: connection.py:1234-1292. -/
def build_type_desc_from_ddif (tabname : PyStr) (ddif_rows : List DdifRow) :
    Except PyError TypeDesc :=
  if ddif_rows = [] then no_rows p tabname
  else
    let rows := ddif_rows.insertionSort fun a b => a.position ≤ b.position
    let unicode_reply := ddif_unicode_reply rows
    let (fields, packed_nuc, packed_uc, max_end) :=
      rows.foldl (ddif_field unicode_reply) ([], 0, 0, 0)
    .ok ⟨tabname, fields, packed_nuc, if unicode_reply then max_end else packed_uc⟩

/-- A row of the `FIELDS` table. -/
structure DfiesRow where
  fieldname : PyStr
  position : ℕ
  uc_offset : ℕ
  uc_intlen : ℕ
  decimals : ℕ
  exid : PyStr

/-- SOURCE: connection.py:1035-1047, one row. -/
def read_dfies_row (data : Bytes) : Option DfiesRow := do
  let fieldname ← text_column data 60 120
  let position ← number_column data 120 2
  let uc_offset ← number_column data 124 2
  let uc_intlen ← number_column data 128 2
  let decimals ← number_column data 132 2
  let exid ← text_column data 136 138
  if fieldname = [] ∨ (assocGet EXID_TO_RFCTYPE exid).isNone then none
  else some ⟨fieldname, position, uc_offset, uc_intlen, decimals, exid⟩

/-- SOURCE: connection.py:1009-1049. -/
def parse_dfies_rows (response : Bytes) : Except PyError (List DfiesRow) := do
  let buffers ← table_row_buffers p (strip_gw_header response) (lit "FIELDS")
  .ok (buffers.filterMap read_dfies_row)

/-- SOURCE: connection.py:1069-1086, one field. -/
def dfies_field (row : DfiesRow) : FieldDesc :=
  let rfctype := (assocGet EXID_TO_RFCTYPE row.exid).getD 0
  let narrow := fun n : ℕ => if rfctype ∈ CHAR_LIKE_TYPES then n / 2 else n
  { name := row.fieldname
    rfctype := rfctype
    nuc_length := narrow row.uc_intlen
    nuc_offset := narrow row.uc_offset
    uc_length := row.uc_intlen
    uc_offset := row.uc_offset
    decimals := row.decimals }

/-- SOURCE: connection.py:1052-1090. -/
def build_type_desc_from_dfies (tabname : PyStr) (dfies_rows : List DfiesRow) :
    Except PyError TypeDesc :=
  if dfies_rows = [] then no_rows p tabname
  else
    let rows := dfies_rows.insertionSort fun a b => a.position ≤ b.position
    let fields := rows.map dfies_field
    .ok ⟨tabname, fields, (fields.map (·.nuc_length)).sum,
      fields.foldl (fun n f => max n (f.uc_offset + f.uc_length)) 0⟩

end Rows

/-! ## The interfaces of the lookups -/

/-- An importing `CHAR` parameter of 30 characters and a table that comes back. -/
def lookup_desc (name input table : PyStr) (unicode_mode : Bool) : FunctionDesc where
  name := name
  parameters := [
    { name := input
      rfctype := RFCTYPE_CHAR
      nuc_length := 30
      nuc_offset := 0
      uc_length := 60
      uc_offset := 0
      decimals := 0
      unicode_mode := unicode_mode
      direction := RFC_IMPORT },
    { name := table
      rfctype := RFCTYPE_TABLE
      nuc_length := 0
      nuc_offset := 0
      uc_length := 0
      uc_offset := 0
      decimals := 0
      unicode_mode := unicode_mode
      direction := RFC_EXPORT }]

def GET_FUNCTION_INTERFACE : PyStr := lit "RFC_GET_FUNCTION_INTERFACE"
def DDIF_FIELDINFO_GET : PyStr := lit "DDIF_FIELDINFO_GET"
def GET_STRUCTURE_DEFINITION : PyStr := lit "RFC_GET_STRUCTURE_DEFINITION"

/-- SOURCE: connection.py:2524-2554, and 4785-4812 of the asynchronous twin. -/
def bootstrap_desc (unicode_mode : Bool) : FunctionDesc :=
  lookup_desc GET_FUNCTION_INTERFACE (lit "FUNCNAME") (lit "PARAMS") unicode_mode

/-- SOURCE: connection.py:2840-2866, and 4938-4964 of the asynchronous twin. -/
def rsd_desc (unicode_mode : Bool) : FunctionDesc :=
  lookup_desc GET_STRUCTURE_DEFINITION (lit "TABNAME") (lit "FIELDS") unicode_mode

/-- SOURCE: connection.py:1295-1333. -/
def build_ddif_fieldinfo_desc (unicode_mode : Bool) : FunctionDesc :=
  let f := fun (name : String) (direction : ℕ) (uc_length : ℤ) => show FieldDesc from
    { name := lit name
      rfctype := RFCTYPE_CHAR
      nuc_length := uc_length / 2
      nuc_offset := 0
      uc_length := uc_length
      uc_offset := 0
      decimals := 0
      unicode_mode := unicode_mode
      direction := direction }
  ⟨DDIF_FIELDINFO_GET,
    [f "DDOBJTYPE" RFC_EXPORT 12, f "DFIES_TAB" RFC_EXPORT 0, f "FIXED_VALUES" RFC_EXPORT 0,
     f "ALL_TYPES" RFC_IMPORT 2, f "FIELDNAME" RFC_IMPORT 60, f "GROUP_NAMES" RFC_IMPORT 2,
     f "LANGU" RFC_IMPORT 2, f "TABNAME" RFC_IMPORT 60]⟩

/-- SOURCE: connection.py:1336-1338. -/
def ddif_fieldinfo_params {V : Type} (p : Platform V) (tabname : PyStr) : Values V :=
  [(lit "ALL_TYPES", p.codec.ofStr (lit "X")), (lit "FIELDNAME", p.codec.ofStr []),
   (lit "GROUP_NAMES", p.codec.ofStr []), (lit "LANGU", p.codec.ofStr []),
   (lit "TABNAME", p.codec.ofStr tabname)]

end SapRfc.Program
