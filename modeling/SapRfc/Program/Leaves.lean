import SapRfc.Program.Decimal
import SapRfc.Program.Requests

/-!
# Values of the scalar types

The branches of `decode` and `encode` in `codec.py` on the scalar types, over the values of the
source language: `None`, numbers, decimal numbers, strings and byte strings.  What the language
converts into a number by its own rules is a field of `Builtins`.
-/

set_option autoImplicit false

namespace SapRfc.Program

open SapRfc.Library

/-- A scalar of the source language.  A float is its 64 bits. -/
inductive PyLeaf where
  | none
  | bool (b : Bool)
  | int (n : ℤ)
  | float (bits : UInt64)
  | str (s : PyStr)
  | bytes (b : Bytes)
  | decimal (d : PyDecimal)
  deriving DecidableEq

/-- Conversions of the source language, each of a value that is not of the wanted class. -/
structure Builtins where
  /-- `int(x)` of a float and of a byte string; of a string it is `Unicode.int` -/
  int_of_float : UInt64 → Except PyError ℤ
  int_of_bytes : Bytes → Except PyError ℤ
  /-- `float(x)` -/
  float_of_int : ℤ → Except PyError UInt64
  float_of_str : PyStr → Except PyError UInt64
  float_of_bytes : Bytes → Except PyError UInt64
  float_of_decimal : PyDecimal → Except PyError UInt64
  /-- `Decimal(x)`, of a string that is not empty -/
  decimal_of_str : PyStr → Except PyError PyDecimal
  decimal_of_float : UInt64 → PyDecimal
  decimal_of_list : List (PyVal PyLeaf) → Except PyError PyDecimal
  /-- `b.decode("utf-8")` -/
  utf8 : Bytes → Except PyError PyStr
  /-- the text of the exception that `b.decode("utf-16-be")` raises -/
  utf16beError : Bytes → PyStr
  /-- the fields of `Scalars` that no scalar type uses -/
  lzh : Bytes → Except LzError Bytes
  int16 : PyStr → Option ℤ
  date : PyVal PyLeaf → PyVal PyLeaf
  time : PyVal PyLeaf → PyVal PyLeaf

def RFCTYPE_DECF16 : ℕ := 23
def RFCTYPE_DECF34 : ℕ := 24

/-- `_OUT_OF_SCOPE`: `RFCTYPE_NULL`, `RFCTYPE_ABAPOBJECT` and `RFCTYPE_XMLDATA` -/
def OUT_OF_SCOPE : List ℕ := [14, 16, 28]

/-- `type(value).__name__` -/
def type_name : PyVal PyLeaf → String
  | .leaf .none => "NoneType"
  | .leaf (.bool _) => "bool"
  | .leaf (.int _) => "int"
  | .leaf (.float _) => "float"
  | .leaf (.str _) => "str"
  | .leaf (.bytes _) => "bytes"
  | .leaf (.decimal _) => "decimal.Decimal"
  | .dict _ => "dict"
  | .list _ => "list"

/-! ## Conversions -/

section Conversions

variable (u : Unicode) (k : Builtins)

/-- `int(value)` -/
def py_int : PyVal PyLeaf → Except PyError ℤ
  | .leaf (.int n) => .ok n
  | .leaf (.bool b) => .ok b.toNat
  | .leaf (.float bits) => k.int_of_float bits
  | .leaf (.decimal d) => d.to_int
  | .leaf (.bytes b) => k.int_of_bytes b
  | .leaf (.str s) =>
    match u.int s with
    | some n => .ok n
    | none =>
      .error (err .value (lit "invalid literal for int() with base 10: " ++ u.repr s))
  | value =>
    .error (err .type (lit ("int() argument must be a string, a bytes-like object or a real " ++
      "number, not '" ++ type_name value ++ "'")))

/-- `float(value)` -/
def py_float : PyVal PyLeaf → Except PyError UInt64
  | .leaf (.float bits) => .ok bits
  | .leaf (.int n) => k.float_of_int n
  | .leaf (.bool b) => k.float_of_int b.toNat
  | .leaf (.decimal d) => k.float_of_decimal d
  | .leaf (.bytes b) => k.float_of_bytes b
  | .leaf (.str s) => k.float_of_str s
  | value =>
    .error (err .type (lit ("float() argument must be a string or a real number, not '" ++
      type_name value ++ "'")))

/-- `Decimal(value)`.  An empty string is no number. -/
def py_decimal : PyVal PyLeaf → Except PyError PyDecimal
  | .leaf (.decimal d) => .ok d
  | .leaf (.int n) => .ok (.finite (decide (n < 0)) n.natAbs 0)
  | .leaf (.bool b) => .ok (.finite false b.toNat 0)
  | .leaf (.float bits) => .ok (k.decimal_of_float bits)
  | .leaf (.str []) => .error (err .other (lit "[<class 'decimal.ConversionSyntax'>]"))
  | .leaf (.str s) => k.decimal_of_str s
  | .list items => k.decimal_of_list items
  | value =>
    .error (err .type (lit ("conversion from " ++ type_name value ++
      " to Decimal is not supported")))

/-- One item of `bytes(items)` -/
def byte_of : PyVal PyLeaf → Except PyError UInt8
  | .leaf (.int n) =>
    if 0 ≤ n ∧ n ≤ 0xFF then .ok (UInt8.ofNat n.toNat)
    else .error (err .value (lit "bytes must be in range(0, 256)"))
  | .leaf (.bool b) => .ok (UInt8.ofNat b.toNat)
  | value =>
    .error (err .type (lit ("'" ++ type_name value ++
      "' object cannot be interpreted as an integer")))

/-- `bytes(n)`: that many zeros -/
def bytes_of_int (n : ℤ) : Except PyError Bytes :=
  if 2 ^ 63 ≤ n ∨ n < -2 ^ 63 then
    .error (err .overflow (lit "cannot fit 'int' into an index-sized integer"))
  else if n < 0 then .error (err .value (lit "negative count"))
  else .ok (List.replicate n.toNat 0)

/-- `bytes(value)` -/
def py_bytes : PyVal PyLeaf → Except PyError Bytes
  | .leaf (.bytes b) => .ok b
  | .leaf (.int n) => bytes_of_int n
  | .leaf (.bool b) => bytes_of_int b.toNat
  | .leaf (.str _) => .error (err .type (lit "string argument without an encoding"))
  | .list items => items.mapM byte_of
  | .dict entries => (entries.map fun e => PyVal.leaf (PyLeaf.str e.1)).mapM byte_of
  | value =>
    .error (err .type (lit ("cannot convert '" ++ type_name value ++ "' object to bytes")))

end Conversions

/-! ## Integers -/

/-- The size of the format that `_INT_FORMATS` has for a type. -/
def int_size (rfctype : ℕ) : ℕ :=
  if rfctype ∈ [8, 35, 36, 37, 38] then 4 else if rfctype ∈ [9, 39, 40] then 2 else 8

/-- `struct.pack` of a signed little-endian integer -/
def pack_int (size : ℕ) (n : ℤ) : Except PyError Bytes :=
  if -(256 ^ size / 2 : ℕ) ≤ n ∧ n < (256 ^ size / 2 : ℕ) then
    .ok (toLE size (n % (256 ^ size : ℕ)).toNat)
  else .error (err .structError (lit "argument out of range"))

/-- `struct.unpack` of a signed little-endian integer -/
def unpack_int (size : ℕ) (b : Bytes) : Except PyError ℤ :=
  if b.length ≠ size then
    .error (err .structError (lit "unpack requires a buffer of " ++ dec size ++ lit " bytes"))
  else if ofLE b < 256 ^ size / 2 then .ok (ofLE b)
  else .ok (ofLE b - (256 ^ size : ℕ))

/-! ## Text -/

/-- The two bytes of each code unit the other way round. -/
def swap_units : Bytes → Bytes
  | a :: b :: rest => b :: a :: swap_units rest
  | rest => rest

/-- `text.encode(_uc_encoding(field))` -/
def encode_uc (unicode_mode : Bool) (text : PyStr) : Except PyError Bytes :=
  match encodeUtf16le text with
  | .ok raw => .ok (if unicode_mode then raw else swap_units raw)
  | .error e =>
    if unicode_mode then .error e
    else .error (err e.kind (lit "'utf-16-be' codec can't encode: surrogates not allowed"))

/-- SOURCE: codec.py:360-362. -/
def decode_uc_fixed (u : Unicode) (k : Builtins) (data : Bytes) (field : FieldDesc) :
    Except PyError PyStr :=
  match decodeUtf16le? (if field.unicode_mode then data else swap_units data) with
  | some text => .ok text
  | none =>
    .error (err .value (if field.unicode_mode then u.utf16Error data else k.utf16beError data))

/-- SOURCE: codec.py:365-374. -/
def decode_initial_or (value : PyStr) : PyStr :=
  if lstrip [48, 32] (rstrip [48, 32] value) = [] then [] else value

/-- `_char_count` -/
def char_count (field : FieldDesc) : ℤ := field.uc_length / 2

/-- SOURCE: codec.py:385-392, the text that is encoded. -/
def fixed_text (value : PyStr) (field : FieldDesc) (pad : ℕ) : PyStr :=
  let char_width := char_count field
  if char_width ≠ 0 then
    let fill := List.replicate (char_width - value.length).toNat pad
    let text := if pad = 48 then fill ++ value else value ++ fill
    text.take (pyIndex text.length char_width)
  else value

/-- SOURCE: codec.py:377-393. -/
def encode_uc_fixed (value : PyVal PyLeaf) (field : FieldDesc) (pad : ℕ) : Except PyError Bytes :=
  match value with
  | .leaf (.str s) => encode_uc field.unicode_mode (fixed_text s field pad)
  | value =>
    let name := if char_count field = 0 then "encode" else if pad = 48 then "rjust" else "ljust"
    match value with
    | .leaf (.bytes _) =>
      if char_count field = 0 then
        .error (err .attribute (lit "'bytes' object has no attribute 'encode'"))
      else
        .error (err .type (lit (name ++
          "() argument 2 must be a byte string of length 1, not str")))
    | value =>
      .error (err .attribute (lit ("'" ++ type_name value ++ "' object has no attribute '" ++
        name ++ "'")))

/-- One character in UTF-8. -/
def utf8_char (c : ℕ) : Bytes :=
  if c < 0x80 then [UInt8.ofNat c]
  else if c < 0x800 then [UInt8.ofNat (0xC0 + c / 64), UInt8.ofNat (0x80 + c % 64)]
  else if c < 0x10000 then
    [UInt8.ofNat (0xE0 + c / 4096), UInt8.ofNat (0x80 + c / 64 % 64), UInt8.ofNat (0x80 + c % 64)]
  else
    [UInt8.ofNat (0xF0 + c / 262144), UInt8.ofNat (0x80 + c / 4096 % 64),
      UInt8.ofNat (0x80 + c / 64 % 64), UInt8.ofNat (0x80 + c % 64)]

/-- `value.encode("utf-8")` -/
def encode_utf8 (value : PyVal PyLeaf) : Except PyError Bytes :=
  match value with
  | .leaf (.str s) =>
    if s.any isSurrogate then
      .error (err .unicodeEncode (lit "'utf-8' codec can't encode: surrogates not allowed"))
    else .ok (s.flatMap utf8_char)
  | value =>
    .error (err .attribute (lit ("'" ++ type_name value ++ "' object has no attribute 'encode'")))

/-! ## The scalar types -/

/-- SOURCE: codec.py:464-501. -/
def encode_bcd_value (k : Builtins) (value : PyVal PyLeaf) (field : FieldDesc) :
    Except PyError Bytes :=
  match value with
  | .leaf (.float _) => .error (err .type (lit "BCD value must be Decimal, not float (D-13)"))
  | value => do
    let value ← py_decimal k value
    encode_bcd value field

/-- SOURCE: codec.py:745-791. -/
def decode_leaf (u : Unicode) (k : Builtins) (rfctype : ℕ) (buf : Bytes) (field : FieldDesc) :
    Except PyError PyLeaf :=
  if rfctype ∈ OUT_OF_SCOPE then
    .error (err .value (lit "unsupported RFCTYPE " ++ dec rfctype))
  else if rfctype ∈ [RFCTYPE_DECF16, RFCTYPE_DECF34] then (decode_decfloat buf).map .decimal
  else if rfctype ∈ INT_TYPES then
    (unpack_int (int_size rfctype) (buf.take (int_size rfctype))).map .int
  else if rfctype = RFCTYPE_BCD then (decode_bcd buf field).map .decimal
  else if rfctype = RFCTYPE_INT1 then
    match buf with
    | [] => .error (err .index (lit "index out of range"))
    | x :: _ => .ok (.int x.toNat)
  else if rfctype = RFCTYPE_FLOAT then
    if (buf.take 8).length ≠ 8 then
      .error (err .structError (lit "unpack requires a buffer of 8 bytes"))
    else .ok (.float (UInt64.ofNat (ofLE (buf.take 8))))
  else if rfctype = RFCTYPE_CHAR then
    (decode_uc_fixed u k buf field).map fun text => .str (rstrip [32] text)
  else if rfctype = RFCTYPE_NUM then (decode_uc_fixed u k buf field).map .str
  else if rfctype = RFCTYPE_DATE then
    (decode_uc_fixed u k buf field).map fun text => .str (decode_initial_or text)
  else if rfctype = RFCTYPE_TIME then
    (decode_uc_fixed u k buf field).map fun text => .str (decode_initial_or text)
  else if rfctype = RFCTYPE_BYTE then .ok (.bytes buf)
  else if rfctype = RFCTYPE_STRING then (k.utf8 buf).map .str
  else if rfctype = RFCTYPE_XSTRING then .ok (.bytes buf)
  else .error (err .value (lit "unknown RFCTYPE " ++ dec rfctype))

/-- SOURCE: codec.py:821-863. -/
def encode_leaf (u : Unicode) (k : Builtins) (rfctype : ℕ) (value : PyVal PyLeaf)
    (field : FieldDesc) : Except PyError Bytes :=
  if rfctype ∈ OUT_OF_SCOPE then
    .error (err .value (lit "unsupported RFCTYPE " ++ dec rfctype))
  else if rfctype ∈ [RFCTYPE_DECF16, RFCTYPE_DECF34] then
    (py_decimal k value).bind fun d => encode_decfloat d
      (if rfctype = RFCTYPE_DECF16 then 8 else 16)
  else if rfctype ∈ INT_TYPES then (py_int u k value).bind (pack_int (int_size rfctype))
  else if rfctype = RFCTYPE_BCD then encode_bcd_value k value field
  else if rfctype = RFCTYPE_INT1 then
    (py_int u k value).bind fun iv =>
      if 0 ≤ iv ∧ iv ≤ 0xFF then .ok [UInt8.ofNat iv.toNat]
      else .error (err .value (lit "INT1 out of range: " ++ lit (toString iv)))
  else if rfctype = RFCTYPE_FLOAT then (py_float k value).map fun bits => toLE 8 bits.toNat
  else if rfctype = RFCTYPE_CHAR then encode_uc_fixed value field 32
  else if rfctype = RFCTYPE_NUM then encode_uc_fixed value field 48
  else if rfctype = RFCTYPE_DATE then encode_uc_fixed value field 32
  else if rfctype = RFCTYPE_TIME then encode_uc_fixed value field 32
  else if rfctype = RFCTYPE_BYTE then py_bytes value
  else if rfctype = RFCTYPE_STRING then encode_utf8 value
  else if rfctype = RFCTYPE_XSTRING then py_bytes value
  else .error (err .value (lit "unknown RFCTYPE " ++ dec rfctype))

/-- `name in s` for a string -/
def is_substring (name s : PyStr) : Bool := s.tails.any fun t => name.isPrefixOf t

/-- The scalars of the source language. -/
def leafScalars (u : Unicode) (k : Builtins) : Scalars PyLeaf where
  decode := decode_leaf u k
  encode := encode_leaf u k
  ofStr := .str
  truth
    | .none => false
    | .bool b => b
    | .int n => n ≠ 0
    -- the two zeros
    | .float bits => bits.toNat % 2 ^ 63 ≠ 0
    | .str s => s ≠ []
    | .bytes b => b ≠ []
    | .decimal (.finite _ coeff _) => coeff ≠ 0
    | .decimal _ => true
  items
    | .str s => .ok (s.map fun c => .str [c])
    | .bytes b => .ok (b.map fun x => .int x.toNat)
    | a => .error (err .type (lit ("'" ++ type_name (.leaf a) ++ "' object is not iterable")))
  lookup a name :=
    match a with
    | .str s =>
      if is_substring name s then
        .error (err .type (lit "string indices must be integers, not 'str'"))
      else .ok none
    | .bytes _ => .error (err .type (lit "a bytes-like object is required, not 'str'"))
    | a => .error (err .type (lit ("argument of type '" ++ type_name (.leaf a) ++
        "' is not iterable")))
  eqStr a name := a = .str name
  emptyBytes := .bytes []
  zeroFloat := .float 0
  zeroDecimal := .decimal (.finite false 0 0)
  zeroInt := .int 0
  lzh := k.lzh
  int16 := k.int16
  date := k.date
  time := k.time

/-- Conversions that refuse every value which is not of the wanted class. -/
def strictBuiltins : Builtins where
  int_of_float := fun _ => .error (err .value (lit "cannot convert float NaN to integer"))
  int_of_bytes := fun _ => .error (err .value (lit "invalid literal for int() with base 10"))
  float_of_int := fun _ => .error (err .overflow (lit "int too large to convert to float"))
  float_of_str := fun _ => .error (err .value (lit "could not convert string to float"))
  float_of_bytes := fun _ => .error (err .value (lit "could not convert string to float"))
  float_of_decimal := fun _ => .error (err .value (lit "cannot convert signaling NaN to float"))
  decimal_of_str := fun _ => .error (err .other (lit "[<class 'decimal.ConversionSyntax'>]"))
  decimal_of_float := fun _ => .nan false false
  decimal_of_list := fun _ =>
    .error (err .value (lit "argument must be a sequence of length 3"))
  utf8 := fun b => .ok (b.map UInt8.toNat)
  utf16beError := fun _ => lit "'utf-16-be' codec can't decode bytes"
  lzh := fun _ => .error (.decompress (lit "LZH"))
  int16 := fun _ => none
  date := id
  time := id

end SapRfc.Program
