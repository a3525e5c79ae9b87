import Mathlib.Data.Nat.Digits.Defs
import SapRfc.Program.Codec

/-!
# Decimal numbers

The two codecs of `codec.py` for decimal numbers: `decode_decfloat` and `encode_decfloat` for the
floating-point formats, with the tables that `_build_dpd_tables` fills, and `_decode_bcd` and
`_encode_bcd` for packed numbers.

`PyDecimal` is `decimal.Decimal`, with the operations that the codecs use under the default
context: 28 digits, half to even, and errors for an overflow and for an invalid operation.
-/

set_option autoImplicit false

namespace SapRfc.Program

open SapRfc.Library

/-! ## `decimal.Decimal` -/

/-- A decimal number.  A payload of a NaN is left out. -/
inductive PyDecimal where
  | finite (sign : Bool) (coeff : ℕ) (exp : ℤ)
  | infinity (sign : Bool)
  | nan (sign signaling : Bool)
  deriving DecidableEq

/-- The digits of a coefficient, as `as_tuple` gives them. -/
def decimal_digits (coeff : ℕ) : List ℕ :=
  if coeff = 0 then [0] else (Nat.digits 10 coeff).reverse

/-- The number that digits spell. -/
def of_digits (digits : List ℕ) : ℕ :=
  digits.foldl (fun n d => 10 * n + d) 0

/-- The characters of digits. -/
def digit_chars (digits : List ℕ) : PyStr :=
  digits.map fun d => 48 + d

namespace PyDecimal

def PREC : ℕ := 28
def EMAX : ℤ := 999999
def EMIN : ℤ := -999999

/-- The smallest exponent of a subnormal number. -/
def ETINY : ℤ := EMIN - PREC + 1

/-- The largest exponent of a number with all its digits. -/
def ETOP : ℤ := EMAX - PREC + 1

def sign_str (sign : Bool) : PyStr := if sign then lit "-" else []

/-- The place of the dot, and the exponent that is printed, if one is. -/
def str_finite (coeff : ℕ) (exp : ℤ) : PyStr :=
  let int := digit_chars (decimal_digits coeff)
  let leftdigits := exp + int.length
  let dotplace := if exp ≤ 0 ∧ -6 < leftdigits then leftdigits else 1
  let body :=
    if dotplace ≤ 0 then lit "0." ++ List.replicate (-dotplace).toNat 48 ++ int
    else if (int.length : ℤ) ≤ dotplace then
      int ++ List.replicate (dotplace - int.length).toNat 48
    else int.take dotplace.toNat ++ lit "." ++ int.drop dotplace.toNat
  if leftdigits = dotplace then body
  else body ++ lit "E" ++ (if dotplace ≤ leftdigits then lit "+" else []) ++
    lit (toString (leftdigits - dotplace))

/-- `str(value)` -/
def str : PyDecimal → PyStr
  | finite sign coeff exp => sign_str sign ++ str_finite coeff exp
  | infinity sign => sign_str sign ++ lit "Infinity"
  | nan sign signaling => sign_str sign ++ lit (if signaling then "sNaN" else "NaN")

/-- `value.as_tuple().sign == 1` -/
def is_signed : PyDecimal → Bool
  | finite sign _ _ => sign
  | infinity sign => sign
  | nan sign _ => sign

def InvalidOperation : PyError := err .other (lit "[<class 'decimal.InvalidOperation'>]")
def Overflow : PyError := err .other (lit "[<class 'decimal.Overflow'>]")

/-- `n / d`, half to even -/
def round_half_even (n d : ℕ) : ℕ :=
  if 2 * (n % d) < d ∨ 2 * (n % d) = d ∧ n / d % 2 = 0 then n / d else n / d + 1

/-- A number with at most `PREC` digits and an exponent in range. -/
def fix (sign : Bool) (coeff : ℕ) (exp : ℤ) : Except PyError PyDecimal :=
  if coeff = 0 then .ok (finite sign 0 (min (max exp ETINY) EMAX))
  else
    let exp_min := (decimal_digits coeff).length + exp - PREC
    if ETOP < exp_min then .error Overflow
    else
      let exp_min := max exp_min ETINY
      if exp < exp_min then
        let rounded := round_half_even coeff (10 ^ (exp_min - exp).toNat)
        if PREC < (decimal_digits rounded).length then
          if ETOP < exp_min + 1 then .error Overflow
          else .ok (finite sign (rounded / 10) (exp_min + 1))
        else .ok (finite sign rounded exp_min)
      else .ok (finite sign coeff exp)

/-- `value.scaleb(n)` -/
def scaleb (value : PyDecimal) (n : ℤ) : Except PyError PyDecimal :=
  match value with
  | nan _ true => .error InvalidOperation
  | nan sign false => .ok (nan sign false)
  | infinity sign =>
    if 2 * (EMAX + PREC) < |n| then .error InvalidOperation else .ok (infinity sign)
  | finite sign coeff exp =>
    if 2 * (EMAX + PREC) < |n| then .error InvalidOperation else fix sign coeff (exp + n)

/-- `value.to_integral_value()`.  The argument is never a signaling NaN here. -/
def to_integral_value : PyDecimal → PyDecimal
  | finite sign coeff exp =>
    if 0 ≤ exp then finite sign coeff exp
    else finite sign (round_half_even coeff (10 ^ (-exp).toNat)) 0
  | value => value

/-- `int(value)` -/
def to_int : PyDecimal → Except PyError ℤ
  | finite sign coeff exp =>
    let n : ℤ := if 0 ≤ exp then coeff * 10 ^ exp.toNat else (coeff / 10 ^ (-exp).toNat : ℕ)
    .ok (if sign then -n else n)
  | infinity _ => .error (err .overflow (lit "cannot convert Infinity to integer"))
  | nan _ _ => .error (err .value (lit "cannot convert NaN to integer"))

end PyDecimal

/-! ## Densely packed decimals -/

/-- The exponent continuation bits, the declets, the exponent bias and the coefficient digits. -/
structure DecfParams where
  econ_bits : ℕ
  declets : ℕ
  bias : ℤ
  ndigits : ℕ

/-- `_DECF_PARAMS` -/
def DECF_PARAMS (width : ℕ) : Option DecfParams :=
  match width with
  | 8 => some ⟨8, 5, 398, 16⟩
  | 16 => some ⟨12, 11, 6176, 34⟩
  | _ => none

/-- SOURCE: codec.py:151-173, the declet of three digits. -/
def dpd_declet (t : ℕ × ℕ × ℕ) : ℕ :=
  let (d1, d2, d3) := t
  let a := (d1 >>> 3) &&& 1
  let b := (d1 >>> 2) &&& 1
  let c := (d1 >>> 1) &&& 1
  let d := d1 &&& 1
  let e := (d2 >>> 3) &&& 1
  let f := (d2 >>> 2) &&& 1
  let g := (d2 >>> 1) &&& 1
  let h := d2 &&& 1
  let i := (d3 >>> 3) &&& 1
  let j := (d3 >>> 2) &&& 1
  let k := (d3 >>> 1) &&& 1
  let m := d3 &&& 1
  let bits : List ℕ :=
    match (a <<< 2) ||| (e <<< 1) ||| i with
    | 0b000 => [b, c, d, f, g, h, 0, j, k, m]
    | 0b001 => [b, c, d, f, g, h, 1, 0, 0, m]
    | 0b010 => [b, c, d, j, k, h, 1, 0, 1, m]
    | 0b011 => [b, c, d, 1, 0, h, 1, 1, 1, m]
    | 0b100 => [j, k, d, f, g, h, 1, 1, 0, m]
    | 0b101 => [f, g, d, 0, 1, h, 1, 1, 1, m]
    | 0b110 => [j, k, d, 0, 0, h, 1, 1, 1, m]
    | _ => [0, 0, d, 1, 1, h, 1, 1, 1, m]
  bits.foldl (fun declet bit => (declet <<< 1) ||| bit) 0

/-- The loops of `_build_dpd_tables`, the last digit fastest. -/
def digit_trios : List (ℕ × ℕ × ℕ) :=
  (List.range 10).flatMap fun d1 =>
    (List.range 10).flatMap fun d2 => (List.range 10).map fun d3 => (d1, d2, d3)

/-- `d.setdefault(key, value)` -/
def assocSetdefault {α β : Type} [DecidableEq α] (d : List (α × β)) (key : α) (value : β) :
    List (α × β) :=
  if (assocGet d key).isSome then d else d ++ [(key, value)]

/-- SOURCE: codec.py:137-176. -/
def build_dpd_tables : List ((ℕ × ℕ × ℕ) × ℕ) × List (ℕ × (ℕ × ℕ × ℕ)) :=
  digit_trios.foldl
    (fun maps t =>
      (assocSet maps.1 t (dpd_declet t), assocSetdefault maps.2 (dpd_declet t) t))
    ([], [])

def DPD_ENCODE : List ((ℕ × ℕ × ℕ) × ℕ) := build_dpd_tables.1
def DPD_DECODE : List (ℕ × (ℕ × ℕ × ℕ)) := build_dpd_tables.2

/-- `d[key]` -/
def assocIndex {α β : Type} [DecidableEq α] (d : List (α × β)) (key : α) (text : PyStr) :
    Except PyError β :=
  match assocGet d key with
  | some value => .ok value
  | none => .error (err .key text)

/-- SOURCE: codec.py:217-218, the digits below the leading one. -/
def decode_declets (declets coeff : ℕ) : Except PyError (List ℕ) := do
  let trios ← (List.range declets).reverse.mapM fun n =>
    let declet := (coeff >>> (n * 10)) &&& 0x3FF
    assocIndex DPD_DECODE declet (dec declet)
  .ok (trios.flatMap fun t => [t.1, t.2.1, t.2.2])

/-- SOURCE: codec.py:182-219. -/
def decode_decfloat (raw : Bytes) : Except PyError PyDecimal :=
  match DECF_PARAMS raw.length with
  | none =>
    .error (err .value (lit "DECFLOAT value must be 8 or 16 bytes, got " ++ dec raw.length))
  | some ⟨econ_bits, declets, bias, _⟩ =>
    let value := ofBE raw.reverse
    let total := raw.length * 8
    let sign := decide ((value >>> (total - 1)) &&& 1 = 1)
    let combo := (value >>> (total - 6)) &&& 0x1F
    let econ := (value >>> (total - 6 - econ_bits)) &&& ((1 <<< econ_bits) - 1)
    if combo &&& 0b11110 = 0b11110 then
      if combo &&& 1 ≠ 0 then .ok (.nan sign false) else .ok (.infinity sign)
    else
      let (lead, exp_high) :=
        if combo >>> 3 = 0b11 then (8 + (combo &&& 1), (combo >>> 1) &&& 0b11)
        else (combo &&& 0b111, (combo >>> 3) &&& 0b11)
      let exponent : ℤ := ((exp_high <<< econ_bits) ||| econ : ℕ) - bias
      let coeff := value &&& ((1 <<< (total - 6 - econ_bits)) - 1)
      do
        let digits ← decode_declets declets coeff
        .ok (.finite sign (of_digits (lead :: digits)) exponent)

/-- SOURCE: codec.py:261-264, the declets of the digits below the leading one. -/
def encode_declets (declets : ℕ) (padded : List ℕ) : Except PyError ℕ :=
  (List.range declets).foldlM
    (fun coeff n => do
      let trio := slice padded (1 + n * 3) (4 + n * 3)
      let t := (trio.getD 0 0, trio.getD 1 0, trio.getD 2 0)
      let declet ← assocIndex DPD_ENCODE t
        (lit "(" ++ dec t.1 ++ lit ", " ++ dec t.2.1 ++ lit ", " ++ dec t.2.2 ++ lit ")")
      .ok ((coeff <<< 10) ||| declet))
    0

/-- SOURCE: codec.py:222-273, where the value is a `Decimal`. -/
def encode_decfloat (value : PyDecimal) (width : ℕ) : Except PyError Bytes :=
  match DECF_PARAMS width with
  | none => .error (err .value (lit "DECFLOAT width must be 8 or 16, got " ++ dec width))
  | some ⟨econ_bits, declets, bias, ndigits⟩ =>
    let total := width * 8
    match value with
    | .nan sign _ =>
      .ok (toBE width ((sign.toNat <<< (total - 1)) ||| (0b11111 <<< (total - 6)))).reverse
    | .infinity sign =>
      .ok (toBE width ((sign.toNat <<< (total - 1)) ||| (0b11110 <<< (total - 6)))).reverse
    | .finite sign c exponent =>
      let digits := decimal_digits c
      let biased := exponent + bias
      if ndigits < digits.length then
        .error (err .value (value.str ++ lit " has " ++ dec digits.length ++
          lit " significant digits; DECFLOAT" ++ dec ndigits ++ lit " holds " ++ dec ndigits))
      else if ¬ (0 ≤ biased ∧ biased ≤ (3 <<< econ_bits : ℕ) - 1) then
        .error (err .value (lit "exponent " ++ lit (toString exponent) ++
          lit " is outside the DECFLOAT" ++ dec ndigits ++ lit " range"))
      else
        let biased := biased.toNat
        let padded := List.replicate (ndigits - digits.length) 0 ++ digits
        let lead := padded.getD 0 0
        let exp_high := biased >>> econ_bits
        let combo :=
          if lead ≤ 7 then (exp_high <<< 3) ||| lead
          else 0b11000 ||| (exp_high <<< 1) ||| (lead &&& 1)
        do
          let coeff ← encode_declets declets padded
          let packed :=
            (sign.toNat <<< (total - 1)) ||| (combo <<< (total - 6)) |||
              ((biased &&& ((1 <<< econ_bits) - 1)) <<< (total - 6 - econ_bits)) ||| coeff
          .ok (toBE width packed).reverse

/-! ## Packed decimals -/

/-- `_BCD_POSITIVE_SIGNS` -/
def BCD_POSITIVE_SIGNS : List ℕ := [0x0C, 0x0F, 0x0B]

/-- `_BCD_NEGATIVE_SIGN` -/
def BCD_NEGATIVE_SIGN : ℕ := 0x0D

/-- SOURCE: codec.py:421-424. -/
def bcd_width (field : FieldDesc) : ℤ :=
  (field.span field.unicode_mode).2

/-- The half bytes of a byte string, the high one first. -/
def nibbles_of (b : Bytes) : List ℕ :=
  b.flatMap fun x => [x.toNat >>> 4, x.toNat &&& 0x0F]

/-- `0x{n:X}` of a half byte -/
def hex_nibble (n : ℕ) : PyStr := lit "0x" ++ [hexDigit n]

/-- SOURCE: codec.py:427-461. -/
def decode_bcd (data : Bytes) (field : FieldDesc) : Except PyError PyDecimal :=
  let width := bcd_width field
  if width ≤ 0 then
    .error (err .value (lit "BCD field width must be positive, got " ++ lit (toString width)))
  else if (data.length : ℤ) < width then
    .error (err .value (lit "BCD field truncated: need " ++ lit (toString width) ++
      lit " bytes, have " ++ dec data.length))
  else
    let nibbles := nibbles_of (data.take width.toNat)
    let sign_nibble := nibbles.getLastD 0
    let nibbles := nibbles.dropLast
    if sign_nibble ≠ BCD_NEGATIVE_SIGN ∧ sign_nibble ∉ BCD_POSITIVE_SIGNS then
      .error (err .value (lit "invalid BCD sign nibble " ++ hex_nibble sign_nibble))
    else
      match nibbles.find? fun n => 9 < n with
      | some n => .error (err .value (lit "invalid BCD digit nibble " ++ hex_nibble n))
      | none =>
        (PyDecimal.finite (sign_nibble = BCD_NEGATIVE_SIGN) (of_digits nibbles) 0).scaleb
          (-field.decimals)

/-- The most digits that `str` prints of an `int`. -/
def INT_MAX_STR_DIGITS : ℕ := 4300

/-- `str(n)` in digits -/
def int_digits (n : ℕ) : Except PyError (List ℕ) :=
  if INT_MAX_STR_DIGITS < (decimal_digits n).length then
    .error (err .value (lit ("Exceeds the limit (4300 digits) for integer string conversion; " ++
      "use sys.set_int_max_str_digits() to increase the limit")))
  else .ok (decimal_digits n)

/-- SOURCE: codec.py:464-501, where the value is a `Decimal`. -/
def encode_bcd (value : PyDecimal) (field : FieldDesc) : Except PyError Bytes :=
  let width := bcd_width field
  if width ≤ 0 then
    .error (err .value (lit "BCD field width must be positive, got " ++ lit (toString width)))
  else do
    let width := width.toNat
    let digit_count := width * 2 - 1
    let scaled ← value.scaleb field.decimals
    let unscaled ← scaled.to_integral_value.to_int
    let digit_str ← int_digits unscaled.natAbs
    if digit_count < digit_str.length then
      .error (err .value (lit "BCD value " ++ value.str ++ lit " needs " ++ dec digit_str.length ++
        lit " digits but field holds " ++ dec digit_count))
    else
      let digits := List.replicate (digit_count - digit_str.length) 0 ++ digit_str
      let nibbles := digits ++ [if value.is_signed then BCD_NEGATIVE_SIGN else 0x0C]
      .ok ((List.range width).map fun i =>
        UInt8.ofNat ((nibbles.getD (2 * i) 0 <<< 4) ||| nibbles.getD (2 * i + 1) 0))

end SapRfc.Program
