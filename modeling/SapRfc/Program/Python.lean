import SapRfc.Library.Bytes
import SapRfc.Library.Effect

/-!
# Text and exceptions

What the sources take from their language: strings, the codecs they name, and the
exception classes they raise and catch.

A string is a list of code points; lone surrogates are allowed, as they are there.
What depends on Unicode tables is a field of `Unicode`, so every result about the
sources holds whatever those tables contain.
-/

set_option autoImplicit false

namespace SapRfc.Program

open SapRfc.Library

/-- A string: its code points. -/
abbrev PyStr : Type := List ℕ

instance instLawfulBEqPyStr : LawfulBEq PyStr := inferInstance

/-- A string written out in the source. -/
def lit (s : String) : PyStr := s.toList.map Char.toNat

/-- A number in decimal, as an f-string prints it. -/
def dec (n : ℕ) : PyStr := lit (toString n)

/-- INTERNAL: two numbers are printed differently. -/
theorem dec_injective {m n : ℕ} (h : dec m = dec n) : m = n := by
  have hstrings : toString m = toString n :=
    String.toList_inj.mp (List.map_injective_iff.mpr (fun _ _ => Char.toNat_inj.mp) h)
  have hdigits : Nat.toDigits 10 m = Nat.toDigits 10 n := by
    rw [← Nat.toList_repr, ← Nat.toList_repr]
    exact congrArg String.toList hstrings
  rw [← Nat.ofDigitChars_ten_toDigits (n := m), hdigits, Nat.ofDigitChars_ten_toDigits]

/-- It is printed in digits. -/
theorem mem_dec {n c : ℕ} (h : c ∈ dec n) : 48 ≤ c ∧ c ≤ 57 := by
  obtain ⟨d, hd, rfl⟩ := List.mem_map.mp h
  have hdigit : d.isDigit :=
    Nat.isDigit_of_mem_toDigits (by decide) (by decide) (Nat.toList_repr ▸ hd)
  rw [Char.isDigit, Bool.and_eq_true, decide_eq_true_eq, decide_eq_true_eq] at hdigit
  exact hdigit

/-- One hexadecimal digit, upper case. -/
def hexDigit (n : ℕ) : ℕ := if n < 10 then 48 + n else 55 + n

/-- One hexadecimal digit, lower case. -/
def hexDigitLower (n : ℕ) : ℕ := if n < 10 then 48 + n else 87 + n

/-- `f"{n:04x}"` of a number that fits four digits. -/
def hex4 (n : ℕ) : PyStr :=
  [n / 4096 % 16, n / 256 % 16, n / 16 % 16, n % 16].map hexDigitLower

/-- The Unicode tables of the standard library. -/
structure Unicode where
  /-- `bytes.decode("utf-8", "replace")` -/
  utf8Replace : Bytes → PyStr
  /-- `str.isprintable` of one character -/
  isPrintable : ℕ → Bool
  /-- `str.isspace` of one character -/
  isSpace : ℕ → Bool
  /-- `\w` of a regular expression -/
  isWord : ℕ → Bool
  /-- `\d` of a regular expression -/
  isDecimal : ℕ → Bool
  /-- `str.upper` -/
  upper : PyStr → PyStr
  /-- `repr` of a string -/
  repr : PyStr → PyStr
  /-- `int(s)`; `none` where it raises -/
  int : PyStr → Option ℤ
  /-- the text of the exception that `bytes.decode("utf-16-le")` raises -/
  utf16Error : Bytes → PyStr

/-- Tables that are right for ASCII text. -/
def asciiTables : Unicode where
  utf8Replace := fun b => b.map fun x => if x.toNat < 128 then x.toNat else 0xFFFD
  isPrintable := fun c => decide (32 ≤ c ∧ c < 127)
  isSpace := fun c => decide (9 ≤ c ∧ c ≤ 13 ∨ 28 ≤ c ∧ c ≤ 32)
  isWord := fun c => decide (48 ≤ c ∧ c ≤ 57 ∨ 65 ≤ c ∧ c ≤ 90 ∨ 97 ≤ c ∧ c ≤ 122 ∨ c = 95)
  isDecimal := fun c => decide (48 ≤ c ∧ c ≤ 57)
  upper := fun s => s.map fun c => if 97 ≤ c ∧ c ≤ 122 then c - 32 else c
  repr := fun s => lit "'" ++ s ++ lit "'"
  int := fun s =>
    if s ≠ [] ∧ s.all (fun c => 48 ≤ c ∧ c ≤ 57) then
      some (s.foldl (fun n c => 10 * n + (c - 48)) 0 : ℕ)
    else none
  utf16Error := fun _ => lit "'utf-16-le' codec can't decode bytes"

/-! ## Exceptions -/

/-- The exception classes that are raised or caught. -/
inductive ErrKind where
  | value | unicodeEncode | overflow | structError | key | index | type | attribute | runtime
  | notImplemented
  | os | timeout | eof
  | sapRfc | communication | abapApplication | abapSystem | transactional | retryExhausted
  | snc | webSocket | incompleteDescriptor
  /-- any other subclass of `Exception` -/
  | other
  /-- `asyncio.CancelledError`, not a subclass of `Exception` -/
  | cancelled
  /-- `KeyboardInterrupt` and the like, not subclasses of `Exception` -/
  | interrupt
  deriving DecidableEq, Repr

/-- The message fields of an ABAP error. -/
structure AbapDetail where
  key : Option PyStr
  msg_class : Option PyStr
  msg_type : Option PyStr
  msg_number : Option PyStr
  msg_v1 : Option PyStr
  msg_v2 : Option PyStr
  msg_v3 : Option PyStr
  msg_v4 : Option PyStr
  message : Option PyStr
  deriving DecidableEq, Repr

/-- An exception: its class, its text, and the message fields of an ABAP error. -/
structure PyError where
  kind : ErrKind
  text : PyStr
  detail : Option AbapDetail
  deriving DecidableEq, Repr

/-- An exception that carries nothing but a text. -/
def err (kind : ErrKind) (text : PyStr) : PyError := ⟨kind, text, none⟩

namespace ErrKind

/-- Caught by `except Exception`. -/
def isException : ErrKind → Bool
  | cancelled => false
  | interrupt => false
  | _ => true

/-- Caught by `except (AbapApplicationError, AbapSystemFailure)`. -/
def isAbap : ErrKind → Bool
  | abapApplication => true
  | abapSystem => true
  | _ => false

/-- Caught by `except (OSError, EOFError)`. -/
def isTransport : ErrKind → Bool
  | os => true
  | timeout => true
  | eof => true
  | _ => false

/-- Caught by `except ValueError`. -/
def isValueError : ErrKind → Bool
  | value => true
  | unicodeEncode => true
  | incompleteDescriptor => true
  | _ => false

/-- What is caught by name in the sources is caught by `except Exception` too. -/
theorem isException_of_isTransport {k : ErrKind} (h : k.isTransport = true) :
    k.isException = true := by
  cases k <;> first | rfl | cases h

end ErrKind

/-! ## Handlers -/

section Handlers

variable {σ α : Type}

/-- `try: x; except Exception as exc: ...` with the exception as a value. -/
def attempt (x : Eff PyError σ α) : Eff PyError σ (Except PyError α) :=
  tryCatch (do let a ← x; pure (.ok a))
    (fun e => if e.kind.isException then pure (.error e) else throw e)

theorem run_attempt_ok {x : Eff PyError σ α} {s s' : σ} {a : α}
    (h : Eff.run x s = (.ok a, s')) : Eff.run (attempt x) s = (.ok (.ok a), s') := by
  unfold attempt
  rw [Eff.run_tryCatch, Eff.run_bind_ok h]
  rfl

/-- A raise is caught as a value, or it goes through. -/
theorem run_attempt_error {x : Eff PyError σ α} {s s' : σ} {e : PyError}
    (h : Eff.run x s = (.error e, s')) :
    Eff.run (attempt x) s =
      (if e.kind.isException then .ok (.error e) else .error e, s') := by
  unfold attempt
  rw [Eff.run_tryCatch, Eff.run_bind_error h]
  show Eff.run (if e.kind.isException then pure (Except.error e) else throw e) s' = _
  rw [Eff.run_ite]
  split <;> rfl

/-- `except (OSError, EOFError) as exc: raise CommunicationError(str(exc))` -/
def wrapTransportError (x : Eff PyError σ α) : Eff PyError σ α :=
  tryCatch x fun exc =>
    if exc.kind.isTransport then throw (err .communication exc.text) else throw exc

/-- The exception that leaves a wrapped transport method. -/
def asCommunication (exc : PyError) : PyError :=
  if exc.kind.isTransport then err .communication exc.text else exc

theorem run_wrapTransportError (x : Eff PyError σ α) (s : σ) :
    Eff.run (wrapTransportError x) s =
      match Eff.run x s with
      | (.ok a, s') => (.ok a, s')
      | (.error exc, s') => (.error (asCommunication exc), s') := by
  unfold wrapTransportError
  rw [Eff.run_tryCatch]
  rcases Eff.run x s with ⟨exc | a, s'⟩
  · unfold asCommunication
    by_cases h : exc.kind.isTransport = true <;> simp [h]
  · rfl

end Handlers

/-! ## Codecs -/

/-- `s.encode("ascii", "replace")` -/
def encodeAsciiReplace (s : PyStr) : Bytes :=
  s.map fun c => if c < 128 then UInt8.ofNat c else 63

/-- A character as an escape of its code point, as the codecs print it. -/
def escapeChar (c : ℕ) : PyStr :=
  if c < 256 then lit "\\x" ++ [hexDigitLower (c / 16), hexDigitLower (c % 16)]
  else if c < 65536 then lit "\\u" ++ hex4 c
  else lit "\\U" ++ hex4 (c / 65536) ++ hex4 (c % 65536)

/-- `s.encode("ascii")`; the first run of characters that are not ASCII is named. -/
def encodeAscii (s : PyStr) : Except PyError Bytes :=
  match s.findIdx? fun c => 128 ≤ c with
  | none => .ok (s.map UInt8.ofNat)
  | some i =>
    let run := (s.drop i).takeWhile fun c => 128 ≤ c
    .error (err .unicodeEncode (lit "'ascii' codec can't encode character" ++
      (if run.length = 1 then lit " '" ++ escapeChar (s.getD i 0) ++ lit "' in position " ++ dec i
        else lit "s in position " ++ dec i ++ lit "-" ++ dec (i + run.length - 1)) ++
      lit ": ordinal not in range(128)"))

/-- A string is encoded where all of it is ASCII. -/
theorem encodeAscii_eq_ok {s : PyStr} {b : Bytes} :
    encodeAscii s = .ok b ↔ (∀ c ∈ s, c < 128) ∧ b = s.map UInt8.ofNat := by
  unfold encodeAscii
  cases hfind : s.findIdx? fun c => 128 ≤ c with
  | none =>
    have hall : ∀ c ∈ s, c < 128 := by simpa using List.findIdx?_eq_none_iff.mp hfind
    exact ⟨fun h => ⟨hall, (Except.ok.inj h).symm⟩, fun h => congrArg Except.ok h.2.symm⟩
  | some i =>
    refine ⟨nofun, fun h => absurd h.1 fun hall => ?_⟩
    obtain ⟨hi, hlarge, -⟩ := List.findIdx?_eq_some_iff_getElem.mp hfind
    exact absurd (hall s[i] (List.getElem_mem hi)) (Nat.not_lt_of_le (of_decide_eq_true hlarge))

/-- The bytes of a text that is ASCII. -/
def ascii (s : PyStr) : Bytes := s.map UInt8.ofNat

theorem encodeAscii_eq {s : PyStr} {b : Bytes} (h : encodeAscii s = .ok b) : b = ascii s :=
  (encodeAscii_eq_ok.mp h).2

/-- `chunk.hex().upper()` -/
def hexBytes (b : Bytes) : PyStr :=
  b.flatMap fun x => [hexDigit (x.toNat / 16), hexDigit (x.toNat % 16)]

/-- `s.encode("latin-1", "replace")` -/
def encodeLatin1Replace (s : PyStr) : Bytes :=
  s.map fun c => if c < 256 then UInt8.ofNat c else 63

/-- `b.decode("latin-1")` -/
def decodeLatin1 (b : Bytes) : PyStr := b.map UInt8.toNat

/-- `b.decode("ascii", errors="replace")` -/
def decodeAsciiReplace (b : Bytes) : PyStr :=
  b.map fun x => if x.toNat < 128 then x.toNat else 0xFFFD

/-- The EBCDIC code page 500. -/
def cp500Table : List ℕ :=
  [0, 1, 2, 3, 156, 9, 134, 127, 151, 141, 142, 11, 12, 13, 14, 15, 16, 17, 18, 19, 157, 133, 8,
   135, 24, 25, 146, 143, 28, 29, 30, 31, 128, 129, 130, 131, 132, 10, 23, 27, 136, 137, 138,
   139, 140, 5, 6, 7, 144, 145, 22, 147, 148, 149, 150, 4, 152, 153, 154, 155, 20, 21, 158, 26,
   32, 160, 226, 228, 224, 225, 227, 229, 231, 241, 91, 46, 60, 40, 43, 33, 38, 233, 234, 235,
   232, 237, 238, 239, 236, 223, 93, 36, 42, 41, 59, 94, 45, 47, 194, 196, 192, 193, 195, 197,
   199, 209, 166, 44, 37, 95, 62, 63, 248, 201, 202, 203, 200, 205, 206, 207, 204, 96, 58, 35,
   64, 39, 61, 34, 216, 97, 98, 99, 100, 101, 102, 103, 104, 105, 171, 187, 240, 253, 254, 177,
   176, 106, 107, 108, 109, 110, 111, 112, 113, 114, 170, 186, 230, 184, 198, 164, 181, 126,
   115, 116, 117, 118, 119, 120, 121, 122, 161, 191, 208, 221, 222, 174, 162, 163, 165, 183,
   169, 167, 182, 188, 189, 190, 172, 124, 175, 168, 180, 215, 123, 65, 66, 67, 68, 69, 70, 71,
   72, 73, 173, 244, 246, 242, 243, 245, 125, 74, 75, 76, 77, 78, 79, 80, 81, 82, 185, 251, 252,
   249, 250, 255, 92, 247, 83, 84, 85, 86, 87, 88, 89, 90, 178, 212, 214, 210, 211, 213, 48, 49,
   50, 51, 52, 53, 54, 55, 56, 57, 179, 219, 220, 217, 218, 159]

/-- `b.decode("cp500")` -/
def decodeCp500 (b : Bytes) : PyStr := b.map fun x => cp500Table.getD x.toNat 0

/-- Is this code unit one half of a surrogate pair? -/
def isSurrogate (u : ℕ) : Bool := decide (0xD800 ≤ u ∧ u < 0xE000)

/-- The two bytes of a UTF-16LE code unit. -/
def utf16Unit (u : ℕ) : Bytes := toLE 2 u

/-- `s.encode("utf-16-le")`; a lone surrogate cannot be encoded. -/
def encodeUtf16le (s : PyStr) : Except PyError Bytes :=
  if s.any isSurrogate then
    .error (err .unicodeEncode (lit "'utf-16-le' codec can't encode: surrogates not allowed"))
  else
    .ok (s.flatMap fun c =>
      if c < 0x10000 then utf16Unit c
      else utf16Unit (0xD800 + (c - 0x10000) / 1024) ++ utf16Unit (0xDC00 + (c - 0x10000) % 1024))

/-- The code units of a byte string; an odd byte at the end is left out. -/
def utf16Units : Bytes → List ℕ
  | a :: b :: rest => (a.toNat + 256 * b.toNat) :: utf16Units rest
  | _ => []

/-- The characters of a list of code units; `none` stands for a unit that is no
character. -/
def utf16Chars : List ℕ → List (Option ℕ)
  | [] => []
  | [u] => [if isSurrogate u then none else some u]
  | u :: v :: rest =>
    if u < 0xDC00 ∧ 0xD800 ≤ u ∧ 0xDC00 ≤ v ∧ v < 0xE000 then
      some (0x10000 + (u - 0xD800) * 1024 + (v - 0xDC00)) :: utf16Chars rest
    else if isSurrogate u then none :: utf16Chars (v :: rest)
    else some u :: utf16Chars (v :: rest)

/-- `b.decode("utf-16-le")`; `none` where it raises. -/
def decodeUtf16le? (b : Bytes) : Option PyStr :=
  if b.length % 2 = 1 then none else (utf16Chars (utf16Units b)).mapM id

/-- Is this code unit the first half of a surrogate pair? -/
def isHighSurrogate (u : ℕ) : Bool := decide (0xD800 ≤ u ∧ u < 0xDC00)

/-- `b.decode("utf-16-le", errors="replace")`.  An odd byte behind the first half of a pair is
replaced together with it. -/
def decodeUtf16leReplace (b : Bytes) : PyStr :=
  (utf16Chars (utf16Units b)).map (·.getD 0xFFFD) ++
    if b.length % 2 = 1 ∧ (utf16Units b).getLast?.any isHighSurrogate = false then [0xFFFD] else []

/-! ## String methods -/

/-- `s.rstrip(chars)` -/
def rstrip {α : Type} [DecidableEq α] (chars : List α) (s : List α) : List α :=
  (s.reverse.dropWhile (· ∈ chars)).reverse

/-- `s.lstrip(chars)` -/
def lstrip {α : Type} [DecidableEq α] (chars : List α) (s : List α) : List α :=
  s.dropWhile (· ∈ chars)

/-- The padding that every text field of the wire is stripped of, `"\x00 "`. -/
def padding : PyStr := [0, 32]

/-- The characters at which `str.splitlines` ends a line. -/
def isLineBreak (c : ℕ) : Bool :=
  decide (10 ≤ c ∧ c ≤ 13 ∨ 28 ≤ c ∧ c ≤ 30 ∨ c = 0x85 ∨ c = 0x2028 ∨ c = 0x2029)

/-- `s.splitlines()[0]`; an empty string has no line. -/
def firstLine (s : PyStr) : Except PyError PyStr :=
  if s = [] then .error (err .index (lit "list index out of range"))
  else .ok (s.takeWhile fun c => !isLineBreak c)

/-- `s.split(sep)` for a separator of one element. -/
def splitOn {α : Type} [DecidableEq α] (sep : α) : List α → List (List α)
  | [] => [[]]
  | x :: xs =>
    if x = sep then [] :: splitOn sep xs
    else
      match splitOn sep xs with
      | [] => [[x]]
      | part :: parts => (x :: part) :: parts

/-- INTERNAL: a string without the separator is one part. -/
theorem splitOn_of_not_mem {α : Type} [DecidableEq α] {sep : α} {part : List α} (h : sep ∉ part) :
    splitOn sep part = [part] := by
  induction part with
  | nil => rfl
  | cons x part ih =>
    obtain ⟨hx, hpart⟩ := not_or.mp (mt List.mem_cons.mpr h)
    rw [splitOn, if_neg (Ne.symm hx), ih hpart]

/-- INTERNAL: a part without the separator is cut off at the next one. -/
theorem splitOn_append {α : Type} [DecidableEq α] {sep : α} {part : List α} (rest : List α)
    (h : sep ∉ part) : splitOn sep (part ++ sep :: rest) = part :: splitOn sep rest := by
  induction part with
  | nil =>
    show splitOn sep (sep :: rest) = _
    rw [splitOn, if_pos rfl]
  | cons x part ih =>
    obtain ⟨hx, hpart⟩ := not_or.mp (mt List.mem_cons.mpr h)
    show splitOn sep (x :: (part ++ sep :: rest)) = _
    rw [splitOn, if_neg (Ne.symm hx), ih hpart]

/-- Parts with a separator in front of each are split into an empty part and themselves. -/
theorem splitOn_flatMap {α : Type} [DecidableEq α] {sep : α} {parts : List (List α)}
    (h : ∀ part ∈ parts, sep ∉ part) :
    splitOn sep (parts.flatMap fun part => sep :: part) = [] :: parts := by
  induction parts with
  | nil => rfl
  | cons part parts ih =>
    have hpart := h part List.mem_cons_self
    have htail := ih fun p hp => h p (List.mem_cons_of_mem _ hp)
    rw [List.flatMap_cons, List.cons_append, splitOn, if_pos rfl]
    congr 1
    cases parts with
    | nil => rw [List.flatMap_nil, List.append_nil, splitOn_of_not_mem hpart]
    | cons next parts =>
      rw [List.flatMap_cons, List.cons_append, splitOn, if_pos rfl] at htail
      rw [List.flatMap_cons, List.cons_append, splitOn_append _ hpart, (List.cons.inj htail).2]

/-- `sep.join(parts)` -/
def joinWith (sep : PyStr) : List PyStr → PyStr
  | [] => []
  | [p] => p
  | p :: q :: rest => p ++ sep ++ joinWith sep (q :: rest)

/-- `s.split()`: the words between white space. -/
def words (u : Unicode) (s : PyStr) : List PyStr :=
  (splitOn 32 (s.map fun c => if u.isSpace c then 32 else c)).filter (· ≠ [])

/-- `s.strip()` -/
def strip (u : Unicode) (s : PyStr) : PyStr :=
  ((s.dropWhile u.isSpace).reverse.dropWhile u.isSpace).reverse

end SapRfc.Program
