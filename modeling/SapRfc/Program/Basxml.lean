import SapRfc.Program.Params

/-!
# Tables as XML

`invoke.py`: a table that a reply carries as plain-text XML.  The scanner knows elements with
text in them and nothing else, and resolves the five predefined entities and the numeric
character references.
-/

set_option autoImplicit false

namespace SapRfc.Program

open SapRfc.Library

/-- `text.find(sub, lo, hi)` -/
def find (text sub : PyStr) (lo hi : ℕ) : Option ℕ :=
  (List.range (text.length + 1)).find? fun i =>
    lo ≤ i ∧ i + sub.length ≤ min hi text.length ∧ slice text i (i + sub.length) = sub

/-- `text.rfind(sub)` -/
def rfind (text sub : PyStr) : Option ℕ :=
  (List.range (text.length + 1)).reverse.find? fun i =>
    i + sub.length ≤ text.length ∧ slice text i (i + sub.length) = sub

/-- `_BASXML_BINARY_MAGIC` -/
def BASXML_BINARY_MAGIC : Bytes := [0x42, 0x58, 0x4D, 0x4C]

/-- `_BASXML_MAX_BYTES` -/
def BASXML_MAX_BYTES : ℕ := 64 * 1024 * 1024

/-- `_BASXML_MAX_ITEMS` -/
def BASXML_MAX_ITEMS : ℕ := 1000000

/-- `_BASXML_ENTITIES` -/
def BASXML_ENTITIES : List (PyStr × ℕ) :=
  [(lit "amp", 38), (lit "lt", 60), (lit "gt", 62), (lit "quot", 34), (lit "apos", 39)]

section Decode

variable (u : Unicode) (int16 : PyStr → Option ℤ)

/-- The character that a reference `&ref;` stands for; `none` where it stays as it is. -/
def xml_reference (ref : PyStr) : Option ℕ :=
  if ref.take 1 = lit "#" then
    let code := if slice ref 1 2 = lit "x" ∨ slice ref 1 2 = lit "X" then int16 (ref.drop 2)
      else u.int (ref.drop 1)
    -- `chr(code)` raises outside of these bounds
    code.bind fun code => if 0 ≤ code ∧ code < 0x110000 then some code.toNat else none
  else assocGet BASXML_ENTITIES ref

/-- SOURCE: invoke.py:1290-1330.  The text from one place on; `fuel` is at least its length. -/
def xml_unescape : ℕ → PyStr → PyStr
  | 0, text => text
  | _ + 1, [] => []
  | fuel + 1, ch :: rest =>
    if ch ≠ 38 then ch :: xml_unescape fuel rest
    else
      match (rest.take 11).idxOf? 59 with
      | none => ch :: xml_unescape fuel rest
      | some stop =>
        match xml_reference u int16 (rest.take stop) with
        | some code => code :: xml_unescape fuel (rest.drop (stop + 1))
        | none => ch :: xml_unescape fuel rest

/-- SOURCE: invoke.py:1333-1356.  The elements from `pos` to `stop`: the tag, and where its
content begins and ends. -/
def basxml_elements (text : PyStr) (stop : ℕ) : ℕ → ℕ → List (PyStr × ℕ × ℕ)
  | 0, _ => []
  | fuel + 1, pos =>
    if stop ≤ pos then []
    else
      match find text (lit "<") pos stop with
      | none => []
      | some open_lt =>
        match find text (lit ">") (open_lt + 1) stop with
        | none => []
        | some open_gt =>
          let tag := slice text (open_lt + 1) open_gt
          if tag.take 1 ∈ [lit "/", lit "?", lit "!"] then
            basxml_elements text stop fuel (open_gt + 1)
          else if tag.getLast? = some 47 then
            (strip u tag.dropLast, open_gt + 1, open_gt + 1) ::
              basxml_elements text stop fuel (open_gt + 1)
          else
            let closing := lit "</" ++ tag ++ lit ">"
            match find text closing (open_gt + 1) stop with
            | none => []
            | some close_at =>
              (tag, open_gt + 1, close_at) ::
                basxml_elements text stop fuel (close_at + closing.length)

/-- The place where the markup closes that begins a text, counted with nested brackets. -/
def markup_end : ℕ → PyStr → ℕ
  | _, [] => 0
  | depth, c :: text =>
    if c = 60 then markup_end (depth + 1) text + 1
    else if c = 62 then if depth = 1 then 0 else markup_end (depth - 1) text + 1
    else markup_end depth text + 1

/-- SOURCE: invoke.py:1409-1424.  The text behind declarations, a DTD and comments. -/
def skip_prologue : ℕ → PyStr → ℕ → ℕ
  | 0, _, scan => scan
  | fuel + 1, text, scan =>
    match find text (lit "<") scan text.length with
    | none => scan
    | some nxt =>
      if slice text (nxt + 1) (nxt + 2) ∉ [lit "?", lit "!"] then scan
      else skip_prologue fuel text (nxt + markup_end 0 (text.drop nxt) + 1)

/-- SOURCE: invoke.py:1427-1434.  Where the content of the wrapper begins and ends. -/
def basxml_body (text : PyStr) : ℕ × ℕ :=
  match decide (text.take 1 = lit "<"), find text (lit ">") 0 text.length with
  | true, some first_gt =>
    match rfind text (lit "</" ++ slice text 1 first_gt ++ lit ">") with
    | some close_at => (first_gt + 1, close_at)
    | none => (0, text.length)
  | _, _ => (0, text.length)

/-- The elements of one row; the text of a row without elements is kept under its own tag. -/
def basxml_row (text : PyStr) (element : PyStr × ℕ × ℕ) : List (PyStr × PyStr) :=
  let value (lo hi : ℕ) : PyStr := xml_unescape u int16 (text.length + 1) (slice text lo hi)
  let row := (basxml_elements u text element.2.2 (text.length + 1) element.2.1).foldl
    (fun row e => assocSet row e.1 (value e.2.1 e.2.2)) []
  if row = [] then [(element.1, value element.2.1 element.2.2)] else row

/-- SOURCE: invoke.py:1359-1448. -/
def decode_basxml_table (payload : Bytes) (table_name : PyStr) :
    Except PyError (List (List (PyStr × PyStr))) :=
  if payload.take 4 = BASXML_BINARY_MAGIC then
    .error (err .notImplemented (lit "table " ++ u.repr table_name ++
      lit (" arrived in SAP's binary BASXML encoding (BXML magic), which is not implemented — see " ++
        "https://github.com/randomstr1ng/saprfclib/issues/18. This is a different format from the " ++
        "plain-text XML tables saprfclib does decode; decoding it as text would produce nonsense.")))
  else if BASXML_MAX_BYTES < payload.length then
    .error (err .value (lit "BASXML payload for table " ++ u.repr table_name ++ lit " is " ++
      dec payload.length ++ lit " bytes, over the " ++ dec BASXML_MAX_BYTES ++ lit " byte cap"))
  else
    let decoded := u.utf8Replace payload
    let text := decoded.drop (skip_prologue decoded.length decoded 0)
    let (body_start, body_end) := basxml_body text
    let elements := basxml_elements u text body_end (text.length + 1) body_start
    if BASXML_MAX_ITEMS < elements.length then
      .error (err .value (lit "BASXML table " ++ u.repr table_name ++ lit " exceeds the " ++
        dec BASXML_MAX_ITEMS ++ lit " row cap"))
    else .ok (elements.map (basxml_row u int16 text))

end Decode

end SapRfc.Program
