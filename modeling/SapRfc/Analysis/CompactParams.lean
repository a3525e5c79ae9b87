import Mathlib.Data.List.GetD
import SapRfc.Analysis.Dicts
import SapRfc.Program.Params

/-!
# The compact block of importing parameters

A block names its parameters first, and their values follow in the same order.  The scan looks
for `0x43`, a length of one byte, `0x80`, that many bytes and `0x45`.  The length of a value has
two bytes, of which the second is `0x80` for the short values only.  So a long value is passed
over without a trace, and each later value goes to the name before its own.
-/

set_option autoImplicit false

namespace SapRfc.Analysis.CompactParams

open SapRfc.Library SapRfc.Program SapRfc.Analysis.Dicts

/-! ## Blocks -/

def Ascii (b : Bytes) : Prop := ∀ x ∈ b, x.toNat < 128

/-- An importing `CHAR` parameter, with what its type block holds behind `0x44`. -/
structure ImportParam where
  name : Bytes
  descriptor : Bytes
  value : Bytes
  name_length : 1 ≤ name.length ∧ name.length ≤ 255
  name_ascii : Ascii name
  no_value_mark : 0x43 ∉ descriptor
  value_length : value.length < 2 ^ 15
  value_ascii : Ascii value

/-- A declaration: the name of an importing parameter, or a type of an exporting one. -/
structure Declaration where
  importing : Bool
  name : Bytes
  name_length : name.length ≤ 255

/-- `0x51` or `0x54`, the length of the name and the name. -/
def Declaration.encode (d : Declaration) : Bytes :=
  (if d.importing then 0x51 else 0x54) :: UInt8.ofNat d.name.length :: d.name

/-- The type block, `0x43`, the length with the high bit set, the value and `0x45`. -/
def ImportParam.encode (param : ImportParam) : Bytes :=
  0x44 :: (param.descriptor ++
    0x43 :: (toLE 2 (0x8000 + param.value.length) ++ (param.value ++ [0x45])))

/-- A block whose declarations name its parameters in order. -/
structure CompactBlock where
  header : Bytes
  declarations : List Declaration
  params : List ImportParam
  header_length : header.length = 14
  declared : (declarations.filter (·.importing)).map (·.name) = params.map (·.name)

def CompactBlock.encode (b : CompactBlock) : Bytes :=
  b.header ++ (b.declarations.flatMap Declaration.encode ++ b.params.flatMap ImportParam.encode)

/-- Each name and its own value. -/
def own_values (params : List ImportParam) : Values PyStr :=
  params.map fun param => (param.name.map (·.toNat), param.value.map (·.toNat))

/-- A dict that is filled in this order. -/
def dictOf (entries : Values PyStr) : Values PyStr :=
  entries.foldl (fun d e => assocSet d e.1 e.2) []

/-! ## The scan on what is left of the block -/

/-- The search for a value, and what stands behind it. -/
def find_value : Bytes → Option (Bytes × Bytes)
  | [] => none
  | b :: rest =>
    if rest.length ≤ 2 then none
    else if b = 0x43 ∧ rest.getD 1 0 = 0x80 ∧ 2 + (rest.getD 0 0).toNat < rest.length ∧
        rest.getD (2 + (rest.getD 0 0).toNat) 0 = 0x45 then
      some (slice rest 2 (2 + (rest.getD 0 0).toNat), rest.drop (2 + (rest.getD 0 0).toNat + 1))
    else find_value rest

/-- INTERNAL: a byte behind a prefix. -/
theorem getD_append_at (a s : Bytes) (n : ℕ) : (a ++ s).getD (a.length + n) 0 = s.getD n 0 := by
  rw [List.getD_append_right _ _ _ _ (Nat.le_add_right _ _), Nat.add_sub_cancel_left]

/-- The search from an offset is a search in what stands there. -/
theorem find_5001_value_eq (s : Bytes) : ∀ (fuel : ℕ) (a : Bytes), s.length ≤ fuel →
    find_5001_value (a ++ s) fuel a.length =
      (find_value s).map fun found =>
        (decodeAsciiReplace found.1, (a ++ s).length - found.2.length) := by
  induction s with
  | nil =>
    intro fuel a _
    cases fuel with
    | zero => rfl
    | succ fuel =>
      unfold find_5001_value
      rw [if_pos (by simp)]
      rfl
  | cons b rest ih =>
    intro fuel a hfuel
    cases fuel with
    | zero => cases hfuel
    | succ fuel =>
      have hrest : find_5001_value (a ++ b :: rest) fuel (a.length + 1) =
          (find_value rest).map fun found =>
            (decodeAsciiReplace found.1, (a ++ b :: rest).length - found.2.length) := by
        have hnext := ih fuel (a ++ [b]) (Nat.le_of_succ_le_succ hfuel)
        rw [List.append_assoc, List.singleton_append, List.length_append,
          List.length_singleton] at hnext
        exact hnext
      have hlen : (a ++ b :: rest).length = a.length + rest.length + 1 := by
        rw [List.length_append, List.length_cons, Nat.add_assoc]
      have hat : ∀ n, (a ++ b :: rest).getD (a.length + 1 + n) 0 = rest.getD n 0 := by
        intro n
        rw [Nat.add_assoc, getD_append_at, Nat.add_comm 1 n]
        rfl
      have hfirst : (a ++ b :: rest).getD a.length 0 = b := getD_append_at a (b :: rest) 0
      have hslice : ∀ n, slice (a ++ b :: rest) (a.length + 3) (a.length + 3 + n) =
          slice rest 2 (2 + n) := by
        intro n
        have h := slice_append_right (a ++ [b]) rest 2 (2 + n)
        rw [List.append_assoc, List.singleton_append, List.length_append,
          List.length_singleton, Nat.add_assoc, Nat.add_assoc] at h
        rw [← h, Nat.add_assoc, Nat.add_assoc 1 2 n |>.symm]
      unfold find_5001_value find_value
      rw [hlen, hfirst, hat 1, hat 0]
      by_cases hshort : rest.length ≤ 2
      · rw [if_pos hshort, if_pos (by omega)]
        rfl
      · rw [if_neg hshort, if_neg (by omega)]
        generalize hwidth : (rest.getD 0 0).toNat = width
        have hend : (a ++ b :: rest).getD (a.length + 3 + width) 0 = rest.getD (2 + width) 0 := by
          rw [← hat, Nat.add_assoc, Nat.add_assoc, ← Nat.add_assoc 1]
        by_cases hmark : b = 0x43 ∧ rest.getD 1 0 = 0x80
        · rw [if_pos hmark]
          dsimp only
          rw [hend, hslice]
          by_cases hclosed : 2 + width < rest.length ∧ rest.getD (2 + width) 0 = 0x45
          · rw [if_pos ⟨by omega, hclosed.2⟩, if_pos ⟨hmark.1, hmark.2, hclosed⟩]
            show some (_, _) = some (_, _)
            rw [List.length_drop]
            congr 2
            omega
          · rw [if_neg (fun h => hclosed ⟨by omega, h.2⟩), if_neg (fun h => hclosed h.2.2), hrest,
              hlen]
        · rw [if_neg hmark, if_neg (fun h => hmark ⟨h.1, h.2.1⟩), hrest, hlen]

/-- The values of the names that wait for one. -/
def take_values : List PyStr → Bytes → Values PyStr
  | [], _ => []
  | name :: names, s =>
    match find_value s with
    | none => []
    | some (value, rest) => (name, decodeAsciiReplace value) :: take_values names rest

/-- INTERNAL: what is left behind a value is an end of what was searched. -/
theorem find_value_suffix {s value rest : Bytes} (h : find_value s = some (value, rest)) :
    ∃ u, s = u ++ rest := by
  induction s with
  | nil => cases h
  | cons b s ih =>
    unfold find_value at h
    split at h
    · cases h
    · split at h
      · cases h
        exact ⟨b :: s.take _, by rw [List.cons_append, List.take_append_drop]⟩
      · obtain ⟨u, hu⟩ := ih h
        exact ⟨b :: u, by rw [hu]; rfl⟩

/-- The scan from an offset is a scan of what stands there. -/
theorem scan_5001_pending_eq (data : Bytes) (names : List PyStr) : ∀ (a s : Bytes), data = a ++ s →
    scan_5001_pending data names a.length = take_values names s := by
  induction names with
  | nil => exact fun _ _ _ => rfl
  | cons name names ih =>
    intro a s hdata
    unfold scan_5001_pending take_values
    have hfind := find_5001_value_eq s data.length a (by rw [hdata]; simp)
    rw [hdata] at hfind ⊢
    rw [hfind]
    cases hvalue : find_value s with
    | none => rfl
    | some found =>
      obtain ⟨value, rest⟩ := found
      obtain ⟨u, hu⟩ := find_value_suffix hvalue
      have hnext := ih (a ++ u) rest (by rw [hdata, hu, List.append_assoc])
      rw [hdata] at hnext
      have hpos : (a ++ s).length - rest.length = (a ++ u).length := by
        rw [hu]
        simp only [List.length_append]
        omega
      show (name, decodeAsciiReplace value) :: scan_5001_pending (a ++ s) names _ = _
      rw [hpos, hnext]

/-! ## Declarations -/

/-- The names that a value follows, and the offset behind the declarations. -/
theorem scan_5001_declarations_eq (data : Bytes) (body : Bytes)
    (hbody : body = [] ∨ ∃ rest, body = 0x44 :: rest) (declarations : List Declaration) :
    ∀ (a : Bytes) (fuel : ℕ), declarations.length ≤ fuel →
      data = a ++ (declarations.flatMap Declaration.encode ++ body) →
      scan_5001_declarations data fuel a.length =
        ((declarations.filter (·.importing)).map (decodeAsciiReplace ·.name),
          (a ++ declarations.flatMap Declaration.encode).length) := by
  induction declarations with
  | nil =>
    intro a fuel _ hdata
    rw [List.flatMap_nil, List.nil_append] at hdata
    rw [List.flatMap_nil, List.append_nil]
    cases fuel with
    | zero => rfl
    | succ fuel =>
      unfold scan_5001_declarations
      by_cases hshort : data.length ≤ a.length + 1
      · rw [if_pos hshort]
        rfl
      · rw [if_neg hshort]
        rcases hbody with rfl | ⟨rest, rfl⟩
        · rw [hdata, List.append_nil] at hshort
          omega
        · have hfirst : data.getD a.length 0 = 0x44 := by
            rw [hdata]
            exact getD_append_at a (0x44 :: rest) 0
          rw [hfirst, if_pos (by decide)]
          rfl
  | cons d declarations ih =>
    intro a fuel hfuel hdata
    cases fuel with
    | zero => cases hfuel
    | succ fuel =>
      have hall : data = (a ++ d.encode) ++ (declarations.flatMap Declaration.encode ++ body) := by
        rw [hdata, List.flatMap_cons, List.append_assoc, List.append_assoc]
      have hlength : d.encode.length = 2 + d.name.length := by
        unfold Declaration.encode
        rw [List.length_cons, List.length_cons]
        omega
      have hlong : (a ++ d.encode).length ≤ data.length := by
        rw [hall]
        exact (List.prefix_append (a ++ d.encode) _).length_le
      rw [List.length_append, hlength] at hlong
      have htype : data.getD a.length 0 = if d.importing then 0x51 else 0x54 := by
        rw [hdata]
        exact getD_append_at a _ 0
      have hwidth : (data.getD (a.length + 1) 0).toNat = d.name.length := by
        rw [hdata, getD_append_at]
        show (UInt8.ofNat d.name.length).toNat = _
        have hle := d.name_length
        rw [UInt8.toNat_ofNat', Nat.mod_eq_of_lt (by omega)]
      have hname : slice data (a.length + 2) (a.length + 2 + d.name.length) = d.name := by
        rw [hall, List.append_assoc, Nat.add_assoc, slice_append_right,
          slice_append_left _ _ (Nat.le_of_eq hlength.symm)]
        show ((d.name).drop 0).take (2 + d.name.length - 2) = d.name
        rw [List.drop_zero, Nat.add_sub_cancel_left, List.take_length]
      have hrest := ih (a ++ d.encode) fuel (Nat.le_of_succ_le_succ hfuel) hall
      rw [List.length_append, hlength, ← Nat.add_assoc] at hrest
      unfold scan_5001_declarations
      rw [if_neg (by omega), htype, hwidth]
      dsimp only
      rw [if_neg (by cases d.importing <;> decide), if_neg (by omega), if_neg (by omega), hrest,
        hname]
      have hoffset : (a ++ d.encode ++ declarations.flatMap Declaration.encode).length =
          (a ++ (d :: declarations).flatMap Declaration.encode).length := by
        rw [List.flatMap_cons, List.append_assoc]
      dsimp only
      rw [hoffset]
      cases himporting : d.importing with
      | true =>
        rw [List.filter_cons_of_pos himporting]
        rfl
      | false =>
        rw [List.filter_cons_of_neg (by rw [himporting]; nofun)]
        rfl

/-! ## Values -/

/-- INTERNAL: a byte at which no value begins. -/
theorem find_value_cons_of_not {b : UInt8} {rest : Bytes}
    (h : b ≠ 0x43 ∨ rest.getD 1 0 ≠ 0x80) : find_value (b :: rest) = find_value rest := by
  rw [find_value]
  by_cases hshort : rest.length ≤ 2
  · rw [if_pos hshort]
    cases rest with
    | nil => rfl
    | cons b' rest =>
      rw [List.length_cons] at hshort
      rw [find_value, if_pos (by omega)]
  · rw [if_neg hshort, if_neg (fun hhit => h.elim (· hhit.1) (· hhit.2.1))]

/-- INTERNAL: a type block has no byte at which a value begins. -/
theorem find_value_skip {u : Bytes} (h : 0x43 ∉ u) (v : Bytes) :
    find_value (u ++ v) = find_value v := by
  induction u with
  | nil => rfl
  | cons b u ih =>
    rw [List.cons_append, find_value_cons_of_not (.inl fun heq => h (heq ▸ List.mem_cons_self))]
    exact ih fun hmem => h (List.mem_cons_of_mem _ hmem)

/-- What stands behind a value does not continue it. -/
def Closed (rest : Bytes) : Prop := rest.getD 0 0 ≠ 0x80

/-- INTERNAL: within the text of a value no value begins. -/
theorem find_value_text {text rest : Bytes} (htext : Ascii text) (hrest : Closed rest) :
    find_value (text ++ 0x45 :: rest) = find_value rest := by
  have hend : find_value (0x45 :: rest) = find_value rest :=
    find_value_cons_of_not (.inl (by decide))
  induction text with
  | nil => exact hend
  | cons x text ih =>
    have htail : Ascii text := fun y hy => htext y (List.mem_cons_of_mem _ hy)
    rw [List.cons_append, find_value_cons_of_not (.inr ?_), ih htail]
    cases text with
    | nil => exact hrest
    | cons y text =>
      cases text with
      | nil =>
        show (0x45 : UInt8) ≠ 0x80
        decide
      | cons z text =>
        show z ≠ 0x80
        rintro rfl
        exact absurd (htail 0x80 (List.mem_cons_of_mem _ List.mem_cons_self)) (by decide)

/-- INTERNAL: the search gets to the mark of the value. -/
theorem find_value_encode (param : ImportParam) (rest : Bytes) :
    find_value (param.encode ++ rest) =
      find_value (0x43 :: UInt8.ofNat (0x8000 + param.value.length) ::
        UInt8.ofNat ((0x8000 + param.value.length) / 256) :: (param.value ++ 0x45 :: rest)) := by
  unfold ImportParam.encode
  rw [toLE_two, List.cons_append, find_value_cons_of_not (.inl (by decide)), List.append_assoc,
    find_value_skip param.no_value_mark]
  simp only [List.cons_append, List.nil_append, List.append_assoc]

/-- A short value is found, up to its end marker. -/
theorem find_value_short (param : ImportParam) (h : param.value.length < 256) (rest : Bytes) :
    find_value (param.encode ++ rest) = some (param.value, rest) := by
  have hlow : (UInt8.ofNat (0x8000 + param.value.length)).toNat = param.value.length := by
    rw [UInt8.toNat_ofNat']
    omega
  have hhigh : (0x8000 + param.value.length) / 256 = 0x80 := by omega
  rw [find_value_encode, hhigh]
  generalize UInt8.ofNat (0x8000 + param.value.length) = low at hlow ⊢
  generalize hbehind : low :: UInt8.ofNat 0x80 :: (param.value ++ 0x45 :: rest) = behind
  have hsplit : behind = ([low, UInt8.ofNat 0x80] ++ param.value) ++ 0x45 :: rest := by
    rw [← hbehind]
    rfl
  have hlength : ([low, UInt8.ofNat 0x80] ++ param.value).length = 2 + param.value.length := by
    rw [List.length_append]
    rfl
  have hfirst : (behind.getD 0 0).toNat = param.value.length := by
    rw [← hbehind]
    exact hlow
  have hsecond : behind.getD 1 0 = 0x80 := by
    rw [← hbehind]
    rfl
  have hend : behind.getD (2 + param.value.length) 0 = 0x45 := by
    rw [hsplit, ← hlength]
    exact getD_append_at _ (0x45 :: rest) 0
  have hlong : behind.length = 2 + param.value.length + 1 + rest.length := by
    rw [hsplit, List.length_append, hlength, List.length_cons]
    omega
  have hvalue : slice behind 2 (2 + param.value.length) = param.value := by
    rw [hsplit, slice_append_left _ _ (Nat.le_of_eq hlength.symm)]
    show (param.value.drop 0).take (2 + param.value.length - 2) = param.value
    rw [List.drop_zero, Nat.add_sub_cancel_left, List.take_length]
  have hrest : behind.drop (2 + param.value.length + 1) = rest := by
    rw [hsplit, ← hlength, ← List.drop_drop, List.drop_left]
    rfl
  unfold find_value
  rw [hfirst, if_neg (by omega), if_pos ⟨rfl, hsecond, by omega, hend⟩, hvalue, hrest]

/-- INTERNAL: the two bytes of a long length are no mark. -/
theorem long_mark (param : ImportParam) (h : 256 ≤ param.value.length) :
    UInt8.ofNat ((0x8000 + param.value.length) / 256) ≠ 0x80 ∧
      UInt8.ofNat ((0x8000 + param.value.length) / 256) ≠ 0x43 := by
  have hbound := param.value_length
  have hnat : (UInt8.ofNat ((0x8000 + param.value.length) / 256)).toNat =
      128 + param.value.length / 256 := by
    rw [UInt8.toNat_ofNat']
    omega
  constructor
  · intro heq
    rw [heq] at hnat
    have h80 : (0x80 : UInt8).toNat = 128 := rfl
    omega
  · intro heq
    rw [heq] at hnat
    have h43 : (0x43 : UInt8).toNat = 67 := rfl
    omega

/-- A long value is not found, and the search goes on behind it. -/
theorem find_value_long (param : ImportParam) (h : 256 ≤ param.value.length) {rest : Bytes}
    (hrest : Closed rest) : find_value (param.encode ++ rest) = find_value rest := by
  obtain ⟨hhigh, hmark⟩ := long_mark param h
  rw [find_value_encode]
  generalize UInt8.ofNat (0x8000 + param.value.length) = low
  generalize UInt8.ofNat ((0x8000 + param.value.length) / 256) = high at hhigh hmark ⊢
  have htext : Ascii param.value := param.value_ascii
  generalize param.value = value at h htext ⊢
  have hfirst : (value ++ 0x45 :: rest).getD 0 0 ≠ 0x80 := by
    cases value with
    | nil => cases h
    | cons x text =>
      show x ≠ 0x80
      rintro rfl
      exact absurd (htext 0x80 List.mem_cons_self) (by decide)
  have hone : find_value (0x43 :: low :: high :: (value ++ 0x45 :: rest)) =
      find_value (low :: high :: (value ++ 0x45 :: rest)) :=
    find_value_cons_of_not (.inr hhigh)
  have htwo : find_value (low :: high :: (value ++ 0x45 :: rest)) =
      find_value (high :: (value ++ 0x45 :: rest)) :=
    find_value_cons_of_not (.inr hfirst)
  rw [hone, htwo, find_value_cons_of_not (.inl hmark), find_value_text htext hrest]

/-- Behind its parameters a block closes each value. -/
theorem closed_encode (params : List ImportParam) : Closed (params.flatMap ImportParam.encode) := by
  cases params with
  | nil =>
    show (0 : UInt8) ≠ 0x80
    decide
  | cons param params =>
    show (0x44 : UInt8) ≠ 0x80
    decide

/-- The short values go to the names in order. -/
theorem take_values_encode (params : List ImportParam) : ∀ names : List PyStr,
    take_values names (params.flatMap ImportParam.encode) =
      names.zip ((params.filter (·.value.length < 256)).map fun param =>
        decodeAsciiReplace param.value) := by
  induction params with
  | nil =>
    intro names
    cases names <;> rfl
  | cons param params ih =>
    intro names
    cases names with
    | nil => rfl
    | cons name names =>
      rw [List.flatMap_cons]
      by_cases hshort : param.value.length < 256
      · rw [List.filter_cons_of_pos (by simpa using hshort), List.map_cons, List.zip_cons_cons,
          ← ih names]
        have hfound := find_value_short param hshort (params.flatMap ImportParam.encode)
        rw [take_values, hfound]
      · rw [List.filter_cons_of_neg (by simpa using hshort), ← ih (name :: names)]
        have hlong := find_value_long param (Nat.le_of_not_lt hshort) (closed_encode params)
        rw [take_values, hlong]
        rfl

/-! ## Blocks as dicts -/

/-- INTERNAL: an ASCII text. -/
theorem decodeAsciiReplace_of_ascii {b : Bytes} (h : Ascii b) :
    decodeAsciiReplace b = b.map (·.toNat) := by
  unfold decodeAsciiReplace
  refine List.map_congr_left fun x hx => ?_
  rw [if_pos (h x hx)]

/-- INTERNAL: a dict with distinct keys has the entries in the order they came in. -/
theorem foldl_of_nodup {entries : Values PyStr} : ∀ acc : Values PyStr,
    (acc.map Prod.fst ++ entries.map Prod.fst).Nodup →
    entries.foldl (fun d e => assocSet d e.1 e.2) acc = acc ++ entries := by
  induction entries with
  | nil => exact fun acc _ => (List.append_nil acc).symm
  | cons e entries ih =>
    intro acc h
    rw [List.map_cons] at h
    have hfresh : ∀ e' ∈ acc, e'.1 ≠ e.1 := by
      intro e' he' heq
      exact (List.nodup_append.mp h).2.2 _ (List.mem_map_of_mem he') _ List.mem_cons_self heq
    rw [List.foldl_cons, assocSet_of_fresh _ hfresh, ih]
    · rw [List.append_assoc]
      rfl
    · rw [List.map_append, List.append_assoc]
      exact h

theorem dictOf_of_nodup {entries : Values PyStr} (h : (entries.map Prod.fst).Nodup) :
    dictOf entries = entries :=
  foldl_of_nodup [] h

/-- The names of the parameters, as `str`. -/
def names_of (params : List ImportParam) : List PyStr :=
  params.map fun param => param.name.map (·.toNat)

/-- The values that the scan finds, as `str`. -/
def short_values (params : List ImportParam) : List PyStr :=
  (params.filter (·.value.length < 256)).map fun param => param.value.map (·.toNat)

/-- The scan gives the names, in order, the values that have less than 256 bytes. -/
theorem extract_5001_params_encode (b : CompactBlock) :
    extract_5001_params b.encode = dictOf ((names_of b.params).zip (short_values b.params)) := by
  have hbody : b.params.flatMap ImportParam.encode = [] ∨
      ∃ rest, b.params.flatMap ImportParam.encode = 0x44 :: rest := by
    cases b.params with
    | nil => exact .inl rfl
    | cons param params => exact .inr ⟨_, rfl⟩
  have hlength : b.declarations.length ≤ b.encode.length := by
    have hmap : b.declarations.length ≤ (b.declarations.flatMap Declaration.encode).length := by
      induction b.declarations with
      | nil => exact Nat.le_refl 0
      | cons d declarations ih =>
        rw [List.flatMap_cons, List.length_append, List.length_cons]
        have hone : 1 ≤ d.encode.length := Nat.succ_le_succ (Nat.zero_le _)
        omega
    unfold CompactBlock.encode
    simp only [List.length_append]
    omega
  have hscan := scan_5001_declarations_eq b.encode _ hbody b.declarations b.header b.encode.length
    hlength rfl
  rw [b.header_length] at hscan
  have hvalues := scan_5001_pending_eq b.encode
    ((b.declarations.filter (·.importing)).map (decodeAsciiReplace ·.name))
    (b.header ++ b.declarations.flatMap Declaration.encode) (b.params.flatMap ImportParam.encode)
    (List.append_assoc _ _ _).symm
  have hnames : (b.declarations.filter (·.importing)).map (decodeAsciiReplace ·.name) =
      names_of b.params := by
    have hmap := congrArg (List.map decodeAsciiReplace) b.declared
    rw [List.map_map, List.map_map] at hmap
    refine hmap.trans (List.map_congr_left fun param _ => ?_)
    exact decodeAsciiReplace_of_ascii param.name_ascii
  have hshort : (b.params.filter (·.value.length < 256)).map
      (fun param => decodeAsciiReplace param.value) = short_values b.params :=
    List.map_congr_left fun param _ => decodeAsciiReplace_of_ascii param.value_ascii
  unfold extract_5001_params
  rw [hscan]
  dsimp only
  rw [hvalues, hnames, take_values_encode, hshort]
  rfl

/-- INTERNAL: where each value is short, each name has its own value. -/
theorem zip_short_values {params : List ImportParam} (h : ∀ p ∈ params, p.value.length < 256) :
    (names_of params).zip (short_values params) = own_values params := by
  unfold short_values names_of own_values
  rw [List.filter_eq_self.mpr fun p hp => decide_eq_true (h p hp), List.zip_map']

/-- INTERNAL: where each name has a value, each value is short. -/
theorem short_of_named {params : List ImportParam} (hnodup : (names_of params).Nodup)
    (h : ∀ name ∈ names_of params, ∃ value, (name, value) ∈
      (names_of params).zip (short_values params)) : ∀ p ∈ params, p.value.length < 256 := by
  have hsubset : names_of params ⊆ ((names_of params).zip (short_values params)).map Prod.fst := by
    intro name hname
    obtain ⟨value, hmem⟩ := h name hname
    exact List.mem_map.mpr ⟨_, hmem, rfl⟩
  have hle := hnodup.length_le_of_subset hsubset
  rw [List.length_map, List.length_zip] at hle
  have hall : (params.filter (·.value.length < 256)).length = params.length := by
    have hnames : (names_of params).length = params.length := List.length_map _
    have hshort : (short_values params).length =
        (params.filter (·.value.length < 256)).length := List.length_map _
    have hfilter := List.length_filter_le (fun p : ImportParam => decide (p.value.length < 256))
        params
    omega
  intro p hp
  exact of_decide_eq_true (List.length_filter_eq_length_iff.mp hall p hp)

/-- INTERNAL: a value too few leaves the last names out. -/
theorem map_fst_zip_sublist (names values : List PyStr) :
    ((names.zip values).map Prod.fst).Sublist names := by
  rw [List.zip_eq_zip_take_min, List.map_fst_zip]
  · exact List.take_sublist _ _
  · rw [List.length_take, List.length_take]
    omega

/-- INTERNAL: distinct names are distinct as `str`. -/
theorem names_of_nodup {params : List ImportParam} (h : (params.map (·.name)).Nodup) :
    (names_of params).Nodup := by
  have hinj : Function.Injective fun name : Bytes => name.map (·.toNat) :=
    List.map_injective_iff.mpr fun x y hxy => UInt8.toNat_inj.mp hxy
  have hmap := h.map hinj
  rw [List.map_map] at hmap
  exact hmap

/-- The dict of a block has for each name its own value when each value has less than 256 bytes,
and with distinct names not otherwise. -/
theorem block_gives_own_values (b : CompactBlock) :
    ((∀ p ∈ b.params, p.value.length < 256) →
      extract_5001_params b.encode = dictOf (own_values b.params)) ∧
    ((b.params.map (·.name)).Nodup →
      ((∀ name, assocGet (extract_5001_params b.encode) name =
          assocGet (own_values b.params) name) ↔ ∀ p ∈ b.params, p.value.length < 256)) := by
  rw [extract_5001_params_encode]
  constructor
  · intro hshort
    rw [zip_short_values hshort]
  · intro hnames
    have hnodup := names_of_nodup hnames
    have hown : ((own_values b.params).map Prod.fst).Nodup := by
      unfold own_values
      rw [List.map_map]
      exact hnodup
    have hfound : (((names_of b.params).zip (short_values b.params)).map Prod.fst).Nodup :=
      hnodup.sublist (map_fst_zip_sublist _ _)
    rw [dictOf_of_nodup hfound]
    constructor
    · intro hagree
      refine short_of_named hnodup fun name hname => ?_
      obtain ⟨p, hp, rfl⟩ := List.mem_map.mp hname
      refine ⟨p.value.map (·.toNat), (assocGet_eq_some hfound).mp ?_⟩
      rw [hagree, assocGet_eq_some hown]
      exact List.mem_map.mpr ⟨p, hp, rfl⟩
    · intro hshort name
      rw [zip_short_values hshort]

section Runs

/-- INTERNAL: one ASCII character. -/
theorem ascii_singleton {x : UInt8} (h : x.toNat < 128) : Ascii [x] := by
  intro y hy
  obtain rfl := List.mem_singleton.mp hy
  exact h

/-- A value with as many bytes as given, and a value with one byte. -/
def two_params (n : ℕ) (h : n < 2 ^ 15) : List ImportParam :=
  [{ name := [0x41], descriptor := [0x01, 0x02], value := List.replicate n 0x58
     name_length := by decide
     name_ascii := ascii_singleton (by decide)
     no_value_mark := by decide
     value_length := by rwa [List.length_replicate]
     value_ascii := fun x hx => by
       obtain rfl := List.eq_of_mem_replicate hx
       decide },
   { name := [0x42], descriptor := [], value := [0x31]
     name_length := by decide
     name_ascii := ascii_singleton (by decide)
     no_value_mark := by decide
     value_length := by decide
     value_ascii := ascii_singleton (by decide) }]

/-- A result and the two parameters. -/
def two_params_block (n : ℕ) (h : n < 2 ^ 15) : CompactBlock where
  header := 0x24 :: 0x48 :: List.replicate 12 0
  declarations := [⟨false, [0x52], by decide⟩, ⟨true, [0x41], by decide⟩, ⟨true, [0x42], by decide⟩]
  params := two_params n h
  header_length := rfl
  declared := rfl

/-- Two short values reach their names. -/
theorem short_values_own :
    (∀ p ∈ two_params 255 (by decide), p.value.length < 256) ∧
      extract_5001_params (two_params_block 255 (by decide)).encode =
        dictOf (own_values (two_params 255 (by decide))) := by
  have hshort : ∀ p ∈ two_params 255 (by decide), p.value.length < 256 := by
    intro p hp
    rcases List.mem_cons.mp hp with rfl | hp
    · show (List.replicate 255 (0x58 : UInt8)).length < 256
      rw [List.length_replicate]
      decide
    · obtain rfl := List.mem_singleton.mp hp
      show [(0x31 : UInt8)].length < 256
      decide
  exact ⟨hshort, (block_gives_own_values (two_params_block 255 (by decide))).1 hshort⟩

/-- A value of 256 bytes is lost, and its name has the value of the next one. -/
theorem long_value_shifts :
    assocGet (extract_5001_params (two_params_block 256 (by decide)).encode) [0x41] = some [0x31] ∧
      assocGet (extract_5001_params (two_params_block 256 (by decide)).encode) [0x42] = none ∧
      assocGet (own_values (two_params 256 (by decide))) [0x41] =
        some (List.replicate 256 0x58) ∧
      assocGet (own_values (two_params 256 (by decide))) [0x42] = some [0x31] := by
  decide +kernel

end Runs

end SapRfc.Analysis.CompactParams
