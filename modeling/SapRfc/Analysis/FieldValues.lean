import Mathlib.Data.List.DropRight
import Mathlib.Tactic.MkIffOfInductiveProp
import SapRfc.Analysis.Decfloat
import SapRfc.Analysis.PackedDecimals
import SapRfc.Analysis.SpanBounds
import SapRfc.Analysis.TextCodecs

/-!
# Values that come back from their fields

Each scalar type of a fixed width has its own rule of padding, so each has its own lemma here: a
value that fits a field of the right width is encoded in no more bytes than the field has, and the
bytes of the field, with zeros behind them, are read back as a value that the lemma names.
-/

set_option autoImplicit false

namespace SapRfc.Analysis.FieldValues

open SapRfc.Library SapRfc.Library.DecimalInterchange SapRfc.Program SapRfc.Program.PyDecimal
open SapRfc.Analysis.Decfloat SapRfc.Analysis.DecimalContext SapRfc.Analysis.PackedDecimals
open RowLayouts SpanBounds TextCodecs

/-! ## Fields of the right width -/

/-- The scalar types that are text of a fixed width. -/
def TEXT_TYPES : List ℕ := [RFCTYPE_CHAR, RFCTYPE_NUM, RFCTYPE_DATE, RFCTYPE_TIME]

/-- The scalar types of a fixed width. -/
def FIXED_TYPES : List ℕ :=
  INT_TYPES ++ [RFCTYPE_INT1, RFCTYPE_FLOAT, RFCTYPE_DECF16, RFCTYPE_DECF34, RFCTYPE_BCD,
    RFCTYPE_BYTE] ++ TEXT_TYPES

/-- The format of a decimal floating-point type. -/
def format_of (rfctype : ℕ) : Format :=
  if rfctype = RFCTYPE_DECF16 then decimal64 else decimal128

/-- The span of a field has the width of its type.  A text has two bytes for a character in both
layouts, and a packed number has up to sixteen bytes, with its decimals among its digits. -/
@[mk_iff]
structure RightWidth (mode : Bool) (f : FieldDesc) : Prop where
  int : f.rfctype ∈ INT_TYPES → (f.span mode).2 = int_size f.rfctype
  int1 : f.rfctype = RFCTYPE_INT1 → (f.span mode).2 = 1
  float : f.rfctype = RFCTYPE_FLOAT → (f.span mode).2 = 8
  decfloat : f.rfctype ∈ [RFCTYPE_DECF16, RFCTYPE_DECF34] →
    (f.span mode).2 = if f.rfctype = RFCTYPE_DECF16 then 8 else 16
  bcd : f.rfctype = RFCTYPE_BCD → 1 ≤ (f.span mode).2 ∧ (f.span mode).2 ≤ 16 ∧
    0 ≤ f.decimals ∧ f.decimals ≤ 2 * (f.span mode).2 - 1
  text : f.rfctype ∈ TEXT_TYPES → (f.span mode).2 = 2 * char_count f

instance (mode : Bool) (f : FieldDesc) : Decidable (RightWidth mode f) :=
  decidable_of_iff' _ (rightWidth_iff mode f)

/-- The value is encoded in the field, and the field is read back as the scalar. -/
def ReadsBack (u : Unicode) (k : Builtins) (mode : Bool) (f : FieldDesc) (value : PyVal PyLeaf)
    (back : PyLeaf) : Prop :=
  ∃ raw, encode_leaf u k f.rfctype value (in_mode mode f) = .ok raw ∧
    raw.length ≤ width mode f ∧
      decode_leaf u k f.rfctype (raw ++ List.replicate (width mode f - raw.length) 0)
        (in_mode mode f) = .ok back

/-- What is read back is determined. -/
theorem reads_back_unique {u : Unicode} {k : Builtins} {mode : Bool} {f : FieldDesc}
    {value : PyVal PyLeaf} {back back' : PyLeaf} (h : ReadsBack u k mode f value back)
    (h' : ReadsBack u k mode f value back') : back = back' := by
  obtain ⟨raw, hraw, -, hback⟩ := h
  obtain ⟨raw', hraw', -, hback'⟩ := h'
  obtain rfl := Except.ok.inj (hraw.symm.trans hraw')
  exact Except.ok.inj (hback.symm.trans hback')

section Fields

variable {u : Unicode} {k : Builtins} {mode : Bool} {f : FieldDesc}

/-- INTERNAL: a value that takes all bytes of its field. -/
theorem reads_back_of_exact {value : PyVal PyLeaf} {raw : Bytes} {back : PyLeaf}
    (hraw : encode_leaf u k f.rfctype value (in_mode mode f) = .ok raw)
    (hlength : raw.length = width mode f)
    (hback : decode_leaf u k f.rfctype raw (in_mode mode f) = .ok back) :
    ReadsBack u k mode f value back := by
  refine ⟨raw, hraw, hlength.le, ?_⟩
  rw [hlength, Nat.sub_self, List.replicate_zero, List.append_nil]
  exact hback

/-! ## Numbers -/

/-- INTERNAL: half of the numbers of some bytes. -/
theorem two_mul_half {size : ℕ} (h : 0 < size) : 2 * (256 ^ size / 2) = 256 ^ size := by
  obtain ⟨n, rfl⟩ := Nat.exists_eq_add_of_lt h
  rw [Nat.zero_add, pow_succ]
  omega

/-- A signed integer is unpacked as it was packed. -/
theorem unpack_packed {size : ℕ} (hsize : 0 < size) {n : ℤ}
    (h : -(256 ^ size / 2 : ℕ) ≤ n ∧ n < (256 ^ size / 2 : ℕ)) :
    ∃ raw, pack_int size n = .ok raw ∧ raw.length = size ∧ unpack_int size raw = .ok n := by
  have hhalf := two_mul_half hsize
  have hpos : 0 < 256 ^ size := Nat.pow_pos (by omega)
  refine ⟨toLE size (n % (256 ^ size : ℕ)).toNat, if_pos h, length_toLE _ _, ?_⟩
  have hmod : ((n % (256 ^ size : ℕ)).toNat : ℤ) = n % (256 ^ size : ℕ) :=
    Int.toNat_of_nonneg (Int.emod_nonneg n (by omega))
  have hlt : n % (256 ^ size : ℕ) < (256 ^ size : ℕ) := Int.emod_lt_of_pos n (by omega)
  have hread : ofLE (toLE size (n % (256 ^ size : ℕ)).toNat) = (n % (256 ^ size : ℕ)).toNat :=
    ofLE_toLE (by omega)
  unfold unpack_int
  rw [if_neg (not_not.mpr (length_toLE _ _)), hread]
  generalize 256 ^ size = bound at hhalf hpos h hmod hlt ⊢
  by_cases hsign : 0 ≤ n
  · have heq : n % (bound : ℤ) = n := Int.emod_eq_of_lt hsign (by omega)
    rw [heq] at hmod
    rw [heq, if_pos (by omega), hmod]
  · have heq : n % (bound : ℤ) = n + bound := by
      rw [← Int.add_emod_right, Int.emod_eq_of_lt (by omega) (by omega)]
    rw [heq] at hmod
    rw [heq, if_neg (by omega), hmod]
    congr 1
    omega

/-- INTERNAL: the integers are no other types. -/
theorem int_types : ∀ t ∈ INT_TYPES, t ∉ OUT_OF_SCOPE ∧ t ∉ [RFCTYPE_DECF16, RFCTYPE_DECF34] ∧
    0 < int_size t := by
  decide

theorem int_reads_back (htype : f.rfctype ∈ INT_TYPES)
    (hwidth : (f.span mode).2 = int_size f.rfctype) {value : PyVal PyLeaf} {n : ℤ}
    (hvalue : py_int u k value = .ok n)
    (hn : -(256 ^ int_size f.rfctype / 2 : ℕ) ≤ n ∧ n < (256 ^ int_size f.rfctype / 2 : ℕ)) :
    ReadsBack u k mode f value (.int n) := by
  obtain ⟨hscope, hdecfloat, hsize⟩ := int_types _ htype
  obtain ⟨raw, hraw, hlength, hback⟩ := unpack_packed hsize hn
  have hencoded : encode_leaf u k f.rfctype value (in_mode mode f) = .ok raw := by
    unfold encode_leaf
    rw [if_neg hscope, if_neg hdecfloat, if_pos htype, hvalue]
    exact hraw
  apply reads_back_of_exact hencoded
  · unfold width
    omega
  · unfold decode_leaf
    rw [if_neg hscope, if_neg hdecfloat, if_pos htype, List.take_of_length_le hlength.le, hback]
    rfl

theorem int1_reads_back (htype : f.rfctype = RFCTYPE_INT1) (hwidth : (f.span mode).2 = 1)
    {value : PyVal PyLeaf} {n : ℤ} (hvalue : py_int u k value = .ok n) (hn : 0 ≤ n ∧ n ≤ 0xFF) :
    ReadsBack u k mode f value (.int n) := by
  have hbyte : ((UInt8.ofNat n.toNat).toNat : ℤ) = n := by
    rw [UInt8.toNat_ofNat', Nat.mod_eq_of_lt (by omega)]
    omega
  have hencoded : encode_leaf u k f.rfctype value (in_mode mode f) =
      .ok [UInt8.ofNat n.toNat] := by
    rw [htype]
    show (py_int u k value).bind _ = _
    rw [hvalue]
    exact if_pos hn
  apply reads_back_of_exact hencoded
  · unfold width
    rw [hwidth]
    rfl
  · rw [htype]
    show Except.ok (PyLeaf.int (UInt8.ofNat n.toNat).toNat) = _
    rw [hbyte]

theorem float_reads_back (htype : f.rfctype = RFCTYPE_FLOAT) (hwidth : (f.span mode).2 = 8)
    {value : PyVal PyLeaf} {bits : UInt64} (hvalue : py_float k value = .ok bits) :
    ReadsBack u k mode f value (.float bits) := by
  have hlength : (toLE 8 bits.toNat).length = 8 := length_toLE _ _
  have hencoded : encode_leaf u k f.rfctype value (in_mode mode f) = .ok (toLE 8 bits.toNat) := by
    rw [htype]
    show (py_float k value).map _ = _
    rw [hvalue]
    rfl
  apply reads_back_of_exact hencoded
  · unfold width
    rw [hwidth]
    exact hlength
  · rw [htype]
    show (if ((toLE 8 bits.toNat).take 8).length ≠ 8 then
        Except.error (err .structError (lit "unpack requires a buffer of 8 bytes"))
      else .ok (PyLeaf.float (UInt64.ofNat (ofLE ((toLE 8 bits.toNat).take 8))))) = _
    rw [List.take_of_length_le hlength.le, if_neg (not_not.mpr hlength),
      ofLE_toLE bits.toNat_lt, UInt64.ofNat_toNat]

/-- INTERNAL: the formats of the two types. -/
theorem interchange_format {t : ℕ} (h : t ∈ [RFCTYPE_DECF16, RFCTYPE_DECF34]) :
    interchange (if t = RFCTYPE_DECF16 then 8 else 16) = some (format_of t) ∧ t ∉ OUT_OF_SCOPE := by
  rcases List.mem_cons.mp h with rfl | h
  · exact ⟨rfl, by decide⟩
  · obtain rfl := List.mem_singleton.mp h
    exact ⟨rfl, by decide⟩

/-- A decimal number that a format can hold.  It can hold every number that is not finite. -/
def Holdable (format : Format) : PyDecimal → Prop
  | .finite _ coeff exp => Holds format coeff exp
  | _ => True

/-- What is read back from a format: a NaN is quiet there. -/
def quiet : PyDecimal → PyDecimal
  | .nan sign _ => .nan sign false
  | value => value

/-- INTERNAL: a number that is not finite is read back. -/
theorem special_read_back {width : ℕ} {format : Format} (h : interchange width = some format)
    (sign signaling : Bool) :
    (∃ raw, encode_decfloat (.infinity sign) width = .ok raw ∧ raw.length = width ∧
      decode_decfloat raw = .ok (.infinity sign)) ∧
    ∃ raw, encode_decfloat (.nan sign signaling) width = .ok raw ∧ raw.length = width ∧
      decode_decfloat raw = .ok (.nan sign false) := by
  unfold interchange at h
  split at h
  · constructor
    · exact ⟨_, rfl, by cases sign <;> rfl, by cases sign <;> decide +kernel⟩
    · exact ⟨_, rfl, by cases sign <;> rfl, by cases sign <;> decide +kernel⟩
  · constructor
    · exact ⟨_, rfl, by cases sign <;> rfl, by cases sign <;> decide +kernel⟩
    · exact ⟨_, rfl, by cases sign <;> rfl, by cases sign <;> decide +kernel⟩
  · cases h

theorem decfloat_reads_back (htype : f.rfctype ∈ [RFCTYPE_DECF16, RFCTYPE_DECF34])
    (hwidth : (f.span mode).2 = if f.rfctype = RFCTYPE_DECF16 then 8 else 16)
    {value : PyVal PyLeaf} {d : PyDecimal} (hvalue : py_decimal k value = .ok d)
    (hd : Holdable (format_of f.rfctype) d) : ReadsBack u k mode f value (.decimal (quiet d)) := by
  obtain ⟨hformat, hscope⟩ := interchange_format htype
  have hback : ∃ raw, encode_decfloat d (if f.rfctype = RFCTYPE_DECF16 then 8 else 16) = .ok raw ∧
      raw.length = (if f.rfctype = RFCTYPE_DECF16 then 8 else 16) ∧
        decode_decfloat raw = .ok (quiet d) := by
    cases d with
    | finite sign coeff exp => exact read_back hformat sign hd
    | infinity sign => exact (special_read_back hformat sign false).1
    | nan sign signaling => exact (special_read_back hformat sign signaling).2
  obtain ⟨raw, hraw, hlength, hdecoded⟩ := hback
  have hencoded : encode_leaf u k f.rfctype value (in_mode mode f) = .ok raw := by
    unfold encode_leaf
    rw [if_neg hscope, if_pos htype, hvalue]
    exact hraw
  apply reads_back_of_exact hencoded
  · unfold width
    rw [hlength, hwidth]
    split <;> rfl
  · unfold decode_leaf
    rw [if_neg hscope, if_pos htype, hdecoded]
    rfl

/-! ## Packed numbers -/

/-- A value that stands for a decimal number.  A float does not. -/
def StandsFor (k : Builtins) (value : PyVal PyLeaf) (d : PyDecimal) : Prop :=
  (∀ bits, value ≠ .leaf (.float bits)) ∧ py_decimal k value = .ok d

/-- INTERNAL: the encoder of a value that stands for a number. -/
theorem encode_bcd_value_eq {value : PyVal PyLeaf} {d : PyDecimal} (h : StandsFor k value d)
    (field : FieldDesc) : encode_bcd_value k value field = encode_bcd d field := by
  obtain ⟨hfloat, hvalue⟩ := h
  unfold encode_bcd_value
  split
  · exact absurd rfl (hfloat _)
  · rw [hvalue]
    rfl

/-- INTERNAL: the width and the decimals of a packed number. -/
theorem packed_span (htype : f.rfctype = RFCTYPE_BCD) (hright : RightWidth mode f) :
    ∃ w places : ℕ, bcd_width (in_mode mode f) = w ∧ width mode f = w ∧ f.decimals = places ∧
      0 < w ∧ w ≤ 16 ∧ places ≤ 31 ∧ capacity w = 2 * width mode f - 1 := by
  obtain ⟨hpos, hsixteen, hlow, hhigh⟩ := hright.bcd htype
  obtain ⟨w, hw⟩ := Int.eq_ofNat_of_zero_le (show 0 ≤ (f.span mode).2 by omega)
  obtain ⟨places, hplaces⟩ := Int.eq_ofNat_of_zero_le hlow
  have hwidth : width mode f = w := by
    unfold width
    rw [hw, Int.toNat_natCast]
  refine ⟨w, places, hw, hwidth, hplaces, by omega, by omega, by omega, ?_⟩
  unfold capacity
  rw [hwidth, Nat.mul_comm]

/-- INTERNAL: packed bytes that are read back. -/
theorem packed_reads_back (htype : f.rfctype = RFCTYPE_BCD) {value : PyVal PyLeaf}
    {d back : PyDecimal}
    (hvalue : StandsFor k value d) {w : ℕ} (hwidth : width mode f = w) {nibbles : List ℕ}
    (hencoded : encode_bcd d (in_mode mode f) = .ok (packed w nibbles))
    (hback : decode_bcd (packed w nibbles) (in_mode mode f) = .ok back) :
    ReadsBack u k mode f value (.decimal back) := by
  have hraw : encode_leaf u k f.rfctype value (in_mode mode f) = .ok (packed w nibbles) := by
    rw [htype]
    exact (encode_bcd_value_eq hvalue _).trans hencoded
  apply reads_back_of_exact hraw
  · unfold packed
    rw [List.length_map, List.length_range, hwidth]
  · rw [htype]
    show (decode_bcd _ _).map PyLeaf.decimal = _
    rw [hback]
    rfl

/-- A number that fits is packed, and read back as a number. -/
theorem bcd_reads_back (htype : f.rfctype = RFCTYPE_BCD) (hright : RightWidth mode f)
    {value : PyVal PyLeaf} {d : PyDecimal} (hvalue : StandsFor k value d) {n : ℤ}
    (hn : Spells d (n * 10 ^ (-f.decimals))) (hfits : n.natAbs < 10 ^ (2 * width mode f - 1))
    (hrounded : rounded n.natAbs < 10 ^ (2 * width mode f - 1)) :
    ∃ back, ReadsBack u k mode f value (.decimal back) := by
  obtain ⟨w, places, hfield, hwidth, hplaces, hpos, hsixteen, hdigits, hcapacity⟩ :=
    packed_span htype hright
  rw [hplaces] at hn
  rw [← hcapacity] at hfits hrounded
  obtain ⟨back, hback, -⟩ :=
    decode_packed hfield hpos hplaces hdigits (is_signed d) hsixteen hrounded
  have hencoded := encode_bcd_fits hfield hpos hplaces hdigits hsixteen hn hfits hrounded
  exact ⟨back, packed_reads_back htype hvalue hwidth hencoded hback⟩

/-- A number that has more digits than its field when it is rounded is rejected. -/
theorem bcd_rejected (htype : f.rfctype = RFCTYPE_BCD) (hright : RightWidth mode f)
    {value : PyVal PyLeaf} {d : PyDecimal} (hvalue : StandsFor k value d) {n : ℤ}
    (hn : Spells d (n * 10 ^ (-f.decimals)))
    (hlarge : 10 ^ (2 * width mode f - 1) ≤ rounded n.natAbs) :
    ∃ e, encode_leaf u k f.rfctype value (in_mode mode f) = .error e := by
  obtain ⟨w, places, hfield, -, hplaces, hpos, -, hdigits, hcapacity⟩ := packed_span htype hright
  rw [hplaces] at hn
  rw [← hcapacity] at hlarge
  obtain ⟨e, he⟩ := encode_bcd_rejects hfield hpos hplaces hdigits hn hlarge
  refine ⟨e, ?_⟩
  rw [htype]
  exact (encode_bcd_value_eq hvalue _).trans he

/-- A number of no more than 28 digits is read back as it is, with the decimals of its field. -/
theorem bcd_reads_back_exact (htype : f.rfctype = RFCTYPE_BCD) (hright : RightWidth mode f)
    {value : PyVal PyLeaf} {d : PyDecimal} (hvalue : StandsFor k value d) {n : ℤ}
    (hn : Spells d (n * 10 ^ (-f.decimals))) (hfits : n.natAbs < 10 ^ (2 * width mode f - 1))
    (hprec : n.natAbs < 10 ^ PREC) :
    ReadsBack u k mode f value (.decimal (.finite (is_signed d) n.natAbs (-f.decimals))) := by
  obtain ⟨w, places, hfield, hwidth, hplaces, hpos, hsixteen, hdigits, hcapacity⟩ :=
    packed_span htype hright
  have hrounded := rounded_of_fits hprec
  rw [← hcapacity] at hfits
  rw [hplaces] at hn ⊢
  have hback := decode_packed_exact hfield hpos hplaces hdigits (is_signed d) hfits hprec
  have hencoded := encode_bcd_fits hfield hpos hplaces hdigits hsixteen hn hfits
    (hrounded.symm ▸ hfits)
  rw [hrounded] at hencoded
  exact packed_reads_back htype hvalue hwidth hencoded hback

/-! ## Texts -/

/-- Every character is one code unit. -/
def Plain (s : PyStr) : Prop := ∀ c ∈ s, c < 0x10000 ∧ isSurrogate c = false

instance (s : PyStr) : Decidable (Plain s) :=
  inferInstanceAs (Decidable (∀ c ∈ s, c < 0x10000 ∧ isSurrogate c = false))

theorem swap_units_swap_units (b : Bytes) : swap_units (swap_units b) = b := by
  induction b using List.twoStepInduction with
  | nil => rfl
  | singleton a => rfl
  | cons_cons a b rest ih _ =>
    show a :: b :: swap_units (swap_units rest) = _
    rw [ih]

theorem uc_bytes_of_plain {s : PyStr} (h : Plain s) : uc_bytes s = 2 * s.length := by
  unfold uc_bytes
  induction s with
  | nil => rfl
  | cons c s ih =>
    have hc := (h c List.mem_cons_self).1
    rw [List.map_cons, List.sum_cons, if_pos hc, ih fun d hd => h d (List.mem_cons_of_mem _ hd),
      List.length_cons]
    omega

/-- INTERNAL: a text of one code unit for a character is encoded, and decoded to itself. -/
theorem encode_plain {s : PyStr} (h : Plain s) :
    ∃ raw, encode_uc mode s = .ok raw ∧ raw.length = 2 * s.length ∧
      decodeUtf16le? (if mode then raw else swap_units raw) = some s := by
  have htext : IsText s := fun c hc => lt_trans (h c hc).1 (by decide)
  have hnone : ¬ s.any isSurrogate = true := by
    rw [Bool.not_eq_true, List.any_eq_false]
    intro c hc
    rw [(h c hc).2]
    exact Bool.false_ne_true
  obtain ⟨le, hle⟩ : ∃ le, encodeUtf16le s = .ok le := ⟨_, if_neg hnone⟩
  have hback := decodeUtf16le_encode htext hle
  have hraw : encode_uc mode s = .ok (if mode then le else swap_units le) := by
    unfold encode_uc
    rw [hle]
  refine ⟨_, hraw, (length_encode_uc hraw).trans (uc_bytes_of_plain h), ?_⟩
  cases mode with
  | true => exact hback
  | false =>
    show decodeUtf16le? (swap_units (swap_units le)) = some s
    rw [swap_units_swap_units]
    exact hback

/-- INTERNAL: a text that is not longer than its field is padded, and not cut. -/
theorem fixed_text_eq {w : ℕ} (hw : char_count f = w) {s : PyStr} (h : s.length ≤ w) (pad : ℕ) :
    fixed_text s f pad =
      if pad = 48 then List.replicate (w - s.length) pad ++ s
      else s ++ List.replicate (w - s.length) pad := by
  have hfill : ((w : ℤ) - s.length).toNat = w - s.length := by omega
  unfold fixed_text
  dsimp only
  rw [hw, hfill]
  by_cases hzero : w = 0
  · have hnil : s = [] := List.length_eq_zero_iff.mp (by omega)
    rw [if_neg (by omega), hzero, hnil]
    simp
  · rw [if_pos (by omega)]
    unfold pyIndex
    rw [if_neg (by omega), Int.toNat_natCast]
    apply List.take_of_length_le
    split
    · rw [List.length_append, List.length_replicate]
      omega
    · rw [List.length_append, List.length_replicate]
      omega

/-- INTERNAL: and has then the width of the field. -/
theorem length_fixed_text {w : ℕ} (hw : char_count f = w) {s : PyStr} (h : s.length ≤ w) (pad : ℕ) :
    (fixed_text s f pad).length = w := by
  rw [fixed_text_eq hw h]
  split
  · rw [List.length_append, List.length_replicate]
    omega
  · rw [List.length_append, List.length_replicate]
    omega

/-- INTERNAL: and has the characters of the text, and those of the padding. -/
theorem plain_fixed_text {w : ℕ} (hw : char_count f = w) {s : PyStr} (h : s.length ≤ w) {pad : ℕ}
    (hs : Plain s) (hpad : pad < 0xD800) : Plain (fixed_text s f pad) := by
  have hmem : ∀ c ∈ fixed_text s f pad, c ∈ s ∨ c = pad := by
    intro c hc
    rw [fixed_text_eq hw h] at hc
    split at hc
    · rcases List.mem_append.mp hc with hc | hc
      · exact .inr (List.eq_of_mem_replicate hc)
      · exact .inl hc
    · rcases List.mem_append.mp hc with hc | hc
      · exact .inl hc
      · exact .inr (List.eq_of_mem_replicate hc)
  intro c hc
  rcases hmem c hc with hc | rfl
  · exact hs c hc
  · refine ⟨by omega, ?_⟩
    unfold isSurrogate
    exact decide_eq_false (by omega)

/-- The character that a text is padded with. -/
def pad_of (rfctype : ℕ) : ℕ := if rfctype = RFCTYPE_NUM then 48 else 32

/-- The text that is read back from the characters of a field. -/
def read_text (rfctype : ℕ) (text : PyStr) : PyStr :=
  if rfctype = RFCTYPE_CHAR then rstrip [32] text
  else if rfctype = RFCTYPE_NUM then text
  else decode_initial_or text

/-- INTERNAL: the branches of the text types. -/
theorem text_branches (htype : f.rfctype ∈ TEXT_TYPES) (s : PyStr) (raw : Bytes)
    (field : FieldDesc) :
    encode_leaf u k f.rfctype (.leaf (.str s)) field =
        encode_uc field.unicode_mode (fixed_text s field (pad_of f.rfctype)) ∧
      decode_leaf u k f.rfctype raw field =
        (decode_uc_fixed u k raw field).map fun text => .str (read_text f.rfctype text) := by
  unfold TEXT_TYPES at htype
  simp only [List.mem_cons, List.not_mem_nil, or_false] at htype
  rcases htype with htype | htype | htype | htype
  all_goals
    rw [htype]
    exact ⟨rfl, rfl⟩

/-- A text of one code unit for a character is read back as its field shows it. -/
theorem text_reads_back (htype : f.rfctype ∈ TEXT_TYPES) (hright : RightWidth mode f) {s : PyStr}
    (hs : Plain s) (hlength : (s.length : ℤ) ≤ char_count f) :
    ReadsBack u k mode f (.leaf (.str s))
      (.str (read_text f.rfctype (fixed_text s f (pad_of f.rfctype)))) := by
  obtain ⟨w, hw⟩ := Int.eq_ofNat_of_zero_le (show 0 ≤ char_count f by omega)
  have hspan := hright.text htype
  have hpad : pad_of f.rfctype < 0xD800 := by
    unfold pad_of
    split <;> omega
  obtain ⟨raw, hraw, hsize, hback⟩ :=
    @encode_plain mode _ (plain_fixed_text hw (by omega) hs hpad)
  obtain ⟨hencode, hdecode⟩ := text_branches (u := u) (k := k) htype s raw (in_mode mode f)
  apply reads_back_of_exact (hencode.trans hraw)
  · rw [hsize, length_fixed_text hw (by omega)]
    unfold width
    omega
  · rw [hdecode]
    unfold decode_uc_fixed
    have htext : decodeUtf16le? (if (in_mode mode f).unicode_mode then raw else swap_units raw) =
        some (fixed_text s f (pad_of f.rfctype)) := hback
    rw [htext]
    rfl

/-- INTERNAL: blanks at the end are left out. -/
theorem rstrip_append_blanks (s : PyStr) (n : ℕ) :
    rstrip [32] (s ++ List.replicate n 32) = rstrip [32] s := by
  unfold rstrip
  rw [List.reverse_append, List.reverse_replicate, List.dropWhile_append_of_pos]
  intro c hc
  rw [List.eq_of_mem_replicate hc]
  rfl

/-- INTERNAL: a text of these characters only is stripped of all of them. -/
theorem stripped_nil_iff (chars s : PyStr) :
    lstrip chars (rstrip chars s) = [] ↔ ∀ c ∈ s, c ∈ chars := by
  have hright : ∀ l : PyStr, rstrip chars l = [] ↔ ∀ c ∈ l, c ∈ chars := by
    intro l
    refine List.rdropWhile_eq_nil_iff.trans ?_
    simp only [decide_eq_true_eq]
  have hleft : ∀ l : PyStr, lstrip chars l = [] ↔ ∀ c ∈ l, c ∈ chars := by
    intro l
    refine List.dropWhile_eq_nil_iff.trans ?_
    simp only [decide_eq_true_eq]
  constructor
  · intro h
    have hidempotent : rstrip chars (rstrip chars s) = rstrip chars s :=
      List.rdropWhile_idempotent _ _
    rw [← hright, ← hidempotent, hright, ← hleft]
    exact h
  · intro h
    rw [(hright s).mpr h]
    rfl

/-! ## Bytes -/

/-- Bytes are read back with zeros behind them. -/
theorem byte_reads_back (htype : f.rfctype = RFCTYPE_BYTE) {value : PyVal PyLeaf} {b : Bytes}
    (hvalue : py_bytes value = .ok b) (hlength : b.length ≤ width mode f) :
    ReadsBack u k mode f value (.bytes (b ++ List.replicate (width mode f - b.length) 0)) := by
  refine ⟨b, ?_, hlength, ?_⟩
  · rw [htype]
    exact hvalue
  · rw [htype]
    rfl

/-! ## Any scalar -/

/-- A value that the type of the field takes, and that its field has room for. -/
structure Fits (u : Unicode) (k : Builtins) (mode : Bool) (f : FieldDesc) (value : PyVal PyLeaf) :
    Prop where
  int : f.rfctype ∈ INT_TYPES → ∃ n, py_int u k value = .ok n ∧
    -(256 ^ int_size f.rfctype / 2 : ℕ) ≤ n ∧ n < (256 ^ int_size f.rfctype / 2 : ℕ)
  int1 : f.rfctype = RFCTYPE_INT1 → ∃ n, py_int u k value = .ok n ∧ 0 ≤ n ∧ n ≤ 0xFF
  float : f.rfctype = RFCTYPE_FLOAT → ∃ bits, py_float k value = .ok bits
  decfloat : f.rfctype ∈ [RFCTYPE_DECF16, RFCTYPE_DECF34] →
    ∃ d, py_decimal k value = .ok d ∧ Holdable (format_of f.rfctype) d
  bcd : f.rfctype = RFCTYPE_BCD → ∃ d, StandsFor k value d ∧
    ∃ n : ℤ, Spells d (n * 10 ^ (-f.decimals)) ∧ n.natAbs < 10 ^ (2 * width mode f - 1)
  byte : f.rfctype = RFCTYPE_BYTE → ∃ b, py_bytes value = .ok b ∧ b.length ≤ width mode f
  text : f.rfctype ∈ TEXT_TYPES → ∃ s, value = .leaf (.str s) ∧ Plain s ∧
    (s.length : ℤ) ≤ char_count f

/-- A packed number does not get longer than its field when it is rounded to 28 digits. -/
def StaysShort (k : Builtins) (mode : Bool) (f : FieldDesc) (value : PyVal PyLeaf) : Prop :=
  f.rfctype = RFCTYPE_BCD → ∀ d (n : ℤ), StandsFor k value d → Spells d (n * 10 ^ (-f.decimals)) →
    rounded n.natAbs < 10 ^ (2 * width mode f - 1)

/-- INTERNAL: the scalar types, by their rules. -/
theorem fixed_cases : ∀ t ∈ FIXED_TYPES, t ∈ INT_TYPES ∨ t = RFCTYPE_INT1 ∨ t = RFCTYPE_FLOAT ∨
    t ∈ [RFCTYPE_DECF16, RFCTYPE_DECF34] ∨ t = RFCTYPE_BCD ∨ t = RFCTYPE_BYTE ∨ t ∈ TEXT_TYPES := by
  decide

/-- A value that fits is read back as some scalar. -/
theorem reads_back_of_fits (htype : f.rfctype ∈ FIXED_TYPES) (hright : RightWidth mode f)
    {value : PyVal PyLeaf} (hfits : Fits u k mode f value) (hshort : StaysShort k mode f value) :
    ∃ back, ReadsBack u k mode f value back := by
  rcases fixed_cases _ htype with h | h | h | h | h | h | h
  · obtain ⟨n, hvalue, hn⟩ := hfits.int h
    exact ⟨_, int_reads_back h (hright.int h) hvalue hn⟩
  · obtain ⟨n, hvalue, hn⟩ := hfits.int1 h
    exact ⟨_, int1_reads_back h (hright.int1 h) hvalue hn⟩
  · obtain ⟨bits, hvalue⟩ := hfits.float h
    exact ⟨_, float_reads_back h (hright.float h) hvalue⟩
  · obtain ⟨d, hvalue, hd⟩ := hfits.decfloat h
    exact ⟨_, decfloat_reads_back h (hright.decfloat h) hvalue hd⟩
  · obtain ⟨d, hvalue, n, hn, hlt⟩ := hfits.bcd h
    obtain ⟨back, hback⟩ :=
      bcd_reads_back (u := u) h hright hvalue hn hlt (hshort h d n hvalue hn)
    exact ⟨_, hback⟩
  · obtain ⟨b, hvalue, hlength⟩ := hfits.byte h
    exact ⟨_, byte_reads_back h hvalue hlength⟩
  · obtain ⟨s, rfl, hs, hlength⟩ := hfits.text h
    exact ⟨_, text_reads_back h hright hs hlength⟩

/-! ## Initial values -/

/-- The initial value of a scalar type, as it is read. -/
def initial_value (mode : Bool) (f : FieldDesc) : PyLeaf :=
  if f.rfctype ∈ INT_TYPES ∨ f.rfctype = RFCTYPE_INT1 then .int 0
  else if f.rfctype = RFCTYPE_FLOAT then .float 0
  else if f.rfctype ∈ [RFCTYPE_DECF16, RFCTYPE_DECF34] then .decimal (.finite false 0 0)
  else if f.rfctype = RFCTYPE_BCD then .decimal (.finite false 0 (-f.decimals))
  else if f.rfctype = RFCTYPE_BYTE then .bytes (List.replicate (width mode f) 0)
  else if f.rfctype = RFCTYPE_NUM then .str (List.replicate (char_count f).toNat 48)
  else .str []

/-- INTERNAL: the default of an integer is zero. -/
theorem default_int : ∀ t ∈ INT_TYPES,
    (leafScalars u k).default_field_value t = .leaf (.int 0) := by
  intro t ht
  unfold INT_TYPES at ht
  simp only [List.mem_cons, List.not_mem_nil, or_false] at ht
  rcases ht with rfl | rfl | rfl | rfl | rfl | rfl | rfl | rfl | rfl | rfl | rfl | rfl
  all_goals rfl

/-- INTERNAL: the default of a text is the empty one. -/
theorem default_text : ∀ t ∈ TEXT_TYPES,
    (leafScalars u k).default_field_value t = .leaf (.str []) := by
  intro t ht
  unfold TEXT_TYPES at ht
  simp only [List.mem_cons, List.not_mem_nil, or_false] at ht
  rcases ht with rfl | rfl | rfl | rfl
  all_goals rfl

/-- INTERNAL: the empty text is read back as the initial one. -/
theorem read_empty_text (htype : f.rfctype ∈ TEXT_TYPES) (hcount : 0 ≤ char_count f) :
    PyLeaf.str (read_text f.rfctype (fixed_text [] f (pad_of f.rfctype))) =
      initial_value mode f := by
  obtain ⟨w, hw⟩ := Int.eq_ofNat_of_zero_le hcount
  have hnil : ([] : PyStr).length ≤ w := Nat.zero_le w
  have hblanks : lstrip [48, 32] (rstrip [48, 32] (List.replicate w 32)) = [] := by
    refine (stripped_nil_iff _ _).mpr fun c hc => ?_
    rw [List.eq_of_mem_replicate hc]
    decide
  rw [fixed_text_eq hw hnil]
  unfold TEXT_TYPES at htype
  simp only [List.mem_cons, List.not_mem_nil, or_false] at htype
  rcases htype with h | h | h | h
  · rw [h]
    unfold initial_value
    rw [h]
    exact congrArg PyLeaf.str (rstrip_append_blanks [] w)
  · rw [h]
    unfold initial_value
    rw [h, hw]
    exact congrArg PyLeaf.str (List.append_nil _)
  all_goals
    rw [h]
    unfold initial_value
    rw [h]
    exact congrArg PyLeaf.str (if_pos hblanks)

/-- A field that is not given is read back as its initial value, unless it is a decimal
floating-point number. -/
theorem initial_reads_back (htype : f.rfctype ∈ FIXED_TYPES)
    (hdecfloat : f.rfctype ∉ [RFCTYPE_DECF16, RFCTYPE_DECF34]) (hright : RightWidth mode f)
    (hlength : 0 ≤ (f.span mode).2) :
    ReadsBack u k mode f ((leafScalars u k).default_field_value f.rfctype)
      (initial_value mode f) := by
  rcases fixed_cases _ htype with h | h | h | h | h | h | h
  · have hzero : initial_value mode f = .int 0 := if_pos (.inl h)
    have hsize := two_mul_half (int_types _ h).2.2
    have hpos : 0 < 256 ^ int_size f.rfctype := Nat.pow_pos (by omega)
    rw [default_int _ h, hzero]
    exact int_reads_back h (hright.int h) rfl ⟨by omega, by omega⟩
  · have hzero : initial_value mode f = .int 0 := if_pos (.inr h)
    rw [h, hzero]
    exact int1_reads_back h (hright.int1 h) rfl ⟨by omega, by omega⟩
  · have hzero : initial_value mode f = .float 0 := by
      unfold initial_value
      rw [h]
      rfl
    rw [h, hzero]
    exact float_reads_back h (hright.float h) rfl
  · exact absurd h hdecfloat
  · have hzero : initial_value mode f = .decimal (.finite false 0 (-f.decimals)) := by
      unfold initial_value
      rw [h]
      rfl
    have hspells : Spells (.finite false 0 0) (((0 : ℤ) : ℚ) * 10 ^ (-f.decimals)) :=
      ⟨false, 0, 0, rfl, by simp [signed]⟩
    have hstands : StandsFor k (.leaf (.decimal (.finite false 0 0))) (.finite false 0 0) :=
      ⟨fun bits heq => (by cases heq), rfl⟩
    rw [h, hzero]
    exact bcd_reads_back_exact h hright hstands hspells (Nat.pow_pos (by omega)) (by decide)
  · have hzero : initial_value mode f = .bytes (List.replicate (width mode f) 0) := by
      unfold initial_value
      rw [h]
      rfl
    have hempty : py_bytes (.leaf (.bytes [])) = .ok [] := rfl
    rw [h, hzero]
    exact byte_reads_back h hempty (Nat.zero_le _)
  · have hcount : 0 ≤ char_count f := by
      have hspan := hright.text h
      omega
    rw [default_text _ h, ← read_empty_text h hcount]
    exact text_reads_back h hright (List.forall_mem_nil _) hcount

/-- A decimal floating-point number that is not given is not encoded. -/
theorem default_decfloat_rejected (htype : f.rfctype ∈ [RFCTYPE_DECF16, RFCTYPE_DECF34]) :
    ∃ e, encode_leaf u k f.rfctype ((leafScalars u k).default_field_value f.rfctype)
      (in_mode mode f) = .error e := by
  rcases List.mem_cons.mp htype with h | h
  · rw [h]
    exact ⟨_, rfl⟩
  · rw [List.mem_singleton.mp h]
    exact ⟨_, rfl⟩

/-! ## Values that come back as they are -/

/-- A scalar of the class of its type, in the one form that the type has for it. -/
structure Exact (mode : Bool) (f : FieldDesc) (a : PyLeaf) : Prop where
  int : f.rfctype ∈ INT_TYPES → ∃ n : ℤ, a = .int n ∧
    -(256 ^ int_size f.rfctype / 2 : ℕ) ≤ n ∧ n < (256 ^ int_size f.rfctype / 2 : ℕ)
  int1 : f.rfctype = RFCTYPE_INT1 → ∃ n : ℤ, a = .int n ∧ 0 ≤ n ∧ n ≤ 0xFF
  float : f.rfctype = RFCTYPE_FLOAT → ∃ bits, a = .float bits
  decfloat : f.rfctype ∈ [RFCTYPE_DECF16, RFCTYPE_DECF34] →
    ∃ sign coeff exp, a = .decimal (.finite sign coeff exp) ∧ Holds (format_of f.rfctype) coeff exp
  bcd : f.rfctype = RFCTYPE_BCD → ∃ sign coeff, a = .decimal (.finite sign coeff (-f.decimals)) ∧
    coeff < 10 ^ (2 * width mode f - 1) ∧ coeff < 10 ^ PREC
  byte : f.rfctype = RFCTYPE_BYTE → ∃ b, a = .bytes b ∧ b.length = width mode f
  char : f.rfctype = RFCTYPE_CHAR → ∃ s, a = .str s ∧ Plain s ∧ (s.length : ℤ) ≤ char_count f ∧
    rstrip [32] s = s
  num : f.rfctype = RFCTYPE_NUM → ∃ s, a = .str s ∧ Plain s ∧ (s.length : ℤ) = char_count f
  date : f.rfctype ∈ [RFCTYPE_DATE, RFCTYPE_TIME] → ∃ s, a = .str s ∧ Plain s ∧
    (s.length : ℤ) = char_count f ∧ ∃ c ∈ s, c ∉ [48, 32]

/-- INTERNAL: a text of the width of its field is not padded. -/
theorem fixed_text_full {s : PyStr} (h : (s.length : ℤ) = char_count f) (pad : ℕ) :
    fixed_text s f pad = s := by
  rw [fixed_text_eq h.symm le_rfl, Nat.sub_self]
  split
  · rfl
  · exact List.append_nil s

/-- INTERNAL: an exact text is read back as it is. -/
theorem exact_text_reads_back (htype : f.rfctype ∈ TEXT_TYPES) (hright : RightWidth mode f)
    {s : PyStr} (hs : Plain s) (hlength : (s.length : ℤ) ≤ char_count f)
    (hread : read_text f.rfctype (fixed_text s f (pad_of f.rfctype)) = s) :
    ReadsBack u k mode f (.leaf (.str s)) (.str s) := by
  have hback := text_reads_back (u := u) (k := k) htype hright hs hlength
  rw [hread] at hback
  exact hback

/-- A scalar in the form of its type is read back as it is. -/
theorem exact_reads_back (htype : f.rfctype ∈ FIXED_TYPES) (hright : RightWidth mode f) {a : PyLeaf}
    (hexact : Exact mode f a) : ReadsBack u k mode f (.leaf a) a := by
  rcases fixed_cases _ htype with h | h | h | h | h | h | h
  · obtain ⟨n, rfl, hn⟩ := hexact.int h
    exact int_reads_back h (hright.int h) rfl hn
  · obtain ⟨n, rfl, hn⟩ := hexact.int1 h
    exact int1_reads_back h (hright.int1 h) rfl hn
  · obtain ⟨bits, rfl⟩ := hexact.float h
    exact float_reads_back h (hright.float h) rfl
  · obtain ⟨sign, coeff, exp, rfl, hholds⟩ := hexact.decfloat h
    have hvalue : py_decimal k (.leaf (.decimal (.finite sign coeff exp))) =
        .ok (.finite sign coeff exp) := rfl
    exact decfloat_reads_back h (hright.decfloat h) hvalue hholds
  · obtain ⟨sign, coeff, rfl, hfits, hprec⟩ := hexact.bcd h
    have hstands : StandsFor k (.leaf (.decimal (.finite sign coeff (-f.decimals))))
        (.finite sign coeff (-f.decimals)) := ⟨fun bits heq => (by cases heq), rfl⟩
    have hspells : Spells (.finite sign coeff (-f.decimals))
        (((if sign then -coeff else coeff : ℤ) : ℚ) * 10 ^ (-f.decimals)) := by
      refine ⟨sign, coeff, -f.decimals, rfl, ?_⟩
      cases sign <;> simp [signed]
    have hmagnitude : (if sign then -coeff else coeff : ℤ).natAbs = coeff := by
      cases sign
      · rfl
      · exact Int.natAbs_neg _
    have hback := bcd_reads_back_exact (u := u) h hright hstands hspells
      (hmagnitude.symm ▸ hfits) (hmagnitude.symm ▸ hprec)
    rw [hmagnitude] at hback
    exact hback
  · obtain ⟨b, rfl, hlength⟩ := hexact.byte h
    have hvalue : py_bytes (.leaf (.bytes b)) = .ok b := rfl
    have hback := byte_reads_back (u := u) (k := k) h hvalue hlength.le
    rw [hlength, Nat.sub_self, List.replicate_zero, List.append_nil] at hback
    exact hback
  · have htext := h
    unfold TEXT_TYPES at htext
    simp only [List.mem_cons, List.not_mem_nil, or_false] at htext
    rcases htext with ht | ht | ht | ht
    · obtain ⟨s, rfl, hs, hlength, hblank⟩ := hexact.char ht
      obtain ⟨w, hw⟩ := Int.eq_ofNat_of_zero_le (show 0 ≤ char_count f by omega)
      refine exact_text_reads_back h hright hs hlength ?_
      rw [ht, fixed_text_eq hw (by omega)]
      exact (rstrip_append_blanks s _).trans hblank
    · obtain ⟨s, rfl, hs, hlength⟩ := hexact.num ht
      refine exact_text_reads_back h hright hs hlength.le ?_
      rw [ht, fixed_text_full hlength]
      rfl
    all_goals
      obtain ⟨s, rfl, hs, hlength, c, hc, hother⟩ := hexact.date (by simp [ht])
      refine exact_text_reads_back h hright hs hlength.le ?_
      rw [ht, fixed_text_full hlength]
      exact if_neg fun hnil => hother ((stripped_nil_iff _ _).mp hnil c hc)

end Fields

end SapRfc.Analysis.FieldValues
