import SapRfc.Analysis.Declets

/-!
# Decimal floating-point fields

`decode_decfloat` reads the interchange formats `decimal64` and `decimal128`: a buffer whose
declets are all canonical, or whose combination field says that it is not a number, is decoded to
the datum that the format assigns to its bits.  A buffer with a redundant declet is not decoded.
What `encode_decfloat` writes has no redundant declet, so every number that the format can hold is
read back with its sign, its coefficient and its exponent.
-/

set_option autoImplicit false

namespace SapRfc.Analysis.Decfloat

open SapRfc.Library SapRfc.Library.DecimalInterchange SapRfc.Program
open SapRfc.Analysis.DecimalDigits SapRfc.Analysis.Declets

/-- The format of a field of eight or of sixteen bytes. -/
def interchange : ℕ → Option Format
  | 8 => some decimal64
  | 16 => some decimal128
  | _ => none

/-- The datum that a decimal number stands for. -/
def datum_of : PyDecimal → Datum
  | .finite sign coeff exp => .finite sign coeff exp
  | .infinity sign => .infinity sign
  | .nan _ _ => .nan

theorem params_of_format {width : ℕ} {f : Format} (h : interchange width = some f) :
    DECF_PARAMS width = some ⟨f.econ, f.declets, f.bias, f.digits⟩ ∧ width * 8 = f.total := by
  unfold interchange at h
  split at h
  · cases h
    exact ⟨rfl, rfl⟩
  · cases h
    exact ⟨rfl, rfl⟩
  · cases h

/-! ## Fields of the bits -/

/-- INTERNAL: the tests and the parts of a combination field. -/
theorem combo_parts :
    ∀ g < 32, (g &&& 0b11110 = 0b11110 ↔ 30 ≤ g) ∧ (g &&& 1 ≠ 0 ↔ g % 2 = 1) ∧
      (if g >>> 3 = 0b11 then (8 + (g &&& 1), (g >>> 1) &&& 0b11)
        else (g &&& 0b111, (g >>> 3) &&& 0b11)) = Format.lead g := by
  decide

/-- INTERNAL: a field is taken off with a mask. -/
theorem masked (n k w : ℕ) : (n >>> k) &&& ((1 <<< w) - 1) = n / 2 ^ k % 2 ^ w := by
  rw [Nat.one_shiftLeft, Nat.and_two_pow_sub_one_eq_mod, Nat.shiftRight_eq_div_pow]

/-- What the decoder does with the fields of the bits. -/
theorem decode_fields {raw : Bytes} {f : Format} (h : interchange raw.length = some f) :
    decode_decfloat raw =
      if 30 ≤ (f.fields (ofLE raw)).combo then
        .ok (if (f.fields (ofLE raw)).combo % 2 = 1 then
          .nan (decide ((f.fields (ofLE raw)).sign = 1)) false
        else .infinity (decide ((f.fields (ofLE raw)).sign = 1)))
      else
        (decode_declets f.declets (f.fields (ofLE raw)).coeff).bind fun digits =>
          .ok (.finite (decide ((f.fields (ofLE raw)).sign = 1))
            (of_digits ((Format.lead (f.fields (ofLE raw)).combo).1 :: digits))
            (((Format.lead (f.fields (ofLE raw)).combo).2 * 2 ^ f.econ +
              (f.fields (ofLE raw)).econ : ℕ) - f.bias)) := by
  obtain ⟨hparams, htotal⟩ := params_of_format h
  have hexponent : raw.length * 8 - 6 = 10 * f.declets + f.econ := by
    rw [htotal, Format.total]
    omega
  have hsign : (ofBE raw.reverse >>> (raw.length * 8 - 1)) &&& 1 = (f.fields (ofLE raw)).sign := by
    have hplace : raw.length * 8 - 1 = 10 * f.declets + f.econ + 5 := by
      rw [htotal, Format.total]
      omega
    rw [hplace]
    exact masked _ _ 1
  have hcombo : (ofBE raw.reverse >>> (raw.length * 8 - 6)) &&& 0x1F =
      (f.fields (ofLE raw)).combo := by
    rw [hexponent]
    exact masked _ _ 5
  have hecon : (ofBE raw.reverse >>> (raw.length * 8 - 6 - f.econ)) &&& ((1 <<< f.econ) - 1) =
      (f.fields (ofLE raw)).econ := by
    rw [hexponent, Nat.add_sub_cancel]
    exact masked _ _ _
  have hcoeff : ofBE raw.reverse &&& ((1 <<< (raw.length * 8 - 6 - f.econ)) - 1) =
      (f.fields (ofLE raw)).coeff := by
    rw [hexponent, Nat.add_sub_cancel, Nat.one_shiftLeft, Nat.and_two_pow_sub_one_eq_mod]
    rfl
  have hlt : (f.fields (ofLE raw)).combo < 32 := Nat.mod_lt _ (by norm_num)
  obtain ⟨hspecial, hnan, hlead⟩ := combo_parts _ hlt
  have hjoin : ∀ high, (high <<< f.econ) ||| (f.fields (ofLE raw)).econ =
      high * 2 ^ f.econ + (f.fields (ofLE raw)).econ := by
    intro high
    have hbelow : (f.fields (ofLE raw)).econ < 2 ^ f.econ := Nat.mod_lt _ (Nat.two_pow_pos _)
    rw [Nat.or_comm, or_shiftLeft high hbelow]
    ring
  unfold decode_decfloat
  rw [hparams]
  simp only [hsign, hcombo, hecon, hcoeff, hspecial, hnan, hlead, hjoin]
  split
  · split <;> rfl
  · rfl

/-! ## Decoding -/

/-- A buffer is decoded to the datum of its bits, unless it has a redundant declet. -/
theorem decoded_datum {raw : Bytes} {f : Format} (h : interchange raw.length = some f)
    (hcanonical : 30 ≤ (f.fields (ofLE raw)).combo ∨
      AllCanonical f.declets (f.fields (ofLE raw)).coeff) :
    ∃ value, decode_decfloat raw = .ok value ∧ datum_of value = f.datum (ofLE raw) := by
  rw [decode_fields h]
  unfold Format.datum Format.datumOf
  by_cases hspecial : 30 ≤ (f.fields (ofLE raw)).combo
  · rw [if_pos hspecial, if_pos hspecial]
    refine ⟨_, rfl, ?_⟩
    split <;> rfl
  · obtain ⟨digits, hdigits, hlength, hvalue⟩ :=
      decode_declets_of_canonical f.declets (hcanonical.resolve_left hspecial)
    rw [if_neg hspecial, if_neg hspecial, bind_of_ok hdigits]
    refine ⟨_, rfl, ?_⟩
    have hpow : (10 : ℕ) ^ digits.length = 1000 ^ f.declets := by
      rw [hlength, pow_mul]
      norm_num
    unfold datum_of
    rw [of_digits_cons, hpow, hvalue]

/-- A buffer is decoded to the datum of its bits exactly where it is not a number or all its
declets are canonical. -/
theorem decoded_as_assigned_iff {raw : Bytes} {f : Format} (h : interchange raw.length = some f) :
    (∃ value, decode_decfloat raw = .ok value ∧ datum_of value = f.datum (ofLE raw)) ↔
      (30 ≤ (f.fields (ofLE raw)).combo ∨ AllCanonical f.declets (f.fields (ofLE raw)).coeff) := by
  refine ⟨?_, decoded_datum h⟩
  rintro ⟨value, hvalue, -⟩
  by_contra hredundant
  rw [not_or] at hredundant
  obtain ⟨e, he⟩ := decode_declets_of_redundant f.declets hredundant.2
  rw [decode_fields h, if_neg hredundant.1, he] at hvalue
  cases hvalue

/-- The number 42.0 is one that is decoded. -/
theorem decoded_as_assigned_42 :
    ∃ value, decode_decfloat [0x20, 2, 0, 0, 0, 0, 0x34, 0x22] = .ok value ∧
      datum_of value = decimal64.datum (ofLE [0x20, 2, 0, 0, 0, 0, 0x34, 0x22]) := by
  apply (@decoded_as_assigned_iff [0x20, 2, 0, 0, 0, 0, 0x34, 0x22] decimal64 rfl).mpr
  decide

/-- The last declet is `0x16E`, which stands for 888 as `0x06E` does. -/
theorem redundant_declet_not_decoded :
    decimal64.datum (ofLE [0x6E, 1, 0, 0, 0, 0, 0x34, 0x22]) = .finite false 888 (-1) ∧
      ¬ ∃ value, decode_decfloat [0x6E, 1, 0, 0, 0, 0, 0x34, 0x22] = .ok value := by
  refine ⟨by decide, ?_⟩
  rintro ⟨value, hvalue⟩
  obtain ⟨e, he⟩ : ∃ e, decode_declets 5 0x16E = .error e :=
    decode_declets_of_redundant 5 (by decide)
  have hfields := @decode_fields [0x6E, 1, 0, 0, 0, 0, 0x34, 0x22] decimal64 rfl
  have hcoeff : (decimal64.fields (ofLE [0x6E, 1, 0, 0, 0, 0, 0x34, 0x22])).coeff = 0x16E := by
    decide
  have hfinite : ¬ 30 ≤ (decimal64.fields (ofLE [0x6E, 1, 0, 0, 0, 0, 0x34, 0x22])).combo := by
    decide
  have hdeclets : decode_declets decimal64.declets 0x16E = .error e := he
  rw [if_neg hfinite, hcoeff, hdeclets, hvalue] at hfields
  cases hfields

/-! ## Encoding -/

/-- INTERNAL: the combination field that the encoder builds. -/
theorem combo_built :
    ∀ high < 3, ∀ d < 10,
      (if d ≤ 7 then (high <<< 3) ||| d else 0b11000 ||| (high <<< 1) ||| (d &&& 1)) =
        Format.comboOf d high := by
  decide

/-- INTERNAL: the fields put above each other. -/
theorem packed_fields (f : Format) {x : Fields} (h : f.Fits x) :
    (x.sign <<< (10 * f.declets + f.econ + 5)) ||| (x.combo <<< (10 * f.declets + f.econ)) |||
      (x.econ <<< (10 * f.declets)) ||| x.coeff = f.pack x := by
  have hecon := or_shiftLeft x.econ h.coeff
  have hecon_lt := or_shiftLeft_lt h.coeff h.econ
  have hcombo := or_shiftLeft x.combo hecon_lt
  have hcombo_lt := or_shiftLeft_lt hecon_lt h.combo
  have hsign := or_shiftLeft x.sign hcombo_lt
  calc
    _ = ((x.coeff ||| x.econ <<< (10 * f.declets)) ||| x.combo <<< (10 * f.declets + f.econ)) |||
        x.sign <<< (10 * f.declets + f.econ + 5) := by
      ac_rfl
    _ = x.coeff + 2 ^ (10 * f.declets) * x.econ + 2 ^ (10 * f.declets + f.econ) * x.combo +
        2 ^ (10 * f.declets + f.econ + 5) * x.sign := by
      rw [hsign, hcombo, hecon]
    _ = f.pack x := by
      unfold Format.pack
      rw [pow_add, pow_add]
      ring

/-- The numbers that the format can hold. -/
def Holds (f : Format) (coeff : ℕ) (exp : ℤ) : Prop :=
  coeff < 10 ^ f.digits ∧ 0 ≤ exp + f.bias ∧ exp + f.bias < 3 * 2 ^ f.econ

/-- The bits of a number that the format can hold. -/
theorem encoded_fields {width : ℕ} {f : Format} (h : interchange width = some f) (sign : Bool)
    {coeff : ℕ} {exp : ℤ} (hholds : Holds f coeff exp) :
    ∃ d t, d ≤ 9 ∧ t < 2 ^ (10 * f.declets) ∧ AllCanonical f.declets t ∧
      d * 1000 ^ f.declets + fromDeclets f.declets t = coeff ∧
      encode_decfloat (.finite sign coeff exp) width =
        .ok (toBE width (f.pack ⟨sign.toNat,
          Format.comboOf d ((exp + f.bias).toNat / 2 ^ f.econ),
          (exp + f.bias).toNat % 2 ^ f.econ, t⟩)).reverse := by
  obtain ⟨hparams, htotal⟩ := params_of_format h
  obtain ⟨hcoeff, hlow, hhigh⟩ := hholds
  have hdigits : (decimal_digits coeff).length ≤ f.digits :=
    (decimal_digits_length_le_iff (Nat.succ_pos _) coeff).mpr hcoeff
  have hlength : (padded f.digits coeff).length = f.digits := length_padded hdigits
  have hle := padded_le f.digits coeff
  have hvalue := of_digits_padded f.digits coeff
  obtain ⟨d, rest, hpadded⟩ : ∃ d rest, padded f.digits coeff = d :: rest :=
    List.exists_cons_of_length_eq_add_one hlength
  rw [hpadded] at hlength hle hvalue
  have hrest : rest.length = 3 * f.declets := Nat.succ.inj hlength
  obtain ⟨t, ht, hlt, hcanonical, hspelled⟩ :=
    @encode_declets_spec d rest (fun x hx => hle x (List.mem_cons_of_mem _ hx)) f.declets hrest.ge
  have hd : d ≤ 9 := hle d List.mem_cons_self
  have hpow : (10 : ℕ) ^ rest.length = 1000 ^ f.declets := by
    rw [hrest, pow_mul]
    norm_num
  refine ⟨d, t, hd, hlt, hcanonical, ?_, ?_⟩
  · rw [hspelled, ← hrest, List.take_length, ← hpow, ← of_digits_cons, hvalue]
  · obtain ⟨biased, hbiased⟩ : ∃ biased : ℕ, exp + f.bias = biased := Int.eq_ofNat_of_zero_le hlow
    have hrange : biased < 3 * 2 ^ f.econ := by
      rw [hbiased] at hhigh
      exact_mod_cast hhigh
    have hpos : 0 < 2 ^ f.econ := Nat.two_pow_pos _
    have hhigh3 : biased / 2 ^ f.econ < 3 := (Nat.div_lt_iff_lt_mul hpos).mpr hrange
    have hexponent : width * 8 - 6 = 10 * f.declets + f.econ := by
      rw [htotal, Format.total]
      omega
    have hplace : width * 8 - 1 = 10 * f.declets + f.econ + 5 := by
      rw [htotal, Format.total]
      omega
    have hguard : 0 ≤ (biased : ℤ) ∧ (biased : ℤ) ≤ (3 <<< f.econ : ℕ) - 1 := by
      rw [Nat.shiftLeft_eq]
      omega
    have hcombo := combo_built _ hhigh3 d (by omega)
    have hpacked := packed_fields f (f.fits_finite (Bool.toNat_lt sign) hd hlt hrange)
    unfold encode_decfloat
    rw [hparams]
    unfold padded at hpadded
    simp only [hbiased, Int.toNat_natCast, hpadded, List.getD_cons_zero,
      if_neg (not_lt.mpr hdigits),
      if_neg (not_not.mpr hguard), Nat.shiftRight_eq_div_pow, Nat.one_shiftLeft,
      Nat.and_two_pow_sub_one_eq_mod, hexponent, hplace, Nat.add_sub_cancel]
    simp only [ht, hcombo]
    exact congrArg (fun n => Except.ok (toBE width n).reverse) hpacked

/-- A number that the format can hold is read back as it was written. -/
theorem read_back {width : ℕ} {f : Format} (h : interchange width = some f) (sign : Bool)
    {coeff : ℕ} {exp : ℤ} (hholds : Holds f coeff exp) :
    ∃ raw, encode_decfloat (.finite sign coeff exp) width = .ok raw ∧ raw.length = width ∧
      decode_decfloat raw = .ok (.finite sign coeff exp) := by
  obtain ⟨d, t, hd, ht, hcanonical, hvalue, hencoded⟩ := encoded_fields h sign hholds
  obtain ⟨-, htotal⟩ := params_of_format h
  obtain ⟨-, hlow, hhigh⟩ := hholds
  have hbiased : ((exp + f.bias).toNat : ℤ) = exp + f.bias := Int.toNat_of_nonneg hlow
  have hrange : (exp + f.bias).toNat < 3 * 2 ^ f.econ := by
    have hcast : ((exp + f.bias).toNat : ℤ) < 3 * 2 ^ f.econ := by rw [hbiased]; exact hhigh
    exact_mod_cast hcast
  generalize (exp + f.bias).toNat = biased at hencoded hbiased hrange
  have hsign := Bool.toNat_lt sign
  have hfits := f.fits_finite hsign hd ht hrange
  have hlt := f.pack_lt hfits
  have hfields := f.fields_pack hfits
  have hdatum := f.datum_pack_finite hsign hd ht hrange
  generalize f.pack _ = bits at hencoded hlt hfields hdatum
  have hlength : (toBE width bits).reverse.length = width := by
    rw [List.length_reverse, length_toBE]
  have hbits : ofLE (toBE width bits).reverse = bits := by
    rw [← htotal, Nat.mul_comm, pow_mul] at hlt
    exact ofLE_toLE hlt
  refine ⟨_, hencoded, hlength, ?_⟩
  have hformat : interchange (toBE width bits).reverse.length = some f := by
    rw [hlength]
    exact h
  obtain ⟨value, hdecoded, hvalue_datum⟩ := decoded_datum hformat
    (Or.inr (by rw [hbits, hfields]; exact hcanonical))
  rw [hbits, hdatum, hvalue, hbiased, add_sub_cancel_right] at hvalue_datum
  rw [hdecoded]
  cases value with
  | finite s c e =>
    obtain ⟨hs, hc, he⟩ := Datum.finite.inj hvalue_datum
    rw [hs, hc, he]
    cases sign <;> rfl
  | infinity s => cases hvalue_datum
  | nan s q => cases hvalue_datum

/-- A number that the format cannot hold is rejected. -/
theorem rejected {width : ℕ} {f : Format} (h : interchange width = some f) (sign : Bool)
    {coeff : ℕ} {exp : ℤ} (hholds : ¬ Holds f coeff exp) :
    ∃ e, encode_decfloat (.finite sign coeff exp) width = .error e := by
  obtain ⟨hparams, -⟩ := params_of_format h
  unfold encode_decfloat
  rw [hparams]
  by_cases hdigits : f.digits < (decimal_digits coeff).length
  · simp only [if_pos hdigits]
    exact ⟨_, rfl⟩
  · have hcoeff := (decimal_digits_length_le_iff (Nat.succ_pos _) coeff).mp (not_lt.mp hdigits)
    have hguard : ¬ (0 ≤ exp + f.bias ∧ exp + f.bias ≤ (3 <<< f.econ : ℕ) - 1) := by
      rintro ⟨hlow, hhigh⟩
      refine hholds ⟨hcoeff, hlow, ?_⟩
      rw [Nat.shiftLeft_eq] at hhigh
      push_cast at hhigh
      omega
    simp only [if_neg hdigits, if_pos hguard]
    exact ⟨_, rfl⟩

/-- Every number that the format of a width can hold is read back as it was written, and every
other finite number is rejected. -/
def RoundTrips (width : ℕ) (f : Format) : Prop :=
  ∀ sign coeff exp,
    (Holds f coeff exp →
      ∃ raw, encode_decfloat (.finite sign coeff exp) width = .ok raw ∧ raw.length = width ∧
        decode_decfloat raw = .ok (.finite sign coeff exp)) ∧
    (¬ Holds f coeff exp → ∃ e, encode_decfloat (.finite sign coeff exp) width = .error e)

theorem decfloat_round_trips : RoundTrips 8 decimal64 ∧ RoundTrips 16 decimal128 :=
  ⟨fun sign _ _ => ⟨read_back rfl sign, rejected rfl sign⟩,
    fun sign _ _ => ⟨read_back rfl sign, rejected rfl sign⟩⟩

end SapRfc.Analysis.Decfloat
