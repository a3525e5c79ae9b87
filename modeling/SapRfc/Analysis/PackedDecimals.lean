import SapRfc.Analysis.DecimalContext

/-!
# Packed decimal fields

`_encode_bcd` and `_decode_bcd` both scale a number with `scaleb`, which rounds it to the 28
digits of the context.  A field of fifteen or sixteen bytes holds up to 31 digits.  So a number that
fits its field is read back exactly where it has at most 28 significant digits; a number that does
not fit is rejected in any case, because rounding never makes a number shorter.
-/

set_option autoImplicit false

namespace SapRfc.Analysis.PackedDecimals

open SapRfc.Library SapRfc.Program SapRfc.Program.PyDecimal
open SapRfc.Analysis.DecimalDigits SapRfc.Analysis.DecimalContext

/-! ## Half bytes -/

/-- INTERNAL: two half bytes in one byte. -/
theorem split_byte :
    ∀ hi < 16, ∀ lo < 16,
      (UInt8.ofNat ((hi <<< 4) ||| lo)).toNat >>> 4 = hi ∧
        (UInt8.ofNat ((hi <<< 4) ||| lo)).toNat &&& 0x0F = lo := by
  decide

/-- Half bytes are read back as they were packed. -/
theorem nibbles_of_packed (width : ℕ) {nibbles : List ℕ} (hlength : nibbles.length = 2 * width)
    (h : ∀ n ∈ nibbles, n < 16) :
    nibbles_of ((List.range width).map fun i =>
      UInt8.ofNat ((nibbles.getD (2 * i) 0 <<< 4) ||| nibbles.getD (2 * i + 1) 0)) = nibbles := by
  induction width generalizing nibbles with
  | zero =>
    rw [List.length_eq_zero_iff.mp hlength]
    rfl
  | succ width ih =>
    match nibbles, hlength with
    | hi :: lo :: rest, hlength =>
      have hrest : rest.length = 2 * width := by
        simp only [List.length_cons] at hlength
        omega
      obtain ⟨hhi, hlo⟩ := split_byte hi (h hi (by simp)) lo (h lo (by simp))
      have htail := ih hrest fun n hn => h n (List.mem_cons_of_mem _ (List.mem_cons_of_mem _ hn))
      have hshift : ((fun i => UInt8.ofNat (((hi :: lo :: rest).getD (2 * i) 0 <<< 4) |||
          (hi :: lo :: rest).getD (2 * i + 1) 0)) ∘ Nat.succ) =
          fun i => UInt8.ofNat ((rest.getD (2 * i) 0 <<< 4) ||| rest.getD (2 * i + 1) 0) := by
        funext i
        have hdouble : 2 * Nat.succ i = 2 * i + 1 + 1 := by omega
        simp only [Function.comp_apply, hdouble, List.getD_cons_succ]
      unfold nibbles_of at htail ⊢
      rw [List.range_succ_eq_map, List.map_cons, List.flatMap_cons, List.map_map, hshift, htail]
      simp only [Nat.mul_zero, Nat.zero_add, List.getD_cons_zero, List.getD_cons_succ, hhi, hlo,
        List.cons_append, List.nil_append]

/-! ## Encoding -/

/-- The digits of a field. -/
def capacity (width : ℕ) : ℕ := width * 2 - 1

/-- INTERNAL: the integer of a number whose value is one. -/
theorem to_int_spells {value : PyDecimal} {n : ℕ}
    (h : Spells value (signed (is_signed value) n)) :
    ∃ m : ℤ, value.to_integral_value.to_int = .ok m ∧ m.natAbs = n := by
  obtain ⟨sign, coeff, exp, rfl, hvalue⟩ := h
  have hmagnitude : (coeff : ℚ) * 10 ^ exp = n := by
    cases sign
    · exact hvalue
    · exact neg_inj.mp hvalue
  by_cases hexp : 0 ≤ exp
  · obtain ⟨k, rfl⟩ := Int.eq_ofNat_of_zero_le hexp
    have hn : coeff * 10 ^ k = n := by
      rw [zpow_natCast] at hmagnitude
      exact_mod_cast hmagnitude
    simp only [to_integral_value, if_pos hexp, to_int, Int.toNat_natCast]
    refine ⟨_, rfl, ?_⟩
    rw [← hn]
    split
    · rw [Int.natAbs_neg]
      exact Int.natAbs_natCast _
    · exact Int.natAbs_natCast _
  · obtain ⟨k, hk⟩ := Int.eq_ofNat_of_zero_le (show 0 ≤ -exp by omega)
    have hexp_eq : exp = -(k : ℤ) := by omega
    have hn : coeff = n * 10 ^ k := by
      rw [hexp_eq, zpow_neg, zpow_natCast, ← div_eq_mul_inv, div_eq_iff (by positivity)]
        at hmagnitude
      exact_mod_cast hmagnitude
    have hpos : 0 < 10 ^ k := Nat.pow_pos (by omega)
    have hquot : round_half_even coeff (10 ^ (-exp).toNat) = n := by
      rw [hk, Int.toNat_natCast, hn, round_half_even_of_dvd hpos (Nat.dvd_mul_left _ _),
        Nat.mul_div_cancel _ hpos]
    simp only [to_integral_value, if_neg hexp, hquot, to_int, le_refl, if_true, Int.toNat_zero,
      pow_zero, mul_one]
    refine ⟨_, rfl, ?_⟩
    split
    · rw [Int.natAbs_neg]
      exact Int.natAbs_natCast _
    · exact Int.natAbs_natCast _

/-- INTERNAL: the magnitude of a number whose value is a scaled integer. -/
theorem scaled_magnitude {sign : Bool} {coeff : ℕ} {exp : ℤ} {n : ℤ} {d : ℕ}
    (h : signed sign (coeff * 10 ^ exp) = n * 10 ^ (-(d : ℤ))) :
    (coeff : ℚ) * 10 ^ (exp + d) = n.natAbs := by
  have hten : (0 : ℚ) < 10 := by norm_num
  have habs := congrArg abs h
  rw [abs_signed, abs_mul, abs_mul, Nat.abs_cast, abs_of_pos (zpow_pos hten _),
    abs_of_pos (zpow_pos hten _)] at habs
  rw [zpow_add₀ hten.ne', ← mul_assoc, habs, mul_assoc, ← zpow_add₀ hten.ne', neg_add_cancel,
    zpow_zero, mul_one, Nat.cast_natAbs, Int.cast_abs]

/-- INTERNAL: the digits of a magnitude, and how it is rounded. -/
theorem scaled_digits {coeff n : ℕ} {exp : ℤ} (hpos : 0 < coeff)
    (h : (coeff : ℚ) * 10 ^ exp = n) :
    0 < n ∧ ((decimal_digits coeff).length : ℤ) + exp = (decimal_digits n).length ∧
      (rounded coeff : ℚ) * 10 ^ exp = rounded n := by
  by_cases hexp : 0 ≤ exp
  · obtain ⟨k, rfl⟩ := Int.eq_ofNat_of_zero_le hexp
    have hn : coeff * 10 ^ k = n := by
      rw [zpow_natCast] at h
      exact_mod_cast h
    subst hn
    refine ⟨Nat.mul_pos hpos (Nat.pow_pos (by omega)), ?_, ?_⟩
    · rw [length_mul_pow k hpos]
      push_cast
      rfl
    · rw [rounded_mul_pow k hpos, zpow_natCast]
      push_cast
      rfl
  · obtain ⟨k, hk⟩ := Int.eq_ofNat_of_zero_le (show 0 ≤ -exp by omega)
    have hexp_eq : exp = -(k : ℤ) := by omega
    have hcoeff : coeff = n * 10 ^ k := by
      rw [hexp_eq, zpow_neg, zpow_natCast, ← div_eq_mul_inv, div_eq_iff (by positivity)] at h
      exact_mod_cast h
    have hn : 0 < n := Nat.pos_of_ne_zero fun hzero => by
      rw [hcoeff, hzero, Nat.zero_mul] at hpos
      exact lt_irrefl 0 hpos
    refine ⟨hn, ?_, ?_⟩
    · rw [hcoeff, length_mul_pow k hn, hexp_eq]
      push_cast
      ring
    · rw [hcoeff, rounded_mul_pow k hn, hexp_eq, zpow_neg, zpow_natCast]
      push_cast
      rw [mul_assoc, mul_inv_cancel₀ (by positivity), mul_one]

/-- INTERNAL: what the encoder finds as the digits of a number. -/
theorem unscaled {value : PyDecimal} {n : ℤ} {d : ℕ} (hd : d ≤ 31)
    (hvalue : Spells value (n * 10 ^ (-(d : ℤ)))) :
    (∃ e, value.scaleb d = .error e ∧ 10 ^ 31 ≤ n.natAbs) ∨
      ∃ scaled m, value.scaleb d = .ok scaled ∧ scaled.to_integral_value.to_int = .ok m ∧
        m.natAbs = rounded n.natAbs := by
  obtain ⟨sign, coeff, exp, rfl, hvalue⟩ := hvalue
  have hmagnitude := scaled_magnitude hvalue
  have hk : |(d : ℤ)| ≤ 2 * (EMAX + PREC) := by
    rw [Nat.abs_cast]
    have hbound : (31 : ℤ) ≤ 2 * (EMAX + PREC) := by decide
    omega
  have hlow : 0 < coeff → ETINY + PREC ≤ (decimal_digits coeff).length + (exp + d) := by
    intro hpos
    have hlength := (scaled_digits hpos hmagnitude).2.1
    have hdigits := decimal_digits_length_pos n.natAbs
    have hbound : ETINY + PREC ≤ 1 := by decide
    omega
  rcases scaleb_spells sign hk hlow with ⟨e, he, hpos, hhigh⟩ | ⟨scaled, hscaled, hsign, hspells⟩
  · refine .inl ⟨e, he, ?_⟩
    by_contra hlt
    have hlength := (decimal_digits_length_le_iff (k := 31) (by omega) _).mpr (not_le.mp hlt)
    have hdigits := (scaled_digits hpos hmagnitude).2.1
    have hbound : (31 : ℤ) < ETOP + PREC := by decide
    omega
  · right
    have hrounded : (rounded coeff : ℚ) * 10 ^ (exp + d) = rounded n.natAbs := by
      by_cases hzero : coeff = 0
      · rw [hzero, Nat.cast_zero, zero_mul] at hmagnitude
        have hn : n.natAbs = 0 := by exact_mod_cast hmagnitude.symm
        rw [hzero, hn, rounded_of_fits (by decide), Nat.cast_zero, zero_mul]
      · exact (scaled_digits (Nat.pos_of_ne_zero hzero) hmagnitude).2.2
    rw [hrounded, ← hsign] at hspells
    obtain ⟨m, hm, habs⟩ := to_int_spells hspells
    exact ⟨scaled, m, hscaled, hm, habs⟩

/-- INTERNAL: the half bytes of a field. -/
def field_nibbles (width n : ℕ) (sign : Bool) : List ℕ :=
  padded (capacity width) n ++ [if sign then BCD_NEGATIVE_SIGN else 0x0C]

/-- INTERNAL: the bytes of half bytes. -/
def packed (width : ℕ) (nibbles : List ℕ) : Bytes :=
  (List.range width).map fun i =>
    UInt8.ofNat ((nibbles.getD (2 * i) 0 <<< 4) ||| nibbles.getD (2 * i + 1) 0)

section Field

variable {field : FieldDesc} {w d : ℕ} (hw : bcd_width field = w) (hpos : 0 < w)
  (hd : field.decimals = d) (hd31 : d ≤ 31)

include hw hpos hd hd31

/-- A number whose rounded digits fit is packed. -/
theorem encode_bcd_fits {value : PyDecimal} {n : ℤ} (hw16 : w ≤ 16)
    (hvalue : Spells value (n * 10 ^ (-(d : ℤ)))) (hn : n.natAbs < 10 ^ capacity w)
    (hfits : rounded n.natAbs < 10 ^ capacity w) :
    encode_bcd value field = .ok (packed w (field_nibbles w (rounded n.natAbs)
      (is_signed value))) := by
  have hcapacity : 0 < capacity w ∧ capacity w ≤ 31 := by
    unfold capacity
    omega
  have hlength := (decimal_digits_length_le_iff hcapacity.1 _).mpr hfits
  have hlimit : ¬ INT_MAX_STR_DIGITS < (decimal_digits (rounded n.natAbs)).length := by
    have hmax : 31 ≤ INT_MAX_STR_DIGITS := by decide
    omega
  rcases unscaled hd31 hvalue with ⟨e, -, hlarge⟩ | ⟨scaled, m, hscaled, hm, habs⟩
  · have hpow : (10 : ℕ) ^ capacity w ≤ 10 ^ 31 := Nat.pow_le_pow_right (by omega) hcapacity.2
    omega
  · have hdigits : int_digits m.natAbs = .ok (decimal_digits (rounded n.natAbs)) := by
      unfold int_digits
      rw [habs, if_neg hlimit]
    have hroom : ¬ w * 2 - 1 < (decimal_digits (rounded n.natAbs)).length := not_lt.mpr hlength
    unfold encode_bcd
    rw [hw, hd, if_neg (by omega)]
    simp only [Int.toNat_natCast, hscaled, hm, hdigits, bind, Except.bind, if_neg hroom]
    rfl

/-- A number whose rounded digits do not fit is rejected. -/
theorem encode_bcd_rejects {value : PyDecimal} {n : ℤ}
    (hvalue : Spells value (n * 10 ^ (-(d : ℤ)))) (hlarge : 10 ^ capacity w ≤ rounded n.natAbs) :
    ∃ e, encode_bcd value field = .error e := by
  have hcapacity : 0 < capacity w := by
    unfold capacity
    omega
  have hlength : w * 2 - 1 < (decimal_digits (rounded n.natAbs)).length := by
    by_contra hle
    exact absurd ((decimal_digits_length_le_iff hcapacity _).mp (not_lt.mp hle)) (not_lt.mpr hlarge)
  unfold encode_bcd
  rw [hw, hd, if_neg (by omega)]
  rcases unscaled hd31 hvalue with ⟨e, he, -⟩ | ⟨scaled, m, hscaled, hm, habs⟩
  · exact ⟨e, by simp only [he, bind, Except.bind]⟩
  · by_cases hlimit : INT_MAX_STR_DIGITS < (decimal_digits (rounded n.natAbs)).length
    · have hdigits : ∃ e, int_digits m.natAbs = .error e := by
        unfold int_digits
        rw [habs, if_pos hlimit]
        exact ⟨_, rfl⟩
      obtain ⟨e, he⟩ := hdigits
      exact ⟨e, by simp only [hscaled, hm, he, bind, Except.bind]⟩
    · have hdigits : int_digits m.natAbs = .ok (decimal_digits (rounded n.natAbs)) := by
        unfold int_digits
        rw [habs, if_neg hlimit]
      simp only [Int.toNat_natCast, hscaled, hm, hdigits, bind, Except.bind, if_pos hlength]
      exact ⟨_, rfl⟩

/-! ## Decoding -/

omit hd31 in
/-- What was packed is read as an integer, which is scaled. -/
theorem decode_packed_eq (sign : Bool) {n : ℕ} (hn : n < 10 ^ capacity w) :
    decode_bcd (packed w (field_nibbles w n sign)) field = (finite sign n 0).scaleb (-(d : ℤ)) := by
  have hcapacity : 0 < capacity w ∧ 2 * w = capacity w + 1 := by
    unfold capacity
    omega
  have hdigits := (decimal_digits_length_le_iff hcapacity.1 _).mpr hn
  have hle := padded_le (capacity w) n
  have hlength : (field_nibbles w n sign).length = 2 * w := by
    unfold field_nibbles
    rw [List.length_append, length_padded hdigits, List.length_singleton, hcapacity.2]
  have hnibbles : nibbles_of (packed w (field_nibbles w n sign)) = field_nibbles w n sign := by
    apply nibbles_of_packed w hlength
    intro x hx
    rcases List.mem_append.mp hx with hx | hx
    · have hx9 := hle x hx
      omega
    · rw [List.mem_singleton.mp hx]
      cases sign <;> decide
  have hbytes : (packed w (field_nibbles w n sign)).length = w := by
    unfold packed
    rw [List.length_map, List.length_range]
  have hfind : (padded (capacity w) n).find? (fun x => decide (9 < x)) = none := by
    apply List.find?_eq_none.mpr
    intro x hx hlarge
    have hx9 := hle x hx
    have hlt := of_decide_eq_true hlarge
    omega
  have hsign :
      (decide ((if sign then BCD_NEGATIVE_SIGN else 0x0C) = BCD_NEGATIVE_SIGN)) = sign := by
    cases sign <;> decide
  have hknown : ¬ ((if sign then BCD_NEGATIVE_SIGN else 0x0C) ≠ BCD_NEGATIVE_SIGN ∧
      (if sign then BCD_NEGATIVE_SIGN else 0x0C) ∉ BCD_POSITIVE_SIGNS) := by
    cases sign <;> decide
  unfold decode_bcd
  rw [hw, hd, if_neg (by omega), if_neg (by rw [hbytes]; omega), Int.toNat_natCast,
    List.take_of_length_le hbytes.le, hnibbles]
  unfold field_nibbles
  simp only [List.getLastD_concat, List.dropLast_concat, if_neg hknown, hfind, hsign,
    of_digits_padded]

/-- What was packed is read back, rounded to the digits of the context. -/
theorem decode_packed (sign : Bool) {n : ℕ} (hw16 : w ≤ 16) (hn : n < 10 ^ capacity w) :
    ∃ back, decode_bcd (packed w (field_nibbles w n sign)) field = .ok back ∧
      Spells back (signed sign (rounded n * 10 ^ (-(d : ℤ)))) := by
  have hcapacity : 0 < capacity w ∧ 2 * w = capacity w + 1 := by
    unfold capacity
    omega
  have hdigits := (decimal_digits_length_le_iff hcapacity.1 _).mpr hn
  have hk : |(-(d : ℤ))| ≤ 2 * (EMAX + PREC) := by
    rw [abs_neg, Nat.abs_cast]
    have hbound : (31 : ℤ) ≤ 2 * (EMAX + PREC) := by decide
    omega
  have hlow : 0 < n → ETINY + PREC ≤ (decimal_digits n).length + (0 + -(d : ℤ)) := by
    intro _
    have hbound : ETINY + PREC ≤ -31 := by decide
    omega
  rw [decode_packed_eq hw hpos hd sign hn]
  rcases scaleb_spells sign hk hlow with ⟨e, -, -, hhigh⟩ | ⟨back, hback, -, hspells⟩
  · have hbound : (31 : ℤ) < ETOP + PREC := by decide
    unfold capacity at hdigits
    omega
  · rw [zero_add] at hspells
    exact ⟨back, hback, hspells⟩

/-- A number of the digits of the context is read back as it is. -/
theorem decode_packed_exact (sign : Bool) {n : ℕ} (hn : n < 10 ^ capacity w)
    (hprec : n < 10 ^ PREC) :
    decode_bcd (packed w (field_nibbles w n sign)) field = .ok (.finite sign n (-(d : ℤ))) := by
  have hdigits := (decimal_digits_length_le_iff (k := PREC) (by decide) n).mpr hprec
  have hk : ¬ 2 * (EMAX + PREC) < |(-(d : ℤ))| := by
    rw [abs_neg, Nat.abs_cast]
    have hbound : (31 : ℤ) ≤ 2 * (EMAX + PREC) := by decide
    omega
  have hlow : ETINY ≤ -(d : ℤ) := by
    have hbound : ETINY ≤ -31 := by decide
    omega
  have hhigh : -(d : ℤ) ≤ ETOP ∧ -(d : ℤ) ≤ EMAX := by
    have hbound : 0 ≤ ETOP ∧ 0 ≤ EMAX := by decide
    omega
  rw [decode_packed_eq hw hpos hd sign hn]
  unfold scaleb
  dsimp only
  rw [if_neg hk, zero_add]
  unfold fix
  split
  · next hzero => rw [hzero, max_eq_left hlow, min_eq_left hhigh.2]
  · dsimp only
    rw [if_neg (by omega), if_neg (by omega)]

end Field

/-! ## Round trips -/

/-- INTERNAL: a number has one value. -/
theorem spells_unique {value : PyDecimal} {p q : ℚ} (hp : Spells value p) (hq : Spells value q) :
    p = q := by
  obtain ⟨sign, coeff, exp, rfl, rfl⟩ := hp
  obtain ⟨sign', coeff', exp', heq, rfl⟩ := hq
  obtain ⟨hsign, hcoeff, hexp⟩ := PyDecimal.finite.inj heq
  rw [hsign, hcoeff, hexp]

/-- INTERNAL: a scaled integer, by its sign and its magnitude. -/
theorem signed_magnitude {value : PyDecimal} {n : ℤ} {d : ℕ}
    (h : Spells value (n * 10 ^ (-(d : ℤ)))) :
    signed (is_signed value) (n.natAbs * 10 ^ (-(d : ℤ))) = n * 10 ^ (-(d : ℤ)) := by
  obtain ⟨sign, coeff, exp, rfl, hvalue⟩ := h
  have hmagnitude := scaled_magnitude hvalue
  have hten : (10 : ℚ) ≠ 0 := by norm_num
  have hback : (n.natAbs : ℚ) * 10 ^ (-(d : ℤ)) = coeff * 10 ^ exp := by
    rw [← hmagnitude, mul_assoc, ← zpow_add₀ hten, add_neg_cancel_right]
  rw [hback]
  exact hvalue

/-- A number is read back as it was packed, and one that does not fit is rejected, exactly where a
number that fits has at most 28 significant digits. -/
theorem packed_round_trip_iff {field : FieldDesc} {w d : ℕ} (hw : bcd_width field = w)
    (hd : field.decimals = d) (hpos : 1 ≤ w) (hw16 : w ≤ 16) (hdw : d ≤ 2 * w - 1)
    {value : PyDecimal} {n : ℤ} (hvalue : Spells value (n * 10 ^ (-(d : ℤ)))) :
    ((n.natAbs < 10 ^ (2 * w - 1) →
        ∃ raw, encode_bcd value field = .ok raw ∧ raw.length = w ∧
          ∃ back, decode_bcd raw field = .ok back ∧ Spells back (n * 10 ^ (-(d : ℤ)))) ∧
      (10 ^ (2 * w - 1) ≤ n.natAbs → ∃ e, encode_bcd value field = .error e)) ↔
    (n.natAbs < 10 ^ (2 * w - 1) → ∃ m j, n.natAbs = m * 10 ^ j ∧ m < 10 ^ 28) := by
  have hd31 : d ≤ 31 := by omega
  have hcapacity : 2 * w - 1 = capacity w := by
    unfold capacity
    omega
  have hlength : ∀ nibbles, (packed w nibbles).length = w := by
    intro nibbles
    unfold packed
    rw [List.length_map, List.length_range]
  rw [hcapacity]
  constructor
  · rintro ⟨hback, -⟩ hn
    obtain ⟨raw, hraw, -, back, hdecoded, hspells⟩ := hback hn
    apply (rounded_eq_iff n.natAbs).mp
    by_cases hfits : rounded n.natAbs < 10 ^ capacity w
    · have hencoded := encode_bcd_fits hw hpos hd hd31 hw16 hvalue hn hfits
      rw [hraw] at hencoded
      obtain ⟨back', hdecoded', hspells'⟩ :=
        decode_packed hw hpos hd hd31 (is_signed value) hw16 hfits
      rw [← Except.ok.inj hencoded, hdecoded] at hdecoded'
      cases hdecoded'
      have hsame := congrArg abs (spells_unique hspells' hspells)
      have hscale : (0 : ℚ) < 10 ^ (-(d : ℤ)) := zpow_pos (by norm_num) _
      rw [← signed_magnitude hvalue, abs_signed, abs_signed, abs_mul, abs_mul, Nat.abs_cast,
        Nat.abs_cast, rounded_rounded] at hsame
      have hcancel := mul_right_cancel₀ (abs_pos.mpr hscale.ne').ne' hsame
      exact_mod_cast hcancel
    · obtain ⟨e, he⟩ := encode_bcd_rejects hw hpos hd hd31 hvalue (not_lt.mp hfits)
      rw [hraw] at he
      cases he
  · intro hdigits
    refine ⟨fun hn => ?_, fun hlarge => ?_⟩
    · have hrounded := (rounded_eq_iff n.natAbs).mpr (hdigits hn)
      have hencoded := encode_bcd_fits hw hpos hd hd31 hw16 hvalue hn (by rw [hrounded]; exact hn)
      rw [hrounded] at hencoded
      obtain ⟨back, hdecoded, hspells⟩ :=
        decode_packed hw hpos hd hd31 (is_signed value) hw16 hn
      rw [hrounded, signed_magnitude hvalue] at hspells
      exact ⟨_, hencoded, hlength _, back, hdecoded, hspells⟩
    · exact encode_bcd_rejects hw hpos hd hd31 hvalue (pow_le_rounded hlarge)

/-- A packed field. -/
def packed_field (width decimals : ℕ) : FieldDesc where
  name := lit "AMOUNT"
  rfctype := RFCTYPE_BCD
  nuc_length := width
  nuc_offset := 0
  uc_length := width
  uc_offset := 0
  decimals := decimals

/-- The price 800000.50 in a field of eight bytes. -/
theorem packed_round_trip_price :
    ∃ raw, encode_bcd (.finite false 80000050 (-2)) (packed_field 8 2) = .ok raw ∧ raw.length = 8 ∧
      ∃ back, decode_bcd raw (packed_field 8 2) = .ok back ∧
        Spells back ((80000050 : ℤ) * 10 ^ (-((2 : ℕ) : ℤ))) := by
  have hspells : Spells (.finite false 80000050 (-2)) ((80000050 : ℤ) * 10 ^ (-((2 : ℕ) : ℤ))) :=
    ⟨false, 80000050, -2, rfl, by norm_num [signed]⟩
  have hholds := (@packed_round_trip_iff (packed_field 8 2) 8 2 rfl rfl
    (by omega) (by omega) (by omega) _ _ hspells).mpr fun _ => ⟨80000050, 0, rfl, by norm_num⟩
  exact hholds.1 (by norm_num)

/-- Thirty-one digits fit a field of sixteen bytes; the last three come back as zeros. -/
theorem packed_digits_lost :
    Spells (.finite false 1234567890123456789012345678901 (-2))
        ((1234567890123456789012345678901 : ℤ) * 10 ^ (-((2 : ℕ) : ℤ))) ∧
      (1234567890123456789012345678901 : ℤ).natAbs < 10 ^ (2 * 16 - 1) ∧
      ((encode_bcd (.finite false 1234567890123456789012345678901 (-2)) (packed_field 16 2)).bind
        fun raw => decode_bcd raw (packed_field 16 2)) =
          .ok (.finite false 1234567890123456789012345679 1) ∧
      ¬ Spells (.finite false 1234567890123456789012345679 1)
        ((1234567890123456789012345678901 : ℤ) * 10 ^ (-((2 : ℕ) : ℤ))) := by
  refine ⟨⟨false, _, _, rfl, by norm_num [signed]⟩, by norm_num, by decide +kernel, ?_⟩
  intro hspells
  have hsame := spells_unique hspells ⟨false, _, _, rfl, rfl⟩
  norm_num [signed] at hsame

end SapRfc.Analysis.PackedDecimals
