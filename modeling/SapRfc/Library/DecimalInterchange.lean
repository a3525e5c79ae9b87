import Mathlib.Data.Nat.Digits.Lemmas
import SapRfc.Library.BitPacking

/-!
# Decimal interchange formats

The decimal floating-point formats of IEEE 754-2008 with a densely packed coefficient.  A datum is
a number of `total` bits: a sign bit, the combination field of five bits, the continuation of the
exponent, and the declets.  A declet packs three decimal digits into ten bits, so 24 of its 1024
patterns are redundant: they stand for digits that another declet stands for too.
-/

set_option autoImplicit false

namespace SapRfc.Library.DecimalInterchange

/-! ## Declets -/

/-- The digits of the declet `pqr stu v wxy` (table 3.3 of the standard). -/
def decletDigits (c : ℕ) : ℕ × ℕ × ℕ :=
  let pq := c / 256
  let r := c / 128 % 2
  let st := c / 32 % 4
  let u := c / 16 % 2
  let wx := c / 2 % 4
  let y := c % 2
  if c / 8 % 2 = 0 then (2 * pq + r, 2 * st + u, 2 * wx + y)
  else
    match wx with
    | 0 => (2 * pq + r, 2 * st + u, 8 + y)
    | 1 => (2 * pq + r, 8 + u, 2 * st + y)
    | 2 => (8 + r, 2 * st + u, 2 * pq + y)
    | _ =>
      match st with
      | 0 => (8 + r, 8 + u, 2 * pq + y)
      | 1 => (8 + r, 2 * pq + u, 8 + y)
      | 2 => (2 * pq + r, 8 + u, 8 + y)
      | _ => (8 + r, 8 + u, 8 + y)

/-- The number that three digits spell. -/
def trioValue (t : ℕ × ℕ × ℕ) : ℕ := 100 * t.1 + 10 * t.2.1 + t.2.2

/-- Where all three digits are large, the bits `p` and `q` of a canonical declet are zero. -/
def IsCanonical (c : ℕ) : Prop :=
  c / 8 % 2 = 1 → c / 2 % 4 = 3 → c / 32 % 4 = 3 → c / 256 = 0

instance (c : ℕ) : Decidable (IsCanonical c) := by
  unfold IsCanonical
  infer_instance

/-- The number that `k` declets spell, the last of them in the lowest bits. -/
def fromDeclets : ℕ → ℕ → ℕ
  | 0, _ => 0
  | k + 1, t => trioValue (decletDigits (t % 1024)) + 1000 * fromDeclets k (t / 1024)

/-- The declets of a coefficient are all canonical. -/
def AllCanonical : ℕ → ℕ → Prop
  | 0, _ => True
  | k + 1, t => IsCanonical (t % 1024) ∧ AllCanonical k (t / 1024)

instance decidableAllCanonical : (k t : ℕ) → Decidable (AllCanonical k t)
  | 0, _ => .isTrue trivial
  | k + 1, t =>
    have := decidableAllCanonical k (t / 1024)
    inferInstanceAs (Decidable (IsCanonical (t % 1024) ∧ AllCanonical k (t / 1024)))

/-- A declet put below the ones that are there. -/
theorem fromDeclets_push (k t : ℕ) {c : ℕ} (h : c < 1024) :
    fromDeclets (k + 1) (1024 * t + c) = trioValue (decletDigits c) + 1000 * fromDeclets k t := by
  have hmod : (1024 * t + c) % 1024 = c := by omega
  have hdiv : (1024 * t + c) / 1024 = t := by omega
  rw [fromDeclets, hmod, hdiv]

theorem allCanonical_push {k t c : ℕ} (h : c < 1024) (hc : IsCanonical c)
    (ht : AllCanonical k t) : AllCanonical (k + 1) (1024 * t + c) := by
  have hmod : (1024 * t + c) % 1024 = c := by omega
  have hdiv : (1024 * t + c) / 1024 = t := by omega
  unfold AllCanonical
  rw [hmod, hdiv]
  exact ⟨hc, ht⟩

/-! ## Formats -/

/-- The bits of the exponent continuation, the declets, and the bias of the exponent. -/
structure Format where
  econ : ℕ
  declets : ℕ
  bias : ℤ

def decimal64 : Format := ⟨8, 5, 398⟩
def decimal128 : Format := ⟨12, 11, 6176⟩

namespace Format

/-- The bits of a datum. -/
def total (f : Format) : ℕ := 6 + f.econ + 10 * f.declets

/-- The decimal digits of a coefficient. -/
def digits (f : Format) : ℕ := 3 * f.declets + 1

end Format

/-- The value of a datum.  A datum that is not a number has no other value. -/
inductive Datum where
  | finite (sign : Bool) (coeff : ℕ) (exp : ℤ)
  | infinity (sign : Bool)
  | nan
  deriving DecidableEq

/-- The fields of a datum. -/
structure Fields where
  sign : ℕ
  combo : ℕ
  econ : ℕ
  coeff : ℕ

namespace Format

/-- The bits that the fields take. -/
def pack (f : Format) (x : Fields) : ℕ :=
  x.coeff + 2 ^ (10 * f.declets) * (x.econ + 2 ^ f.econ * (x.combo + 2 ^ 5 * x.sign))

/-- The fields that fit their bits. -/
structure Fits (f : Format) (x : Fields) : Prop where
  sign : x.sign < 2
  combo : x.combo < 2 ^ 5
  econ : x.econ < 2 ^ f.econ
  coeff : x.coeff < 2 ^ (10 * f.declets)

/-- The fields of a number of `total` bits. -/
def fields (f : Format) (n : ℕ) : Fields where
  sign := n / 2 ^ (10 * f.declets + f.econ + 5) % 2
  combo := n / 2 ^ (10 * f.declets + f.econ) % 2 ^ 5
  econ := n / 2 ^ (10 * f.declets) % 2 ^ f.econ
  coeff := n % 2 ^ (10 * f.declets)

/-- The leading digit and the high bits of the exponent (section 3.5.2 of the standard). -/
def lead (combo : ℕ) : ℕ × ℕ :=
  if 24 ≤ combo then (8 + combo % 2, combo / 2 % 4) else (combo % 8, combo / 8)

/-- The combination field of a leading digit and the high bits of an exponent. -/
def comboOf (lead high : ℕ) : ℕ :=
  if lead ≤ 7 then 8 * high + lead else 24 + 2 * high + lead % 2

/-- The datum of the fields. -/
def datumOf (f : Format) (x : Fields) : Datum :=
  if 30 ≤ x.combo then
    if x.combo % 2 = 1 then .nan else .infinity (x.sign = 1)
  else
    .finite (x.sign = 1) ((lead x.combo).1 * 1000 ^ f.declets + fromDeclets f.declets x.coeff)
      (((lead x.combo).2 * 2 ^ f.econ + x.econ : ℕ) - f.bias)

/-- The datum that the format assigns to a number of `total` bits. -/
def datum (f : Format) (n : ℕ) : Datum :=
  f.datumOf (f.fields n)

/-! ## Packing -/

/-- INTERNAL: a field below others. -/
theorem mod_of_low {low w : ℕ} (high : ℕ) (h : low < 2 ^ w) :
    (low + 2 ^ w * high) % 2 ^ w = low := by
  rw [Nat.add_mul_mod_self_left, Nat.mod_eq_of_lt h]

/-- INTERNAL: what is above a field. -/
theorem div_of_low {low w : ℕ} (high : ℕ) (h : low < 2 ^ w) :
    (low + 2 ^ w * high) / 2 ^ w = high := by
  rw [Nat.add_mul_div_left _ _ (Nat.two_pow_pos w), Nat.div_eq_of_lt h, Nat.zero_add]

/-- The fields are read back as they were packed. -/
theorem fields_pack (f : Format) {x : Fields} (h : f.Fits x) : f.fields (f.pack x) = x := by
  have hecon : f.pack x / 2 ^ (10 * f.declets) = x.econ + 2 ^ f.econ * (x.combo + 2 ^ 5 * x.sign) :=
    div_of_low _ h.coeff
  have hcombo : f.pack x / 2 ^ (10 * f.declets + f.econ) = x.combo + 2 ^ 5 * x.sign := by
    rw [pow_add, ← Nat.div_div_eq_div_mul, hecon]
    exact div_of_low _ h.econ
  have hsign : f.pack x / 2 ^ (10 * f.declets + f.econ + 5) = x.sign := by
    rw [pow_add, ← Nat.div_div_eq_div_mul, hcombo]
    exact div_of_low _ h.combo
  unfold fields
  rw [hsign, hcombo, hecon, mod_of_low _ h.econ, mod_of_low _ h.combo, Nat.mod_eq_of_lt h.sign]
  have hcoeff : f.pack x % 2 ^ (10 * f.declets) = x.coeff := mod_of_low _ h.coeff
  rw [hcoeff]

theorem pack_lt (f : Format) {x : Fields} (h : f.Fits x) : f.pack x < 2 ^ f.total := by
  have habove : ∀ {low high w v : ℕ}, low < 2 ^ w → high < 2 ^ v →
      low + 2 ^ w * high < 2 ^ (w + v) := by
    intro low high w v hlow hhigh
    have hmul : 2 ^ w * (high + 1) ≤ 2 ^ w * 2 ^ v := Nat.mul_le_mul_left _ hhigh
    rw [mul_add, mul_one, ← pow_add] at hmul
    omega
  have htotal : f.total = 10 * f.declets + (f.econ + (5 + 1)) := by
    unfold total
    omega
  rw [htotal]
  exact habove h.coeff (habove h.econ (habove h.combo (by simpa using h.sign)))

/-- The two forms of the combination field are told apart. -/
theorem lead_comboOf {d high : ℕ} (hd : d ≤ 9) (hhigh : high < 3) :
    lead (comboOf d high) = (d, high) ∧ comboOf d high < 30 := by
  unfold lead comboOf
  by_cases hsmall : d ≤ 7
  · rw [if_pos hsmall, if_neg (by omega)]
    exact ⟨Prod.ext (by show (8 * high + d) % 8 = d; omega)
      (by show (8 * high + d) / 8 = high; omega),
      by omega⟩
  · rw [if_neg hsmall, if_pos (by omega)]
    refine ⟨Prod.ext ?_ ?_, by omega⟩
    · show 8 + (24 + 2 * high + d % 2) % 2 = d
      omega
    · show (24 + 2 * high + d % 2) / 2 % 4 = high
      omega

/-- The fields of a finite number fit. -/
theorem fits_finite (f : Format) {sign d t biased : ℕ} (hsign : sign < 2) (hd : d ≤ 9)
    (ht : t < 2 ^ (10 * f.declets)) (hbiased : biased < 3 * 2 ^ f.econ) :
    f.Fits ⟨sign, comboOf d (biased / 2 ^ f.econ), biased % 2 ^ f.econ, t⟩ := by
  have hpos : 0 < 2 ^ f.econ := Nat.two_pow_pos _
  have hhigh : biased / 2 ^ f.econ < 3 := (Nat.div_lt_iff_lt_mul hpos).mpr hbiased
  have hcombo := (lead_comboOf hd hhigh).2
  exact ⟨hsign, by show comboOf _ _ < 2 ^ 5; omega, Nat.mod_lt _ hpos, ht⟩

/-- A finite number is read back as it was packed. -/
theorem datum_pack_finite (f : Format) {sign d t biased : ℕ} (hsign : sign < 2) (hd : d ≤ 9)
    (ht : t < 2 ^ (10 * f.declets)) (hbiased : biased < 3 * 2 ^ f.econ) :
    f.datum (f.pack ⟨sign, comboOf d (biased / 2 ^ f.econ), biased % 2 ^ f.econ, t⟩) =
      .finite (sign = 1) (d * 1000 ^ f.declets + fromDeclets f.declets t) (biased - f.bias) := by
  have hpos : 0 < 2 ^ f.econ := Nat.two_pow_pos _
  have hhigh : biased / 2 ^ f.econ < 3 := (Nat.div_lt_iff_lt_mul hpos).mpr hbiased
  obtain ⟨hlead, hcombo⟩ := lead_comboOf hd hhigh
  have hfits := f.fits_finite hsign hd ht hbiased
  have hexp : biased / 2 ^ f.econ * 2 ^ f.econ + biased % 2 ^ f.econ = biased :=
    Nat.div_add_mod' biased _
  unfold datum datumOf
  rw [fields_pack f hfits, if_neg (by show ¬ 30 ≤ comboOf _ _; omega), hlead]
  simp only [hexp]

end Format

end SapRfc.Library.DecimalInterchange
