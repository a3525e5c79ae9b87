import SapRfc.Analysis.DecimalDigits
import SapRfc.Analysis.Dicts
import SapRfc.Library.DecimalInterchange

/-!
# Declets

The tables that `_build_dpd_tables` fills hold the canonical declets: every triple of digits is
encoded as the canonical declet of these digits, and of the 1024 declets the table of the decoder
has the 1000 canonical ones.  From this, what the loops over the declets of a coefficient do.
-/

set_option autoImplicit false

namespace SapRfc.Analysis.Declets

open SapRfc.Library SapRfc.Library.DecimalInterchange SapRfc.Program
open SapRfc.Analysis.Dicts SapRfc.Analysis.DecimalDigits

/-! ## One declet -/

theorem mem_digit_trios {t : ℕ × ℕ × ℕ} :
    t ∈ digit_trios ↔ t.1 < 10 ∧ t.2.1 < 10 ∧ t.2.2 < 10 := by
  obtain ⟨d1, d2, d3⟩ := t
  simp [digit_trios]

/-- INTERNAL: the thousand triples, one by one. -/
theorem declets_of_trios :
    ∀ t ∈ digit_trios,
      dpd_declet t < 1024 ∧ decletDigits (dpd_declet t) = t ∧ IsCanonical (dpd_declet t) := by
  decide +kernel

/-- INTERNAL: the declets, one by one. -/
theorem trios_of_declets :
    ∀ c < 1024,
      ((decletDigits c).1 < 10 ∧ (decletDigits c).2.1 < 10 ∧ (decletDigits c).2.2 < 10) ∧
        (IsCanonical c → dpd_declet (decletDigits c) = c) := by
  decide +kernel

/-! ## The tables -/

theorem assocGet_setdefault {α β : Type} [DecidableEq α] (d : List (α × β)) (key other : α)
    (value : β) :
    assocGet (assocSetdefault d key value) other =
      (assocGet d other).or (if key = other then some value else none) := by
  unfold assocSetdefault
  split
  · next hold =>
    by_cases hkey : key = other
    · subst hkey
      rw [Option.or_of_isSome hold]
    · rw [if_neg hkey, Option.or_none]
  · rw [assocGet_append, assocGet_cons]
    rfl

/-- INTERNAL: the maps behind a part of the loop. -/
theorem built_from (ts : List (ℕ × ℕ × ℕ))
    (maps : List ((ℕ × ℕ × ℕ) × ℕ) × List (ℕ × (ℕ × ℕ × ℕ))) :
    let built := ts.foldl
      (fun maps t =>
        (assocSet maps.1 t (dpd_declet t), assocSetdefault maps.2 (dpd_declet t) t)) maps
    (∀ t, assocGet built.1 t = if t ∈ ts then some (dpd_declet t) else assocGet maps.1 t) ∧
    (∀ c, assocGet built.2 c = (assocGet maps.2 c).or (ts.find? fun t => dpd_declet t = c)) := by
  induction ts generalizing maps with
  | nil =>
    refine ⟨fun t => ?_, fun c => ?_⟩
    · rw [if_neg List.not_mem_nil]
      rfl
    · rw [List.find?_nil, Option.or_none]
      rfl
  | cons t ts ih =>
    have hrest := ih (assocSet maps.1 t (dpd_declet t), assocSetdefault maps.2 (dpd_declet t) t)
    refine ⟨fun t' => ?_, fun c => ?_⟩
    · rw [List.foldl_cons, hrest.1 t', assocGet_assocSet]
      by_cases hmem : t' ∈ ts
      · rw [if_pos hmem, if_pos (List.mem_cons_of_mem _ hmem)]
      · by_cases heq : t = t'
        · subst heq
          rw [if_neg hmem, if_pos rfl, if_pos List.mem_cons_self]
        · have hnot : t' ∉ t :: ts := by
            rw [List.mem_cons, not_or]
            exact ⟨fun h => heq h.symm, hmem⟩
          rw [if_neg hmem, if_neg heq, if_neg hnot]
    · rw [List.foldl_cons, hrest.2 c, assocGet_setdefault, Option.or_assoc]
      by_cases hc : dpd_declet t = c
      · rw [if_pos hc, List.find?_cons_of_pos (by simpa using hc)]
        rfl
      · rw [if_neg hc, List.find?_cons_of_neg (by simpa using hc)]
        rfl

/-- Three digits are encoded as their canonical declet. -/
theorem dpd_encode {t : ℕ × ℕ × ℕ} (h : t ∈ digit_trios) :
    assocGet DPD_ENCODE t = some (dpd_declet t) := by
  have hbuilt := (built_from digit_trios ([], [])).1 t
  rw [if_pos h] at hbuilt
  exact hbuilt

/-- The table of the decoder has the canonical declets, and no others. -/
theorem dpd_decode {c : ℕ} (h : c < 1024) :
    assocGet DPD_DECODE c = if IsCanonical c then some (decletDigits c) else none := by
  have hbuilt : assocGet DPD_DECODE c = digit_trios.find? fun t => dpd_declet t = c :=
    (built_from digit_trios ([], [])).2 c
  obtain ⟨hmem, hback⟩ := trios_of_declets c h
  rw [hbuilt]
  split
  · next hcanonical =>
    have hsome : (digit_trios.find? fun t => dpd_declet t = c).isSome = true :=
      List.find?_isSome.mpr ⟨_, mem_digit_trios.mpr hmem, by simpa using hback hcanonical⟩
    obtain ⟨t, ht⟩ := Option.isSome_iff_exists.mp hsome
    have hdeclet : dpd_declet t = c := by simpa using List.find?_some ht
    rw [ht, ← hdeclet, (declets_of_trios t (List.mem_of_find?_eq_some ht)).2.1]
  · next hcanonical =>
    apply List.find?_eq_none.mpr
    intro t ht hdeclet
    have heq : dpd_declet t = c := by simpa using hdeclet
    rw [← heq] at hcanonical
    exact hcanonical (declets_of_trios t ht).2.2

/-! ## The declets of a coefficient -/

theorem declet_bits (coeff n : ℕ) : (coeff >>> (n * 10)) &&& 0x3FF = coeff / 1024 ^ n % 1024 := by
  have hmask := Nat.and_two_pow_sub_one_eq_mod (coeff >>> (n * 10)) 10
  have hpow : (2 : ℕ) ^ (n * 10) = 1024 ^ n := by
    rw [Nat.mul_comm, pow_mul]
    norm_num
  rw [← hpow, ← Nat.shiftRight_eq_div_pow]
  exact hmask

/-- INTERNAL: an index that counts down ends with zero. -/
theorem mapM_countdown {α : Type} (k : ℕ) (f : ℕ → Except PyError α) :
    (List.range (k + 1)).reverse.mapM f =
      ((List.range k).reverse.mapM fun n => f (n + 1)).bind fun above =>
        (f 0).bind fun x => .ok (above ++ [x]) := by
  rw [List.range_succ_eq_map, List.reverse_cons, List.mapM_append, ← List.map_reverse,
    List.mapM_map, List.mapM_cons, List.mapM_nil]
  have hshift : (f ∘ Nat.succ) = fun n => f (n + 1) := rfl
  rw [hshift]
  cases (List.range k).reverse.mapM fun n => f (n + 1) with
  | error e => rfl
  | ok above => cases f 0 <;> rfl

/-- INTERNAL: the last step of a loop that counts up. -/
theorem foldlM_countup {α : Type} (k : ℕ) (f : α → ℕ → Except PyError α) (a : α) :
    (List.range (k + 1)).foldlM f a = ((List.range k).foldlM f a).bind fun b => f b k := by
  rw [List.range_succ, List.foldlM_append]
  cases (List.range k).foldlM f a with
  | error e => rfl
  | ok b => exact bind_pure (f b k)

/-- INTERNAL: the last declet is read last. -/
theorem decode_declets_succ (k coeff : ℕ) :
    decode_declets (k + 1) coeff =
      (decode_declets k (coeff / 1024)).bind fun above =>
        (assocIndex DPD_DECODE (coeff % 1024) (dec (coeff % 1024))).bind fun t =>
          .ok (above ++ [t.1, t.2.1, t.2.2]) := by
  have hbits : ∀ n, (coeff >>> ((n + 1) * 10)) &&& 0x3FF =
      ((coeff / 1024) >>> (n * 10)) &&& 0x3FF := by
    intro n
    rw [declet_bits, declet_bits, Nat.div_div_eq_div_mul, pow_succ, Nat.mul_comm]
  have hlast : (coeff >>> (0 * 10)) &&& 0x3FF = coeff % 1024 := by
    rw [declet_bits, pow_zero, Nat.div_one]
  unfold decode_declets
  rw [mapM_countdown]
  simp only [hbits, hlast]
  generalize ((List.range k).reverse.mapM fun n =>
    assocIndex DPD_DECODE (((coeff / 1024) >>> (n * 10)) &&& 0x3FF)
      (dec (((coeff / 1024) >>> (n * 10)) &&& 0x3FF))) = above
  generalize assocIndex DPD_DECODE (coeff % 1024) (dec (coeff % 1024)) = last
  cases above with
  | error e => rfl
  | ok trios =>
    cases last with
    | error e => rfl
    | ok t => simp [bind, Except.bind, List.flatMap_append]

/-- INTERNAL: an entry of a dict. -/
theorem assocIndex_of_some {α β : Type} [DecidableEq α] {d : List (α × β)} {key : α} {value : β}
    (text : PyStr) (h : assocGet d key = some value) : assocIndex d key text = .ok value := by
  unfold assocIndex
  rw [h]

/-- INTERNAL: a key that a dict does not have. -/
theorem assocIndex_of_none {α β : Type} [DecidableEq α] {d : List (α × β)} {key : α}
    (text : PyStr) (h : assocGet d key = none) :
    assocIndex d key text = .error (err .key text) := by
  unfold assocIndex
  rw [h]

/-- A canonical declet is read, -/
theorem index_canonical {c : ℕ} (text : PyStr) (h : c < 1024) (hc : IsCanonical c) :
    assocIndex DPD_DECODE c text = .ok (decletDigits c) := by
  apply assocIndex_of_some
  rw [dpd_decode h, if_pos hc]

/-- and a redundant one is not. -/
theorem index_redundant {c : ℕ} (text : PyStr) (h : c < 1024) (hc : ¬ IsCanonical c) :
    assocIndex DPD_DECODE c text = .error (err .key text) := by
  apply assocIndex_of_none
  rw [dpd_decode h, if_neg hc]

/-- The digits that are read spell what the declets of the format spell. -/
theorem decode_declets_of_canonical (k : ℕ) {coeff : ℕ} (h : AllCanonical k coeff) :
    ∃ digits, decode_declets k coeff = .ok digits ∧ digits.length = 3 * k ∧
      of_digits digits = fromDeclets k coeff := by
  induction k generalizing coeff with
  | zero => exact ⟨[], rfl, rfl, rfl⟩
  | succ k ih =>
    obtain ⟨hlow, habove⟩ := h
    obtain ⟨digits, hdigits, hlength, hvalue⟩ := ih habove
    have hindex := index_canonical (dec (coeff % 1024)) (Nat.mod_lt coeff (by omega)) hlow
    refine ⟨digits ++ [(decletDigits (coeff % 1024)).1, (decletDigits (coeff % 1024)).2.1,
      (decletDigits (coeff % 1024)).2.2], ?_, ?_, ?_⟩
    · rw [decode_declets_succ, hdigits, hindex]
      rfl
    · rw [List.length_append, hlength]
      rfl
    · rw [of_digits_append, hvalue, fromDeclets, trioValue]
      simp only [of_digits_cons, of_digits_nil, List.length_cons, List.length_nil]
      ring

/-- A coefficient with a redundant declet is not decoded. -/
theorem decode_declets_of_redundant (k : ℕ) {coeff : ℕ} (h : ¬ AllCanonical k coeff) :
    ∃ e, decode_declets k coeff = .error e := by
  induction k generalizing coeff with
  | zero => exact absurd trivial h
  | succ k ih =>
    by_cases habove : AllCanonical k (coeff / 1024)
    · have hlow : ¬ IsCanonical (coeff % 1024) := fun hlow => h ⟨hlow, habove⟩
      obtain ⟨digits, hdigits, -, -⟩ := decode_declets_of_canonical k habove
      refine ⟨err .key (dec (coeff % 1024)), ?_⟩
      have hindex := index_redundant (dec (coeff % 1024)) (Nat.mod_lt coeff (by omega)) hlow
      rw [decode_declets_succ, hdigits, hindex]
      rfl
    · obtain ⟨e, he⟩ := ih habove
      refine ⟨e, ?_⟩
      rw [decode_declets_succ, he]
      rfl

/-- INTERNAL: a computation that has ended. -/
theorem bind_of_ok {α β : Type} {x : Except PyError α} {a : α} (h : x = .ok a)
    (f : α → Except PyError β) : x.bind f = f a := by
  rw [h]
  rfl

/-- INTERNAL: the digits of a step. -/
theorem encode_declets_succ {k coeff d1 d2 d3 : ℕ} {digits : List ℕ}
    (hcoeff : encode_declets k digits = .ok coeff)
    (hslice : slice digits (1 + k * 3) (4 + k * 3) = [d1, d2, d3])
    (htrio : (d1, d2, d3) ∈ digit_trios) :
    encode_declets (k + 1) digits = .ok ((coeff <<< 10) ||| dpd_declet (d1, d2, d3)) := by
  have hindex := fun text => assocIndex_of_some text (dpd_encode htrio)
  unfold encode_declets at hcoeff ⊢
  rw [foldlM_countup, bind_of_ok hcoeff]
  simp only [hslice, List.getD_cons_zero, List.getD_cons_succ, hindex]
  rfl

/-- The declets that are written spell the digits, and all are canonical. -/
theorem encode_declets_spec {lead : ℕ} {rest : List ℕ} (hrest : ∀ d ∈ rest, d ≤ 9) (k : ℕ)
    (hk : 3 * k ≤ rest.length) :
    ∃ coeff, encode_declets k (lead :: rest) = .ok coeff ∧ coeff < 2 ^ (10 * k) ∧
      AllCanonical k coeff ∧ fromDeclets k coeff = of_digits (rest.take (3 * k)) := by
  induction k with
  | zero => exact ⟨0, rfl, by simp, trivial, by simp [fromDeclets]⟩
  | succ k ih =>
    obtain ⟨coeff, hcoeff, hlt, hcanonical, hvalue⟩ := ih (by omega)
    obtain ⟨d1, d2, d3, below, hdrop⟩ : ∃ d1 d2 d3 below, rest.drop (3 * k) =
        d1 :: d2 :: d3 :: below := by
      have hlength : 3 ≤ (rest.drop (3 * k)).length := by
        rw [List.length_drop]
        omega
      generalize rest.drop (3 * k) = left at hlength ⊢
      rcases left with _ | ⟨d1, _ | ⟨d2, _ | ⟨d3, below⟩⟩⟩
      · cases hlength
      · cases Nat.le_of_succ_le_succ hlength
      · cases Nat.le_of_succ_le_succ (Nat.le_of_succ_le_succ hlength)
      · exact ⟨d1, d2, d3, below, rfl⟩
    have hdigit : ∀ d ∈ d1 :: d2 :: d3 :: below, d < 10 := by
      intro d hd
      rw [← hdrop] at hd
      exact Nat.lt_succ_of_le (hrest d (List.mem_of_mem_drop hd))
    have htrio : (d1, d2, d3) ∈ digit_trios :=
      mem_digit_trios.mpr ⟨hdigit d1 (by simp), hdigit d2 (by simp), hdigit d3 (by simp)⟩
    have hslice : slice (lead :: rest) (1 + k * 3) (4 + k * 3) = [d1, d2, d3] := by
      have hwidth : 4 + k * 3 - (1 + k * 3) = 3 := by omega
      have hstart : 1 + k * 3 = 3 * k + 1 := by omega
      unfold slice
      rw [hwidth, hstart, List.drop_succ_cons, hdrop]
      rfl
    have htake : rest.take (3 * (k + 1)) = rest.take (3 * k) ++ [d1, d2, d3] := by
      have hsum : 3 * (k + 1) = 3 * k + 3 := by omega
      rw [hsum, List.take_add, hdrop]
      rfl
    obtain ⟨hdeclet, hdigits, hcanon⟩ := declets_of_trios _ htrio
    have hor : (coeff <<< 10) ||| dpd_declet (d1, d2, d3) =
        1024 * coeff + dpd_declet (d1, d2, d3) := by
      rw [Nat.or_comm, or_shiftLeft coeff (show dpd_declet (d1, d2, d3) < 2 ^ 10 from hdeclet)]
      omega
    refine ⟨1024 * coeff + dpd_declet (d1, d2, d3), ?_, ?_, ?_, ?_⟩
    · rw [encode_declets_succ hcoeff hslice htrio, hor]
    · have hpow : (2 : ℕ) ^ (10 * (k + 1)) = 1024 * 2 ^ (10 * k) := by
        rw [Nat.mul_add, pow_add]
        ring
      rw [hpow]
      omega
    · exact allCanonical_push hdeclet hcanon hcanonical
    · rw [fromDeclets_push _ _ hdeclet, hvalue, htake, of_digits_append, hdigits, trioValue]
      simp only [of_digits_cons, of_digits_nil, List.length_cons, List.length_nil]
      ring

end SapRfc.Analysis.Declets
