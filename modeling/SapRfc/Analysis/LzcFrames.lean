import SapRfc.Library.BitPacking
import SapRfc.Program.Compress

/-!
# Groups of codes

What lies between the two dictionaries: the groups that the compressor writes and the chunks that
the decompressor reads.  `Framer` is the part of the compressor that decides where a code lands,
and `ahead` is what it still writes, cut at the group that is open.
-/

set_option autoImplicit false

namespace SapRfc.Analysis.LzcFrames

open SapRfc.Library SapRfc.Program
open Nat (ofDigits)

/-! ## Packing -/

/-- INTERNAL: taking bytes off the bits keeps the number that both spell. -/
theorem spill_spec : ∀ (fuel bits nbits : ℕ) (packed : Bytes), nbits ≤ fuel → bits < 2 ^ nbits →
    ∃ b n p, LZCCompress.spill fuel bits nbits packed = (b, n, p) ∧ n < 8 ∧ b < 2 ^ n ∧
      8 * p.length + n = 8 * packed.length + nbits ∧
      ofLE p + 256 ^ p.length * b = ofLE packed + 256 ^ packed.length * bits := by
  intro fuel
  induction fuel with
  | zero =>
    intro bits nbits packed hfuel hbits
    exact ⟨bits, nbits, packed, rfl, by omega, hbits, rfl, rfl⟩
  | succ fuel ih =>
    intro bits nbits packed hfuel hbits
    by_cases hfull : 8 ≤ nbits
    · have hand : bits &&& 0xFF = bits % 256 := Nat.and_two_pow_sub_one_eq_mod bits 8
      have hshift : bits >>> 8 = bits / 256 := Nat.shiftRight_eq_div_pow bits 8
      have hrest : bits >>> 8 < 2 ^ (nbits - 8) := by
        rw [hshift, Nat.div_lt_iff_lt_mul (by omega)]
        calc bits < 2 ^ nbits := hbits
          _ = 2 ^ (nbits - 8 + 8) := by rw [Nat.sub_add_cancel hfull]
          _ = 2 ^ (nbits - 8) * 256 := by rw [pow_add]; rfl
      obtain ⟨b, n, p, heq, hn, hb, hlen, hnum⟩ :=
        ih (bits >>> 8) (nbits - 8) (packed ++ [UInt8.ofNat (bits &&& 0xFF)]) (by omega) hrest
      refine ⟨b, n, p, ?_, hn, hb, ?_, ?_⟩
      · rw [LZCCompress.spill, if_pos hfull, heq]
      · rw [hlen, List.length_append, List.length_singleton]
        omega
      · have hdiv := Nat.mod_add_div bits 256
        rw [hnum, ofLE_append, hand, ofLE_singleton _ (by omega), hshift, List.length_append,
          List.length_singleton, pow_succ]
        nth_rewrite 3 [← hdiv]
        ring
    · refine ⟨bits, nbits, packed, ?_, by omega, hbits, rfl, rfl⟩
      rw [LZCCompress.spill, if_neg hfull]

/-- INTERNAL: packing keeps the number, and takes as few bytes as the bits need. -/
theorem pack_codes_spec {w : ℕ} {group : List ℕ} (hgroup : ∀ c ∈ group, c < 2 ^ w) :
    ∀ (bits nbits : ℕ) (packed : Bytes), nbits < 8 → bits < 2 ^ nbits →
      ofLE (LZCCompress.pack_codes w group bits nbits packed) =
          ofLE packed + 256 ^ packed.length * (bits + 2 ^ nbits * ofDigits (2 ^ w) group) ∧
        8 * (LZCCompress.pack_codes w group bits nbits packed).length <
          8 * packed.length + nbits + w * group.length + 8 := by
  induction group with
  | nil =>
    intro bits nbits packed hnbits hbits
    by_cases hzero : nbits = 0
    · subst hzero
      have hbits0 : bits = 0 := by simpa using hbits
      simp [LZCCompress.pack_codes, hbits0]
    · have hand : bits &&& 0xFF = bits % 256 := Nat.and_two_pow_sub_one_eq_mod bits 8
      have hpow : 2 ^ nbits ≤ 2 ^ 7 := Nat.pow_le_pow_right (by decide) (by omega)
      have hmod : bits % 256 = bits := Nat.mod_eq_of_lt (by omega)
      rw [LZCCompress.pack_codes, if_pos hzero, hand, hmod]
      constructor
      · rw [ofLE_append, ofLE_singleton _ (by omega), Nat.ofDigits_nil, mul_zero, add_zero]
      · rw [List.length_append, List.length_singleton, List.length_nil]
        omega
  | cons code group ih =>
    intro bits nbits packed hnbits hbits
    have hcode := hgroup code List.mem_cons_self
    obtain ⟨b, n, p, heq, hn, hb, hlen, hnum⟩ :=
      spill_spec (nbits + w) (bits ||| code <<< nbits) (nbits + w) packed le_rfl
        (or_shiftLeft_lt hbits hcode)
    obtain ⟨hvalue, hlength⟩ := ih (fun c hc => hgroup c (List.mem_cons_of_mem _ hc)) b n p hn hb
    have hstep : LZCCompress.pack_codes w (code :: group) bits nbits packed =
        LZCCompress.pack_codes w group b n p := by
      rw [LZCCompress.pack_codes, heq]
    rw [hstep]
    constructor
    · -- the bits that are left stand above all the bytes that are out
      have hpow : 256 ^ p.length * 2 ^ n = 256 ^ packed.length * (2 ^ nbits * 2 ^ w) := by
        have h256 : (256 : ℕ) = 2 ^ 8 := by norm_num
        rw [h256, ← pow_mul, ← pow_mul, ← pow_add, ← pow_add, ← pow_add, hlen]
      calc ofLE (LZCCompress.pack_codes w group b n p)
          = ofLE p + 256 ^ p.length * b + 256 ^ p.length * 2 ^ n * ofDigits (2 ^ w) group := by
            rw [hvalue]
            ring
        _ = ofLE packed + 256 ^ packed.length * (bits + 2 ^ nbits * code) +
              256 ^ packed.length * (2 ^ nbits * 2 ^ w) * ofDigits (2 ^ w) group := by
            rw [hnum, or_shiftLeft code hbits, hpow]
        _ = _ := by
            rw [Nat.ofDigits_cons]
            ring
    · rw [List.length_cons, Nat.mul_succ]
      omega

/-- The bytes of a group: none for an empty one, else as many as a code has bits. -/
def frame (w : ℕ) (group : List ℕ) : Bytes :=
  if group = [] then []
  else
    let packed := LZCCompress.pack_codes w group 0 0 []
    (packed ++ List.replicate (w - packed.length) 0).take w

@[simp] theorem frame_nil (w : ℕ) : frame w [] = [] := rfl

/-- A group of at most eight codes fits, and its bytes spell the number of its codes. -/
theorem frame_spec {w : ℕ} {group : List ℕ} (hne : group ≠ []) (hlen : group.length ≤ 8)
    (hgroup : ∀ c ∈ group, c < 2 ^ w) :
    (frame w group).length = w ∧ ofLE (frame w group) = ofDigits (2 ^ w) group := by
  obtain ⟨hvalue, hlength⟩ := pack_codes_spec hgroup 0 0 [] (by decide) (by decide)
  have hfit : (LZCCompress.pack_codes w group 0 0 []).length ≤ w := by
    have hmul : w * group.length ≤ w * 8 := Nat.mul_le_mul_left w hlen
    rw [List.length_nil] at hlength
    omega
  have hall : (LZCCompress.pack_codes w group 0 0 [] ++
      List.replicate (w - (LZCCompress.pack_codes w group 0 0 []).length) 0).length = w := by
    rw [List.length_append, List.length_replicate]
    omega
  have htake : frame w group = LZCCompress.pack_codes w group 0 0 [] ++
      List.replicate (w - (LZCCompress.pack_codes w group 0 0 []).length) 0 := by
    rw [frame, if_neg hne]
    exact List.take_of_length_le hall.le
  rw [htake]
  refine ⟨hall, ?_⟩
  rw [ofLE_append_zeros, hvalue]
  simp [ofLE]

/-! ## Where a code lands -/

/-- The part of the compressor that decides where a code lands. -/
structure Framer where
  code_len_limit : ℕ
  code_limit : ℕ
  out : Bytes
  group : List ℕ
  code_len : ℕ
  max_code : ℕ
  next_free : ℕ
  started : Bool

def framer (s : LZCCompress) : Framer where
  code_len_limit := s.code_len_limit
  code_limit := s.code_limit
  out := s.out
  group := s.group
  code_len := s.code_len
  max_code := s.max_code
  next_free := s.next_free
  started := decide (1 ≤ s.emitted)

namespace Framer

def flush (P : Framer) : Framer :=
  { P with out := P.out ++ frame P.code_len P.group, group := [] }

/-- The counter behind the next code. -/
def counted (P : Framer) : ℕ :=
  if P.started = true ∧ P.next_free < P.code_limit then P.next_free + 1 else P.next_free

/-- What `account_for` does to it. -/
def put (code : ℕ) (P : Framer) : Framer :=
  let Q := { P with group := P.group ++ [code] }
  let Q := if Q.group.length = 8 then flush Q else Q
  let Q := { Q with next_free := P.counted, started := true }
  if P.max_code < P.counted then
    { flush Q with
      code_len := P.code_len + 1
      max_code := max_code_of P.code_len_limit P.code_limit (P.code_len + 1) }
  else Q

/-- The group is open, and the counter fits the width. -/
structure Fits (P : Framer) : Prop where
  group_lt : P.group.length < 8
  wide : 0 < P.code_len
  free_le : P.next_free ≤ P.max_code
  free_le_limit : P.next_free ≤ P.code_limit
  limit_eq : P.code_limit = 2 ^ P.code_len_limit
  width : P.max_code + 1 = 2 ^ P.code_len ∨
    P.max_code = P.code_limit ∧ P.code_len = P.code_len_limit

variable {P : Framer}

theorem Fits.max_le (h : Fits P) : P.max_code ≤ 2 ^ P.code_len := by
  rcases h.width with hw | ⟨hmax, hlen⟩
  · omega
  · rw [hmax, hlen, h.limit_eq]

/-- The three places of a code: inside a group, at its end, or before a wider one. -/
inductive Placed (P : Framer) (code : ℕ) : Framer → Prop
  | inside (short : P.group.length + 1 < 8) (free : P.counted ≤ P.max_code) :
    Placed P code
      { P with group := P.group ++ [code], next_free := P.counted, started := true }
  | full (eight : P.group.length + 1 = 8) (free : P.counted ≤ P.max_code) :
    Placed P code
      { P with
        out := P.out ++ frame P.code_len (P.group ++ [code])
        group := []
        next_free := P.counted
        started := true }
  | wider (above : P.max_code < P.counted) :
    Placed P code
      { P with
        out := P.out ++ frame P.code_len (P.group ++ [code])
        group := []
        next_free := P.counted
        started := true
        code_len := P.code_len + 1
        max_code := max_code_of P.code_len_limit P.code_limit (P.code_len + 1) }

theorem placed_put (h : Fits P) (code : ℕ) : Placed P code (put code P) := by
  have hlen : (P.group ++ [code]).length = P.group.length + 1 := by simp
  have hlt := h.group_lt
  by_cases hover : P.max_code < P.counted
  · have hwider : Placed P code _ := .wider hover
    by_cases height : P.group.length + 1 = 8
    · simpa [put, hover, hlen, height, flush] using hwider
    · simpa [put, hover, hlen, height, flush] using hwider
  · by_cases height : P.group.length + 1 = 8
    · have hfull : Placed P code _ := .full height (by omega)
      simpa [put, hover, hlen, height, flush] using hfull
    · have hinside : Placed P code _ := .inside (by omega) (by omega)
      simpa [put, hover, hlen, height, flush] using hinside

theorem counted_le (h : Fits P) : P.counted ≤ P.code_limit := by
  have hlimit := h.free_le_limit
  unfold counted
  split <;> omega

/-- The width fits again behind a code. -/
theorem put_fits (h : Fits P) (code : ℕ) : Fits (put code P) := by
  have hlimit := counted_le h
  have hplaced := placed_put h code
  generalize put code P = Q at hplaced ⊢
  cases hplaced with
  | inside short free =>
    refine ⟨?_, h.wide, free, hlimit, h.limit_eq, h.width⟩
    rw [List.length_append, List.length_singleton]
    exact short
  | full eight free => exact ⟨Nat.zero_lt_succ _, h.wide, free, hlimit, h.limit_eq, h.width⟩
  | wider above =>
    -- the counter grows by one, so it stands at the first code that needs the new width
    have hone : P.counted ≤ P.next_free + 1 := by
      unfold counted
      split <;> omega
    have hfree := h.free_le
    have hpow : P.max_code + 1 = 2 ^ P.code_len := by
      rcases h.width with hw | ⟨hmax, -⟩
      · exact hw
      · omega
    have hdouble : 2 ^ (P.code_len + 1) = 2 ^ P.code_len * 2 := pow_succ 2 P.code_len
    refine ⟨Nat.zero_lt_succ _, Nat.succ_pos _, ?_, hlimit, h.limit_eq, ?_⟩
    · show P.counted ≤ max_code_of P.code_len_limit P.code_limit (P.code_len + 1)
      rw [max_code_of]
      split
      · exact hlimit
      · rw [Nat.one_shiftLeft]
        omega
    · show max_code_of P.code_len_limit P.code_limit (P.code_len + 1) + 1 = _ ∨ _
      rw [max_code_of]
      split
      · rename_i hlast
        exact Or.inr ⟨rfl, hlast⟩
      · rw [Nat.one_shiftLeft]
        exact Or.inl (by show 2 ^ (P.code_len + 1) - 1 + 1 = 2 ^ (P.code_len + 1); omega)

/-! ## What is still written -/

/-- The codes that the open group still takes, and the bytes behind the group. -/
def ahead : Framer → List ℕ → List ℕ × Bytes
  | _, [] => ([], [])
  | P, code :: codes =>
    let Q := put code P
    let (more, rest) := ahead Q codes
    if Q.group = [] then ([code], frame Q.code_len more ++ rest) else (code :: more, rest)

theorem ahead_cons (P : Framer) (code : ℕ) (codes : List ℕ) :
    ahead P (code :: codes) =
      if (put code P).group = [] then
        ([code], frame (put code P).code_len (ahead (put code P) codes).1 ++
          (ahead (put code P) codes).2)
      else (code :: (ahead (put code P) codes).1, (ahead (put code P) codes).2) := rfl

/-- All the codes. -/
def puts (codes : List ℕ) (P : Framer) : Framer :=
  codes.foldl (fun Q code => put code Q) P

/-- The compressor writes the open group and what is behind it. -/
theorem out_puts : ∀ (codes : List ℕ) (P : Framer), Fits P →
    (flush (puts codes P)).out =
      P.out ++ frame P.code_len (P.group ++ (ahead P codes).1) ++ (ahead P codes).2 := by
  intro codes
  induction codes with
  | nil =>
    intro P h
    simp [puts, flush, ahead]
  | cons code codes ih =>
    intro P h
    have hrest := ih (put code P) (put_fits h code)
    have hplaced := placed_put h code
    have hputs : puts (code :: codes) P = puts codes (put code P) := rfl
    rw [hputs, hrest, ahead_cons]
    generalize put code P = Q at hplaced ⊢
    cases hplaced with
    | inside short free => simp
    | full eight free => simp
    | wider above => simp

/-- A group has room for what it still takes. -/
theorem length_ahead : ∀ (codes : List ℕ) (P : Framer), Fits P →
    P.group.length + (ahead P codes).1.length ≤ 8 := by
  intro codes
  induction codes with
  | nil =>
    intro P h
    exact h.group_lt.le
  | cons code codes ih =>
    intro P h
    have hrest := ih (put code P) (put_fits h code)
    have hplaced := placed_put h code
    have hlt := h.group_lt
    rw [ahead_cons]
    generalize put code P = Q at hplaced hrest ⊢
    cases hplaced with
    | inside short free =>
      simp only [List.length_append, List.length_singleton] at hrest
      simp
      omega
    | full eight free => simp [eight]
    | wider above =>
      simp
      omega

/-- Every code is below the counter when its turn comes. -/
def Below : Framer → List ℕ → Prop
  | _, [] => True
  | P, code :: codes => code < P.next_free ∧ Below (put code P) codes

/-- The codes that the open group still takes have its width. -/
theorem ahead_lt : ∀ (codes : List ℕ) (P : Framer), Fits P → Below P codes →
    ∀ c ∈ (ahead P codes).1, c < 2 ^ P.code_len := by
  intro codes
  induction codes with
  | nil => intro P h hbelow c hc; cases hc
  | cons code codes ih =>
    intro P h ⟨hcode, hbelow⟩
    have hrest := ih (put code P) (put_fits h code) hbelow
    have hplaced := placed_put h code
    have hfree := h.free_le
    have hmax := h.max_le
    rw [ahead_cons]
    generalize put code P = Q at hplaced hrest ⊢
    cases hplaced with
    | inside short free =>
      intro c hc
      have hne : P.group ++ [code] ≠ [] := by simp
      rw [if_neg hne] at hc
      rcases List.mem_cons.mp hc with rfl | hmem
      · omega
      · exact hrest c hmem
    | full eight free =>
      intro c hc
      obtain rfl := List.mem_singleton.mp hc
      omega
    | wider above =>
      intro c hc
      obtain rfl := List.mem_singleton.mp hc
      omega

/-- A group is not shorter in bytes than in eighths of its codes. -/
theorem length_frame_ge {w : ℕ} {group : List ℕ} (hw : 0 < w) (hlen : group.length ≤ 8)
    (hgroup : ∀ c ∈ group, c < 2 ^ w) : group.length ≤ 8 * (frame w group).length := by
  by_cases hne : group = []
  · subst hne
    exact Nat.zero_le _
  · rw [(frame_spec hne hlen hgroup).1]
    omega

/-- Eight codes for each byte at most. -/
theorem length_codes_le : ∀ (codes : List ℕ) (P : Framer), Fits P → Below P codes →
    codes.length ≤ (ahead P codes).1.length + 8 * (ahead P codes).2.length := by
  intro codes
  induction codes with
  | nil => intro P h hbelow; exact Nat.zero_le _
  | cons code codes ih =>
    intro P h ⟨hcode, hbelow⟩
    have hfits := put_fits h code
    have hrest := ih (put code P) hfits hbelow
    have hroom := length_ahead codes _ hfits
    have hframe := length_frame_ge hfits.wide (by omega) (ahead_lt codes _ hfits hbelow)
    have hplaced := placed_put h code
    rw [ahead_cons]
    generalize put code P = Q at hplaced hrest hframe ⊢
    cases hplaced with
    | inside short free =>
      have hne : P.group ++ [code] ≠ [] := by simp
      simp only [if_neg hne, List.length_cons]
      omega
    | full eight free =>
      rw [if_pos rfl, List.length_cons, List.length_singleton, List.length_append]
      omega
    | wider above =>
      rw [if_pos rfl, List.length_cons, List.length_singleton, List.length_append]
      omega

end Framer

/-! ## The compressor -/

theorem flush_group_eq (s : LZCCompress) :
    LZCCompress.flush_group s =
      { s with out := s.out ++ frame s.code_len s.group, group := [] } := by
  unfold LZCCompress.flush_group frame
  by_cases hgroup : s.group = []
  · rw [if_pos hgroup, if_pos hgroup, List.append_nil, ← hgroup]
  · rw [if_neg hgroup, if_neg hgroup]

/-- The dictionary decides nothing about where a code lands. -/
theorem framer_account_for {s : LZCCompress} (hpending : 1 ≤ s.emitted → s.pending ≠ none)
    (hfree : s.next_free ≤ s.max_code) (code : ℕ) :
    framer (LZCCompress.account_for code s) = (framer s).put code := by
  have hlen : (s.group ++ [code]).length = s.group.length + 1 := by simp
  by_cases hadd : 1 ≤ s.emitted ∧ s.next_free < s.code_limit
  · obtain ⟨hstarted, hroom⟩ := hadd
    obtain ⟨key, hkey⟩ := Option.ne_none_iff_exists'.mp (hpending hstarted)
    have htwo : 2 ≤ s.emitted + 1 := by omega
    by_cases height : s.group.length + 1 = 8 <;> by_cases hover : s.max_code < s.next_free + 1 <;>
      simp [LZCCompress.account_for, LZCCompress.emit, LZCCompress.widen,
        LZCCompress.set_code_len, flush_group_eq, framer, Framer.put, Framer.counted,
        Framer.flush, hkey, htwo, hstarted, hroom, hlen, height, hover]
  · have hover : ¬ s.max_code < s.next_free := by omega
    by_cases height : s.group.length + 1 = 8 <;> cases hkey : s.pending <;>
      simp [LZCCompress.account_for, LZCCompress.emit, flush_group_eq, framer, Framer.put,
        Framer.counted, Framer.flush, hkey, hadd, hlen, height, hover]

/-! ## The reader -/

/-- The number that is still to be read. -/
def number (r : BitReader) : ℕ := r.bits + 2 ^ r.bits_count * ofLE r.left

/-- INTERNAL: bytes go from the string to the bits. -/
theorem fill_spec (n : ℕ) : ∀ (left : Bytes) (bits bits_count : ℕ), bits < 2 ^ bits_count →
    n ≤ left.length * 8 + bits_count →
    ∃ r, BitReader.fill n left bits bits_count = .ok r ∧ n ≤ r.bits_count ∧
      r.bits < 2 ^ r.bits_count ∧ number r = bits + 2 ^ bits_count * ofLE left ∧
      r.bits_left = left.length * 8 + bits_count := by
  intro left
  induction left with
  | nil =>
    intro bits bits_count hbits hn
    have hnot : ¬ bits_count < n := by
      rw [List.length_nil] at hn
      omega
    refine ⟨⟨[], bits, bits_count⟩, ?_, Nat.le_of_not_lt hnot, hbits, rfl, rfl⟩
    rw [BitReader.fill, if_neg hnot]
  | cons b left ih =>
    intro bits bits_count hbits hn
    by_cases hmore : bits_count < n
    · have hlt := or_shiftLeft_lt hbits b.toNat_lt
      rw [List.length_cons] at hn
      obtain ⟨r, heq, hcount, hr, hnumber, hleft⟩ :=
        ih (bits ||| b.toNat <<< bits_count) (bits_count + 8) hlt (by omega)
      refine ⟨r, ?_, hcount, hr, ?_, ?_⟩
      · rw [BitReader.fill, if_pos hmore, heq]
      · rw [hnumber, or_shiftLeft _ hbits, ofLE_cons, pow_add]
        ring
      · rw [hleft, List.length_cons]
        omega
    · refine ⟨⟨b :: left, bits, bits_count⟩, ?_, Nat.le_of_not_lt hmore, hbits, rfl, rfl⟩
      rw [BitReader.fill, if_neg hmore]

/-- A read takes the lowest bits of the number. -/
theorem read_bits_spec {n : ℕ} {r : BitReader} (hr : r.bits < 2 ^ r.bits_count)
    (hn : n ≤ r.bits_left) :
    ∃ q, BitReader.read_bits n r = .ok (number r % 2 ^ n, q) ∧ q.bits < 2 ^ q.bits_count ∧
      number q = number r / 2 ^ n ∧ q.bits_left + n = r.bits_left := by
  obtain ⟨q, heq, hcount, hq, hnumber, hleft⟩ := fill_spec n r.left r.bits r.bits_count hr hn
  have hnum : number q = number r := hnumber
  obtain ⟨k, hk⟩ := Nat.exists_eq_add_of_le hcount
  have hpow : 2 ^ q.bits_count = 2 ^ n * 2 ^ k := by rw [hk, pow_add]
  have hsplit : number q = q.bits + 2 ^ n * (2 ^ k * ofLE q.left) := by
    rw [number, hpow, mul_assoc]
  have hand : q.bits &&& (1 <<< n - 1) = number r % 2 ^ n := by
    rw [Nat.one_shiftLeft, Nat.and_two_pow_sub_one_eq_mod, ← hnum, hsplit,
      Nat.add_mul_mod_self_left]
  have hshift : q.bits >>> n = q.bits / 2 ^ n := Nat.shiftRight_eq_div_pow q.bits n
  have hsub : q.bits_count - n = k := by omega
  refine ⟨{ q with bits := q.bits >>> n, bits_count := q.bits_count - n }, ?_, ?_, ?_, ?_⟩
  · rw [BitReader.read_bits, heq, ← hand]
    rfl
  · show q.bits >>> n < 2 ^ (q.bits_count - n)
    rw [hshift, hsub, Nat.div_lt_iff_lt_mul (Nat.two_pow_pos n), mul_comm, ← hpow]
    exact hq
  · show q.bits >>> n + 2 ^ (q.bits_count - n) * ofLE q.left = number r / 2 ^ n
    rw [hshift, hsub, ← hnum, hsplit, Nat.add_mul_div_left _ _ (Nat.two_pow_pos n)]
  · show q.left.length * 8 + (q.bits_count - n) + n = r.bits_left
    rw [Nat.add_assoc, Nat.sub_add_cancel hcount]
    exact hleft

/-- INTERNAL: bytes go to the bits, and none are lost. -/
theorem fill_left {n : ℕ} {r : BitReader} (left : Bytes) : ∀ (bits bits_count : ℕ),
    BitReader.fill n left bits bits_count = .ok r →
      n ≤ r.bits_count ∧ r.bits_left = left.length * 8 + bits_count := by
  induction left with
  | nil =>
    intro bits bits_count h
    unfold BitReader.fill at h
    split at h
    · cases h
    next hn =>
      cases h
      exact ⟨Nat.le_of_not_lt hn, rfl⟩
  | cons b left ih =>
    intro bits bits_count h
    unfold BitReader.fill at h
    split at h
    · obtain ⟨hn, hleft⟩ := ih _ _ h
      rw [List.length_cons]
      exact ⟨hn, by omega⟩
    next hn =>
      cases h
      exact ⟨Nat.le_of_not_lt hn, rfl⟩

theorem read_bits_left {n x : ℕ} {r r' : BitReader} (h : r.read_bits n = .ok (x, r')) :
    r'.bits_left + n = r.bits_left := by
  unfold BitReader.read_bits at h
  obtain ⟨q, hfill, h⟩ := Eff.except_bind_eq_ok.mp h
  cases h
  obtain ⟨hn, hleft⟩ := fill_left _ _ _ hfill
  show q.left.length * 8 + (q.bits_count - n) + n = r.bits_left
  rw [Nat.add_assoc, Nat.sub_add_cancel hn]
  exact hleft

end SapRfc.Analysis.LzcFrames
