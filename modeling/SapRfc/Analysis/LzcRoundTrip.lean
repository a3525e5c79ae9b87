import SapRfc.Analysis.LzcWords

/-!
# What was compressed comes back

The decompressor follows the code list that the compressor wrote.  Both counters, both widths and
the place in the group agree at every code, also when the dictionary is full and where the width
grows: the compressor grows it behind a code, the decompressor before the next one.
-/

set_option autoImplicit false

namespace SapRfc.Analysis.LzcRoundTrip

open SapRfc.Library SapRfc.Program SapRfc.Analysis.LzcFrames SapRfc.Analysis.LzcWords
open Nat (ofDigits)

variable {F : Coding UInt8} {P : Framer} {s : LZCDecompress} {words : List Bytes}
  {last : Option Bytes} {w : Bytes} {code : ℕ} {codes : List ℕ}

/-! ## The dictionary of the decompressor -/

/-- The entries, the counter, and the word that stands in the buffer. -/
structure Knows (F : Coding UInt8) (s : LZCDecompress) (words : List Bytes)
    (last : Option Bytes) : Prop where
  free : s.next_free = F.first + words.length
  limit : s.code_limit = F.limit
  bounded : F.first + words.length ≤ F.limit
  entries : Entries F s.codes words
  buffer : s.chain_buf.length = s.code_limit
  prev : (s.prev_code = none ∧ last = none) ∨
    ∃ code v, s.prev_code = some code ∧ last = some v ∧ F.word words code = some v ∧
      s.prev_ci + 1 = v.length ∧ s.chain_buf.take v.length = v

/-- A code that is known is resolved to its word. -/
theorem resolve_code_spec (h : Knows F s words last) (hletters : F.letters = LZC_LITERAL_COUNT)
    (hletter : F.letter = UInt8.ofNat) (hw : F.word words code = some w) :
    ∃ buf, LZCDecompress.resolve_code code s = .ok (w.length, buf) ∧
      buf.take w.length = w ∧ buf.length = s.chain_buf.length := by
  by_cases hsame : s.prev_code = some code
  · rcases h.prev with ⟨hnone, -⟩ | ⟨c, v, hc, -, hv, hlen, htake⟩
    · rw [hnone] at hsame
      cases hsame
    · obtain rfl : c = code := Option.some.inj (hc.symm.trans hsame)
      obtain rfl : v = w := Option.some.inj (hv.symm.trans hw)
      refine ⟨s.chain_buf, ?_, htake, rfl⟩
      rw [LZCDecompress.resolve_code, if_pos hsame, hlen]
  · have hlt := Coding.word_lt hw
    have hfree : code < s.next_free := by
      rw [h.free]
      exact hlt
    have hlen := (h.entries.length_le code w hw).2
    have hroom : w.length ≤ s.chain_buf.length := by
      have hbounded := h.bounded
      rw [h.buffer, h.limit]
      omega
    obtain ⟨buf, heq, htake, -, hlength⟩ := walk_chain_spec h.entries hletters hletter (code + 1)
      code w 0 s.chain_buf hw (Nat.lt_succ_self _) hroom
    refine ⟨buf, ?_, htake, hlength⟩
    rw [LZCDecompress.resolve_code, if_neg hsame, if_pos hfree, h.free, heq, Nat.zero_add]

/-- INTERNAL: the first byte of the buffer is the first of the word. -/
theorem headD_of_take {buf : Bytes} (hne : w ≠ []) (htake : buf.take w.length = w) :
    [buf.headD 0] = w.take 1 := by
  cases w with
  | nil => exact absurd rfl hne
  | cons x xs =>
    cases buf with
    | nil => cases htake
    | cons y ys =>
      rw [List.length_cons, List.take_succ_cons] at htake
      rw [List.headD_cons, (List.cons.inj htake).1]
      rfl

/-- INTERNAL: a code that adds no entry. -/
theorem wrote_kept {buf : Bytes} {n : ℕ}
    (h : s.prev_code = none ∨ s.code_limit ≤ s.next_free) :
    LZCDecompress.wrote code n buf s =
      { s with
        written := s.written ++ buf.take n
        decomp_left := s.decomp_left - n
        chain_buf := buf
        prev_code := some code
        prev_cdef := s.codes code } := by
  rcases h with hnone | hfull
  · simp [LZCDecompress.wrote, LZCDecompress.add_entry, hnone]
  · have hnot : ¬ s.next_free < s.code_limit := Nat.not_lt_of_le hfull
    cases hprev : s.prev_code <;>
      simp [LZCDecompress.wrote, LZCDecompress.add_entry, hprev, hnot]

/-- INTERNAL: a code that adds an entry behind the previous one. -/
theorem wrote_added {buf : Bytes} {n c : ℕ} (hc : s.prev_code = some c)
    (hroom : s.next_free < s.code_limit) :
    LZCDecompress.wrote code n buf s =
      { s with
        written := s.written ++ buf.take n
        decomp_left := s.decomp_left - n
        chain_buf := buf
        codes := Function.update s.codes s.next_free (some ⟨c, buf.headD 0, s.prev_ci + 1⟩)
        next_free := s.next_free + 1
        prev_code := some code
        prev_cdef :=
          Function.update s.codes s.next_free (some ⟨c, buf.headD 0, s.prev_ci + 1⟩) code } := by
  simp [LZCDecompress.wrote, LZCDecompress.add_entry, LZCDecompress.prev_ci, hc, hroom]

/-- Where there is room, a word is learned behind the one before. -/
theorem wrote_learned {buf v : Bytes} (h : Knows F s words (some v))
    (hroom : F.first + words.length < F.limit) (hne : w ≠ []) (htake : buf.take w.length = w)
    (hlength : buf.length = s.chain_buf.length)
    (hword : F.word (words ++ [v ++ w.take 1]) code = some w) :
    Knows F (LZCDecompress.wrote code w.length buf s) (words ++ [v ++ w.take 1]) (some w) := by
  rcases h.prev with ⟨-, hlast⟩ | ⟨c, u, hc, hlast, hu, hci, -⟩
  · cases hlast
  · obtain rfl : u = v := (Option.some.inj hlast).symm
    have hfree : s.next_free < s.code_limit := by
      rw [h.free, h.limit]
      exact hroom
    rw [← headD_of_take hne htake] at hword ⊢
    have hentries : Entries F
        (Function.update s.codes s.next_free (some ⟨c, buf.headD 0, s.prev_ci + 1⟩))
        (words ++ [u ++ [buf.headD 0]]) := by
      rw [h.free, hci]
      exact h.entries.learn hu
    have hcount : (words ++ [u ++ [buf.headD 0]]).length = words.length + 1 := by simp
    rw [wrote_added hc hfree]
    refine ⟨?_, h.limit, ?_, hentries, hlength.trans h.buffer, Or.inr ?_⟩
    · show s.next_free + 1 = _
      rw [hcount, h.free, Nat.add_assoc]
    · rw [hcount]
      exact hroom
    · exact ⟨code, w, rfl, rfl, hword, hentries.chain_index hword, htake⟩

/-- Behind the word of a code the entries are those of the words that are known then. -/
theorem wrote_knows {buf : Bytes} (h : Knows F s words last) (hw : F.word words code = some w)
    (htake : buf.take w.length = w) (hlength : buf.length = s.chain_buf.length) :
    Knows F (LZCDecompress.wrote code w.length buf s) (F.learn words last w) (some w) := by
  have hne := (h.entries.length_le code w hw).1
  rcases Coding.learn_cases (F := F) words last w with ⟨hlearn, hwhy⟩ | ⟨v, rfl, hroom, hlearn⟩
  · have hkept : s.prev_code = none ∨ s.code_limit ≤ s.next_free := by
      rcases hwhy with rfl | hfull
      · rcases h.prev with ⟨hnone, -⟩ | ⟨c, v, -, hlast, -⟩
        · exact Or.inl hnone
        · cases hlast
      · rw [h.limit, h.free]
        exact Or.inr hfull
    rw [wrote_kept hkept, hlearn]
    exact ⟨h.free, h.limit, h.bounded, h.entries, hlength.trans h.buffer,
      Or.inr ⟨code, w, rfl, rfl, hw, h.entries.chain_index hw, htake⟩⟩
  · rw [hlearn]
    exact wrote_learned h hroom hne htake hlength (Coding.word_append _ hw)

/-! ## The chunk of the decompressor -/

/-- The chunk holds what the open group still takes. -/
structure Inside (P : Framer) (codes : List ℕ) (s : LZCDecompress) : Prop where
  code_len : s.code_len = P.code_len
  max_code : s.max_code = P.max_code
  left : s.left = (P.ahead codes).2
  chunk : ∃ r, s.chunk = some r ∧ r.bits < 2 ^ r.bits_count ∧
    number r = ofDigits (2 ^ P.code_len) (P.ahead codes).1 ∧
    r.bits_left + P.code_len * P.group.length = 8 * P.code_len

/-- The chunk is used up, or the width is about to grow. -/
structure Between (P : Framer) (codes : List ℕ) (s : LZCDecompress) : Prop where
  group : P.group = []
  left : s.left = frame P.code_len (P.ahead codes).1 ++ (P.ahead codes).2
  width : (s.code_len = P.code_len ∧ s.max_code = P.max_code ∧ s.exhausted = true) ∨
    (s.max_code < s.next_free ∧ P.code_len = s.code_len + 1 ∧
      P.max_code = max_code_of P.code_len_limit P.code_limit P.code_len)

/-- The counters agree, and the chunk is where the group is. -/
structure Tracks (P : Framer) (codes : List ℕ) (s : LZCDecompress) : Prop where
  code_len_limit : s.code_len_limit = P.code_len_limit
  code_limit : s.code_limit = P.code_limit
  next_free : s.next_free = P.next_free
  place : Inside P codes s ∨ Between P codes s

/-- INTERNAL: there is a code to come, so the group takes one. -/
theorem ahead_ne_nil (P : Framer) (code : ℕ) (codes : List ℕ) :
    ∃ more, (P.ahead (code :: codes)).1 = code :: more := by
  rw [Framer.ahead_cons]
  split
  · exact ⟨[], rfl⟩
  · exact ⟨_, rfl⟩

/-- A new chunk is a whole group. -/
theorem start_chunk_inside (hfits : P.Fits) (hbelow : P.Below (code :: codes))
    (hgroup : P.group = []) (hlen : s.code_len = P.code_len) (hmax : s.max_code = P.max_code)
    (hleft : s.left = frame P.code_len (P.ahead (code :: codes)).1 ++
      (P.ahead (code :: codes)).2) :
    Inside P (code :: codes) (LZCDecompress.start_chunk s) := by
  obtain ⟨more, hmore⟩ := ahead_ne_nil P code codes
  have hne : (P.ahead (code :: codes)).1 ≠ [] := by
    rw [hmore]
    exact List.cons_ne_nil _ _
  have hroom := Framer.length_ahead (code :: codes) P hfits
  obtain ⟨hbytes, hvalue⟩ := frame_spec hne (by omega)
    (Framer.ahead_lt (code :: codes) P hfits hbelow)
  have hmin : min s.code_len s.left.length = P.code_len := by
    rw [hlen, hleft, List.length_append, hbytes]
    omega
  have hnonzero : P.code_len ≠ 0 := Nat.ne_of_gt hfits.wide
  have htake : s.left.take P.code_len = frame P.code_len (P.ahead (code :: codes)).1 := by
    rw [hleft]
    exact List.take_left' hbytes
  refine ⟨hlen, hmax, ?_, ?_⟩
  · show s.left.drop (min s.code_len s.left.length) = _
    rw [hmin, hleft]
    exact List.drop_left' hbytes
  · refine ⟨BitReader.new (s.left.take P.code_len), ?_, Nat.one_pos, ?_, ?_⟩
    · show (if min s.code_len s.left.length = 0 then none
        else some (BitReader.new (s.left.take (min s.code_len s.left.length)))) = _
      rw [hmin, if_neg hnonzero]
    · rw [htake, ← hvalue]
      simp [number, BitReader.new]
    · rw [htake, hgroup]
      simp [BitReader.new, BitReader.bits_left, hbytes]
      omega

/-- INTERNAL: inside a group there is another code. -/
theorem Inside.not_exhausted (hfits : P.Fits) (h : Inside P codes s) :
    s.exhausted = false := by
  obtain ⟨r, hchunk, -, -, hbits⟩ := h.chunk
  have hmul : P.code_len * (P.group.length + 1) ≤ P.code_len * 8 :=
    Nat.mul_le_mul_left _ hfits.group_lt
  rw [Nat.mul_succ] at hmul
  have hcode_len := h.code_len
  rw [LZCDecompress.exhausted, hchunk]
  exact decide_eq_false (by omega)

/-- INTERNAL: the next code is in the chunk, or in the next one. -/
theorem next_chunk_inside (hfits : P.Fits) (hbelow : P.Below (code :: codes))
    (h : Tracks P (code :: codes) s) :
    Inside P (code :: codes) (LZCDecompress.next_chunk s) ∧
      ∃ left chunk n m, LZCDecompress.next_chunk s =
        { s with left := left, chunk := chunk, code_len := n, max_code := m } := by
  have hfree := hfits.free_le
  rcases h.place with hinside | hbetween
  · have hnot : ¬ (s.exhausted = true ∨ s.max_code < s.next_free) := by
      rw [hinside.not_exhausted hfits, hinside.max_code, h.next_free]
      rintro (hfalse | hlt)
      · cases hfalse
      · omega
    rw [LZCDecompress.next_chunk, if_neg hnot]
    exact ⟨hinside, _, _, _, _, rfl⟩
  · rcases hbetween.width with ⟨hlen, hmax, hexhausted⟩ | ⟨hover, hlen, hmax⟩
    · have hnot : ¬ s.max_code < s.next_free := by
        rw [hmax, h.next_free]
        omega
      rw [LZCDecompress.next_chunk, if_pos (Or.inl hexhausted), if_neg hnot]
      exact ⟨start_chunk_inside hfits hbelow hbetween.group hlen hmax hbetween.left,
        _, _, _, _, rfl⟩
    · -- the width grows here, as the compressor's did behind the last code
      rw [LZCDecompress.next_chunk, if_pos (Or.inr hover), if_pos hover]
      refine ⟨start_chunk_inside hfits hbelow hbetween.group hlen.symm ?_ hbetween.left,
        _, _, _, _, rfl⟩
      show max_code_of s.code_len_limit s.code_limit (s.code_len + 1) = P.max_code
      rw [hmax, hlen, h.code_len_limit, h.code_limit]

/-- The chunk when a code has been taken out of it. -/
structure Taken (P : Framer) (code : ℕ) (codes : List ℕ) (s : LZCDecompress) : Prop where
  code_len : s.code_len = P.code_len
  max_code : s.max_code = P.max_code
  left : s.left = (P.ahead (code :: codes)).2
  chunk : ∃ r more, s.chunk = some r ∧ (P.ahead (code :: codes)).1 = code :: more ∧
    r.bits < 2 ^ r.bits_count ∧ number r = ofDigits (2 ^ P.code_len) more ∧
    r.bits_left + P.code_len * (P.group.length + 1) = 8 * P.code_len

/-- The decompressor reads the code that the compressor wrote. -/
theorem read_code_spec (hfits : P.Fits) (hbelow : P.Below (code :: codes))
    (h : Tracks P (code :: codes) s) :
    ∃ left chunk n m,
      LZCDecompress.read_code s =
        .ok (some code, { s with left := left, chunk := chunk, code_len := n, max_code := m }) ∧
      Taken P code codes { s with left := left, chunk := chunk, code_len := n, max_code := m } := by
  obtain ⟨hinside, left, chunk, n, m, heq⟩ := next_chunk_inside hfits hbelow h
  have hexhausted := hinside.not_exhausted hfits
  obtain ⟨r, hchunk, hr, hnumber, hbits⟩ := hinside.chunk
  obtain ⟨more, hmore⟩ := ahead_ne_nil P code codes
  have hcode : code < 2 ^ P.code_len := by
    have hfree := hfits.free_le
    have hmax := hfits.max_le
    have hlt := hbelow.1
    omega
  rw [LZCDecompress.exhausted, hchunk] at hexhausted
  have hnot : ¬ r.bits_left < (LZCDecompress.next_chunk s).code_len :=
    of_decide_eq_false hexhausted
  obtain ⟨q, hread, hq, hquot, hleft⟩ := read_bits_spec hr (Nat.le_of_not_lt hnot)
  rw [hinside.code_len, hnumber, hmore] at hread hquot
  rw [ofDigits_cons_mod _ hcode] at hread
  rw [ofDigits_cons_div _ hcode] at hquot
  rw [hinside.code_len] at hleft
  refine ⟨left, some q, n, m, ?_, ?_⟩
  · have hstate : { LZCDecompress.next_chunk s with chunk := some q } =
        { s with left := left, chunk := some q, code_len := n, max_code := m } := by
      rw [heq]
    rw [← hstate]
    unfold LZCDecompress.read_code
    dsimp only
    rw [hchunk]
    dsimp only
    rw [if_neg hnot, hinside.code_len, hread]
    rfl
  · have hcode_len := hinside.code_len
    have hmax_code := hinside.max_code
    have hrest := hinside.left
    rw [heq] at hcode_len hmax_code hrest
    refine ⟨hcode_len, hmax_code, hrest, q, more, rfl, hmore, hq, hquot, ?_⟩
    rw [Nat.mul_succ]
    omega

/-- INTERNAL: what is written does not touch the chunk. -/
theorem Taken.wrote {n : ℕ} {buf : Bytes} (h : Taken P code codes s) :
    Taken P code codes (LZCDecompress.wrote code n buf s) := by
  by_cases hadd : s.prev_code = none ∨ s.code_limit ≤ s.next_free
  · rw [wrote_kept hadd]
    exact ⟨h.code_len, h.max_code, h.left, h.chunk⟩
  · rw [not_or, not_le] at hadd
    obtain ⟨c, hc⟩ := Option.ne_none_iff_exists'.mp hadd.1
    rw [wrote_added hc hadd.2]
    exact ⟨h.code_len, h.max_code, h.left, h.chunk⟩

/-- Behind a code the chunk is where the group is again. -/
theorem Taken.place (hfits : P.Fits) (h : Taken P code codes s)
    (hfree : s.next_free = P.counted) :
    Inside (P.put code) codes s ∨ Between (P.put code) codes s := by
  obtain ⟨r, more, hchunk, hmore, hr, hnumber, hbits⟩ := h.chunk
  have hleft := h.left
  have hplaced := Framer.placed_put hfits code
  have hwide := hfits.wide
  rw [Framer.ahead_cons] at hmore hleft
  generalize P.put code = Q at hplaced hmore hleft ⊢
  cases hplaced with
  | inside short free =>
    have hne : P.group ++ [code] ≠ [] := by simp
    rw [if_neg hne] at hmore hleft
    obtain rfl := (List.cons.inj hmore).2
    refine Or.inl ⟨h.code_len, h.max_code, hleft, r, hchunk, hr, hnumber, ?_⟩
    rw [List.length_append, List.length_singleton]
    exact hbits
  | full eight free =>
    rw [if_pos rfl] at hleft
    refine Or.inr ⟨rfl, hleft, Or.inl ⟨h.code_len, h.max_code, ?_⟩⟩
    rw [eight] at hbits
    rw [LZCDecompress.exhausted, hchunk, h.code_len]
    exact decide_eq_true (by omega)
  | wider above =>
    rw [if_pos rfl] at hleft
    refine Or.inr ⟨rfl, hleft, Or.inr ⟨?_, ?_, rfl⟩⟩
    · rw [h.max_code, hfree]
      exact above
    · show P.code_len + 1 = s.code_len + 1
      rw [h.code_len]

/-! ## The whole run -/

/-- INTERNAL: the limits stay. -/
theorem put_limits (hfits : P.Fits) (code : ℕ) :
    (P.put code).code_len_limit = P.code_len_limit ∧
      (P.put code).code_limit = P.code_limit := by
  have hplaced := Framer.placed_put hfits code
  generalize P.put code = Q at hplaced ⊢
  cases hplaced with
  | inside short free => exact ⟨rfl, rfl⟩
  | full eight free => exact ⟨rfl, rfl⟩
  | wider above => exact ⟨rfl, rfl⟩

/-- INTERNAL: what is written, and what stays. -/
theorem wrote_rest (s : LZCDecompress) (code n : ℕ) (buf : Bytes) :
    (LZCDecompress.wrote code n buf s).written = s.written ++ buf.take n ∧
      (LZCDecompress.wrote code n buf s).decomp_left = s.decomp_left - n ∧
      (LZCDecompress.wrote code n buf s).block_mode = s.block_mode ∧
      (LZCDecompress.wrote code n buf s).code_len_limit = s.code_len_limit ∧
      (LZCDecompress.wrote code n buf s).code_limit = s.code_limit := by
  by_cases hadd : s.prev_code = none ∨ s.code_limit ≤ s.next_free
  · rw [wrote_kept hadd]
    exact ⟨rfl, rfl, rfl, rfl, rfl⟩
  · rw [not_or, not_le] at hadd
    obtain ⟨c, hc⟩ := Option.ne_none_iff_exists'.mp hadd.1
    rw [wrote_added hc hadd.2]
    exact ⟨rfl, rfl, rfl, rfl, rfl⟩

/-- INTERNAL: a word is never the end of a block. -/
theorem not_end_block (hletters : F.letters = LZC_LITERAL_COUNT)
    (hfirst : F.first = first_seq_code s.block_mode) (hw : F.word words code = some w) :
    ¬ (s.block_mode = LZC_MULTI_BLOCK ∧ code = LZC_CODE_END_BLOCK) := by
  rintro ⟨hmode, rfl⟩
  have hseq : first_seq_code LZC_MULTI_BLOCK = 257 := rfl
  rw [hmode, hseq] at hfirst
  rcases Coding.word_cases hw with ⟨hlt, -⟩ | ⟨i, -, hcode, -⟩
  · rw [hletters] at hlt
    exact absurd hlt (by decide)
  · have hend : LZC_CODE_END_BLOCK = 256 := rfl
    omega

/-- From where both agree, the loop writes what the codes spell. -/
theorem loop_reads (compat_mode : Bool) (hletters : F.letters = LZC_LITERAL_COUNT)
    (hletter : F.letter = UInt8.ofNat) {text : Bytes} (h : F.Spells words last codes text) :
    ∀ {P : Framer} {s : LZCDecompress} {fuel : ℕ}, P.Fits → Counts F P words last →
      Knows F s words last → Tracks P codes s → F.first = first_seq_code s.block_mode →
      s.decomp_left = text.length → codes.length < fuel →
      LZCDecompress.loop compat_mode fuel s = .ok (s.written ++ text) := by
  induction h with
  | nil words last =>
    intro P s fuel hfits hcounts hknows htracks hfirst hleft hfuel
    obtain ⟨fuel, rfl⟩ := Nat.exists_eq_succ_of_ne_zero (Nat.ne_of_gt hfuel)
    have hdone : s.decomp_left ≤ 0 := hleft.le
    rw [LZCDecompress.loop, if_pos hdone, List.append_nil]
  | @cons words last code w codes text known rest ih =>
    intro P s fuel hfits hcounts hknows htracks hfirst hleft hfuel
    obtain ⟨fuel, rfl⟩ := Nat.exists_eq_succ_of_ne_zero (Nat.ne_of_gt (Nat.zero_lt_of_lt hfuel))
    rw [List.length_cons] at hfuel
    rw [List.length_append] at hleft
    have hbelow := spells_below (Coding.Spells.cons known rest) hfits hcounts
    have hpos : 0 < w.length := List.length_pos_iff.mpr (hknows.entries.length_le code w known).1
    have hmore : ¬ s.decomp_left ≤ 0 := by omega
    have hlimit : ¬ s.code_limit ≤ code := by
      have hlt := Coding.word_lt known
      have hbounded := hknows.bounded
      rw [hknows.limit]
      omega
    obtain ⟨left, chunk, n, m, hread, htaken⟩ := read_code_spec hfits hbelow htracks
    -- the dictionary is not touched by the read
    have hread_knows : Knows F
        { s with left := left, chunk := chunk, code_len := n, max_code := m } words last :=
      ⟨hknows.free, hknows.limit, hknows.bounded, hknows.entries, hknows.buffer, hknows.prev⟩
    obtain ⟨buf, hresolve, htake, hlength⟩ :=
      resolve_code_spec hread_knows hletters hletter known
    have hnext_knows := wrote_knows hread_knows known htake hlength
    have hnext_counts : Counts F (P.put code) (F.learn words last w) (some w) :=
      hcounts.put hfits w
    have hnext_taken : Taken P code codes (LZCDecompress.wrote code w.length buf
      { s with left := left, chunk := chunk, code_len := n, max_code := m }) := htaken.wrote
    obtain ⟨hwritten, hdecomp, hmode, hcode_len_limit, hcode_limit⟩ := wrote_rest
      { s with left := left, chunk := chunk, code_len := n, max_code := m } code w.length buf
    have hfree := hnext_knows.free.trans (hcounts.counted w).symm
    have hplace := hnext_taken.place hfits hfree
    obtain ⟨hput_len_limit, hput_limit⟩ := put_limits hfits code
    have hrun := ih (Framer.put_fits hfits code) hnext_counts hnext_knows
      ⟨hcode_len_limit.trans (htracks.code_len_limit.trans hput_len_limit.symm),
        hcode_limit.trans (htracks.code_limit.trans hput_limit.symm),
        hnext_knows.free.trans hnext_counts.free.symm, hplace⟩
      (by rw [hmode]; exact hfirst) (by rw [hdecomp]; show s.decomp_left - _ = _; omega)
      (Nat.lt_of_succ_lt_succ hfuel)
    have hstep : LZCDecompress.loop compat_mode (fuel + 1) s =
        LZCDecompress.loop compat_mode fuel (LZCDecompress.wrote code w.length buf
          { s with left := left, chunk := chunk, code_len := n, max_code := m }) := by
      rw [LZCDecompress.loop, if_neg hmore, hread]
      dsimp only [Bind.bind, Except.bind]
      rw [if_neg (not_end_block hletters hfirst known), if_neg hlimit, hresolve]
    rw [hstep, hrun, hwritten, htake, List.append_assoc]

/-! ## The header -/

/-- The byte that says how the codes are written. -/
theorem config_spec {code_len_limit block_mode : ℕ} (hhigh : code_len_limit ≤ 16)
    (hmode : block_mode ≤ 1) :
    (block_mode <<< 7 ||| code_len_limit) < 256 ∧
      (block_mode <<< 7 ||| code_len_limit) &&& 0x1F = code_len_limit ∧
      (block_mode <<< 7 ||| code_len_limit) >>> 7 = block_mode := by
  have hsmall : code_len_limit < 2 ^ 7 := by omega
  have hconfig : block_mode <<< 7 ||| code_len_limit = code_len_limit + 2 ^ 7 * block_mode := by
    rw [Nat.or_comm, or_shiftLeft block_mode hsmall]
  have hand : (block_mode <<< 7 ||| code_len_limit) &&& 0x1F =
      (block_mode <<< 7 ||| code_len_limit) % 2 ^ 5 := Nat.and_two_pow_sub_one_eq_mod _ 5
  rw [hand, Nat.shiftRight_eq_div_pow, hconfig]
  omega

/-- The header of the compressor. -/
def header (n config : ℕ) : Bytes :=
  toLE 4 n ++ [UInt8.ofNat (1 <<< 4 ||| HDR_ALG_LZC)] ++ HDR_MAGIC ++ [UInt8.ofNat config]

theorem length_header (n config : ℕ) : (header n config).length = HDR_SIZE := rfl

/-- The header is read back, whatever stands behind it. -/
theorem parse_header_header {n config : ℕ} (hn : n < 2 ^ 32) (hconfig : config < 256)
    (out : Bytes) : parse_header (header n config ++ out) = .ok (n, HDR_ALG_LZC, 1, config) := by
  have hlen : ¬ (header n config ++ out).length < HDR_SIZE := by
    rw [List.length_append, length_header]
    omega
  have htake : (header n config ++ out).take 4 = toLE 4 n := rfl
  have halgo : (header n config ++ out).getD 4 0 = UInt8.ofNat (1 <<< 4 ||| HDR_ALG_LZC) := rfl
  have hmagic : slice (header n config ++ out) 5 7 = HDR_MAGIC := rfl
  have hbyte : (header n config ++ out).getD 7 0 = UInt8.ofNat config := rfl
  have hpow : (256 : ℕ) ^ 4 = 2 ^ 32 := by norm_num
  unfold parse_header
  rw [if_neg hlen]
  dsimp only
  rw [htake, halgo, hmagic, hbyte, if_neg (not_not.mpr rfl), ofLE_toLE (by rw [hpow]; exact hn),
    UInt8.toNat_ofNat', UInt8.toNat_ofNat', Nat.mod_eq_of_lt hconfig]
  rfl

/-- The decompressor before its first chunk. -/
def before_chunk (n code_len_limit block_mode : ℕ) (out : Bytes) : LZCDecompress where
  left := out
  written := []
  block_mode := block_mode
  code_len_limit := code_len_limit
  code_limit := 1 <<< code_len_limit
  code_len := LZC_MIN_CODE_LEN
  max_code := 1 <<< LZC_MIN_CODE_LEN - 1
  next_free := first_seq_code block_mode
  chunk := none
  codes := fun _ => none
  chain_buf := List.replicate (1 <<< code_len_limit) 0
  prev_code := none
  prev_cdef := none
  decomp_left := n

/-- The decompressor starts with the values that the compressor put into the header. -/
theorem start_header {n code_len_limit block_mode : ℕ} (hn : n < 2 ^ 32)
    (hlow : LZC_MIN_CODE_LEN ≤ code_len_limit) (hhigh : code_len_limit ≤ LZC_MAX_CODE_LEN)
    (hmode : block_mode ≤ 1) (out : Bytes) :
    LZCDecompress.start (header n (block_mode <<< 7 ||| code_len_limit) ++ out) =
      .ok (LZCDecompress.start_chunk (before_chunk n code_len_limit block_mode out)) := by
  obtain ⟨hconfig, hand, hshift⟩ := config_spec hhigh hmode
  have hparse := parse_header_header hn hconfig []
  rw [List.append_nil] at hparse
  generalize block_mode <<< 7 ||| code_len_limit = config at *
  have hlen : ¬ (header n config ++ out).length < HDR_SIZE := by
    rw [List.length_append, length_header]
    omega
  have htake : (header n config ++ out).take HDR_SIZE = header n config :=
    List.take_left' (length_header n config)
  have hdrop : (header n config ++ out).drop HDR_SIZE = out :=
    List.drop_left' (length_header n config)
  unfold LZCDecompress.start
  rw [if_neg hlen, htake, hparse, hdrop]
  dsimp only [Bind.bind, Except.bind, Pure.pure, Except.pure]
  rw [hand, hshift, if_neg (not_not.mpr rfl), if_neg (not_not.mpr ⟨hlow, hhigh⟩)]
  rfl

/-! ## The round trip -/

/-- INTERNAL: the first code always fits. -/
theorem first_seq_code_le (block_mode : ℕ) : first_seq_code block_mode ≤ 257 := by
  unfold first_seq_code
  split
  · exact Nat.le_succ 256
  · exact le_rfl

/-- INTERNAL: there is room for the first code, and for more. -/
theorem le_code_limit {code_len_limit : ℕ} (hlow : LZC_MIN_CODE_LEN ≤ code_len_limit) :
    512 ≤ 1 <<< code_len_limit := by
  rw [Nat.one_shiftLeft]
  exact Nat.pow_le_pow_right Nat.two_pos hlow

theorem new_fits {code_len_limit : ℕ} (hlow : LZC_MIN_CODE_LEN ≤ code_len_limit)
    (block_mode : ℕ) : (framer (LZCCompress.new code_len_limit block_mode)).Fits := by
  have hfirst := first_seq_code_le block_mode
  have hlimit := le_code_limit hlow
  refine ⟨Nat.zero_lt_succ _, Nat.zero_lt_succ _, ?_, ?_, ?_, Or.inl rfl⟩
  · show first_seq_code block_mode ≤ 511
    omega
  · show first_seq_code block_mode ≤ 1 <<< code_len_limit
    omega
  · exact Nat.one_shiftLeft code_len_limit

theorem new_writes (code_len_limit block_mode : ℕ) (ch : UInt8) :
    Writes (coding (1 <<< code_len_limit) block_mode) (LZCCompress.new code_len_limit block_mode)
      ch.toNat [] none [ch] := by
  refine ⟨rfl, rfl, ?_, fun _ _ _ h => (nomatch h), Or.inl ⟨rfl, rfl⟩⟩
  rw [Coding.word_letter [] ch.toNat_lt]
  show some [UInt8.ofNat ch.toNat] = some [ch]
  rw [UInt8.ofNat_toNat]

theorem new_counts (code_len_limit block_mode : ℕ) :
    Counts (coding (1 <<< code_len_limit) block_mode)
      (framer (LZCCompress.new code_len_limit block_mode)) [] none := ⟨rfl, rfl, rfl⟩

theorem before_chunk_knows {code_len_limit : ℕ} (hlow : LZC_MIN_CODE_LEN ≤ code_len_limit)
    (n block_mode : ℕ) (out : Bytes) :
    Knows (coding (1 <<< code_len_limit) block_mode)
      (LZCDecompress.start_chunk (before_chunk n code_len_limit block_mode out)) [] none := by
  have hfirst := first_seq_code_le block_mode
  have hlimit := le_code_limit hlow
  refine ⟨rfl, rfl, ?_, entries_nil, List.length_replicate, Or.inl ⟨rfl, rfl⟩⟩
  show first_seq_code block_mode + 0 ≤ 1 <<< code_len_limit
  omega

/-- The codes of the compressor, read from their first chunk on. -/
theorem decompress_out {code_len_limit block_mode : ℕ} (hlow : LZC_MIN_CODE_LEN ≤ code_len_limit)
    (ch : UInt8) (data : Bytes) (compat_mode : Bool) {fuel : ℕ}
    (hfuel : 8 * (LZCCompress.loop data ch.toNat
      (LZCCompress.new code_len_limit block_mode)).out.length < fuel) :
    LZCDecompress.loop compat_mode fuel (LZCDecompress.start_chunk (before_chunk
      (ch :: data).length code_len_limit block_mode
        (LZCCompress.loop data ch.toNat (LZCCompress.new code_len_limit block_mode)).out)) =
      .ok (ch :: data) := by
  have hfits := new_fits hlow block_mode
  have hcounts := new_counts code_len_limit block_mode
  obtain ⟨codes, hspells, hframer⟩ :=
    loop_spells rfl rfl data (new_writes code_len_limit block_mode ch) hfits
  have hbelow := spells_below hspells hfits hcounts
  have hout := Framer.out_puts codes _ hfits
  rw [← hframer] at hout
  have hlength := Framer.length_codes_le codes _ hfits hbelow
  have hroom := Framer.length_ahead codes _ hfits
  have hbytes := Framer.length_frame_ge hfits.wide (by omega)
    (Framer.ahead_lt codes _ hfits hbelow)
  have hleft : (LZCCompress.loop data ch.toNat (LZCCompress.new code_len_limit block_mode)).out =
      frame LZC_MIN_CODE_LEN
        ((framer (LZCCompress.new code_len_limit block_mode)).ahead codes).1 ++
      ((framer (LZCCompress.new code_len_limit block_mode)).ahead codes).2 := hout
  have hmany : codes.length < fuel := by
    rw [hleft, List.length_append] at hfuel
    change _ ≤ 8 * (frame LZC_MIN_CODE_LEN _).length at hbytes
    omega
  cases codes with
  | nil => cases hspells
  | cons code codes =>
    have hinside : Inside _ (code :: codes) (LZCDecompress.start_chunk (before_chunk
        (ch :: data).length code_len_limit block_mode _)) :=
      start_chunk_inside hfits hbelow rfl rfl rfl hleft
    exact loop_reads compat_mode rfl rfl hspells hfits hcounts
      (before_chunk_knows hlow _ block_mode _) ⟨rfl, rfl, rfl, Or.inl hinside⟩ rfl rfl hmany

/-- The checks around the decompressor pass for what the compressor writes. -/
theorem sapcompress_decompress_header (lzh : Bytes → Except LzError Bytes) {data out : Bytes}
    {code_len_limit block_mode : ℕ} (hdata : data.length < 2 ^ 32)
    (hlow : LZC_MIN_CODE_LEN ≤ code_len_limit) (hhigh : code_len_limit ≤ LZC_MAX_CODE_LEN)
    (hmode : block_mode ≤ 1)
    (hrun : LZCDecompress.loop true
      (8 * (header data.length (block_mode <<< 7 ||| code_len_limit) ++ out).length + 1)
      (LZCDecompress.start_chunk (before_chunk data.length code_len_limit block_mode out)) =
        .ok data) :
    sapcompress_decompress lzh
      (header data.length (block_mode <<< 7 ||| code_len_limit) ++ out) data.length =
        .ok data := by
  obtain ⟨hconfig, -, -⟩ := config_spec hhigh hmode
  have hstart := start_header hdata hlow hhigh hmode out
  have hparse := parse_header_header hdata hconfig out
  have hlen : ¬ (header data.length (block_mode <<< 7 ||| code_len_limit) ++ out).length <
      HDR_SIZE := by
    rw [List.length_append, length_header]
    omega
  have hlzc : LZCDecompress.decompress_data
      (header data.length (block_mode <<< 7 ||| code_len_limit) ++ out) true = .ok data := by
    rw [LZCDecompress.decompress_data, hstart]
    exact hrun
  unfold sapcompress_decompress
  rw [if_neg hlen, hparse]
  dsimp only [Bind.bind, Except.bind, Pure.pure, Except.pure, wrapped]
  rw [if_neg (not_not.mpr rfl), if_pos rfl, hlzc]
  dsimp only
  rw [if_neg (not_not.mpr rfl)]

/-- INTERNAL: what is compressed has its length in front, and is decompressed to what it was. -/
theorem compressed_spec (lzh : Bytes → Except LzError Bytes) {data compressed : Bytes}
    {code_len_limit block_mode : ℕ}
    (h : sapcompress_compress_lzc data code_len_limit block_mode = .ok compressed) :
    data.length < 2 ^ 32 ∧ (∃ config out, compressed = header data.length config ++ out) ∧
      sapcompress_decompress lzh compressed data.length = .ok data := by
  unfold sapcompress_compress_lzc at h
  split at h
  next => cases h
  next hlimit =>
    obtain ⟨hlow, hhigh⟩ := not_not.mp hlimit
    split at h
    next => cases h
    next hfit =>
      have hdata : data.length < 2 ^ 32 := Nat.lt_of_not_le hfit
      dsimp only at h
      split at h
      next => cases h
      next hbyte =>
        have hone : block_mode ≤ 1 := by
          have hleft : block_mode <<< 7 ≤ block_mode <<< 7 ||| code_len_limit := Nat.left_le_or
          have hmoved : block_mode <<< 7 = block_mode * 2 ^ 7 := Nat.shiftLeft_eq block_mode 7
          omega
        cases data with
        | nil =>
          obtain rfl := Except.ok.inj h
          have hempty : sapcompress_decompress lzh
              (header ([] : Bytes).length (block_mode <<< 7 ||| code_len_limit) ++ [])
                ([] : Bytes).length = .ok [] :=
            sapcompress_decompress_header lzh hdata hlow hhigh hone rfl
          rw [List.append_nil] at hempty
          exact ⟨hdata, ⟨block_mode <<< 7 ||| code_len_limit, [], (List.append_nil _).symm⟩, hempty⟩
        | cons ch data =>
          obtain rfl := Except.ok.inj h
          refine ⟨hdata, ⟨block_mode <<< 7 ||| code_len_limit, _, rfl⟩, ?_⟩
          apply sapcompress_decompress_header lzh hdata hlow hhigh hone
          apply decompress_out hlow ch data true
          rw [List.length_append]
          omega

/-- SOURCE: compress.py:412-536 and compress.py:857-892.  What `sapcompress_compress_lzc` makes of
any data, `sapcompress_decompress` makes back, at every limit and in both block modes. -/
theorem lzc_round_trip (lzh : Bytes → Except LzError Bytes) {data : Bytes}
    {code_len_limit block_mode : ℕ} (hdata : data.length < 2 ^ 32)
    (hlow : LZC_MIN_CODE_LEN ≤ code_len_limit) (hhigh : code_len_limit ≤ LZC_MAX_CODE_LEN)
    (hmode : block_mode = LZC_SINGLE_BLOCK ∨ block_mode = LZC_MULTI_BLOCK) :
    ∃ compressed, sapcompress_compress_lzc data code_len_limit block_mode = .ok compressed ∧
      sapcompress_decompress lzh compressed data.length = .ok data := by
  have hone : block_mode ≤ 1 := by
    rcases hmode with rfl | rfl <;> decide
  obtain ⟨hconfig, -, -⟩ := config_spec hhigh hone
  have hfit : ¬ 2 ^ 32 ≤ data.length := Nat.not_le_of_lt hdata
  have hbyte : ¬ 256 ≤ block_mode <<< 7 ||| code_len_limit := Nat.not_le_of_lt hconfig
  have hwritten : ∃ compressed,
      sapcompress_compress_lzc data code_len_limit block_mode = .ok compressed := by
    unfold sapcompress_compress_lzc
    rw [if_neg (not_not.mpr ⟨hlow, hhigh⟩), if_neg hfit]
    dsimp only
    rw [if_neg hbyte]
    cases data with
    | nil => exact ⟨_, rfl⟩
    | cons ch data => exact ⟨_, rfl⟩
  obtain ⟨compressed, hcompressed⟩ := hwritten
  obtain ⟨-, -, hread⟩ := compressed_spec lzh hcompressed
  exact ⟨compressed, hcompressed, hread⟩

/-- A run of one byte, which is longer than any word that is known. -/
theorem lzc_round_trip_run :
    ∃ compressed, sapcompress_compress_lzc [0x41, 0x41, 0x41, 0x41, 0x42] 9 LZC_MULTI_BLOCK =
        .ok compressed ∧
      sapcompress_decompress (fun _ => .error (.decompress [])) compressed 5 =
        .ok [0x41, 0x41, 0x41, 0x41, 0x42] :=
  lzc_round_trip _ (by decide) (by decide) (by decide) (Or.inr rfl)

end SapRfc.Analysis.LzcRoundTrip
