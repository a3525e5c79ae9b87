import SapRfc.Library.CountedLoops
import SapRfc.Analysis.LzcRoundTrip

/-!
# LZC over any bytes

Whatever codes the input holds, the entries below the next free code are those of words that were
spelled since the last reset: each is the word of a smaller code and one byte.  So a walk from a
code that is accepted comes down to a literal, and the buffer has room for all of it.  Entries
that a reset leaves behind stand at the next free code or above, where no walk comes.  Each turn
of the loop takes bits, so the loop comes to its end.
-/

set_option autoImplicit false

namespace SapRfc.Analysis.LzcSafety

open SapRfc.Library SapRfc.Library.CountedLoops SapRfc.Program SapRfc.Program.LZCDecompress
  SapRfc.Analysis.LzcFrames SapRfc.Analysis.LzcWords SapRfc.Analysis.LzcRoundTrip

variable {s s' : LZCDecompress} {code : ℕ}

/-! ## Chains -/

/-- From a code down to a literal: each entry is there, below the next free code, its place in
the buffer is inside, and its base is a smaller code. -/
inductive Chain (next_free : ℕ) (codes : ℕ → Option CodeDef) (room : ℕ) : ℕ → Prop
  | literal {code : ℕ} (low : code < LZC_LITERAL_COUNT) (inside : 0 < room) :
      Chain next_free codes room code
  | entry {code : ℕ} {cdef : CodeDef} (high : LZC_LITERAL_COUNT ≤ code) (below : code < next_free)
      (found : codes code = some cdef) (inside : cdef.chain_index < room)
      (lower : cdef.base < code) (rest : Chain next_free codes room cdef.base) :
      Chain next_free codes room code

/-- The walk along a chain does not fail. -/
theorem Chain.walk {next_free room : ℕ} {codes : ℕ → Option CodeDef}
    (h : Chain next_free codes room code) : ∀ {fuel : ℕ} (n : ℕ) {buf : Bytes}, code < fuel →
      buf.length = room → ∃ r, walk_chain next_free codes fuel code n buf = .ok r := by
  induction h with
  | literal low inside =>
    intro fuel n buf hfuel hroom
    obtain ⟨fuel, rfl⟩ : ∃ k, fuel = k + 1 := ⟨fuel - 1, by omega⟩
    unfold walk_chain set_char
    rw [if_pos low, if_pos (by omega)]
    exact ⟨_, rfl⟩
  | entry high below found inside lower rest ih =>
    intro fuel n buf hfuel hroom
    obtain ⟨fuel, rfl⟩ : ∃ k, fuel = k + 1 := ⟨fuel - 1, by omega⟩
    unfold walk_chain
    rw [if_neg (by omega), if_neg (by omega), found]
    simp only [set_char]
    rw [if_pos (by omega), Eff.except_ok_bind]
    exact ih (n + 1) (by omega) (by rw [List.length_set]; exact hroom)

/-- The code of a word is followed along a chain. -/
theorem chain_of_word {F : Coding UInt8} {codes : ℕ → Option CodeDef} {words : List Bytes}
    {room : ℕ} (h : Entries F codes words) (hletters : F.letters = LZC_LITERAL_COUNT)
    (hroom : F.first + words.length ≤ room) :
    ∀ (code : ℕ) (w : Bytes), F.word words code = some w →
      Chain (F.first + words.length) codes room code := by
  intro code
  induction code using Nat.strong_induction_on with
  | _ code ih =>
    intro w hw
    have hlt := Coding.word_lt hw
    rcases Coding.word_cases hw with ⟨hlow, -⟩ | ⟨i, hhigh, rfl, -, hi⟩
    · exact .literal (by omega) (by omega)
    · obtain ⟨base, p, x, hentry, hp, hbase, -⟩ := h.entry i w hi
      have hlength := (h.length_le base p hp).2
      refine .entry (by omega) hlt hentry ?_ hbase (ih base hbase p hp)
      show p.length < room
      omega

/-! ## The invariant -/

/-- The words since the last reset are known, and codes have bits. -/
structure Safe (s : LZCDecompress) : Prop where
  mode : s.block_mode ≤ 1
  wide : 1 ≤ s.code_len
  knows : ∃ words last, Knows (coding s.code_limit s.block_mode) s words last

/-- The bits that are left. -/
def bits (s : LZCDecompress) : ℕ := s.left.length * 8 + s.chunk.elim 0 BitReader.bits_left

/-- A code that the decoder looks at. -/
structure Accepted (s : LZCDecompress) (code : ℕ) : Prop where
  inside : ¬ (s.block_mode = LZC_MULTI_BLOCK ∧ code = LZC_CODE_END_BLOCK)
  below : code < s.code_limit

/-- INTERNAL: a code below the next free one is the code of a word. -/
theorem word_of_lt {words : List Bytes} {last : Option Bytes}
    (hknows : Knows (coding s.code_limit s.block_mode) s words last) (hmode : s.block_mode ≤ 1)
    (h : Accepted s code) (hlt : code < s.next_free) :
    ∃ w, (coding s.code_limit s.block_mode).word words code = some w := by
  have hfree := hknows.free
  by_cases hlow : code < LZC_LITERAL_COUNT
  · exact ⟨_, Coding.word_letter words hlow⟩
  · have hfirst : (coding s.code_limit s.block_mode).first ≤ code := by
      show first_seq_code s.block_mode ≤ code
      have hinside := h.inside
      unfold first_seq_code
      split
      · exact Nat.le_of_not_lt hlow
      next hmulti =>
        have hone : s.block_mode = LZC_MULTI_BLOCK := by
          unfold LZC_SINGLE_BLOCK at hmulti
          unfold LZC_MULTI_BLOCK
          omega
        have hne : code ≠ LZC_CODE_END_BLOCK := fun heq => hinside ⟨hone, heq⟩
        unfold LZC_LITERAL_COUNT at hlow ⊢
        unfold LZC_CODE_END_BLOCK at hne
        omega
    obtain ⟨i, rfl⟩ := Nat.exists_eq_add_of_le hfirst
    refine ⟨words.get ⟨i, by omega⟩, ?_⟩
    rw [Coding.word_first_add]
    exact List.getElem?_eq_getElem _

/-! ## Codes -/

section Codes

variable {F : Coding UInt8} {words : List Bytes} {last : Option Bytes}

/-- INTERNAL: a byte set behind what is taken. -/
theorem take_set {buf : Bytes} {n : ℕ} (x : UInt8) (h : n < buf.length) :
    (buf.set n x).take (n + 1) = buf.take n ++ [x] := by
  have hlength : (buf.take n).length = n := List.length_take_of_le (Nat.le_of_lt h)
  rw [List.set_eq_take_append_cons_drop, if_pos h, List.take_append, hlength,
    Nat.add_sub_cancel_left, List.take_of_length_le (by omega)]
  rfl

/-- A code that equals the next free one is the last word and its first byte. -/
theorem resolve_next {c : ℕ} (h : Knows F s words last) (hnext : code = s.next_free)
    (hbelow : code < s.code_limit) (hprev : s.prev_code = some c) :
    s.prev_ci + 1 < s.chain_buf.length ∧ ∃ n buf words' last',
      resolve_code code s = .ok (n, buf) ∧ Knows F (wrote code n buf s) words' last' := by
  rcases h.prev with ⟨hnone, -⟩ | ⟨d, v, hd, rfl, hv, hci, htake⟩
  · rw [hnone] at hprev
    cases hprev
  · obtain rfl : d = c := Option.some.inj (hd.symm.trans hprev)
    have hfree := h.free
    have hbuffer := h.buffer
    have hlimit := h.limit
    have hlt := Coding.word_lt hv
    obtain ⟨hne, hlength⟩ := h.entries.length_le d v hv
    have hinside : s.prev_ci + 1 < s.chain_buf.length := by omega
    have hroom : F.first + words.length < F.limit := by omega
    refine ⟨hinside, ?_⟩
    obtain ⟨x, tail, hcons⟩ : ∃ x tail, v = x :: tail := List.exists_cons_of_ne_nil hne
    have hhead : [s.chain_buf.headD 0] = v.take 1 := headD_of_take hne htake
    obtain ⟨buf, hbuf⟩ : ∃ buf, s.chain_buf.set (s.prev_ci + 1) (s.chain_buf.headD 0) = buf :=
      ⟨_, rfl⟩
    have hword : (v ++ v.take 1).take 1 = v.take 1 := by
      rw [hcons]
      rfl
    have hsize : (v ++ v.take 1).length = s.prev_ci + 2 := by
      rw [List.length_append, ← hci, hcons]
      rfl
    have htaken : buf.take (v ++ v.take 1).length = v ++ v.take 1 := by
      rw [hsize, ← hbuf, take_set _ hinside, hci, htake, hhead]
    have hresolve : resolve_code code s = .ok ((v ++ v.take 1).length, buf) := by
      have hother : s.prev_code ≠ some code := by
        rw [hprev]
        intro heq
        have := Option.some.inj heq
        omega
      unfold resolve_code set_char
      rw [if_neg hother, if_neg (by omega), if_pos
        ⟨hnext, by rw [hprev]; exact Option.some_ne_none _⟩,
        if_pos hinside, Eff.except_ok_bind, hbuf, hsize]
    refine ⟨_, buf, _, _, hresolve, wrote_learned (v := v) h hroom ?_ htaken ?_ ?_⟩
    · rw [hcons]
      exact List.cons_ne_nil _ _
    · rw [← hbuf, List.length_set]
    · rw [hword, hnext, hfree, Coding.word_first_add, List.getElem?_concat_length]

end Codes

/-- What the decoder does with a code: the previous sequence has its entry and is inside the
buffer, a walk goes along a chain, and the byte behind the previous sequence is inside too. -/
structure Followed (s : LZCDecompress) (code : ℕ) : Prop where
  found : ∀ c, s.prev_code = some c → LZC_LITERAL_COUNT ≤ c → s.prev_cdef ≠ none
  last : s.prev_code ≠ none → s.prev_ci < s.chain_buf.length
  chain : s.prev_code ≠ some code → code < s.next_free →
    Chain s.next_free s.codes s.chain_buf.length code
  walk : s.prev_code ≠ some code → code < s.next_free →
    ∃ r, walk_chain s.next_free s.codes (code + 1) code 0 s.chain_buf = .ok r
  next : code = s.next_free → s.prev_code ≠ none → s.prev_ci + 1 < s.chain_buf.length

/-- INTERNAL: the previous code has its entry, and its sequence is inside the buffer. -/
theorem prev_found {F : Coding UInt8} {words : List Bytes} {last : Option Bytes} {c : ℕ}
    (h : Knows F s words last) (hletters : F.letters = LZC_LITERAL_COUNT)
    (hc : s.prev_code = some c) :
    (LZC_LITERAL_COUNT ≤ c → s.prev_cdef ≠ none) ∧ s.prev_ci < s.chain_buf.length := by
  have hbounded := h.bounded
  have hlimit := h.limit
  have hbuffer := h.buffer
  rcases h.prev with ⟨hnone, -⟩ | ⟨d, v, hd, -, hv, hci, -⟩
  · rw [hnone] at hc
    cases hc
  · obtain rfl : d = c := Option.some.inj (hd.symm.trans hc)
    have hlt := Coding.word_lt hv
    have hlength := (h.entries.length_le d v hv).2
    refine ⟨?_, by omega⟩
    intro hhigh hmissing
    rcases Coding.word_cases hv with ⟨hlow, -⟩ | ⟨i, -, -, -, hi⟩
    · omega
    · obtain ⟨base, p, x, -, hp, -, rfl⟩ := h.entries.entry i v hi
      have hne := List.length_pos_of_ne_nil (h.entries.length_le base p hp).1
      have hzero : s.prev_ci = 0 := by
        unfold LZCDecompress.prev_ci
        rw [hmissing]
      rw [List.length_append, List.length_singleton] at hci
      omega

theorem Safe.followed (h : Safe s) (hcode : Accepted s code) : Followed s code := by
  obtain ⟨words, last, hknows⟩ := h.knows
  have hchain : code < s.next_free → Chain s.next_free s.codes s.chain_buf.length code := by
    intro hlt
    obtain ⟨w, hw⟩ := word_of_lt hknows h.mode hcode hlt
    have hroom := hknows.bounded
    rw [← hknows.limit, ← hknows.buffer] at hroom
    have hword := chain_of_word hknows.entries rfl hroom code w hw
    rwa [← hknows.free] at hword
  refine ⟨fun c hc => (prev_found hknows rfl hc).1, ?_, fun _ hlt => hchain hlt, ?_, ?_⟩
  · intro hprev
    obtain ⟨c, hc⟩ := Option.ne_none_iff_exists'.mp hprev
    exact (prev_found hknows rfl hc).2
  · intro _ hlt
    exact (hchain hlt).walk 0 (Nat.lt_succ_self code) rfl
  · intro hnext hprev
    obtain ⟨c, hc⟩ := Option.ne_none_iff_exists'.mp hprev
    exact (resolve_next hknows hnext hcode.below hc).1

/-- INTERNAL: a sequence that is written takes nothing from the reader. -/
theorem wrote_reader (s : LZCDecompress) (code n : ℕ) (buf : Bytes) :
    (wrote code n buf s).code_len = s.code_len ∧ bits (wrote code n buf s) = bits s := by
  by_cases hadd : s.prev_code = none ∨ s.code_limit ≤ s.next_free
  · rw [wrote_kept hadd]
    exact ⟨rfl, rfl⟩
  · rw [not_or, not_le] at hadd
    obtain ⟨c, hc⟩ := Option.ne_none_iff_exists'.mp hadd.1
    rw [wrote_added hc hadd.2]
    exact ⟨rfl, rfl⟩

/-- INTERNAL: what is known behind a sequence keeps the invariant. -/
theorem Safe.of_knows {n : ℕ} {buf : Bytes} {words : List Bytes} {last : Option Bytes} (h : Safe s)
    (hknows : Knows (coding s.code_limit s.block_mode) (wrote code n buf s) words last) :
    Safe (wrote code n buf s) := by
  obtain ⟨-, -, hmode, -, hlimit⟩ := wrote_rest s code n buf
  obtain ⟨hwide, -⟩ := wrote_reader s code n buf
  refine ⟨by rw [hmode]; exact h.mode, by rw [hwide]; exact h.wide, words, last, ?_⟩
  rw [hmode, hlimit]
  exact hknows

/-- The decoder resolves a code or raises its own error, and what it knows then are words. -/
theorem Safe.resolve (h : Safe s) (hcode : Accepted s code) :
    (∃ text, resolve_code code s = .error (.decompress text)) ∨
    ∃ n buf, resolve_code code s = .ok (n, buf) ∧ Safe (wrote code n buf s) := by
  obtain ⟨words, last, hknows⟩ := h.knows
  by_cases hlt : code < s.next_free
  · obtain ⟨w, hw⟩ := word_of_lt hknows h.mode hcode hlt
    obtain ⟨buf, hresolve, htake, hlength⟩ := resolve_code_spec hknows rfl rfl hw
    exact .inr ⟨_, buf, hresolve, h.of_knows (wrote_knows hknows hw htake hlength)⟩
  · have hother : s.prev_code ≠ some code := by
      intro hsame
      rcases hknows.prev with ⟨hnone, -⟩ | ⟨c, v, hc, -, hv, -⟩
      · rw [hnone] at hsame
        cases hsame
      · obtain rfl : c = code := Option.some.inj (hc.symm.trans hsame)
        have hfree := hknows.free
        have := Coding.word_lt hv
        omega
    by_cases hnext : code = s.next_free ∧ s.prev_code ≠ none
    · obtain ⟨c, hc⟩ := Option.ne_none_iff_exists'.mp hnext.2
      obtain ⟨-, n, buf, words', last', hresolve, hwrote⟩ :=
        resolve_next hknows hnext.1 hcode.below hc
      exact .inr ⟨n, buf, hresolve, h.of_knows hwrote⟩
    · left
      unfold resolve_code
      rw [if_neg hother, if_neg hlt, if_neg hnext]
      exact ⟨_, rfl⟩

/-! ## Reading codes -/

/-- INTERNAL: bytes go to the bits while there are some. -/
theorem fill_total (n : ℕ) (left : Bytes) : ∀ (bits bits_count : ℕ),
    n ≤ left.length * 8 + bits_count → ∃ r, BitReader.fill n left bits bits_count = .ok r := by
  induction left with
  | nil =>
    intro bits bits_count hn
    rw [List.length_nil] at hn
    unfold BitReader.fill
    rw [if_neg (by omega)]
    exact ⟨_, rfl⟩
  | cons b left ih =>
    intro bits bits_count hn
    rw [List.length_cons] at hn
    unfold BitReader.fill
    split
    · exact ih _ _ (by omega)
    · exact ⟨_, rfl⟩

/-- INTERNAL: a reader that has the bits hands them out. -/
theorem read_bits_total {n : ℕ} {r : BitReader} (h : n ≤ r.bits_left) :
    ∃ x r', r.read_bits n = .ok (x, r') ∧ r'.bits_left + n = r.bits_left := by
  obtain ⟨q, hfill⟩ := fill_total n r.left r.bits r.bits_count h
  have hread : r.read_bits n = .ok (q.bits &&& (1 <<< n - 1),
      { q with bits := q.bits >>> n, bits_count := q.bits_count - n }) := by
    unfold BitReader.read_bits
    rw [hfill]
    rfl
  exact ⟨_, _, hread, read_bits_left hread⟩

theorem bits_start_chunk (s : LZCDecompress) : bits (start_chunk s) = s.left.length * 8 := by
  unfold start_chunk bits
  by_cases hzero : min s.code_len s.left.length = 0
  · simp only [hzero, if_true, List.drop_zero, Option.elim_none, Nat.add_zero]
  · simp only [hzero, if_false, Option.elim_some, BitReader.new, BitReader.bits_left,
      List.length_drop, List.length_take]
    omega

/-- The same state but for what the codes are read from, with codes that are not shorter. -/
def Rechunked (s s' : LZCDecompress) : Prop :=
  ∃ left chunk code_len max_code, s.code_len ≤ code_len ∧
    s' = { s with left := left, chunk := chunk, code_len := code_len, max_code := max_code }

theorem Safe.rechunked (h : Safe s) (hs : Rechunked s s') : Safe s' := by
  obtain ⟨left, chunk, code_len, max_code, hlong, rfl⟩ := hs
  obtain ⟨words, last, hknows⟩ := h.knows
  refine ⟨h.mode, Nat.le_trans h.wide hlong, words, last, ?_⟩
  exact ⟨hknows.free, hknows.limit, hknows.bounded, hknows.entries, hknows.buffer, hknows.prev⟩

/-- INTERNAL: the chunk that a code is read from. -/
theorem next_chunk_spec (s : LZCDecompress) :
    Rechunked s (next_chunk s) ∧ bits (next_chunk s) ≤ bits s := by
  unfold next_chunk
  split
  · rw [bits_start_chunk]
    split
    · exact ⟨⟨_, _, _, _, Nat.le_succ _, rfl⟩, Nat.le_add_right _ _⟩
    · exact ⟨⟨_, _, _, _, Nat.le_refl _, rfl⟩, Nat.le_add_right _ _⟩
  · exact ⟨⟨_, _, _, _, Nat.le_refl _, rfl⟩, Nat.le_refl _⟩

/-- Reading a code does not fail, and takes bits where there is one. -/
theorem Safe.read_code (h : Safe s) :
    ∃ found s', LZCDecompress.read_code s = .ok (found, s') ∧ Safe s' ∧
      (found ≠ none → bits s' < bits s) := by
  obtain ⟨hchunk, hbits⟩ := next_chunk_spec s
  have hsafe := h.rechunked hchunk
  unfold LZCDecompress.read_code
  generalize next_chunk s = q at hsafe hbits
  cases hq : q.chunk with
  | none => exact ⟨none, q, by simp only [hq], hsafe, fun hne => absurd rfl hne⟩
  | some chunk =>
    by_cases hshort : chunk.bits_left < q.code_len
    · refine ⟨none, q, ?_, hsafe, fun hne => absurd rfl hne⟩
      simp only [hq]
      rw [if_pos hshort]
    · obtain ⟨x, rest, hread, hleft⟩ := read_bits_total (Nat.le_of_not_lt hshort)
      refine ⟨some x, { q with chunk := some rest }, ?_, ?_, ?_⟩
      · simp only [hq]
        rw [if_neg hshort, hread]
        rfl
      · exact hsafe.rechunked ⟨q.left, some rest, q.code_len, q.max_code, Nat.le_refl _, rfl⟩
      · intro _
        have hwide := hsafe.wide
        have hbefore : bits q = q.left.length * 8 + chunk.bits_left := by
          unfold bits
          rw [hq]
          rfl
        have hafter : bits { q with chunk := some rest } = q.left.length * 8 + rest.bits_left := rfl
        omega

/-! ## Turns -/

/-- A turn of the loop, and whether there may be another. -/
def turn (compat_mode : Bool) (s : LZCDecompress) : Except LzError (Bool × LZCDecompress) :=
  if s.decomp_left ≤ 0 then .ok (false, s)
  else do
    let (code, s) ← LZCDecompress.read_code s
    match code with
    | none =>
      if compat_mode then .ok (false, s)
      else .error (.decompress (lit "unexpected end of compressed data"))
    | some code =>
      if s.block_mode = LZC_MULTI_BLOCK ∧ code = LZC_CODE_END_BLOCK then
        .ok (true, { start_block s with prev_code := none, prev_cdef := none })
      else if s.code_limit ≤ code then
        .error (.decompress (lit "code " ++ dec code ++ lit " >= limit " ++ dec s.code_limit))
      else do
        let (chain_len, chain_buf) ← resolve_code code s
        .ok (true, wrote code chain_len chain_buf s)

/-- The loop is its turns. -/
theorem loop_eq_counted (compat_mode : Bool) (fuel : ℕ) (s : LZCDecompress) :
    loop compat_mode fuel s = LZCDecompress.written <$> counted (turn compat_mode) fuel s := by
  induction fuel generalizing s with
  | zero => rfl
  | succ fuel ih =>
    rw [loop, counted_succ, turn]
    split
    · rfl
    · cases LZCDecompress.read_code s with
      | error e => rfl
      | ok r =>
        obtain ⟨found, q⟩ := r
        cases found with
        | none => cases compat_mode <;> rfl
        | some code =>
          simp only [Eff.except_ok_bind]
          split
          · exact ih _
          · split
            · rfl
            · cases resolve_code code q with
              | error e => rfl
              | ok r => exact ih _

/-- A reset keeps the invariant: the entries that it leaves stand at the next free code or above. -/
theorem Safe.reset (h : Safe s) :
    Safe { start_block s with prev_code := none, prev_cdef := none } ∧
      bits { start_block s with prev_code := none, prev_cdef := none } ≤ bits s := by
  obtain ⟨words, last, hknows⟩ := h.knows
  have hbounded := hknows.bounded
  refine ⟨⟨h.mode, ?_, [], none, rfl, hknows.limit, ?_, ?_, hknows.buffer, .inl ⟨rfl, rfl⟩⟩, ?_⟩
  · show 1 ≤ LZC_MIN_CODE_LEN
    decide
  · exact Nat.le_trans (Nat.add_le_add_left (Nat.zero_le _) _) hbounded
  · exact ⟨hknows.entries.none_of_lt, nofun⟩
  · show bits (start_block s) ≤ bits s
    unfold start_block
    rw [bits_start_chunk]
    exact Nat.le_add_right _ _

/-- A turn keeps the invariant and takes bits, or ends the loop, or raises the module's error. -/
theorem Safe.turn_cases (h : Safe s) (compat_mode : Bool) :
    (∃ text, turn compat_mode s = .error (.decompress text)) ∨
    (∃ s', turn compat_mode s = .ok (false, s')) ∨
    ∃ s', turn compat_mode s = .ok (true, s') ∧ Safe s' ∧ bits s' < bits s := by
  unfold turn
  split
  · exact .inr (.inl ⟨_, rfl⟩)
  · obtain ⟨found, q, hread, hq, hbits⟩ := h.read_code
    rw [hread]
    simp only [Eff.except_ok_bind]
    cases found with
    | none =>
      cases compat_mode with
      | true => exact .inr (.inl ⟨_, rfl⟩)
      | false => exact .inl ⟨_, rfl⟩
    | some code =>
      have hless := hbits (Option.some_ne_none code)
      dsimp only
      split
      · obtain ⟨hreset, hleft⟩ := hq.reset
        exact .inr (.inr ⟨_, rfl, hreset, Nat.lt_of_le_of_lt hleft hless⟩)
      next hinside =>
        split
        · exact .inl ⟨_, rfl⟩
        next hbelow =>
          rcases hq.resolve ⟨hinside, Nat.lt_of_not_le hbelow⟩ with
            ⟨text, hresolve⟩ | ⟨n, buf, hresolve, hwrote⟩
          · rw [hresolve]
            exact .inl ⟨text, rfl⟩
          · rw [hresolve]
            refine .inr (.inr ⟨_, rfl, hwrote, ?_⟩)
            rw [(wrote_reader q code n buf).2]
            exact hless

/-- Each turn that goes on takes bits. -/
theorem turn_lowers (compat_mode : Bool) : LowersOn Safe (turn compat_mode) bits := by
  intro s s' hs hturn
  rcases hs.turn_cases compat_mode with ⟨text, h⟩ | ⟨q, h⟩ | ⟨q, h, hq, hless⟩
  · rw [h] at hturn
    cases hturn
  · rw [h] at hturn
    cases hturn
  · rw [h] at hturn
    cases hturn
    exact ⟨hq, hless⟩

/-! ## Runs -/

/-- INTERNAL: a header is read, with a byte behind it, or refused. -/
theorem parse_header_cases (data : Bytes) :
    (∃ text, parse_header data = .error (.decompress text)) ∨
    ∃ n algo_id version config, parse_header data = .ok (n, algo_id, version, config) ∧
      config < 256 := by
  unfold parse_header
  split
  · exact .inl ⟨_, rfl⟩
  · dsimp only
    split
    · exact .inl ⟨_, rfl⟩
    · exact .inr ⟨_, _, _, _, rfl, UInt8.toNat_lt _⟩

/-- The decoder starts in the invariant, or raises the module's error. -/
theorem start_cases (data : Bytes) :
    (∃ text, start data = .error (.decompress text)) ∨
    ∃ s, start data = .ok s ∧ Safe s ∧ bits s ≤ 8 * data.length := by
  unfold start
  split
  · exact .inl ⟨_, rfl⟩
  · rcases parse_header_cases (data.take HDR_SIZE) with
      ⟨text, hheader⟩ | ⟨n, algo_id, version, config, hheader, hconfig⟩
    · rw [hheader]
      exact .inl ⟨text, rfl⟩
    · rw [hheader]
      simp only [Eff.except_ok_bind]
      split
      · exact .inl ⟨_, rfl⟩
      · split
        · exact .inl ⟨_, rfl⟩
        next hlimit =>
          obtain ⟨hlow, -⟩ := not_not.mp hlimit
          have hroom := le_code_limit hlow
          have hfirst := first_seq_code_le (config >>> 7)
          refine .inr ⟨_, rfl, ⟨?_, ?_, [], none, rfl, rfl, ?_, entries_nil, ?_, .inl ⟨rfl, rfl⟩⟩, ?_⟩
          · show config >>> 7 ≤ 1
            rw [Nat.shiftRight_eq_div_pow]
            omega
          · show 1 ≤ LZC_MIN_CODE_LEN
            decide
          · show first_seq_code (config >>> 7) + 0 ≤ 1 <<< (config &&& 0x1F)
            omega
          · exact List.length_replicate
          · rw [bits_start_chunk, List.length_drop]
            omega

/-- The states in which the decoder is before a turn. -/
inductive Reached (data : Bytes) (compat_mode : Bool) : LZCDecompress → Prop
  | start {s : LZCDecompress} (h : start data = .ok s) : Reached data compat_mode s
  | turn {s s' : LZCDecompress} (h : Reached data compat_mode s)
      (hturn : turn compat_mode s = .ok (true, s')) : Reached data compat_mode s'

theorem Reached.safe {data : Bytes} {compat_mode : Bool} (h : Reached data compat_mode s) :
    Safe s := by
  induction h with
  | start h =>
    rcases start_cases _ with ⟨text, hstart⟩ | ⟨q, hstart, hq, -⟩
    · rw [hstart] at h
      cases h
    · rw [hstart] at h
      cases h
      exact hq
  | turn _ hturn ih => exact (turn_lowers _ _ _ ih hturn).1

/-- The decoder returns or raises the module's error, whatever the bytes and the size that they
declare, and more turns than it has would change nothing.  At each code that it accepts in any
turn, a walk goes from smaller code to smaller code down to a literal, each entry is there, and
each index is inside the buffer. -/
theorem lzc_decoding_safe (data : Bytes) (compat_mode : Bool) :
    ((∃ out, decompress_data data compat_mode = .ok out) ∨
      ∃ text, decompress_data data compat_mode = .error (.decompress text)) ∧
    (∀ turns, 8 * data.length < turns →
      (start data >>= loop compat_mode turns) = decompress_data data compat_mode) ∧
    ∀ s s' code, Reached data compat_mode s →
      LZCDecompress.read_code s = .ok (some code, s') → Accepted s' code → Followed s' code := by
  refine ⟨?_, ?_, ?_⟩
  · unfold decompress_data
    rcases start_cases data with ⟨text, hstart⟩ | ⟨s, hstart, hs, -⟩
    · rw [hstart]
      exact .inr ⟨text, rfl⟩
    · rw [hstart, Eff.except_ok_bind, loop_eq_counted]
      cases hloop : counted (turn compat_mode) (8 * data.length + 1) s with
      | ok q => exact .inl ⟨q.written, rfl⟩
      | error e =>
        have hfail : ∀ s e, Safe s → turn compat_mode s = .error e →
            ∃ text, e = .decompress text := by
          intro s e hs hturn
          rcases hs.turn_cases compat_mode with ⟨text, h⟩ | ⟨q, h⟩ | ⟨q, h, -⟩
          · rw [h] at hturn
            cases hturn
            exact ⟨text, rfl⟩
          · rw [h] at hturn
            cases hturn
          · rw [h] at hturn
            cases hturn
        obtain ⟨text, rfl⟩ := (turn_lowers compat_mode).counted_error hfail hs hloop
        exact .inr ⟨text, rfl⟩
  · intro turns hturns
    unfold decompress_data
    rcases start_cases data with ⟨text, hstart⟩ | ⟨s, hstart, hs, hbits⟩
    · rw [hstart]
      rfl
    · rw [hstart, Eff.except_ok_bind, Eff.except_ok_bind, loop_eq_counted, loop_eq_counted,
        (turn_lowers compat_mode).counted_congr hs (Nat.lt_of_le_of_lt hbits hturns)
          (Nat.lt_succ_of_le hbits)]
  · intro s s' code hreached hread hcode
    obtain ⟨found, q, hq, hsafe, -⟩ := hreached.safe.read_code
    rw [hread] at hq
    cases hq
    exact hsafe.followed hcode

end SapRfc.Analysis.LzcSafety
