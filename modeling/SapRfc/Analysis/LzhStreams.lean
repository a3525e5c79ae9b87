import SapRfc.Analysis.LzhBlocks

/-!
# Streams of the LZH decoder

The tokens of a stream are read from its bits alone.  The decoder checks the distance of a match
against its window only, and the window starts with zeros.  So a match that reaches back beyond
the output copies zeros that no token wrote.  The decoder for the other format of the module
refuses such a match.
-/

set_option autoImplicit false

namespace SapRfc.Analysis.LzhStreams

open SapRfc.Library SapRfc.Library.RingBuffers SapRfc.Program SapRfc.Program.LZHDecompress
open SapRfc.Analysis.LzhLoops SapRfc.Analysis.LzhWindow SapRfc.Analysis.LzhBlocks

variable {litlen_tree dist_tree : HuffTree} {s : LZHDecompress} {r : BitReader}

/-! ## Tokens without a window -/

/-- The next token, and nothing at the end of a block. -/
def read_token (litlen_tree dist_tree : HuffTree) (r : BitReader) :
    Except LzError (Option Token × BitReader) := do
  let (nd, r) ← litlen_tree.read_code_two_staged r (eob_len litlen_tree)
  let val := nd.value
  if val ≤ LZH_LIT_LAST then .ok (some (.literal (UInt8.ofNat val)), r)
  else if val = LZH_END_BLOCK then .ok (none, r)
  else
    let (length, distance, r) ← read_match dist_tree val r
    .ok (some (.copy length distance), r)

/-- What is read before the end or the first error, and how the reading ends. -/
abbrev Reading : Type := List Token × Except LzError BitReader

/-- Tokens, and what is read behind them. -/
def Reading.after (tokens : List Token) (reading : Reading) : Reading :=
  (tokens ++ reading.1, reading.2)

/-- The tokens of a block; the counter is the decoder's. -/
def block_tokens (litlen_tree dist_tree : HuffTree) : ℕ → BitReader → Reading
  | 0, r => ([], .ok r)
  | fuel + 1, r =>
    match read_token litlen_tree dist_tree r with
    | .error e => ([], .error e)
    | .ok (none, r) => ([], .ok r)
    | .ok (some token, r) => (block_tokens litlen_tree dist_tree fuel r).after [token]

/-- Whether a block is the last one, and its trees. -/
def read_block_head (r : BitReader) : Except LzError (ℕ × HuffTree × HuffTree × BitReader) := do
  let (last, r) ← r.read_bits 1
  let (btype, r) ← r.read_bits 2
  if btype = LZH_TREETYPE_STATIC then .ok (last, get_static_litlen, get_static_dist, r)
  else if btype = LZH_TREETYPE_DYNAMIC then do
    let (r, litlen_tree, dist_tree) ← read_dynamic_trees r
    .ok (last, litlen_tree, dist_tree, r)
  else .error (.decompress (lit "unknown LZH block type " ++ dec btype))

/-- The tokens of the blocks. -/
def blocks_tokens : ℕ → BitReader → Reading
  | 0, r => ([], .ok r)
  | fuel + 1, r =>
    match read_block_head r with
    | .error e => ([], .error e)
    | .ok (last, litlen_tree, dist_tree, r) =>
      let block := block_tokens litlen_tree dist_tree (r.bits_left + 1) r
      match block.2 with
      | .error e => (block.1, .error e)
      | .ok r => if last ≠ 0 then (block.1, .ok r) else (blocks_tokens fuel r).after block.1

/-- The tokens of a stream, up to its end or the first error. -/
def stream_tokens (data : Bytes) : Reading :=
  match read_head data with
  | .error e => ([], .error e)
  | .ok r => blocks_tokens (r.bits_left + 1) r

/-! ## The decoder runs the tokens -/

/-- What the decoder does with a token. -/
def apply (s : LZHDecompress) : Token → LZHDecompress
  | .literal b => write_literal b.toNat s
  | .copy length distance => copy_match length distance s

/-- The decoder behind a reading. -/
def behind (s : LZHDecompress) (reading : Reading) : Except LzError LZHDecompress :=
  reading.2.map fun r => { reading.1.foldl apply s with reader := r }

/-- INTERNAL: a match does not look at the reader. -/
theorem copy_match_read (length distance : ℕ) (s : LZHDecompress) (r : BitReader) :
    copy_match length distance { s with reader := r } =
      { copy_match length distance s with reader := r } := by
  have hchunks : ∀ (fuel copy_left src : ℕ) (s : LZHDecompress),
      copy_chunks fuel copy_left src { s with reader := r } =
        { copy_chunks fuel copy_left src s with reader := r } := by
    intro fuel
    induction fuel with
    | zero => exact fun _ _ _ => rfl
    | succ fuel ih =>
      intro copy_left src s
      unfold copy_chunks
      split
      · exact ih _ _ (chunk_copied src (min (LZH_WINDOW_SIZE - max src s.wpos) copy_left) s)
      · rfl
  exact hchunks _ _ _ s

theorem apply_read (s : LZHDecompress) (r : BitReader) (token : Token) :
    apply { s with reader := r } token = { apply s token with reader := r } := by
  cases token with
  | literal b => rfl
  | copy length distance => exact copy_match_read length distance s r

/-- INTERNAL: only the last reader counts. -/
theorem foldl_apply_read (s : LZHDecompress) (r r' : BitReader) (tokens : List Token) :
    { tokens.foldl apply { s with reader := r } with reader := r' } =
      { tokens.foldl apply s with reader := r' } := by
  induction tokens generalizing s with
  | nil => rfl
  | cons token tokens ih => rw [List.foldl_cons, List.foldl_cons, apply_read, ih]

/-- INTERNAL: a reading from a state that has read something. -/
theorem behind_after (s : LZHDecompress) (r : BitReader) (tokens : List Token) (reading : Reading) :
    behind { tokens.foldl apply s with reader := r } reading = behind s (reading.after tokens) := by
  unfold behind Reading.after
  rw [List.foldl_append]
  cases reading.2 with
  | error e => rfl
  | ok r' => exact congrArg Except.ok (foldl_apply_read _ r r' reading.1)

/-- A turn of the decoder is a token that is read, and applied. -/
theorem next_token_eq (litlen_tree dist_tree : HuffTree) (s : LZHDecompress) :
    next_token litlen_tree dist_tree s =
      (read_token litlen_tree dist_tree s.reader).map fun read =>
        match read.1 with
        | none => (false, { s with reader := read.2 })
        | some token => (true, { apply s token with reader := read.2 }) := by
  unfold next_token read_token
  cases litlen_tree.read_code_two_staged s.reader (eob_len litlen_tree) with
  | error e => rfl
  | ok found =>
    obtain ⟨nd, r⟩ := found
    rw [Eff.except_ok_bind, Eff.except_ok_bind]
    dsimp only
    split
    · have hval : UInt8.ofNat (UInt8.ofNat nd.value).toNat = UInt8.ofNat nd.value :=
        UInt8.ofNat_toNat
      show Except.ok (true, write_literal nd.value { s with reader := r }) =
        Except.ok (true, write_literal (UInt8.ofNat nd.value).toNat { s with reader := r })
      unfold write_literal
      rw [hval]
    · split
      · rfl
      · cases read_match dist_tree nd.value r with
        | error e => rfl
        | ok found =>
          obtain ⟨length, distance, r'⟩ := found
          exact congrArg (fun s => Except.ok (true, s)) (copy_match_read length distance s r')

/-- A block runs its tokens. -/
theorem read_tokens_eq (litlen_tree dist_tree : HuffTree) (fuel : ℕ) (s : LZHDecompress) :
    read_tokens litlen_tree dist_tree fuel s =
      behind s (block_tokens litlen_tree dist_tree fuel s.reader) := by
  induction fuel generalizing s with
  | zero => rfl
  | succ fuel ih =>
    rw [read_tokens, next_token_eq, block_tokens]
    cases read_token litlen_tree dist_tree s.reader with
    | error e => rfl
    | ok read =>
      obtain ⟨found, r⟩ := read
      cases found with
      | none => rfl
      | some token =>
        show read_tokens litlen_tree dist_tree fuel { apply s token with reader := r } = _
        rw [ih]
        exact behind_after s r [token] _

/-- INTERNAL: a block is its head and its tokens. -/
theorem read_blocks_succ (fuel : ℕ) (s : LZHDecompress) :
    read_blocks (fuel + 1) s = (read_block_head s.reader >>= fun head => do
      let s ← read_block head.2.1 head.2.2.1 { s with reader := head.2.2.2 }
      if head.1 ≠ 0 then .ok s else read_blocks fuel s) := by
  unfold read_block_head
  rw [read_blocks]
  cases s.reader.read_bits 1 with
  | error e => rfl
  | ok read =>
    obtain ⟨last, r⟩ := read
    simp only [Eff.except_ok_bind]
    cases r.read_bits 2 with
    | error e => rfl
    | ok read =>
      obtain ⟨btype, r⟩ := read
      simp only [Eff.except_ok_bind]
      split
      · simp only [Eff.except_ok_bind]
      · split
        · cases read_dynamic_trees r with
          | error e => rfl
          | ok trees => rfl
        · rfl

/-- The blocks run theirs. -/
theorem read_blocks_eq_behind (fuel : ℕ) (s : LZHDecompress) :
    read_blocks fuel s = behind s (blocks_tokens fuel s.reader) := by
  induction fuel generalizing s with
  | zero => rfl
  | succ fuel ih =>
    rw [read_blocks_succ, blocks_tokens]
    cases read_block_head s.reader with
    | error e => rfl
    | ok head =>
      obtain ⟨last, litlen_tree, dist_tree, r⟩ := head
      simp only [Eff.except_ok_bind]
      rw [read_block, read_tokens_eq]
      generalize block_tokens litlen_tree dist_tree (r.bits_left + 1) r = block
      obtain ⟨tokens, ending⟩ := block
      cases ending with
      | error e => rfl
      | ok r' =>
        show (Except.ok { tokens.foldl apply { s with reader := r } with reader := r' } >>= _) = _
        rw [foldl_apply_read, Eff.except_ok_bind]
        dsimp only
        split
        · rfl
        · rw [ih]
          exact behind_after s r' tokens _

/-- The decoder runs the tokens of its stream. -/
theorem decompress_eq (data : Bytes) :
    decompress data = (behind (new data) (stream_tokens data)).map (·.written) := by
  unfold decompress stream_tokens
  cases read_head data with
  | error e => rfl
  | ok r =>
    rw [Eff.except_ok_bind, read_blocks_eq_behind]
    dsimp only
    unfold behind
    cases (blocks_tokens (r.bits_left + 1) r).2 with
    | error e => rfl
    | ok r' =>
      have hread := foldl_apply_read (new data) r r' (blocks_tokens (r.bits_left + 1) r).1
      exact congrArg (fun s : LZHDecompress => Except.ok s.written) hread

/-! ## Bounds of what is read -/

/-- A match is not empty and lies in the window. -/
def Bounded : Token → Prop
  | .literal _ => True
  | .copy length distance => 1 ≤ length ∧ 1 ≤ distance ∧ distance ≤ LZH_WINDOW_SIZE

/-- INTERNAL: a length code stands for one byte or more. -/
theorem len_starts_pos : ∀ lc < len_starts.length, 1 ≤ len_starts.getD lc 0 := by
  decide +kernel

/-- INTERNAL: a match that is read is not empty. -/
theorem read_match_length {val length distance : ℕ} {r' : BitReader}
    (h : read_match dist_tree val r = .ok (length, distance, r')) : 1 ≤ length := by
  unfold read_match at h
  dsimp only at h
  split at h
  · cases h
  next hindex =>
    obtain ⟨⟨extra, r₁⟩, -, h⟩ := Eff.except_bind_eq_ok.mp h
    dsimp only at h
    split at h
    · cases h
    obtain ⟨⟨dnd, r₂⟩, -, h⟩ := Eff.except_bind_eq_ok.mp h
    dsimp only at h
    split at h
    · cases h
    obtain ⟨⟨extra', r₃⟩, -, h⟩ := Eff.except_bind_eq_ok.mp h
    dsimp only at h
    split at h
    · cases h
    · obtain ⟨rfl, -, -⟩ := by simpa only [Except.ok.injEq, Prod.mk.injEq] using h
      have hpos := len_starts_pos (val - LZH_LENGTH_FIRST) (Nat.lt_of_not_le hindex)
      omega

theorem read_token_bounded {token : Token} {r' : BitReader}
    (h : read_token litlen_tree dist_tree r = .ok (some token, r')) : Bounded token := by
  unfold read_token at h
  obtain ⟨⟨nd, r₁⟩, -, h⟩ := Eff.except_bind_eq_ok.mp h
  dsimp only at h
  split at h
  · cases h
    exact trivial
  · split at h
    · cases h
    · obtain ⟨⟨length, distance, r₂⟩, hmatch, h⟩ := Eff.except_bind_eq_ok.mp h
      cases h
      obtain ⟨hpos, hle⟩ := read_match_distance hmatch
      exact ⟨read_match_length hmatch, hpos, hle⟩

theorem block_tokens_bounded (fuel : ℕ) (r : BitReader) :
    ∀ token ∈ (block_tokens litlen_tree dist_tree fuel r).1, Bounded token := by
  induction fuel generalizing r with
  | zero => exact fun _ h => absurd h List.not_mem_nil
  | succ fuel ih =>
    unfold block_tokens
    split
    · exact fun _ h => absurd h List.not_mem_nil
    · exact fun _ h => absurd h List.not_mem_nil
    next token r' hread =>
      intro t ht
      rcases List.mem_append.mp ht with hfirst | hrest
      · rw [List.mem_singleton.mp hfirst]
        exact read_token_bounded hread
      · exact ih r' t hrest

theorem blocks_tokens_bounded (fuel : ℕ) (r : BitReader) :
    ∀ token ∈ (blocks_tokens fuel r).1, Bounded token := by
  induction fuel generalizing r with
  | zero => exact fun _ h => absurd h List.not_mem_nil
  | succ fuel ih =>
    unfold blocks_tokens
    split
    · exact fun _ h => absurd h List.not_mem_nil
    next last litlen_tree dist_tree r₁ hhead =>
      dsimp only
      split
      · exact block_tokens_bounded _ _
      · split
        · exact block_tokens_bounded _ _
        · intro t ht
          rcases List.mem_append.mp ht with hblock | hrest
          · exact block_tokens_bounded _ _ t hblock
          · exact ih _ t hrest

theorem stream_tokens_bounded (data : Bytes) : ∀ token ∈ (stream_tokens data).1, Bounded token := by
  unfold stream_tokens
  split
  · exact fun _ h => absurd h List.not_mem_nil
  · exact blocks_tokens_bounded _ _

/-! ## Where the bytes come from -/

section Traces

variable {α : Type} {write : UInt8 → α}

/-- What a token appends, over any kind of bytes. -/
def extended (write : UInt8 → α) (history : List α) : Token → List α
  | .literal b => history ++ [write b]
  | .copy length distance => copyBack distance length history

/-- The window before anything is written: nothing wrote it. -/
def unwritten : List (Option UInt8) := List.replicate LZH_WINDOW_SIZE none

/-- The output of tokens, with nothing in place of a byte that the window started with. -/
def trace (tokens : List Token) : List (Option UInt8) :=
  (tokens.foldl (extended some) unwritten).drop LZH_WINDOW_SIZE

/-- How much a token appends. -/
def size : Token → ℕ
  | .literal _ => 1
  | .copy length _ => length

/-- Some match reaches back further than what the tokens in front of it produce. -/
def ReachesBack : ℕ → List Token → Prop
  | _, [] => False
  | n, .literal _ :: tokens => ReachesBack (n + 1) tokens
  | n, .copy length distance :: tokens => n < distance ∨ ReachesBack (n + length) tokens

/-- INTERNAL: tokens over bytes that are mapped. -/
theorem map_foldl_extended {β : Type} (f : α → β) (tokens : List Token) (history : List α) :
    (tokens.foldl (extended write) history).map f =
      tokens.foldl (extended (f ∘ write)) (history.map f) := by
  induction tokens generalizing history with
  | nil => rfl
  | cons token tokens ih =>
    rw [List.foldl_cons, List.foldl_cons, ih]
    cases token with
    | literal b => rw [extended, extended, List.map_append, List.map_singleton, Function.comp_apply]
    | copy length distance => rw [extended, extended, copyBack_map]

/-- INTERNAL: the decoder behind one token. -/
theorem apply_spec {token : Token} (hs : Windowed s) (h : Bounded token) :
    history (apply s token) = extended id (history s) token ∧ Windowed (apply s token) := by
  cases token with
  | literal b =>
    refine ⟨?_, hs.write_literal b.toNat⟩
    have hwritten : (apply s (.literal b)).written = s.written ++ [b] := by
      rw [apply, write_literal, UInt8.ofNat_toNat]
    rw [history, hwritten, extended, history, List.append_assoc, id]
  | copy length distance =>
    obtain ⟨-, hpos, hle⟩ := h
    rw [apply, extended]
    exact copy_match_spec hpos hle hs length

/-- INTERNAL: the history of the decoder behind tokens. -/
theorem history_foldl_apply {tokens : List Token} (hs : Windowed s)
    (h : ∀ token ∈ tokens, Bounded token) :
    history (tokens.foldl apply s) = tokens.foldl (extended id) (history s) := by
  induction tokens generalizing s with
  | nil => rw [List.foldl_nil, List.foldl_nil]
  | cons token tokens ih =>
    obtain ⟨hhistory, hwindowed⟩ := apply_spec hs (h token List.mem_cons_self)
    have hrest := fun t ht => h t (List.mem_cons_of_mem token ht)
    rw [List.foldl_cons, List.foldl_cons, ih hwindowed hrest, hhistory]

/-- INTERNAL: the zeros of the window are what nothing wrote. -/
theorem history_new (data : Bytes) : history (new data) = unwritten.map fun x => x.getD 0 := by
  rw [unwritten, List.map_replicate, history]
  exact List.append_nil _

/-- What the decoder writes is the trace, with the zeros of the window in it. -/
theorem written_foldl_apply {tokens : List Token} (data : Bytes)
    (h : ∀ token ∈ tokens, Bounded token) :
    (tokens.foldl apply (new data)).written = (trace tokens).map fun x => x.getD 0 := by
  have hzeros : (fun x : Option UInt8 => x.getD 0) ∘ some = id := rfl
  have hhistory := history_foldl_apply (windowed_new data) h
  rw [history_new, ← hzeros, ← map_foldl_extended] at hhistory
  rw [trace, List.map_drop, ← hhistory, history, List.drop_left' List.length_replicate]

/-- INTERNAL: the first of the tokens reaches back, or another one. -/
theorem reachesBack_cons (n : ℕ) (token : Token) (tokens : List Token) :
    ReachesBack n (token :: tokens) ↔
      ReachesBack n [token] ∨ ReachesBack (n + size token) tokens := by
  cases token with
  | literal b => simp only [ReachesBack, size, false_or]
  | copy length distance => simp only [ReachesBack, size, or_false]

/-- INTERNAL: a token appends its bytes, and something unwritten just where it reaches back to
it. -/
theorem extended_spec {token : Token} (h : Bounded token) (t : List (Option UInt8)) :
    ∃ added, extended some (unwritten ++ t) token = unwritten ++ (t ++ added) ∧
      added.length = size token ∧
      (none ∈ t ++ added ↔ none ∈ t ∨ ReachesBack t.length [token]) := by
  have hwindow : unwritten.length = LZH_WINDOW_SIZE := List.length_replicate
  cases token with
  | literal b =>
    refine ⟨[some b], ?_, rfl, ?_⟩
    · rw [extended, List.append_assoc]
    · simp [ReachesBack]
  | copy length distance =>
    obtain ⟨hlength, hpos, hle⟩ := h
    have hback : distance ≤ (unwritten ++ t).length := by
      rw [List.length_append, hwindow]
      exact Nat.le_add_right_of_le hle
    obtain ⟨added, hadded⟩ := prefix_copyBack distance length (unwritten ++ t)
    have hsize := length_copyBack hpos hback length
    rw [hadded, List.length_append, Nat.add_left_cancel_iff] at hsize
    refine ⟨added, ?_, hsize, ?_⟩
    · rw [extended, hadded, List.append_assoc]
    · simp only [ReachesBack, or_false]
      by_cases hown : distance ≤ t.length
      · rw [copyBack_append _ hpos hown, List.append_assoc] at hadded
        rw [← List.append_cancel_left hadded]
        constructor
        · exact fun hnone => Or.inl (mem_copyBack hnone)
        · rintro (hnone | hfar)
          · obtain ⟨rest, hrest⟩ := prefix_copyBack distance length t
            rw [hrest]
            exact List.mem_append_left rest hnone
          · exact absurd hown (Nat.not_le_of_lt hfar)
      · -- The first byte that the match copies is one that the window started with.
        have hindex : (unwritten ++ t).length - distance < unwritten.length := by
          rw [List.length_append, hwindow]
          omega
        have hfirst : (unwritten ++ t)[(unwritten ++ t).length - distance]? = some none := by
          rw [List.getElem?_append_left hindex, unwritten, List.getElem?_replicate_of_lt]
          rwa [hwindow] at hindex
        obtain ⟨rest, hrest⟩ := copyBack_first hlength hfirst
        rw [hadded] at hrest
        have hnone : none ∈ added := by
          rw [List.append_cancel_left hrest]
          exact List.mem_cons_self
        exact iff_of_true (List.mem_append_right t hnone) (Or.inr (Nat.lt_of_not_le hown))

/-- INTERNAL: the same for tokens. -/
theorem foldl_extended_spec {tokens : List Token} (h : ∀ token ∈ tokens, Bounded token)
    (t : List (Option UInt8)) :
    ∃ added, tokens.foldl (extended some) (unwritten ++ t) = unwritten ++ (t ++ added) ∧
      added.length = (tokens.map size).sum ∧
      (none ∈ t ++ added ↔ none ∈ t ∨ ReachesBack t.length tokens) := by
  induction tokens generalizing t with
  | nil => exact ⟨[], by rw [List.foldl_nil, List.append_nil], rfl, by simp [ReachesBack]⟩
  | cons token tokens ih =>
    obtain ⟨first, hfirst, hsize, hmem⟩ := extended_spec (h token List.mem_cons_self) t
    obtain ⟨others, hothers, hsizes, hmems⟩ :=
      ih (fun t' ht => h t' (List.mem_cons_of_mem token ht)) (t ++ first)
    refine ⟨first ++ others, ?_, ?_, ?_⟩
    · rw [List.foldl_cons, hfirst, hothers, List.append_assoc]
    · rw [List.length_append, List.map_cons, List.sum_cons, hsize, hsizes]
    · rw [← List.append_assoc, hmems, hmem, List.length_append, hsize,
        reachesBack_cons t.length token tokens, or_assoc]

/-- The trace has the bytes of its tokens, and something unwritten just where a match reaches back
to it. -/
theorem trace_spec {tokens : List Token} (h : ∀ token ∈ tokens, Bounded token) :
    (trace tokens).length = (tokens.map size).sum ∧
      (none ∈ trace tokens ↔ ReachesBack 0 tokens) := by
  obtain ⟨added, hadded, hlength, hmem⟩ := foldl_extended_spec h []
  rw [List.nil_append] at hmem
  rw [List.append_nil, List.nil_append] at hadded
  have htrace : trace tokens = added := by
    rw [trace, hadded]
    exact List.drop_left' List.length_replicate
  rw [htrace]
  refine ⟨hlength, hmem.trans ?_⟩
  simp only [List.not_mem_nil, false_or, List.length_nil]

end Traces

/-! ## Refusals -/

section Refusals

variable {data out : Bytes} {out_length : ℤ}

/-- A byte string whose header names the algorithm. -/
def IsLzh (data : Bytes) : Prop :=
  ∃ n version config, parse_header data = .ok (n, HDR_ALG_LZH, version, config)

/-- A match that reaches back too far is refused, and what is returned is what the tokens wrote. -/
structure Refuses (data : Bytes) (out_length : ℤ) : Prop where
  far : ReachesBack 0 (stream_tokens data).1 →
    ∃ text, sapcompress_decompress decompress_data data out_length = .error (.decompress text)
  own : ∀ out, sapcompress_decompress decompress_data data out_length = .ok out →
    trace (stream_tokens data).1 = out.map some

/-- The stream ends well and has the length that is declared and asked for, and a match of it
reaches back too far. -/
structure Slips (data : Bytes) (out_length : ℤ) : Prop where
  declared : (ofLE (data.take 4) : ℤ) = out_length
  ends : ∃ r, (stream_tokens data).2 = .ok r
  full : (((stream_tokens data).1.map size).sum : ℤ) = out_length
  far : ReachesBack 0 (stream_tokens data).1

theorem Refuses.raises {tokens : List Token} (h : Refuses data out_length)
    (htokens : (stream_tokens data).1 = tokens) (hfar : ReachesBack 0 tokens) :
    ∃ text, sapcompress_decompress decompress_data data out_length =
      .error (.decompress text) := by
  rw [← htokens] at hfar
  exact h.far hfar

theorem Slips.reaches_back {tokens : List Token} (h : Slips data out_length)
    (htokens : (stream_tokens data).1 = tokens) : ReachesBack 0 tokens := by
  rw [← htokens]
  exact h.far

/-- The decoder writes the trace when the stream ends well. -/
theorem decompress_ok_iff (data out : Bytes) :
    decompress_data data = .ok out ↔
      (∃ r, (stream_tokens data).2 = .ok r) ∧
        out = (trace (stream_tokens data).1).map fun x => x.getD 0 := by
  have hwritten := written_foldl_apply data (stream_tokens_bounded data)
  rw [decompress_data, decompress_eq, behind]
  cases hends : (stream_tokens data).2 with
  | error e =>
    constructor
    · intro h
      cases h
    · rintro ⟨⟨r, h⟩, -⟩
      cases h
  | ok r =>
    show Except.ok ((stream_tokens data).1.foldl apply (new data)).written = .ok out ↔ _
    rw [hwritten, Except.ok.injEq]
    constructor
    · intro h
      exact ⟨⟨r, rfl⟩, h.symm⟩
    · rintro ⟨-, h⟩
      exact h.symm

/-- INTERNAL: every other exception leaves as this one. -/
theorem wrapped_error (what : PyStr) (e : LzError) :
    ∃ text, wrapped what (.error e : Except LzError Bytes) = .error (.decompress text) := by
  cases e with
  | decompress text => exact ⟨text, rfl⟩
  | compress text => exact ⟨what ++ text, rfl⟩
  | other text => exact ⟨what ++ text, rfl⟩

/-- Behind a header that names the algorithm there is an output or a `DecompressError`; an output is
what the decoder writes, and has the length that is declared and asked for. -/
theorem run_cases (h : IsLzh data) (out_length : ℤ) :
    (∃ text, sapcompress_decompress decompress_data data out_length =
        .error (.decompress text) ∧
        ∀ out, decompress_data data = .ok out →
          ¬ ((ofLE (data.take 4) : ℤ) = out_length ∧ (out.length : ℤ) = out_length)) ∨
      ∃ out, sapcompress_decompress decompress_data data out_length = .ok out ∧
        decompress_data data = .ok out ∧
          (ofLE (data.take 4) : ℤ) = out_length ∧ (out.length : ℤ) = out_length := by
  obtain ⟨n, version, config, hparse⟩ := h
  have hn : ofLE (data.take 4) = n := by
    unfold parse_header at hparse
    dsimp only at hparse
    split at hparse
    · cases hparse
    · split at hparse
      · cases hparse
      · exact congrArg Prod.fst (Except.ok.inj hparse)
  rw [run_of_header hparse, hn]
  split
  next hdiffers =>
    exact .inl ⟨_, rfl, fun _ _ hfits => hdiffers hfits.1⟩
  next hsame =>
    have hdeclared := not_not.mp hsame
    cases hrun : decompress_data data with
    | error e =>
      obtain ⟨text, htext⟩ := wrapped_error (lit "decompression error: ") e
      rw [htext]
      exact .inl ⟨text, rfl, nofun⟩
    | ok out =>
      show (∃ text, (if (out.length : ℤ) ≠ out_length then _ else _) = _ ∧ _) ∨
        ∃ out', (if (out.length : ℤ) ≠ out_length then _ else _) = _ ∧ _
      split
      next hlength =>
        refine .inl ⟨_, rfl, ?_⟩
        rintro _ ⟨rfl⟩ ⟨-, hfits⟩
        exact hlength hfits
      next hlength =>
        exact .inr ⟨out, rfl, rfl, hdeclared, not_not.mp hlength⟩

/-- The decoder refuses bytes that were never written just when the stream does not slip. -/
theorem refuses_iff_not_slips (h : IsLzh data) (out_length : ℤ) :
    Refuses data out_length ↔ ¬ Slips data out_length := by
  obtain ⟨hlength, hnone⟩ := trace_spec (stream_tokens_bounded data)
  constructor
  · rintro ⟨hfar, -⟩ hslips
    obtain ⟨text, htext⟩ := hfar hslips.far
    have hdecoded := (decompress_ok_iff data _).mpr ⟨hslips.ends, rfl⟩
    rcases run_cases h out_length with ⟨_, -, hnot⟩ | ⟨out, hout, -⟩
    · refine hnot _ hdecoded ⟨hslips.declared, ?_⟩
      rw [List.length_map, hlength]
      exact hslips.full
    · rw [htext] at hout
      cases hout
  · intro hnot
    rcases run_cases h out_length with ⟨text, htext, -⟩ | ⟨out, hout, hdecoded, hdeclared, hfull⟩
    · refine ⟨fun _ => ⟨text, htext⟩, fun out hout => ?_⟩
      rw [htext] at hout
      cases hout
    · obtain ⟨hends, rfl⟩ := (decompress_ok_iff data out).mp hdecoded
      rw [List.length_map, hlength] at hfull
      have hown : ¬ ReachesBack 0 (stream_tokens data).1 :=
        fun hfar => hnot ⟨hdeclared, hends, hfull, hfar⟩
      refine ⟨fun hfar => absurd hfar hown, fun out' hout' => ?_⟩
      rw [hout, Except.ok.injEq] at hout'
      rw [← hout', List.map_map]
      have hsome : ∀ x ∈ trace (stream_tokens data).1,
          (some ∘ fun x : Option UInt8 => x.getD 0) x = id x := by
        intro x hx
        cases x with
        | none => exact absurd (hnone.mp hx) hown
        | some b => rfl
      rw [List.map_congr_left hsome, List.map_id]

end Refusals

section Runs

/-- A letter, and a match that repeats it three times. -/
def repeated_letter : Bytes :=
  [4, 0, 0, 0, 18, 31, 157, 0, 52, 0, 7, 2, 0, 0, 0, 0, 130, 88, 247, 151, 184, 98]

/-- A match of the length three that comes first. -/
def leading_match : Bytes :=
  [3, 0, 0, 0, 18, 31, 157, 0, 52, 0, 7, 2, 0, 0, 0, 0, 64, 254, 175, 17]

/-- INTERNAL: the two streams name the algorithm. -/
theorem isLzh_runs : IsLzh repeated_letter ∧ IsLzh leading_match := by
  have hletter : parse_header repeated_letter = .ok (4, HDR_ALG_LZH, 1, 0) := by decide +kernel
  have hleading : parse_header leading_match = .ok (3, HDR_ALG_LZH, 1, 0) := by decide +kernel
  exact ⟨⟨4, 1, 0, hletter⟩, ⟨3, 1, 0, hleading⟩⟩

/-- INTERNAL: their tokens. -/
theorem tokens_runs :
    (stream_tokens repeated_letter).1 = [.literal 97, .copy 3 1] ∧
      (stream_tokens leading_match).1 = [.copy 3 1] := by
  decide +kernel

/-- A match that copies what is written is no slip. -/
theorem repeated_letter_refuses : Refuses repeated_letter 4 := by
  refine (refuses_iff_not_slips isLzh_runs.1 4).mpr fun hslips => ?_
  simpa [ReachesBack] using hslips.reaches_back tokens_runs.1

/-- A match in front of all output gives the zeros of the window. -/
theorem leading_match_copied :
    (stream_tokens leading_match).1 = [.copy 3 1] ∧
      sapcompress_decompress decompress_data leading_match 3 = .ok [0, 0, 0] ∧
        ¬ Refuses leading_match 3 := by
  have hrun : sapcompress_decompress decompress_data leading_match 3 = .ok [0, 0, 0] := by
    decide +kernel
  refine ⟨tokens_runs.2, hrun, fun hrefuses => ?_⟩
  obtain ⟨text, htext⟩ := hrefuses.raises tokens_runs.2 (Or.inl Nat.zero_lt_one)
  rw [hrun] at htext
  cases htext

end Runs

end SapRfc.Analysis.LzhStreams
