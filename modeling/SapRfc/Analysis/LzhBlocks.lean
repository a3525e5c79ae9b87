import SapRfc.Analysis.LzhHeaders
import SapRfc.Analysis.LzhLoops
import SapRfc.Analysis.LzhWindow

/-!
# Blocks of the LZH decoder

A block is a header, the tokens under the two codes of the header, and the code of the block's
end.  The decoder takes the bits of the longest code for its look-up, whatever code stands there.
So towards the end of the input it fails at a code that is there, when the codes behind it and
the padding are too short; only the code of the block's end, and those of its length, are safe.
-/

set_option autoImplicit false

namespace SapRfc.Analysis.LzhBlocks

open SapRfc.Library SapRfc.Library.PrefixCodes SapRfc.Library.RingBuffers SapRfc.Program
open SapRfc.Program.LZHDecompress
open SapRfc.Analysis.LzhTrees SapRfc.Analysis.LzhHeaders SapRfc.Analysis.LzhLoops
open SapRfc.Analysis.LzhWindow

/-! ## Tokens -/

/-- A byte, or a match of a length and a distance. -/
inductive Token where
  | literal (b : UInt8)
  | copy (length distance : ℕ)
  deriving DecidableEq, Repr

/-- The output with what tokens append to it. -/
def produce : Bytes → List Token → Bytes
  | out, [] => out
  | out, .literal b :: tokens => produce (out ++ [b]) tokens
  | out, .copy length distance :: tokens => produce (copyBack distance length out) tokens

/-- Matches that the format has, behind an output of a length. -/
def Legal : ℕ → List Token → Prop
  | _, [] => True
  | n, .literal _ :: tokens => Legal (n + 1) tokens
  | n, .copy length distance :: tokens =>
    (LZH_MIN_MATCH ≤ length ∧ length ≤ LZH_MAX_MATCH) ∧
      (1 ≤ distance ∧ distance ≤ n ∧ distance ≤ LZH_WINDOW_SIZE) ∧ Legal (n + length) tokens

/-- The last of the starts that a number reaches. -/
def codeOf (starts : List ℕ) (x : ℕ) : ℕ := (starts.findIdx fun start => decide (x < start)) - 1

/-- The symbol of a length. -/
def lengthSymbol (length : ℕ) : ℕ := LZH_LENGTH_FIRST + codeOf len_starts length

/-- The number that the extra bits of a code have. -/
def extraOf (starts : List ℕ) (x : ℕ) : ℕ := x - starts.getD (codeOf starts x) 0

/-- The bits of a distance. -/
def encodeDistance (dist : List ℕ) (distance : ℕ) : List Bool :=
  codeBits dist (codeOf dist_starts distance) ++
    toBits (LZH_DIST_EXTRA.getD (codeOf dist_starts distance) 0) (extraOf dist_starts distance)

/-- The bits of a token under two codes. -/
def Token.encode (litlen dist : List ℕ) : Token → List Bool
  | .literal b => codeBits litlen b.toNat
  | .copy length distance =>
    codeBits litlen (lengthSymbol length) ++
      (toBits (LZH_LEN_EXTRA.getD (codeOf len_starts length) 0) (extraOf len_starts length) ++
        encodeDistance dist distance)

/-- The symbols of a token have codes. -/
def Token.Coded (litlen dist : List ℕ) : Token → Prop
  | .literal b => 0 < lengthAt litlen b.toNat
  | .copy length distance =>
    0 < lengthAt litlen (lengthSymbol length) ∧ 0 < lengthAt dist (codeOf dist_starts distance)

/-- With so many bits left behind the bits of the token, the look-ups of its codes have theirs. -/
def Token.Fed (litlen dist : List ℕ) (behind : ℕ) : Token → Prop
  | .literal b =>
    peeked litlen (lengthAt litlen LZH_END_BLOCK) b.toNat ≤
      ((Token.literal b).encode litlen dist).length + behind
  | .copy length distance =>
    peeked litlen (lengthAt litlen LZH_END_BLOCK) (lengthSymbol length) ≤
        ((Token.copy length distance).encode litlen dist).length + behind ∧
      maxLength dist ≤ (encodeDistance dist distance).length + behind

/-- The look-ups of all tokens have their bits. -/
def Fed (litlen dist : List ℕ) (behind : ℕ) : List Token → Prop
  | [] => True
  | token :: tokens =>
    token.Fed litlen dist ((tokens.flatMap (Token.encode litlen dist)).length + behind) ∧
      Fed litlen dist behind tokens

/-! ## Starts -/

/-- INTERNAL: a start that is reached, and the next one that is not. -/
theorem codeOf_spec {starts : List ℕ} {x : ℕ} (hfirst : starts.getD 0 0 ≤ x)
    (hnonempty : 0 < starts.length) :
    codeOf starts x < starts.length ∧ starts.getD (codeOf starts x) 0 ≤ x ∧
      (codeOf starts x + 1 < starts.length → x < starts.getD (codeOf starts x + 1) 0) := by
  unfold codeOf
  have hle : starts.findIdx (fun start => decide (x < start)) ≤ starts.length :=
    List.findIdx_le_length
  have hpos : 0 < starts.findIdx fun start => decide (x < start) := by
    refine Nat.pos_of_ne_zero fun hzero => ?_
    have hlt : starts.findIdx (fun start => decide (x < start)) < starts.length := by omega
    have hhit := List.findIdx_getElem (w := hlt)
    simp only [hzero] at hhit
    rw [← List.getD_eq_getElem starts 0 hnonempty] at hhit
    exact Nat.not_lt_of_le hfirst (of_decide_eq_true hhit)
  generalize hindex : starts.findIdx (fun start => decide (x < start)) = index at hle hpos
  refine ⟨by omega, ?_, ?_⟩
  · have hbefore : index - 1 < starts.findIdx fun start => decide (x < start) := by omega
    have hnot := List.not_of_lt_findIdx hbefore
    rw [List.getD_eq_getElem starts 0 (by omega)]
    simpa using hnot
  · intro hnext
    have heq : index - 1 + 1 = index := by omega
    rw [heq] at hnext ⊢
    have hlt : starts.findIdx (fun start => decide (x < start)) < starts.length := by omega
    have hhit := List.findIdx_getElem (w := hlt)
    simp only [hindex] at hhit
    rw [List.getD_eq_getElem starts 0 hnext]
    exact of_decide_eq_true hhit

/-- INTERNAL: a number is its start and what its extra bits hold. -/
theorem code_spec {starts extra : List ℕ} {x : ℕ} (hfirst : starts.getD 0 0 ≤ x)
    (hnonempty : 0 < starts.length)
    (hsteps : ∀ k < starts.length, k + 1 < starts.length →
      starts.getD (k + 1) 0 ≤ starts.getD k 0 + 2 ^ extra.getD k 0)
    (hlast : x < starts.getD (starts.length - 1) 0 + 2 ^ extra.getD (starts.length - 1) 0) :
    codeOf starts x < starts.length ∧ starts.getD (codeOf starts x) 0 + extraOf starts x = x ∧
      extraOf starts x < 2 ^ extra.getD (codeOf starts x) 0 := by
  obtain ⟨hlt, hle, hnext⟩ := codeOf_spec hfirst hnonempty
  refine ⟨hlt, Nat.add_sub_cancel' hle, ?_⟩
  unfold extraOf
  by_cases hmore : codeOf starts x + 1 < starts.length
  · have hstep := hsteps _ hlt hmore
    have hbelow := hnext hmore
    omega
  · have heq : starts.length - 1 = codeOf starts x := by omega
    rw [heq] at hlast
    omega

theorem length_code_spec {length : ℕ} (hlow : LZH_MIN_MATCH ≤ length)
    (hhigh : length ≤ LZH_MAX_MATCH) :
    codeOf len_starts length < len_starts.length ∧
      len_starts.getD (codeOf len_starts length) 0 + extraOf len_starts length = length ∧
      extraOf len_starts length < 2 ^ LZH_LEN_EXTRA.getD (codeOf len_starts length) 0 := by
  have hfirst : len_starts.getD 0 0 ≤ length := Nat.le_trans (by decide) hlow
  refine code_spec hfirst (by decide) (by decide +kernel) (Nat.lt_of_le_of_lt hhigh ?_)
  decide +kernel

theorem dist_code_spec {distance : ℕ} (hlow : 1 ≤ distance) (hhigh : distance ≤ LZH_WINDOW_SIZE) :
    codeOf dist_starts distance < dist_starts.length ∧
      dist_starts.getD (codeOf dist_starts distance) 0 + extraOf dist_starts distance = distance ∧
      extraOf dist_starts distance < 2 ^ LZH_DIST_EXTRA.getD (codeOf dist_starts distance) 0 := by
  have hfirst : dist_starts.getD 0 0 ≤ distance := Nat.le_trans (by decide) hlow
  refine code_spec hfirst (by decide) (by decide +kernel) (Nat.lt_of_le_of_lt hhigh ?_)
  decide +kernel

/-! ## Reading tokens -/

section Tokens

variable {litlen dist : List ℕ} {tail : List Bool} {r : BitReader} {s : LZHDecompress}

/-- The code of the block's end gives the first stage. -/
theorem eob_len_eq (hends : 0 < lengthAt litlen LZH_END_BLOCK) :
    eob_len (HuffTree.from_distribution litlen) = lengthAt litlen LZH_END_BLOCK := by
  unfold eob_len
  rw [from_distribution_nodes]
  cases hnodes : ((List.range' 0 litlen.length).map (nodeAt litlen)).filter fun n =>
      decide (n.value = LZH_END_BLOCK ∧ 0 < n.code_length) with
  | nil =>
    have hmem : nodeAt litlen LZH_END_BLOCK ∈
        (List.range' 0 litlen.length).map (nodeAt litlen) := by
      refine List.mem_map_of_mem ?_
      rw [List.mem_range'_1]
      have hlt := lt_length_of_pos hends
      omega
    refine absurd (List.filter_eq_nil_iff.mp hnodes _ hmem) ?_
    rw [not_not, decide_eq_true_eq]
    exact ⟨rfl, hends⟩
  | cons nd nodes =>
    have hmem : nd ∈ ((List.range' 0 litlen.length).map (nodeAt litlen)).filter fun n =>
        decide (n.value = LZH_END_BLOCK ∧ 0 < n.code_length) := hnodes ▸ List.mem_cons_self
    obtain ⟨hnode, hvalue⟩ := List.mem_filter.mp hmem
    obtain ⟨i, -, rfl⟩ := List.mem_map.mp hnode
    obtain ⟨hi, -⟩ := of_decide_eq_true hvalue
    obtain rfl : i = LZH_END_BLOCK := hi
    rfl

/-- The extra bits of a length and a distance are read, where the look-up has its bits. -/
theorem read_match_spec (hdist : Fits dist 15) {length distance : ℕ}
    (hlength : LZH_MIN_MATCH ≤ length ∧ length ≤ LZH_MAX_MATCH)
    (hdistance : 1 ≤ distance ∧ distance ≤ LZH_WINDOW_SIZE)
    (hcoded : 0 < lengthAt dist (codeOf dist_starts distance))
    (hr : Reads r (toBits (LZH_LEN_EXTRA.getD (codeOf len_starts length) 0)
      (extraOf len_starts length) ++ (encodeDistance dist distance ++ tail))) :
    (maxLength dist ≤ (encodeDistance dist distance ++ tail).length →
        ∃ r', read_match (HuffTree.from_distribution dist) (lengthSymbol length) r =
          .ok (length, distance, r') ∧ Reads r' tail) ∧
      ((encodeDistance dist distance ++ tail).length < maxLength dist →
        read_match (HuffTree.from_distribution dist) (lengthSymbol length) r =
          .error endOfInput) := by
  obtain ⟨hlc, hlsum, hlextra⟩ := length_code_spec hlength.1 hlength.2
  obtain ⟨hdc, hdsum, hdextra⟩ := dist_code_spec hdistance.1 hdistance.2
  have hsymbol : lengthSymbol length - LZH_LENGTH_FIRST = codeOf len_starts length :=
    Nat.add_sub_cancel_left _ _
  obtain ⟨r₁, hread₁, hr₁⟩ := read_field hr hlextra
  unfold read_match
  rw [hsymbol, if_neg (Nat.not_le_of_lt hlc), hread₁, Eff.except_ok_bind]
  dsimp only
  rw [hlsum, if_neg (Nat.not_lt_of_le hlength.2)]
  constructor
  · intro hroom
    unfold encodeDistance at hr₁ hroom
    rw [List.append_assoc] at hr₁ hroom
    obtain ⟨r₂, hread₂, hr₂⟩ := read_code_symbol hdist hcoded hr₁ hroom
    obtain ⟨r₃, hread₃, hr₃⟩ := read_field hr₂ hdextra
    have hvalue : (nodeAt dist (codeOf dist_starts distance)).value =
        codeOf dist_starts distance := rfl
    refine ⟨r₃, ?_, hr₃⟩
    rw [hread₂, Eff.except_ok_bind]
    dsimp only
    rw [hvalue, if_neg (Nat.not_le_of_lt hdc), hread₃, Eff.except_ok_bind]
    dsimp only
    rw [hdsum, if_neg (Nat.not_lt_of_le hdistance.2)]
  · intro hshort
    rw [read_code_short hr₁ hshort]
    rfl

theorem fed_literal (b : UInt8) (tail : List Bool) :
    (Token.literal b).Fed litlen dist tail.length ↔
      peeked litlen (lengthAt litlen LZH_END_BLOCK) b.toNat ≤
        (codeBits litlen b.toNat ++ tail).length := by
  rw [List.length_append]
  rfl

theorem fed_copy (length distance : ℕ) (tail : List Bool) :
    (Token.copy length distance).Fed litlen dist tail.length ↔
      peeked litlen (lengthAt litlen LZH_END_BLOCK) (lengthSymbol length) ≤
          ((Token.copy length distance).encode litlen dist ++ tail).length ∧
        maxLength dist ≤ (encodeDistance dist distance ++ tail).length := by
  rw [List.length_append, List.length_append]
  rfl

section Fits

variable (hlitlen : Fits litlen 15) (hdist : Fits dist 15)
  (hends : 0 < lengthAt litlen LZH_END_BLOCK)

/-- INTERNAL: a literal or a length is no code of the block's end. -/
theorem lengthSymbol_large (length : ℕ) :
    ¬ lengthSymbol length ≤ LZH_LIT_LAST ∧ lengthSymbol length ≠ LZH_END_BLOCK := by
  unfold lengthSymbol LZH_LENGTH_FIRST LZH_LIT_LAST LZH_END_BLOCK
  omega

include hlitlen hdist hends in
/-- A token is read, and appends its bytes, where its look-ups have their bits. -/
theorem next_token_spec {token : Token} (hs : Windowed s)
    (hlegal : Legal s.written.length [token]) (hcoded : token.Coded litlen dist)
    (hr : Reads s.reader (token.encode litlen dist ++ tail)) :
    (token.Fed litlen dist tail.length →
        ∃ s', next_token (HuffTree.from_distribution litlen) (HuffTree.from_distribution dist) s =
            .ok (true, s') ∧ s'.written = produce s.written [token] ∧ Windowed s' ∧
          Reads s'.reader tail) ∧
      (¬ token.Fed litlen dist tail.length →
        next_token (HuffTree.from_distribution litlen) (HuffTree.from_distribution dist) s =
          .error endOfInput) := by
  have hmax := lengthAt_le_max hends
  unfold next_token
  rw [eob_len_eq hends]
  cases token with
  | literal b =>
    rw [fed_literal]
    constructor
    · intro hfed
      obtain ⟨r₁, hread, hr₁⟩ := two_staged_symbol hlitlen hmax hcoded hr hfed
      have hvalue : (nodeAt litlen b.toNat).value = b.toNat := rfl
      have hlit : b.toNat ≤ LZH_LIT_LAST := Nat.le_of_lt_succ b.toNat_lt
      refine ⟨write_literal b.toNat { s with reader := r₁ }, ?_, ?_, ?_, hr₁⟩
      · rw [hread, Eff.except_ok_bind]
        dsimp only
        rw [hvalue, if_pos hlit]
      · show s.written ++ [UInt8.ofNat b.toNat] = s.written ++ [b]
        rw [UInt8.ofNat_toNat]
      · exact (hs.read r₁).write_literal b.toNat
    · intro hunfed
      rw [two_staged_short hlitlen hmax hcoded hr (Nat.lt_of_not_le hunfed)]
      rfl
  | copy length distance =>
    obtain ⟨hlength, ⟨hpos, hwritten, hwindow⟩, -⟩ := hlegal
    obtain ⟨hlarge, hnot⟩ := lengthSymbol_large length
    have hvalue : (nodeAt litlen (lengthSymbol length)).value = lengthSymbol length := rfl
    rw [fed_copy]
    unfold Token.encode at hr ⊢
    dsimp only at hr ⊢
    rw [List.append_assoc, List.append_assoc] at hr ⊢
    rcases Nat.lt_or_ge (codeBits litlen (lengthSymbol length) ++
      (toBits (LZH_LEN_EXTRA.getD (codeOf len_starts length) 0) (extraOf len_starts length) ++
        (encodeDistance dist distance ++ tail))).length
      (peeked litlen (lengthAt litlen LZH_END_BLOCK) (lengthSymbol length)) with hshort | hroom
    · refine ⟨fun hfed => absurd hfed.1 (Nat.not_le_of_lt hshort), fun _ => ?_⟩
      rw [two_staged_short hlitlen hmax hcoded.1 hr hshort]
      rfl
    · obtain ⟨r₁, hread, hr₁⟩ := two_staged_symbol hlitlen hmax hcoded.1 hr hroom
      obtain ⟨hmatch, hfails⟩ := read_match_spec hdist hlength ⟨hpos, hwindow⟩ hcoded.2 hr₁
      rw [hread, Eff.except_ok_bind]
      dsimp only
      rw [hvalue, if_neg hlarge, if_neg hnot]
      constructor
      · rintro ⟨-, hdistance⟩
        obtain ⟨r₂, hok, hr₂⟩ := hmatch hdistance
        obtain ⟨hhistory, hwindowed⟩ := copy_match_spec hpos hwindow (hs.read r₂) length
        refine ⟨_, by rw [hok]; rfl, ?_, hwindowed, ?_⟩
        · unfold history at hhistory
          rw [copyBack_append _ hpos hwritten] at hhistory
          exact List.append_cancel_left hhistory
        · rw [copy_match_reader]
          exact hr₂
      · intro hunfed
        rw [hfails (Nat.lt_of_not_le fun hdistance => hunfed ⟨hroom, hdistance⟩)]
        rfl

variable (dist) in
include hlitlen hends in
/-- The end of the block is read, whatever stands behind it. -/
theorem next_token_end (hr : Reads s.reader (codeBits litlen LZH_END_BLOCK ++ tail)) :
    ∃ r', next_token (HuffTree.from_distribution litlen) (HuffTree.from_distribution dist) s =
      .ok (false, { s with reader := r' }) := by
  have hroom : peeked litlen (lengthAt litlen LZH_END_BLOCK) LZH_END_BLOCK ≤
      (codeBits litlen LZH_END_BLOCK ++ tail).length := by
    rw [peeked, if_pos rfl, List.length_append, length_codeBits]
    exact Nat.le_add_right _ _
  obtain ⟨r', hread, -⟩ := two_staged_symbol hlitlen (lengthAt_le_max hends) hends hr hroom
  have hvalue : (nodeAt litlen LZH_END_BLOCK).value = LZH_END_BLOCK := rfl
  refine ⟨r', ?_⟩
  unfold next_token
  rw [eob_len_eq hends, hread, Eff.except_ok_bind]
  dsimp only
  rw [hvalue, if_neg (by decide), if_pos rfl]

/-- INTERNAL: the first of legal tokens, and the others behind what it appends. -/
theorem legal_cons {out : Bytes} {token : Token} {tokens : List Token}
    (h : Legal out.length (token :: tokens)) :
    Legal out.length [token] ∧ Legal (produce out [token]).length tokens := by
  cases token with
  | literal b =>
    refine ⟨trivial, ?_⟩
    show Legal (out ++ [b]).length tokens
    rw [List.length_append]
    exact h
  | copy length distance =>
    obtain ⟨hlength, hdistance, hrest⟩ := h
    refine ⟨⟨hlength, hdistance, trivial⟩, ?_⟩
    show Legal (copyBack distance length out).length tokens
    rw [length_copyBack hdistance.1 hdistance.2.1]
    exact hrest

theorem produce_cons (out : Bytes) (token : Token) (tokens : List Token) :
    produce out (token :: tokens) = produce (produce out [token]) tokens := by
  cases token <;> rfl

include hlitlen hdist hends in
/-- The tokens of a block are read, and append their bytes, just when the look-ups of all of them
have their bits. -/
theorem read_block_spec (tokens : List Token) : ∀ s : LZHDecompress, Windowed s →
    Legal s.written.length tokens → (∀ token ∈ tokens, token.Coded litlen dist) →
    Reads s.reader (tokens.flatMap (Token.encode litlen dist) ++
      (codeBits litlen LZH_END_BLOCK ++ tail)) →
    (Fed litlen dist (codeBits litlen LZH_END_BLOCK ++ tail).length tokens →
        ∃ s', read_block (HuffTree.from_distribution litlen) (HuffTree.from_distribution dist)
          s = .ok s' ∧ s'.written = produce s.written tokens) ∧
      (¬ Fed litlen dist (codeBits litlen LZH_END_BLOCK ++ tail).length tokens →
        read_block (HuffTree.from_distribution litlen) (HuffTree.from_distribution dist) s =
          .error endOfInput) := by
  induction tokens with
  | nil =>
    intro s _ _ _ hr
    obtain ⟨r', hend⟩ := next_token_end dist hlitlen hends hr
    refine ⟨fun _ => ⟨{ s with reader := r' }, ?_, rfl⟩, fun h => absurd trivial h⟩
    rw [read_block_eq, hend]
    rfl
  | cons token tokens ih =>
    intro s hs hlegal hcoded hr
    obtain ⟨hfirst, hothers⟩ := legal_cons hlegal
    rw [List.flatMap_cons, List.append_assoc] at hr
    obtain ⟨hok, hfails⟩ := next_token_spec hlitlen hdist hends hs hfirst
      (hcoded token List.mem_cons_self) hr
    rw [List.length_append] at hok hfails
    by_cases hfed : token.Fed litlen dist ((tokens.flatMap (Token.encode litlen dist)).length +
        (codeBits litlen LZH_END_BLOCK ++ tail).length)
    · obtain ⟨s₁, htoken, hwritten, hs₁, hr₁⟩ := hok hfed
      rw [← hwritten] at hothers
      obtain ⟨hrest, hrestfails⟩ := ih s₁ hs₁ hothers
        (fun token' h => hcoded token' (List.mem_cons_of_mem _ h)) hr₁
      rw [read_block_eq, htoken, Eff.except_ok_bind, if_pos rfl, produce_cons, ← hwritten]
      exact ⟨fun h => hrest h.2, fun h => hrestfails fun hrestfed => h ⟨hfed, hrestfed⟩⟩
    · refine ⟨fun h => absurd h.1 hfed, fun _ => ?_⟩
      rw [read_block_eq, hfails hfed]
      rfl

end Fits

end Tokens

/-! ## Streams -/

/-- What is run behind a header that names the algorithm. -/
theorem run_of_header {data : Bytes} {n version config : ℕ}
    (hparse : parse_header data = .ok (n, HDR_ALG_LZH, version, config)) (out_length : ℤ) :
    sapcompress_decompress decompress_data data out_length =
      if (n : ℤ) ≠ out_length then
        .error (.decompress (lit "SAPCOMPRESS header length " ++ dec n ++ lit " != expected " ++
          lit (toString out_length)))
      else wrapped (lit "decompression error: ") (decompress_data data) >>= fun result =>
        if (result.length : ℤ) ≠ out_length then
          .error (.decompress (lit "decompressed " ++ dec result.length ++
            lit " bytes, expected " ++
            lit (toString out_length)))
        else .ok result := by
  have hlen : ¬ data.length < HDR_SIZE := by
    intro hshort
    rw [parse_header, if_pos hshort] at hparse
    cases hparse
  unfold sapcompress_decompress
  rw [if_neg hlen, hparse]
  dsimp only [Bind.bind, Except.bind, Pure.pure, Except.pure, wrapped]
  split
  · rfl
  · rw [if_neg (by decide), if_pos rfl]

/-- A compressed byte string with one final block: the version and the configuration of its
header, the noise, the two codes with their header, and the tokens. -/
structure FinalBlock where
  version : Fin 16
  config : UInt8
  noise : List Bool
  trees : TreeHeader
  tokens : List Token
  noise_length : noise.length ≤ 3
  litlen_fit : Fits trees.litlen 15
  dist_fit : Fits trees.dist 15
  ends : 0 < lengthAt trees.litlen LZH_END_BLOCK
  legal : Legal 0 tokens
  coded : ∀ token ∈ tokens, token.Coded trees.litlen trees.dist
  small : (produce [] tokens).length < 2 ^ 32

namespace FinalBlock

/-- What the tokens stand for. -/
def expansion (b : FinalBlock) : Bytes := produce [] b.tokens

/-- The bits behind the header of the trees. -/
def tokenBits (b : FinalBlock) : List Bool :=
  b.tokens.flatMap (Token.encode b.trees.litlen b.trees.dist) ++
    codeBits b.trees.litlen LZH_END_BLOCK

/-- The noise, a last block with dynamic trees, their header and the tokens. -/
def bits (b : FinalBlock) : List Bool :=
  toBits 2 b.noise.length ++ (b.noise ++ (toBits 1 1 ++ (toBits 2 LZH_TREETYPE_DYNAMIC ++
    (b.trees.encode ++ b.tokenBits))))

/-- The header of eight bytes. -/
def head (b : FinalBlock) : Bytes :=
  toLE 4 b.expansion.length ++ [UInt8.ofNat ((b.version : ℕ) <<< 4 ||| HDR_ALG_LZH)] ++
    HDR_MAGIC ++ [b.config]

/-- The header and the bits, with zeros up to the next byte. -/
def data (b : FinalBlock) : Bytes := b.head ++ packBits b.bits

/-- The bits behind the trees, to the end of the input. -/
def behindTrees (b : FinalBlock) : List Bool := b.tokenBits ++ padBits b.bits

/-- At each literal and match that does not have the length of the end's code, the bits that are
left are enough for the longest code, and likewise at each distance. -/
def TokensFed (b : FinalBlock) : Prop :=
  Fed b.trees.litlen b.trees.dist
    (codeBits b.trees.litlen LZH_END_BLOCK ++ padBits b.bits).length b.tokens

theorem parse_head (b : FinalBlock) (body : Bytes) :
    parse_header (b.head ++ body) =
      .ok (b.expansion.length, HDR_ALG_LZH, b.version, b.config.toNat) := by
  have hlen : ¬ (b.head ++ body).length < HDR_SIZE := by
    rw [List.length_append]
    exact Nat.not_lt_of_le (Nat.le_add_right 8 _)
  have htake : (b.head ++ body).take 4 = toLE 4 b.expansion.length := rfl
  have halgo : (b.head ++ body).getD 4 0 =
      UInt8.ofNat ((b.version : ℕ) <<< 4 ||| HDR_ALG_LZH) := rfl
  have hmagic : slice (b.head ++ body) 5 7 = HDR_MAGIC := rfl
  have hbyte : (b.head ++ body).getD 7 0 = b.config := rfl
  have hsmall : b.expansion.length < 256 ^ 4 := b.small
  have hnibbles : ∀ v : Fin 16,
      (UInt8.ofNat ((v : ℕ) <<< 4 ||| HDR_ALG_LZH)).toNat &&& 0x0F = HDR_ALG_LZH ∧
        ((UInt8.ofNat ((v : ℕ) <<< 4 ||| HDR_ALG_LZH)).toNat >>> 4) &&& 0x0F = v := by
    decide
  obtain ⟨hid, hversion⟩ := hnibbles b.version
  unfold parse_header
  rw [if_neg hlen]
  dsimp only
  rw [htake, halgo, hmagic, hbyte, if_neg (not_not.mpr rfl), ofLE_toLE hsmall, hid, hversion]

/-- INTERNAL: the head is read, and the noise is skipped. -/
theorem read_head_data (b : FinalBlock) :
    ∃ r, read_head b.data = .ok r ∧
      Reads r (toBits 1 1 ++ (toBits 2 LZH_TREETYPE_DYNAMIC ++
        (b.trees.encode ++ b.behindTrees))) := by
  have hlen : ¬ b.data.length < HDR_SIZE := by
    unfold data
    rw [List.length_append]
    exact Nat.not_lt_of_le (Nat.le_add_right 8 _)
  have hhead : b.data.take HDR_SIZE = b.head ++ [] := List.take_left' rfl
  have hbody : b.data.drop HDR_SIZE = packBits b.bits := List.drop_left' rfl
  have hr := reads_new (packBits b.bits)
  have hsplit : b.bits ++ padBits b.bits = toBits 2 b.noise.length ++ (b.noise ++ (toBits 1 1 ++
      (toBits 2 LZH_TREETYPE_DYNAMIC ++ (b.trees.encode ++ b.behindTrees)))) := by
    unfold behindTrees
    generalize padBits b.bits = pad
    unfold bits
    simp only [List.append_assoc]
  rw [bitsOf_packBits, hsplit] at hr
  have hshort := b.noise_length
  obtain ⟨r₁, hcount, hr₁⟩ := read_field hr (by omega)
  have hskip : ∃ x r₂, (if b.noise.length ≠ 0 then r₁.read_bits b.noise.length else .ok (0, r₁)) =
      .ok (x, r₂) ∧ Reads r₂ (toBits 1 1 ++ (toBits 2 LZH_TREETYPE_DYNAMIC ++
        (b.trees.encode ++ b.behindTrees))) := by
    by_cases hnone : b.noise.length = 0
    · rw [if_neg (not_not.mpr hnone)]
      rw [List.length_eq_zero_iff.mp hnone, List.nil_append] at hr₁
      exact ⟨0, r₁, rfl, hr₁⟩
    · rw [if_pos hnone]
      obtain ⟨r₂, hread, hr₂⟩ := read_bits_reads hr₁ (n := b.noise.length)
        (by rw [List.length_append]; exact Nat.le_add_right _ _)
      rw [List.drop_left' rfl] at hr₂
      exact ⟨_, r₂, hread, hr₂⟩
  obtain ⟨x, r₂, hread, hr₂⟩ := hskip
  refine ⟨r₂, ?_, hr₂⟩
  unfold read_head
  rw [if_neg hlen, hhead, parse_head, Eff.except_ok_bind]
  dsimp only
  rw [if_neg (not_not.mpr rfl), hbody, hcount, Eff.except_ok_bind]
  dsimp only
  rw [hread]
  rfl

/-- What the decoder makes of a block whose trees it reads. -/
theorem decompress_data_spec (b : FinalBlock) (htrees : b.trees.Readable b.behindTrees) :
    (b.TokensFed → decompress_data b.data = .ok b.expansion) ∧
      (¬ b.TokensFed → decompress_data b.data = .error endOfInput) := by
  obtain ⟨r, hhead, hr⟩ := b.read_head_data
  obtain ⟨r₁, hlast, hr₁⟩ := read_field hr (by decide)
  obtain ⟨r₂, htype, hr₂⟩ := read_field hr₁ (by decide)
  obtain ⟨r₃, hread, hr₃⟩ := (b.trees.trees_read_iff hr₂).mpr htrees
  unfold behindTrees tokenBits at hr₃
  rw [List.append_assoc] at hr₃
  have hstart : Windowed { new b.data with reader := r₃ } := (windowed_new b.data).read r₃
  obtain ⟨hok, hfails⟩ := read_block_spec b.litlen_fit b.dist_fit b.ends b.tokens
    { new b.data with reader := r₃ } hstart b.legal b.coded hr₃
  have hblocks : decompress_data b.data =
      (read_block (HuffTree.from_distribution b.trees.litlen)
        (HuffTree.from_distribution b.trees.dist) { new b.data with reader := r₃ }).map
          (·.written) := by
    unfold decompress_data decompress read_blocks
    rw [hhead, Eff.except_ok_bind]
    dsimp only
    rw [hlast, Eff.except_ok_bind]
    dsimp only
    rw [htype, Eff.except_ok_bind]
    dsimp only
    rw [if_neg (by decide), if_pos rfl, hread, Eff.except_ok_bind]
    dsimp only
    cases read_block (HuffTree.from_distribution b.trees.litlen)
      (HuffTree.from_distribution b.trees.dist) { new b.data with reader := r₃ } with
    | error exc => rfl
    | ok s => rfl
  rw [hblocks]
  constructor
  · intro hfed
    obtain ⟨s', hrun, hwritten⟩ := hok hfed
    rw [hrun]
    exact congrArg Except.ok hwritten
  · intro hunfed
    rw [hfails hunfed]
    rfl

/-- A block whose trees the decoder reads is decompressed to its expansion just when the look-ups
of all tokens have their bits. -/
theorem decompresses_iff (b : FinalBlock) (htrees : b.trees.Readable b.behindTrees) :
    sapcompress_decompress decompress_data b.data b.expansion.length = .ok b.expansion ↔
      b.TokensFed := by
  obtain ⟨hok, hfails⟩ := b.decompress_data_spec htrees
  have hparse : parse_header b.data =
      .ok (b.expansion.length, HDR_ALG_LZH, b.version, b.config.toNat) := b.parse_head _
  rw [run_of_header hparse, if_neg (not_not.mpr rfl)]
  constructor
  · intro h
    by_contra hunfed
    rw [hfails hunfed] at h
    cases h
  · intro hfed
    rw [hok hfed]
    exact if_neg (not_not.mpr rfl)

end FinalBlock

section Runs

/-- One bit for the end of the block, two for a literal, and up to nine for others. -/
def steep : TreeHeader where
  litlen := [3, 4, 5, 6, 7, 8, 9, 9] ++ List.replicate 89 0 ++ [2] ++ List.replicate 158 0 ++ [1]
  dist := [1, 1]
  bitlens := [0, 3, 3, 3, 3, 4, 4, 4, 4, 3, 0, 0, 0, 0, 0, 0, 0, 0, 3]
  hclen := 14
  ops := [.length 3, .length 4, .length 5, .length 6, .length 7, .length 8, .length 9, .length 9,
    .repeat_z11 78, .length 2, .repeat_z11 127, .repeat_z11 9, .length 1, .length 1, .length 1]
  litlen_count := by decide +kernel
  dist_count := one_by_one.dist_count
  bitlens_count := by decide +kernel
  bitlens_fit := ⟨by decide +kernel, by decide +kernel⟩
  hclen_le := one_by_one.hclen_le
  left_out := by decide +kernel
  coded := by decide +kernel
  starts := by decide
  encoded := by decide +kernel

/-- One literal, with some noise in front. -/
def one_letter (noise : List Bool) (h : noise.length ≤ 3) : FinalBlock where
  version := 1
  config := 0
  noise := noise
  trees := steep
  tokens := [.literal 97]
  noise_length := h
  litlen_fit := ⟨by decide +kernel, by decide +kernel⟩
  dist_fit := ⟨by decide +kernel, by decide +kernel⟩
  ends := by decide +kernel
  legal := trivial
  coded := by
    intro token h
    obtain rfl := List.mem_singleton.mp h
    show 0 < lengthAt steep.litlen 97
    decide +kernel
  small := by decide +kernel

/-- One bit for a letter, two for the end of the block and for a match of three bytes. -/
def repeating : TreeHeader where
  litlen := List.replicate 97 0 ++ [1] ++ List.replicate 158 0 ++ [2, 2]
  dist := [1, 1]
  bitlens := [0, 1, 2] ++ List.replicate 15 0 ++ [2]
  hclen := 14
  ops := [.repeat_z11 86, .length 1, .repeat_z11 127, .repeat_z11 9, .length 2, .length 2,
    .length 1, .length 1]
  litlen_count := by decide +kernel
  dist_count := one_by_one.dist_count
  bitlens_count := by decide +kernel
  bitlens_fit := ⟨by decide +kernel, by decide +kernel⟩
  hclen_le := one_by_one.hclen_le
  left_out := by decide +kernel
  coded := by decide +kernel
  starts := by decide
  encoded := by decide +kernel

/-- A letter and a match that runs into its own output. -/
def repeated_letter : FinalBlock where
  version := 1
  config := 0
  noise := [true, false]
  trees := repeating
  tokens := [.literal 97, .copy 3 1]
  noise_length := by decide
  litlen_fit := ⟨by decide +kernel, by decide +kernel⟩
  dist_fit := ⟨by decide +kernel, by decide +kernel⟩
  ends := by decide +kernel
  legal := ⟨by decide, by decide, trivial⟩
  coded := by
    intro token h
    rcases List.mem_cons.mp h with rfl | h
    · show 0 < lengthAt repeating.litlen 97
      decide +kernel
    · obtain rfl := List.mem_singleton.mp h
      show 0 < lengthAt repeating.litlen (lengthSymbol 3) ∧
        0 < lengthAt repeating.dist (codeOf dist_starts 1)
      decide +kernel
  small := by decide +kernel

/-- Without noise six bits of padding are behind the letter and the end of the block.  The match
has its distance behind it. -/
theorem letter_read :
    sapcompress_decompress decompress_data (one_letter [] (by decide)).data 1 = .ok [97] ∧
      sapcompress_decompress decompress_data repeated_letter.data 4 = .ok [97, 97, 97, 97] := by
  constructor
  · have hdivides : steep.Divides :=
      ⟨steep.ops.take 13, steep.ops.drop 13, by decide, by decide +kernel, by decide⟩
    have hroom : Room steep.bitlens (one_letter [] (by decide)).behindTrees steep.ops := by
      decide +kernel
    refine ((one_letter [] (by decide)).decompresses_iff ⟨hdivides, hroom⟩).mpr ⟨?_, trivial⟩
    rw [Token.Fed]
    decide +kernel
  · have hdivides : repeating.Divides :=
      ⟨repeating.ops.take 6, repeating.ops.drop 6, by decide, by decide +kernel, by decide⟩
    have hroom : Room repeating.bitlens repeated_letter.behindTrees repeating.ops := by
      decide +kernel
    refine (repeated_letter.decompresses_iff ⟨hdivides, hroom⟩).mpr ⟨?_, ⟨?_, ?_⟩, trivial⟩
    · rw [Token.Fed]
      decide +kernel
    · decide +kernel
    · decide +kernel

/-- With one bit of noise there are five, and the letter is not read. -/
theorem letter_not_read :
    sapcompress_decompress decompress_data (one_letter [false] (by decide)).data 1 =
        .error endOfInput ∧
      (one_letter [false] (by decide)).expansion = [97] := by
  decide +kernel

end Runs

end SapRfc.Analysis.LzhBlocks
