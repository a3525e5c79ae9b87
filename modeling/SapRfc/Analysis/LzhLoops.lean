import SapRfc.Library.CountedLoops
import SapRfc.Analysis.LzhTrees

/-!
# The loops of the LZH decoder

The loops over the blocks, the tokens and the lengths go on until the input says that they are
done, and are written with counters.  A code takes a bit at least, for the look-up has no code
without bits, and an entry of a header adds a length at least.  So no counter runs out, and each
loop is its turn and the loop behind it.
-/

set_option autoImplicit false

namespace SapRfc.Analysis.LzhLoops

open SapRfc.Library SapRfc.Library.CountedLoops SapRfc.Program SapRfc.Program.LZHDecompress
open SapRfc.Analysis.LzcFrames SapRfc.Analysis.LzhTrees

variable {r r' : BitReader} {n : ℕ}

/-! ## Bits that are taken -/

theorem peek_bits_left {x : ℕ} (h : r.peek_bits n = .ok (x, r')) :
    r'.bits_left = r.bits_left := by
  unfold BitReader.peek_bits at h
  obtain ⟨q, hfill, h⟩ := Eff.except_bind_eq_ok.mp h
  cases h
  exact (fill_left _ _ _ hfill).2

/-! ## Codes take bits -/

/-- The nodes of a table have codes. -/
def AllCoded (nodes : List (Option HuffNode)) : Prop :=
  ∀ nd, some nd ∈ nodes → 0 < nd.code_length

/-- INTERNAL: a list that is set in a loop has its entries, and the new one. -/
theorem mem_of_mem_foldl_set {α : Type} {idx : ℕ → ℕ} {x y : α} {is : List ℕ} {l : List α}
    (h : y ∈ is.foldl (fun l i => l.set (idx i) x) l) : y ∈ l ∨ y = x := by
  induction is generalizing l with
  | nil => exact .inl h
  | cons i is ih =>
    rcases ih h with hset | hnew
    · exact List.mem_or_eq_of_mem_set hset
    · exact .inr hnew

theorem allCoded_enter {m : ℕ} {luts : List ℕ × List (Option HuffNode)} (h : AllCoded luts.2)
    (nd : HuffNode) : AllCoded (HuffTree.enter m luts nd).2 := by
  unfold HuffTree.enter
  split
  · exact h
  next hpos =>
    dsimp only
    rw [foldl_pair]
    intro nd' hmem
    rcases mem_of_mem_foldl_set hmem with hold | hnew
    · exact h nd' hold
    · cases hnew
      exact Nat.lt_of_not_le hpos

/-- The look-up has no code without bits. -/
theorem allCoded_lookup (t : HuffTree) : AllCoded t.build_lookup.2 := by
  have hnodes : ∀ (nodes : List HuffNode) (luts : List ℕ × List (Option HuffNode)),
      AllCoded luts.2 → AllCoded (nodes.foldl (HuffTree.enter t.get_max_bits) luts).2 := by
    intro nodes
    induction nodes with
    | nil => exact fun _ h => h
    | cons nd nodes ih => exact fun luts h => ih _ (allCoded_enter h nd)
  refine hnodes t.nodes _ fun nd hmem => ?_
  cases List.eq_of_mem_replicate hmem

/-- INTERNAL: what is found in the look-up has bits. -/
theorem lookup_pos {t : HuffTree} {raw : ℕ} {nd : HuffNode}
    (h : t.build_lookup.2.getD raw none = some nd) : 0 < nd.code_length := by
  refine allCoded_lookup t nd ?_
  rw [List.getD_eq_getElem?_getD] at h
  cases hat : t.build_lookup.2[raw]? with
  | none =>
    rw [hat] at h
    cases h
  | some entry =>
    rw [hat] at h
    exact h ▸ List.mem_of_getElem? hat

theorem read_code_left {t : HuffTree} {nd : HuffNode} (h : t.read_code r = .ok (nd, r')) :
    r'.bits_left < r.bits_left := by
  unfold HuffTree.read_code at h
  obtain ⟨⟨raw, r₁⟩, hpeek, h⟩ := Eff.except_bind_eq_ok.mp h
  dsimp only at h
  split at h
  · cases h
  next found hfound =>
    obtain ⟨⟨code, r₂⟩, hread, h⟩ := Eff.except_bind_eq_ok.mp h
    dsimp only at h
    cases h
    have hpeeked := peek_bits_left hpeek
    have htaken := read_bits_left hread
    have hpos := lookup_pos hfound
    omega

theorem read_code_two_staged_left {t : HuffTree} {nd : HuffNode} {first_len : ℕ}
    (h : t.read_code_two_staged r first_len = .ok (nd, r')) : r'.bits_left < r.bits_left := by
  unfold HuffTree.read_code_two_staged at h
  split at h
  · exact read_code_left h
  · dsimp only at h
    obtain ⟨⟨raw_short, r₁⟩, hshort, h⟩ := Eff.except_bind_eq_ok.mp h
    obtain ⟨⟨entry, r₂⟩, hstage, h⟩ := Eff.except_bind_eq_ok.mp h
    have hfirst := peek_bits_left hshort
    have hstaged : r₂.bits_left = r₁.bits_left ∧
        ∃ raw, entry = t.build_lookup.2.getD raw none := by
      dsimp only at hstage
      split at hstage
      · cases hstage
        exact ⟨rfl, raw_short, rfl⟩
      · obtain ⟨⟨raw, r₃⟩, hlong, hstage⟩ := Eff.except_bind_eq_ok.mp hstage
        cases hstage
        exact ⟨peek_bits_left hlong, raw, rfl⟩
    obtain ⟨hsecond, raw, hentry⟩ := hstaged
    dsimp only at h
    split at h
    · cases h
    next found =>
      obtain ⟨⟨code, r₃⟩, hread, h⟩ := Eff.except_bind_eq_ok.mp h
      dsimp only at h
      cases h
      have htaken := read_bits_left hread
      have hpos := lookup_pos hentry.symm
      omega

/-! ## Tokens -/

theorem read_match_left {dist_tree : HuffTree} {val length distance : ℕ}
    (h : read_match dist_tree val r = .ok (length, distance, r')) :
    r'.bits_left ≤ r.bits_left := by
  unfold read_match at h
  dsimp only at h
  split at h
  · cases h
  obtain ⟨⟨extra, r₁⟩, hextra, h⟩ := Eff.except_bind_eq_ok.mp h
  dsimp only at h
  split at h
  · cases h
  obtain ⟨⟨dnd, r₂⟩, hcode, h⟩ := Eff.except_bind_eq_ok.mp h
  dsimp only at h
  split at h
  · cases h
  obtain ⟨⟨extra', r₃⟩, hextra', h⟩ := Eff.except_bind_eq_ok.mp h
  dsimp only at h
  split at h
  · cases h
  · cases h
    have h₁ := read_bits_left hextra
    have h₂ := read_code_left hcode
    have h₃ := read_bits_left hextra'
    omega

/-- INTERNAL: a match reads nothing. -/
theorem copy_match_reader (length distance : ℕ) (s : LZHDecompress) :
    (copy_match length distance s).reader = s.reader := by
  have hchunks : ∀ (fuel copy_left src : ℕ) (s : LZHDecompress),
      (copy_chunks fuel copy_left src s).reader = s.reader := by
    intro fuel
    induction fuel with
    | zero => exact fun _ _ _ => rfl
    | succ fuel ih =>
      intro copy_left src s
      unfold copy_chunks
      split
      · exact ih _ _ _
      · rfl
  exact hchunks _ _ _ s

section Trees

variable {litlen_tree dist_tree : HuffTree} {s s' : LZHDecompress}

/-- A token takes a bit at least. -/
theorem next_token_left {more : Bool} (h : next_token litlen_tree dist_tree s = .ok (more, s')) :
    s'.reader.bits_left < s.reader.bits_left := by
  unfold next_token at h
  obtain ⟨⟨nd, r₁⟩, hcode, h⟩ := Eff.except_bind_eq_ok.mp h
  have hleft := read_code_two_staged_left hcode
  dsimp only at h
  split at h
  · cases h
    exact hleft
  · split at h
    · cases h
      exact hleft
    · obtain ⟨⟨length, distance, r₂⟩, hmatch, h⟩ := Eff.except_bind_eq_ok.mp h
      cases h
      rw [copy_match_reader]
      exact Nat.lt_of_le_of_lt (read_match_left hmatch) hleft

theorem read_tokens_eq_counted (litlen_tree dist_tree : HuffTree) (fuel : ℕ) (s : LZHDecompress) :
    read_tokens litlen_tree dist_tree fuel s =
      counted (next_token litlen_tree dist_tree) fuel s := by
  induction fuel generalizing s with
  | zero => rfl
  | succ fuel ih =>
    rw [read_tokens, counted]
    simp only [ih]

/-- A block is a token, and the block behind it where there is more. -/
theorem read_block_eq (litlen_tree dist_tree : HuffTree) (s : LZHDecompress) :
    read_block litlen_tree dist_tree s =
      (next_token litlen_tree dist_tree s >>= fun token =>
        if token.1 then read_block litlen_tree dist_tree token.2 else .ok token.2) := by
  have hlowers : Lowers (next_token litlen_tree dist_tree) (·.reader.bits_left) :=
    fun _ _ h => next_token_left h
  unfold read_block
  simp only [read_tokens_eq_counted]
  exact counted_eq hlowers s

/-- INTERNAL: a block gives no bits back. -/
theorem read_block_left (h : read_block litlen_tree dist_tree s = .ok s') :
    s'.reader.bits_left ≤ s.reader.bits_left := by
  unfold read_block at h
  generalize s.reader.bits_left + 1 = fuel at h
  induction fuel generalizing s with
  | zero =>
    cases h
    exact Nat.le_refl _
  | succ fuel ih =>
    unfold read_tokens at h
    obtain ⟨⟨more, next⟩, htoken, h⟩ := Eff.except_bind_eq_ok.mp h
    have hleft := Nat.le_of_lt (next_token_left htoken)
    dsimp only at h
    split at h
    · exact Nat.le_trans (ih h) hleft
    · cases h
      exact hleft

end Trees

/-! ## Lengths -/

section Lengths

variable {bl_tree : HuffTree} {count : ℕ} {codes out : List ℕ}

/-- An entry adds a length at least. -/
theorem read_length_adds {lastlen lastlen' : ℕ}
    (h : read_length bl_tree count r codes lastlen = .ok (r', out, lastlen')) :
    codes.length < out.length ∧ r'.bits_left ≤ r.bits_left := by
  have hrepeat : ∀ {n extra rep last : ℕ} {r₁ r₂ : BitReader}, r₁.bits_left ≤ r.bits_left →
      r₁.read_bits n = .ok (extra, r₂) → 0 < rep →
      (if count - codes.length < rep then .error (LzError.decompress (lit "repeat overflow"))
        else .ok (r₂, codes ++ List.replicate rep last, last)) = Except.ok (r', out, lastlen') →
        codes.length < out.length ∧ r'.bits_left ≤ r.bits_left := by
    intro n extra rep last r₁ r₂ hleft hread hrep h
    have htaken := read_bits_left hread
    split at h
    · cases h
    · cases h
      rw [List.length_append, List.length_replicate]
      omega
  unfold read_length at h
  obtain ⟨⟨nd, r₁⟩, hcode, h⟩ := Eff.except_bind_eq_ok.mp h
  have hleft := Nat.le_of_lt (read_code_left hcode)
  dsimp only at h
  split at h
  · cases h
    rw [List.length_append, List.length_singleton]
    exact ⟨Nat.lt_succ_self _, hleft⟩
  split at h
  · obtain ⟨⟨extra, r₂⟩, hread, h⟩ := Eff.except_bind_eq_ok.mp h
    exact hrepeat hleft hread (by omega) h
  split at h
  · obtain ⟨⟨extra, r₂⟩, hread, h⟩ := Eff.except_bind_eq_ok.mp h
    exact hrepeat hleft hread (by omega) h
  split at h
  · obtain ⟨⟨extra, r₂⟩, hread, h⟩ := Eff.except_bind_eq_ok.mp h
    exact hrepeat hleft hread (by omega) h
  · cases h

/-- The loop ends with as many lengths as are wanted, and not by its counter. -/
theorem read_lengths_long (fuel : ℕ) {lastlen : ℕ} (hfuel : count ≤ fuel + codes.length)
    (h : read_lengths bl_tree count fuel r codes lastlen = .ok (r', out)) :
    count ≤ out.length ∧ r'.bits_left ≤ r.bits_left := by
  induction fuel generalizing r codes lastlen with
  | zero =>
    cases h
    exact ⟨by omega, Nat.le_refl _⟩
  | succ fuel ih =>
    unfold read_lengths at h
    split at h
    · obtain ⟨⟨r₁, codes₁, lastlen₁⟩, hlength, h⟩ := Eff.except_bind_eq_ok.mp h
      obtain ⟨hadds, hleft⟩ := read_length_adds hlength
      obtain ⟨hlong, hrest⟩ := ih (by omega) h
      exact ⟨hlong, Nat.le_trans hrest hleft⟩
    next hdone =>
      cases h
      exact ⟨Nat.le_of_not_lt hdone, Nat.le_refl _⟩

/-- INTERNAL: the lengths give no bits back. -/
theorem read_encoded_lengths_left (h : read_encoded_lengths r bl_tree count = .ok (r', out)) :
    r'.bits_left ≤ r.bits_left :=
  (read_lengths_long count (Nat.le_add_right _ _) h).2

theorem read_bitlens_left {ranking : List ℕ}
    (h : read_bitlens ranking r codes = .ok (r', out)) : r'.bits_left ≤ r.bits_left := by
  induction ranking generalizing r codes with
  | nil =>
    cases h
    exact Nat.le_refl _
  | cons i ranking ih =>
    unfold read_bitlens at h
    obtain ⟨⟨bits, r₁⟩, hread, h⟩ := Eff.except_bind_eq_ok.mp h
    have htaken := read_bits_left hread
    have hrest := ih h
    omega

theorem read_dynamic_trees_left {litlen_tree dist_tree : HuffTree}
    (h : read_dynamic_trees r = .ok (r', litlen_tree, dist_tree)) :
    r'.bits_left ≤ r.bits_left := by
  unfold read_dynamic_trees at h
  obtain ⟨⟨hlit, r₁⟩, hread₁, h⟩ := Eff.except_bind_eq_ok.mp h
  obtain ⟨⟨hdist, r₂⟩, hread₂, h⟩ := Eff.except_bind_eq_ok.mp h
  obtain ⟨⟨hclen, r₃⟩, hread₃, h⟩ := Eff.except_bind_eq_ok.mp h
  dsimp only at h
  split at h
  · cases h
  split at h
  · cases h
  obtain ⟨⟨r₄, bl_dist⟩, hbitlens, h⟩ := Eff.except_bind_eq_ok.mp h
  obtain ⟨⟨r₅, litlen_cl⟩, hlitlen, h⟩ := Eff.except_bind_eq_ok.mp h
  obtain ⟨⟨r₆, dist_cl⟩, hdists, h⟩ := Eff.except_bind_eq_ok.mp h
  cases h
  have h₁ := read_bits_left hread₁
  have h₂ := read_bits_left hread₂
  have h₃ := read_bits_left hread₃
  have h₄ := read_bitlens_left hbitlens
  have h₅ := read_encoded_lengths_left hlitlen
  have h₆ := read_encoded_lengths_left hdists
  dsimp only at h₅ h₆ ⊢
  omega

end Lengths

/-! ## Blocks -/

/-- A turn of the loop over the blocks, and whether it goes on. -/
def next_block (s : LZHDecompress) : Except LzError (Bool × LZHDecompress) := do
  let (last, r) ← s.reader.read_bits 1
  let (btype, r) ← r.read_bits 2
  let s ←
    (if btype = LZH_TREETYPE_STATIC then
      read_block get_static_litlen get_static_dist { s with reader := r }
    else if btype = LZH_TREETYPE_DYNAMIC then do
      let (r, litlen_tree, dist_tree) ← read_dynamic_trees r
      read_block litlen_tree dist_tree { s with reader := r }
    else .error (.decompress (lit "unknown LZH block type " ++ dec btype)))
  .ok (decide (last = 0), s)

theorem read_blocks_eq_counted (fuel : ℕ) (s : LZHDecompress) :
    read_blocks fuel s = counted next_block fuel s := by
  induction fuel generalizing s with
  | zero => rfl
  | succ fuel ih =>
    rw [read_blocks, counted_succ, next_block]
    simp only [ih, bind_assoc, ne_eq, ite_not, Eff.except_ok_bind, decide_eq_true_eq]

/-- A block takes a bit at least. -/
theorem next_block_left {s s' : LZHDecompress} {more : Bool} (h : next_block s = .ok (more, s')) :
    s'.reader.bits_left < s.reader.bits_left := by
  unfold next_block at h
  obtain ⟨⟨last, r₁⟩, hlast, h⟩ := Eff.except_bind_eq_ok.mp h
  obtain ⟨⟨btype, r₂⟩, htype, h⟩ := Eff.except_bind_eq_ok.mp h
  obtain ⟨next, hblock, h⟩ := Eff.except_bind_eq_ok.mp h
  have h₁ := read_bits_left hlast
  have h₂ := read_bits_left htype
  have hnext : next.reader.bits_left ≤ r₂.bits_left := by
    dsimp only at hblock
    split at hblock
    · exact read_block_left hblock
    split at hblock
    · obtain ⟨⟨r₃, litlen_tree, dist_tree⟩, htrees, hblock⟩ := Eff.except_bind_eq_ok.mp hblock
      exact Nat.le_trans (read_block_left hblock) (read_dynamic_trees_left htrees)
    · cases hblock
  cases h
  omega

/-- The blocks of a stream are one block, and those behind it where it is not the last. -/
theorem read_blocks_eq (s : LZHDecompress) :
    read_blocks (s.reader.bits_left + 1) s =
      (next_block s >>= fun block =>
        if block.1 then read_blocks (block.2.reader.bits_left + 1) block.2 else .ok block.2) := by
  have hlowers : Lowers next_block (·.reader.bits_left) := fun _ _ h => next_block_left h
  simp only [read_blocks_eq_counted]
  exact counted_eq hlowers s

end SapRfc.Analysis.LzhLoops
