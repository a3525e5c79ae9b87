import SapRfc.Analysis.LzcFrames
import SapRfc.Library.PrefixCodes
import SapRfc.Program.Lzh

/-!
# The trees of the LZH decoder

A tree is the canonical code of its lengths, and its look-up has for each bit pattern the one
node whose code begins it.  So a code is read as its symbol, when as many bits are left as the
look-up takes, and otherwise the read fails.  Of two stages the first takes as many bits as the
code of the end of the block, and is enough for the codes of that length only.
-/

set_option autoImplicit false

namespace SapRfc.Analysis.LzhTrees

open SapRfc.Library SapRfc.Library.PrefixCodes SapRfc.Program

variable {r : BitReader} {bits tail : List Bool} {n : ℕ}

/-! ## Bits -/

/-- The reader has these bits left. -/
structure Reads (r : BitReader) (bits : List Bool) : Prop where
  fits : r.bits < 2 ^ r.bits_count
  left : r.bits_left = bits.length
  number : LzcFrames.number r = ofBits bits

/-- What a read beyond the input raises. -/
def endOfInput : LzError := .decompress (lit "unexpected end of compressed data")

theorem reads_new (data : Bytes) : Reads (BitReader.new data) (bitsOf data) where
  fits := Nat.one_pos
  left := (length_bitsOf data).symm
  number := by
    rw [ofBits_bitsOf]
    simp [LzcFrames.number, BitReader.new]

/-- INTERNAL: a read beyond the input. -/
theorem fill_short : ∀ (left : Bytes) (bits bits_count : ℕ), left.length * 8 + bits_count < n →
    BitReader.fill n left bits bits_count = .error endOfInput := by
  intro left
  induction left with
  | nil =>
    intro bits bits_count h
    rw [BitReader.fill, if_pos (by simpa using h)]
    rfl
  | cons b left ih =>
    intro bits bits_count h
    rw [List.length_cons] at h
    rw [BitReader.fill, if_pos (by omega)]
    exact ih _ _ (by omega)

/-- The next bits, as a number. -/
theorem peek_bits_reads (h : Reads r bits) (hn : n ≤ bits.length) :
    ∃ r', r.peek_bits n = .ok (ofBits (bits.take n), r') ∧ Reads r' bits := by
  obtain ⟨q, heq, hcount, hq, hnumber, hleft⟩ :=
    LzcFrames.fill_spec n r.left r.bits r.bits_count h.fits
      (Nat.le_trans hn (Nat.le_of_eq h.left.symm))
  have hnum : LzcFrames.number q = ofBits bits := hnumber.trans h.number
  refine ⟨q, ?_, hq, hleft.trans h.left, hnum⟩
  obtain ⟨k, hk⟩ := Nat.exists_eq_add_of_le hcount
  have hsplit : LzcFrames.number q = q.bits + 2 ^ n * (2 ^ k * ofLE q.left) := by
    rw [LzcFrames.number, hk, pow_add, mul_assoc]
  have hand : q.bits &&& (1 <<< n - 1) = ofBits (bits.take n) := by
    rw [Nat.one_shiftLeft, Nat.and_two_pow_sub_one_eq_mod, ofBits_take, ← hnum, hsplit,
      Nat.add_mul_mod_self_left]
  rw [BitReader.peek_bits, heq, Eff.except_ok_bind, hand]

theorem peek_bits_short (h : Reads r bits) (hn : bits.length < n) :
    r.peek_bits n = .error endOfInput := by
  rw [← h.left] at hn
  rw [BitReader.peek_bits, fill_short _ _ _ hn]
  rfl

theorem read_bits_reads (h : Reads r bits) (hn : n ≤ bits.length) :
    ∃ r', r.read_bits n = .ok (ofBits (bits.take n), r') ∧ Reads r' (bits.drop n) := by
  obtain ⟨q, hread, hq, hnumber, hleft⟩ := LzcFrames.read_bits_spec h.fits (h.left.symm ▸ hn)
  have hcount := h.left
  refine ⟨q, ?_, hq, ?_, ?_⟩
  · rw [hread, ofBits_take, h.number]
  · rw [List.length_drop]
    omega
  · rw [hnumber, ofBits_drop, h.number]

/-- A field of a width. -/
theorem read_field {x : ℕ} (h : Reads r (toBits n x ++ tail)) (hx : x < 2 ^ n) :
    ∃ r', r.read_bits n = .ok (x, r') ∧ Reads r' tail := by
  obtain ⟨r', hread, hr⟩ := read_bits_reads h (n := n) (by simp)
  have hlength := length_toBits n x
  rw [List.take_left' hlength, ofBits_toBits, Nat.mod_eq_of_lt hx] at hread
  rw [List.drop_left' hlength] at hr
  exact ⟨r', hread, hr⟩

/-! ## Codes -/

/-- INTERNAL: the loop turns a number round. -/
theorem reverse_bits_eq (n rev value : ℕ) :
    reverse_bits n rev value = rev * 2 ^ n + ofBits (toBits n value).reverse := by
  induction n generalizing rev value with
  | zero =>
    show rev = rev * 2 ^ 0 + 0
    rw [pow_zero, Nat.mul_one, Nat.add_zero]
  | succ n ih =>
    have hbit : value &&& 1 = (decide (value % 2 = 1)).toNat := by
      rw [Nat.and_one_is_mod]
      rcases Nat.mod_two_eq_zero_or_one value with h | h <;> rw [h] <;> rfl
    have hnext : rev <<< 1 ||| value &&& 1 = (decide (value % 2 = 1)).toNat + 2 * rev := by
      rw [hbit, Nat.or_comm, or_shiftLeft rev (by cases decide (value % 2 = 1) <;> decide)]
      rfl
    rw [reverse_bits, ih, hnext, Nat.shiftRight_one, toBits, List.reverse_cons, ofBits_append,
      List.length_reverse, length_toBits, pow_succ]
    simp only [ofBits]
    ring

theorem reverse_int_eq (value length : ℕ) :
    reverse_int value length = ofBits (toBits length value).reverse := by
  rw [reverse_int, reverse_bits_eq, Nat.zero_mul, Nat.zero_add]

section Nodes

variable {lens : List ℕ}

/-- The node of a symbol before it has a code. -/
def bareNode (lens : List ℕ) (i : ℕ) : HuffNode := ⟨i, 0, lengthAt lens i⟩

/-- The node of a symbol. -/
def nodeAt (lens : List ℕ) (i : ℕ) : HuffNode :=
  ⟨i, if 0 < lengthAt lens i then ofBits (codeBits lens i) else 0, lengthAt lens i⟩

/-- INTERNAL: the nodes of a list of lengths. -/
theorem bare_nodes (lens : List ℕ) :
    (lens.mapIdx fun i cl => (⟨i, 0, cl⟩ : HuffNode)) =
      (List.range' 0 lens.length).map (bareNode lens) := by
  refine List.ext_getElem (by simp) fun i h h' => ?_
  rw [List.getElem_mapIdx, List.getElem_map, List.getElem_range', Nat.one_mul, Nat.zero_add,
    bareNode, lengthAt, List.getD_eq_getElem]

/-- INTERNAL: the lengths by their symbols. -/
theorem map_lengthAt (lens : List ℕ) : (List.range' 0 lens.length).map (lengthAt lens) = lens := by
  refine List.ext_getElem (by simp) fun i h h' => ?_
  rw [List.getElem_map, List.getElem_range', Nat.one_mul, Nat.zero_add]
  exact List.getD_eq_getElem lens 0 h'

/-- INTERNAL: the first codes are those of the lengths. -/
theorem next_codes_eq (lens : List ℕ) (l : ℕ) :
    HuffTree.next_codes ((List.range' 0 lens.length).map (bareNode lens)) l = firstCode lens l := by
  have hcount : ∀ l, HuffTree.length_count ((List.range' 0 lens.length).map (bareNode lens)) l =
      lengthCount lens l := by
    intro l
    unfold HuffTree.length_count lengthCount
    conv_rhs => rw [← map_lengthAt lens, List.countP_map]
    rw [List.countP_map]
    rfl
  induction l with
  | zero => rfl
  | succ l ih =>
    rw [HuffTree.next_codes, ih, hcount, firstCode, Nat.shiftLeft_eq]
    ring

/-- INTERNAL: the symbols get the codes of their lengths in order. -/
theorem number_nodes_eq (lens : List ℕ) (n : ℕ) : ∀ (k : ℕ) (next : ℕ → ℕ), k + n = lens.length →
    (∀ l, 0 < l → next l = firstCode lens l + (lens.take k).countP fun x => decide (x = l)) →
    HuffTree.number_nodes next ((List.range' k n).map (bareNode lens)) =
      (List.range' k n).map (nodeAt lens) := by
  induction n with
  | zero => exact fun _ _ _ _ => rfl
  | succ n ih =>
    intro k next hk hnext
    have hlt : k < lens.length := by omega
    have hat : lens[k] = lengthAt lens k := (List.getD_eq_getElem lens 0 hlt).symm
    have htake : lens.take (k + 1) = lens.take k ++ [lengthAt lens k] := by
      rw [List.take_add_one, List.getElem?_eq_getElem hlt, hat]
      rfl
    rw [List.range'_succ, List.map_cons, List.map_cons]
    by_cases hpos : 0 < lengthAt lens k
    · have hrest := ih (k + 1) (Function.update next (lengthAt lens k) (next (lengthAt lens k) + 1))
        (by omega) (by
          intro l hl
          rw [htake, List.countP_append, List.countP_singleton]
          by_cases heq : l = lengthAt lens k
          · subst heq
            rw [Function.update_self, hnext _ hl]
            simp
            omega
          · rw [Function.update_of_ne heq, hnext _ hl, if_neg (by simpa using Ne.symm heq)]
            rfl)
      have hcode : reverse_int (next (lengthAt lens k)) (lengthAt lens k) =
          ofBits (codeBits lens k) := by
        rw [reverse_int_eq, hnext _ hpos]
        rfl
      unfold HuffTree.number_nodes
      rw [if_pos (by exact hpos)]
      refine List.cons_eq_cons.mpr ⟨?_, hrest⟩
      unfold nodeAt
      rw [if_pos hpos, ← hcode]
      rfl
    · have hrest := ih (k + 1) next (by omega) (by
          intro l hl
          rw [htake, List.countP_append, List.countP_singleton, hnext _ hl, if_neg ?_]
          · rfl
          · rw [decide_eq_true_eq]
            omega)
      unfold HuffTree.number_nodes
      rw [if_neg (by exact hpos)]
      refine List.cons_eq_cons.mpr ⟨?_, hrest⟩
      unfold nodeAt
      rw [if_neg hpos]
      rfl

/-- The nodes of a tree have the canonical codes of its lengths. -/
theorem from_distribution_nodes (lens : List ℕ) :
    (HuffTree.from_distribution lens).nodes = (List.range' 0 lens.length).map (nodeAt lens) := by
  unfold HuffTree.from_distribution HuffTree.assign_codes
  rw [bare_nodes]
  refine number_nodes_eq lens lens.length 0 _ (Nat.zero_add _) fun l _ => ?_
  rw [next_codes_eq]
  rfl

/-! ## Look-ups -/

/-- The length of the longest code. -/
def maxLength (lens : List ℕ) : ℕ := lens.foldl max 0

theorem get_max_bits_eq (lens : List ℕ) :
    (HuffTree.from_distribution lens).get_max_bits = maxLength lens := by
  unfold HuffTree.get_max_bits HuffTree.max_length maxLength
  conv_rhs => rw [← map_lengthAt lens, List.foldl_map]
  rw [from_distribution_nodes, List.foldl_map]
  rfl

/-- INTERNAL: a maximum that is taken from the left. -/
theorem le_foldl_max (lens : List ℕ) (a : ℕ) :
    a ≤ lens.foldl max a ∧ ∀ l ∈ lens, l ≤ lens.foldl max a := by
  induction lens generalizing a with
  | nil => exact ⟨Nat.le_refl a, nofun⟩
  | cons x lens ih =>
    obtain ⟨hstart, hrest⟩ := ih (max a x)
    refine ⟨Nat.le_trans (Nat.le_max_left a x) hstart, fun l hl => ?_⟩
    rcases List.mem_cons.mp hl with rfl | hl
    · exact Nat.le_trans (Nat.le_max_right a l) hstart
    · exact hrest l hl

theorem lengthAt_le_max {i : ℕ} (h : 0 < lengthAt lens i) : lengthAt lens i ≤ maxLength lens :=
  (le_foldl_max lens 0).2 _ (lengthAt_mem h)

/-- The pattern begins with the code of the node. -/
def Hits (raw : ℕ) (nd : HuffNode) : Prop :=
  0 < nd.code_length ∧ raw % 2 ^ nd.code_length = nd.code

instance (raw : ℕ) (nd : HuffNode) : Decidable (Hits raw nd) :=
  inferInstanceAs (Decidable (_ ∧ _))

/-- INTERNAL: a list that is set in a loop keeps its length. -/
theorem length_foldl_set {α : Type} (idx : ℕ → ℕ) (f : ℕ → α) (is : List ℕ) (l : List α) :
    (is.foldl (fun l i => l.set (idx i) (f (idx i))) l).length = l.length := by
  induction is generalizing l with
  | nil => rfl
  | cons i is ih => rw [List.foldl_cons, ih, List.length_set]

/-- INTERNAL: entries that are set in a loop. -/
theorem getElem?_foldl_set {α : Type} (idx : ℕ → ℕ) (f : ℕ → α) (is : List ℕ) (l : List α) {k : ℕ}
    (hk : k < l.length) :
    (is.foldl (fun l i => l.set (idx i) (f (idx i))) l)[k]? =
      if ∃ i ∈ is, idx i = k then some (f k) else l[k]? := by
  induction is generalizing l with
  | nil =>
    rw [if_neg (fun ⟨_, hi, _⟩ => List.not_mem_nil hi)]
    rfl
  | cons i is ih =>
    rw [List.foldl_cons, ih _ (by rwa [List.length_set]), List.getElem?_set]
    simp only [List.exists_mem_cons_iff]
    -- the later of two entries at a place stays
    by_cases hlater : ∃ i ∈ is, idx i = k
    · rw [if_pos hlater, if_pos (.inr hlater)]
    · rw [if_neg hlater]
      by_cases hfirst : idx i = k
      · rw [if_pos hfirst, if_pos (by rwa [hfirst]), if_pos (.inl hfirst), hfirst]
      · rw [if_neg hfirst, if_neg (not_or.mpr ⟨hfirst, hlater⟩)]

/-- INTERNAL: an entry that is set in a loop, or a fallback. -/
theorem getD_foldl_set {α : Type} (idx : ℕ → ℕ) (f : ℕ → α) (fallback : α) (is : List ℕ)
    (l : List α) {k : ℕ} (hk : k < l.length) :
    (is.foldl (fun l i => l.set (idx i) (f (idx i))) l).getD k fallback =
      if ∃ i ∈ is, idx i = k then f k else l.getD k fallback := by
  rw [List.getD_eq_getElem?_getD, getElem?_foldl_set idx f is l hk, List.getD_eq_getElem?_getD]
  split
  · rfl
  · rfl

/-- INTERNAL: two tables that are set in one loop. -/
theorem foldl_pair {α β : Type} (idx : ℕ → ℕ) (x : α) (y : β) (is : List ℕ)
    (luts : List α × List β) :
    is.foldl (fun luts i => (luts.1.set (idx i) x, luts.2.set (idx i) y)) luts =
      (is.foldl (fun l i => l.set (idx i) x) luts.1,
        is.foldl (fun l i => l.set (idx i) y) luts.2) := by
  induction is generalizing luts with
  | nil => rfl
  | cons i is ih => rw [List.foldl_cons, ih]; rfl

/-- The tables have an entry for each pattern. -/
structure Sized (m : ℕ) (luts : List ℕ × List (Option HuffNode)) : Prop where
  lengths : luts.1.length = 2 ^ m
  nodes : luts.2.length = 2 ^ m

/-- INTERNAL: where a node is entered. -/
theorem hits_iff {m raw : ℕ} {nd : HuffNode} (hraw : raw < 2 ^ m) (hpos : 0 < nd.code_length)
    (hle : nd.code_length ≤ m) (hcode : nd.code < 2 ^ nd.code_length) :
    (∃ i < 1 <<< (m - nd.code_length), nd.code ||| i <<< nd.code_length = raw) ↔ Hits raw nd := by
  have hpow : 2 ^ m = 2 ^ nd.code_length * 2 ^ (m - nd.code_length) := by
    rw [← pow_add, Nat.add_sub_cancel' hle]
  rw [Nat.one_shiftLeft]
  constructor
  · rintro ⟨i, -, rfl⟩
    refine ⟨hpos, ?_⟩
    rw [or_shiftLeft i hcode, Nat.add_mul_mod_self_left, Nat.mod_eq_of_lt hcode]
  · rintro ⟨-, hmod⟩
    refine ⟨raw / 2 ^ nd.code_length, ?_, ?_⟩
    · rw [Nat.div_lt_iff_lt_mul (Nat.two_pow_pos _), Nat.mul_comm, ← hpow]
      exact hraw
    · rw [or_shiftLeft _ hcode, ← hmod, Nat.mod_add_div]

/-- A node is entered at the patterns that begin with its code. -/
theorem enter_spec {m raw : ℕ} {nd : HuffNode} {luts : List ℕ × List (Option HuffNode)}
    (hraw : raw < 2 ^ m) (hsized : Sized m luts) (hle : nd.code_length ≤ m)
    (hcode : 0 < nd.code_length → nd.code < 2 ^ nd.code_length) :
    Sized m (HuffTree.enter m luts nd) ∧
      (HuffTree.enter m luts nd).1.getD raw 0 =
        (if Hits raw nd then nd.code_length else luts.1.getD raw 0) ∧
      (HuffTree.enter m luts nd).2.getD raw none =
        (if Hits raw nd then some nd else luts.2.getD raw none) := by
  unfold HuffTree.enter
  by_cases hpos : nd.code_length ≤ 0
  · have hmiss : ¬ Hits raw nd := fun h => absurd h.1 (Nat.not_lt_of_le hpos)
    rw [if_pos hpos, if_neg hmiss, if_neg hmiss]
    exact ⟨hsized, rfl, rfl⟩
  · have hpos' := Nat.lt_of_not_le hpos
    have hplaces : (∃ i ∈ List.range (1 <<< (m - nd.code_length)),
        nd.code ||| i <<< nd.code_length = raw) ↔ Hits raw nd := by
      simpa only [List.mem_range] using hits_iff hraw hpos' hle (hcode hpos')
    rw [if_neg hpos]
    dsimp only
    rw [foldl_pair]
    refine ⟨⟨?_, ?_⟩, ?_, ?_⟩
    · exact (length_foldl_set _ (fun _ => nd.code_length) _ _).trans hsized.lengths
    · exact (length_foldl_set _ (fun _ => some nd) _ _).trans hsized.nodes
    · rw [getD_foldl_set _ (fun _ => nd.code_length) _ _ _ (by rwa [hsized.lengths])]
      simp only [hplaces]
    · rw [getD_foldl_set _ (fun _ => some nd) _ _ _ (by rwa [hsized.nodes])]
      simp only [hplaces]

/-- The tables have the last node that a pattern begins with. -/
theorem foldl_enter {m raw : ℕ} (hraw : raw < 2 ^ m) (nodes : List HuffNode) :
    ∀ luts : List ℕ × List (Option HuffNode), Sized m luts →
      (∀ nd ∈ nodes, nd.code_length ≤ m ∧ (0 < nd.code_length → nd.code < 2 ^ nd.code_length)) →
      (nodes.foldl (HuffTree.enter m) luts).1.getD raw 0 =
          (((nodes.reverse.find? fun nd => decide (Hits raw nd)).map (·.code_length)).getD
            (luts.1.getD raw 0)) ∧
        (nodes.foldl (HuffTree.enter m) luts).2.getD raw none =
          (nodes.reverse.find? fun nd => decide (Hits raw nd)).or (luts.2.getD raw none) := by
  induction nodes with
  | nil => exact fun _ _ _ => ⟨rfl, rfl⟩
  | cons nd nodes ih =>
    intro luts hsized hnodes
    obtain ⟨hle, hcode⟩ := hnodes nd List.mem_cons_self
    obtain ⟨hentered, hlength, hnode⟩ := enter_spec hraw hsized hle hcode
    obtain ⟨hlengths, hfound⟩ := ih (HuffTree.enter m luts nd) hentered
      fun nd' hnd' => hnodes nd' (List.mem_cons_of_mem _ hnd')
    rw [List.foldl_cons, hlengths, hfound, hlength, hnode, List.reverse_cons, List.find?_append]
    cases nodes.reverse.find? fun nd => decide (Hits raw nd) with
    | some found => exact ⟨rfl, rfl⟩
    | none =>
      by_cases hhit : Hits raw nd
      · rw [if_pos hhit, if_pos hhit, List.find?_cons_of_pos (by simpa using hhit)]
        exact ⟨rfl, rfl⟩
      · rw [if_neg hhit, if_neg hhit, List.find?_cons_of_neg (by simpa using hhit)]
        exact ⟨rfl, rfl⟩

/-- INTERNAL: a node is hit by the patterns that begin with its bits. -/
theorem hits_nodeAt {i : ℕ} (hpos : 0 < lengthAt lens i) (hle : lengthAt lens i ≤ bits.length) :
    Hits (ofBits bits) (nodeAt lens i) ↔ codeBits lens i <+: bits := by
  have hcode : (nodeAt lens i).code = ofBits (codeBits lens i) := if_pos hpos
  have htake : (codeBits lens i).length = (bits.take (lengthAt lens i)).length := by
    rw [length_codeBits, List.length_take_of_le hle]
  unfold Hits
  rw [hcode, ← ofBits_take, List.prefix_iff_eq_take, length_codeBits]
  constructor
  · rintro ⟨-, heq⟩
    exact ofBits_injective htake heq.symm
  · intro heq
    exact ⟨hpos, (congrArg ofBits heq).symm⟩

section Lookup

variable {m i : ℕ} (hfits : Fits lens m)

/-- INTERNAL: the last node that a pattern begins with. -/
theorem lookup_eq (lens : List ℕ) (hlength : bits.length = maxLength lens) :
    (HuffTree.from_distribution lens).build_lookup.1.getD (ofBits bits) 0 =
        ((((List.range' 0 lens.length).map (nodeAt lens)).reverse.find? fun nd =>
          decide (Hits (ofBits bits) nd)).map (·.code_length)).getD 0 ∧
      (HuffTree.from_distribution lens).build_lookup.2.getD (ofBits bits) none =
        ((List.range' 0 lens.length).map (nodeAt lens)).reverse.find? fun nd =>
          decide (Hits (ofBits bits) nd) := by
  have hraw : ofBits bits < 2 ^ maxLength lens := hlength ▸ ofBits_lt bits
  obtain ⟨hlengths, hnodes⟩ := foldl_enter hraw ((List.range' 0 lens.length).map (nodeAt lens))
    (List.replicate (1 <<< maxLength lens) 0, List.replicate (1 <<< maxLength lens) none)
    ⟨by rw [List.length_replicate, Nat.one_shiftLeft],
      by rw [List.length_replicate, Nat.one_shiftLeft]⟩ (by
        intro nd hnd
        obtain ⟨i, -, rfl⟩ := List.mem_map.mp hnd
        by_cases hpos : 0 < lengthAt lens i
        · refine ⟨lengthAt_le_max hpos, fun _ => ?_⟩
          have hlt := ofBits_lt (codeBits lens i)
          rw [length_codeBits] at hlt
          have hcode : (nodeAt lens i).code = ofBits (codeBits lens i) := if_pos hpos
          rw [hcode]
          exact hlt
        · exact ⟨Nat.le_trans (Nat.le_of_not_lt hpos) (Nat.zero_le _), fun h => absurd h hpos⟩)
  unfold HuffTree.build_lookup
  rw [get_max_bits_eq, from_distribution_nodes]
  dsimp only
  rw [hlengths, hnodes]
  have hzero : (List.replicate (1 <<< maxLength lens) 0).getD (ofBits bits) 0 = 0 := by
    rw [List.getD_eq_getElem?_getD, List.getElem?_replicate]
    split <;> rfl
  have hnone : (List.replicate (1 <<< maxLength lens) (none : Option HuffNode)).getD (ofBits bits)
      none = none := by
    rw [List.getD_eq_getElem?_getD, List.getElem?_replicate]
    split <;> rfl
  rw [hzero, hnone, Option.or_none]
  exact ⟨rfl, rfl⟩

/-- INTERNAL: a pattern that is found begins with the code of a symbol. -/
theorem prefix_of_lookup (hlength : bits.length = maxLength lens) {nd : HuffNode}
    (h : (HuffTree.from_distribution lens).build_lookup.2.getD (ofBits bits) none = some nd) :
    ∃ j, 0 < lengthAt lens j ∧ codeBits lens j <+: bits ∧ nd = nodeAt lens j ∧
      (HuffTree.from_distribution lens).build_lookup.1.getD (ofBits bits) 0 = lengthAt lens j := by
  obtain ⟨hlengths, hnodes⟩ := lookup_eq lens hlength
  rw [hnodes] at h
  rw [h] at hlengths
  have hhit : Hits (ofBits bits) nd := by simpa using List.find?_some h
  obtain ⟨j, -, rfl⟩ := List.mem_map.mp (List.mem_reverse.mp (List.mem_of_find?_eq_some h))
  have hpos : 0 < lengthAt lens j := hhit.1
  refine ⟨j, hpos, ?_, rfl, hlengths⟩
  exact (hits_nodeAt hpos (hlength ▸ lengthAt_le_max hpos)).mp hhit

include hfits in
/-- The look-up has at each pattern the node whose code begins it. -/
theorem lookup_of_begins (hlength : bits.length = maxLength lens) (hpos : 0 < lengthAt lens i)
    (hbegin : codeBits lens i <+: bits) :
    (HuffTree.from_distribution lens).build_lookup.2.getD (ofBits bits) none =
        some (nodeAt lens i) ∧
      (HuffTree.from_distribution lens).build_lookup.1.getD (ofBits bits) 0 = lengthAt lens i := by
  have hhit := (hits_nodeAt hpos (hlength ▸ lengthAt_le_max hpos)).mpr hbegin
  have hmem : nodeAt lens i ∈ ((List.range' 0 lens.length).map (nodeAt lens)).reverse := by
    rw [List.mem_reverse]
    refine List.mem_map_of_mem ?_
    rw [List.mem_range'_1]
    have hlt := lt_length_of_pos hpos
    omega
  have hsome : (HuffTree.from_distribution lens).build_lookup.2.getD (ofBits bits) none ≠ none := by
    rw [(lookup_eq lens hlength).2]
    intro hnone
    exact List.find?_eq_none.mp hnone _ hmem (by simpa using hhit)
  obtain ⟨nd, hnd⟩ := Option.ne_none_iff_exists'.mp hsome
  obtain ⟨j, hposj, hbeginj, rfl, hlengthj⟩ := prefix_of_lookup hlength hnd
  obtain rfl := eq_of_begins hfits hpos hposj hbegin hbeginj
  exact ⟨hnd, hlengthj⟩

/-! ## Reads -/

/-- INTERNAL: a code is skipped. -/
theorem skip_code (hr : Reads r (codeBits lens i ++ tail)) :
    ∃ x r', r.read_bits (lengthAt lens i) = .ok (x, r') ∧ Reads r' tail := by
  obtain ⟨r', hread, hr'⟩ := read_bits_reads hr (n := lengthAt lens i)
    (by rw [List.length_append, length_codeBits]; exact Nat.le_add_right _ _)
  rw [List.drop_left' (length_codeBits i)] at hr'
  exact ⟨_, r', hread, hr'⟩

/-- INTERNAL: what begins with a code, cut to the width of the look-up. -/
theorem prefix_take {w : ℕ} (hle : lengthAt lens i ≤ w) :
    codeBits lens i <+: (codeBits lens i ++ tail).take w := by
  rw [List.prefix_take_iff, length_codeBits]
  exact ⟨List.prefix_append _ _, hle⟩

include hfits in
/-- A code is read as its symbol, where the look-up has its bits. -/
theorem read_code_symbol (hpos : 0 < lengthAt lens i) (hr : Reads r (codeBits lens i ++ tail))
    (hroom : maxLength lens ≤ (codeBits lens i ++ tail).length) :
    ∃ r', (HuffTree.from_distribution lens).read_code r = .ok (nodeAt lens i, r') ∧
      Reads r' tail := by
  obtain ⟨r₁, hpeek, hr₁⟩ := peek_bits_reads hr hroom
  obtain ⟨x, r₂, hskip, hr₂⟩ := skip_code hr₁
  obtain ⟨hnode, -⟩ := lookup_of_begins hfits (List.length_take_of_le hroom) hpos
    (prefix_take (lengthAt_le_max hpos))
  refine ⟨r₂, ?_, hr₂⟩
  unfold HuffTree.read_code
  rw [get_max_bits_eq, hpeek, Eff.except_ok_bind]
  dsimp only
  rw [hnode]
  show (r₁.read_bits (lengthAt lens i) >>= _) = _
  rw [hskip]
  rfl

/-- Without the bits of the look-up a read fails. -/
theorem read_code_short (hr : Reads r bits) (hshort : bits.length < maxLength lens) :
    (HuffTree.from_distribution lens).read_code r = .error endOfInput := by
  unfold HuffTree.read_code
  rw [get_max_bits_eq, peek_bits_short hr hshort]
  rfl

/-- INTERNAL: the bits of the first stage, with zeros up to the width of the look-up. -/
def staged (lens : List ℕ) (e : ℕ) (bits : List Bool) : List Bool :=
  bits.take e ++ List.replicate (maxLength lens - e) false

theorem ofBits_staged (lens : List ℕ) (e : ℕ) (bits : List Bool) :
    ofBits (staged lens e bits) = ofBits (bits.take e) := by
  rw [staged, ofBits_append, ofBits_replicate_false, Nat.mul_zero, Nat.add_zero]

include hfits in
/-- The first stage finds the codes of its length. -/
theorem first_stage {e : ℕ} (hpos : 0 < lengthAt lens i) (hmax : e < maxLength lens)
    (hroom : e ≤ (codeBits lens i ++ tail).length) :
    ((HuffTree.from_distribution lens).build_lookup.1.getD
          (ofBits ((codeBits lens i ++ tail).take e)) 0 = e ∧
        (HuffTree.from_distribution lens).build_lookup.2.getD
          (ofBits ((codeBits lens i ++ tail).take e)) none ≠ none) ↔ lengthAt lens i = e := by
  have hwidth : (staged lens e (codeBits lens i ++ tail)).length = maxLength lens := by
    rw [staged, List.length_append, List.length_take_of_le hroom, List.length_replicate]
    omega
  rw [← ofBits_staged lens]
  constructor
  · rintro ⟨hlength, hnode⟩
    obtain ⟨nd, hnd⟩ := Option.ne_none_iff_exists'.mp hnode
    obtain ⟨j, hposj, hbegin, -, hlengthj⟩ := prefix_of_lookup hwidth hnd
    have he : lengthAt lens j = e := hlengthj.symm.trans hlength
    have hbegins : codeBits lens j <+: codeBits lens i ++ tail := by
      have htake : codeBits lens j <+: (codeBits lens i ++ tail).take e := by
        refine List.prefix_of_prefix_length_le hbegin (List.prefix_append _ _) ?_
        rw [length_codeBits, he, List.length_take_of_le hroom]
      exact htake.trans (List.take_prefix _ _)
    rw [eq_of_begins hfits hpos hposj (List.prefix_append _ _) hbegins]
    exact he
  · intro he
    have hbegin : codeBits lens i <+: staged lens e (codeBits lens i ++ tail) :=
      (prefix_take (Nat.le_of_eq he)).trans (List.prefix_append _ _)
    obtain ⟨hnode, hlength⟩ := lookup_of_begins hfits hwidth hpos hbegin
    rw [hnode, hlength]
    exact ⟨he, Option.some_ne_none _⟩

/-- The bits that a read of two stages takes for a code. -/
def peeked (lens : List ℕ) (e i : ℕ) : ℕ := if lengthAt lens i = e then e else maxLength lens

include hfits in
/-- A code is read as its symbol in two stages, where they have their bits. -/
theorem two_staged_symbol {e : ℕ} (hmax : e ≤ maxLength lens) (hpos : 0 < lengthAt lens i)
    (hr : Reads r (codeBits lens i ++ tail))
    (hroom : peeked lens e i ≤ (codeBits lens i ++ tail).length) :
    ∃ r', (HuffTree.from_distribution lens).read_code_two_staged r e = .ok (nodeAt lens i, r') ∧
      Reads r' tail := by
  unfold HuffTree.read_code_two_staged
  rw [get_max_bits_eq]
  rcases Nat.lt_or_eq_of_le hmax with hlt | rfl
  · have hstage : e ≤ (codeBits lens i ++ tail).length := by
      refine Nat.le_trans ?_ hroom
      unfold peeked
      split <;> omega
    have hfirst := first_stage hfits hpos hlt hstage
    obtain ⟨r₁, hpeek, hr₁⟩ := peek_bits_reads hr hstage
    rw [if_neg (Nat.not_le_of_lt hlt), hpeek]
    dsimp only
    rw [Eff.except_ok_bind]
    dsimp only
    by_cases he : lengthAt lens i = e
    · have hwidth : (staged lens e (codeBits lens i ++ tail)).length = maxLength lens := by
        rw [staged, List.length_append, List.length_take_of_le hstage, List.length_replicate]
        omega
      obtain ⟨hnode, -⟩ := lookup_of_begins hfits hwidth hpos
        ((prefix_take (Nat.le_of_eq he)).trans (List.prefix_append _ _))
      rw [ofBits_staged] at hnode
      obtain ⟨x, r₂, hskip, hr₂⟩ := skip_code hr₁
      refine ⟨r₂, ?_, hr₂⟩
      rw [if_pos (hfirst.mpr he), Eff.except_ok_bind, hnode]
      show (r₁.read_bits (lengthAt lens i) >>= _) = _
      rw [hskip]
      rfl
    · unfold peeked at hroom
      rw [if_neg he] at hroom
      obtain ⟨r₂, hpeek', hr₂⟩ := peek_bits_reads hr₁ hroom
      obtain ⟨hnode, -⟩ := lookup_of_begins hfits (List.length_take_of_le hroom) hpos
        (prefix_take (lengthAt_le_max hpos))
      obtain ⟨x, r₃, hskip, hr₃⟩ := skip_code hr₂
      refine ⟨r₃, ?_, hr₃⟩
      rw [if_neg (fun h => he (hfirst.mp h)), hpeek', Eff.except_ok_bind, Eff.except_ok_bind, hnode]
      show (r₂.read_bits (lengthAt lens i) >>= _) = _
      rw [hskip]
      rfl
  · rw [if_pos (Nat.le_refl _)]
    refine read_code_symbol hfits hpos hr ?_
    unfold peeked at hroom
    rwa [ite_self] at hroom

include hfits in
/-- Without the bits of a stage a read fails. -/
theorem two_staged_short {e : ℕ} (hmax : e ≤ maxLength lens) (hpos : 0 < lengthAt lens i)
    (hr : Reads r (codeBits lens i ++ tail))
    (hshort : (codeBits lens i ++ tail).length < peeked lens e i) :
    (HuffTree.from_distribution lens).read_code_two_staged r e = .error endOfInput := by
  have hne : lengthAt lens i ≠ e := by
    rintro rfl
    unfold peeked at hshort
    rw [if_pos rfl, List.length_append, length_codeBits] at hshort
    omega
  unfold peeked at hshort
  rw [if_neg hne] at hshort
  unfold HuffTree.read_code_two_staged
  rw [get_max_bits_eq]
  rcases Nat.lt_or_eq_of_le hmax with hlt | rfl
  · rw [if_neg (Nat.not_le_of_lt hlt)]
    dsimp only
    rcases Nat.lt_or_ge (codeBits lens i ++ tail).length e with hnone | hstage
    · rw [peek_bits_short hr hnone]
      rfl
    · obtain ⟨r₁, hpeek, hr₁⟩ := peek_bits_reads hr hstage
      have hfirst := first_stage hfits hpos hlt hstage
      rw [hpeek, Eff.except_ok_bind]
      dsimp only
      rw [if_neg (fun h => hne (hfirst.mp h)), peek_bits_short hr₁ hshort]
      rfl
  · rw [if_pos (Nat.le_refl _)]
    exact read_code_short hr hshort

end Lookup

end Nodes

end SapRfc.Analysis.LzhTrees
