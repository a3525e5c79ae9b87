import SapRfc.Library.Lzw
import SapRfc.Analysis.LzcFrames

/-!
# The words on both sides

The compressor spells its input: its table names words that the code list has taught by then.
The entries of the decompressor are the same words, one entry for each, and its walk back to the
letter spells them.
-/

set_option autoImplicit false

namespace SapRfc.Analysis.LzcWords

open SapRfc.Library SapRfc.Program SapRfc.Analysis.LzcFrames
open Nat (ofDigits)

/-- The codes of a stream. -/
def coding (code_limit block_mode : ℕ) : Coding UInt8 where
  letters := LZC_LITERAL_COUNT
  letter := UInt8.ofNat
  first := first_seq_code block_mode
  limit := code_limit
  letters_le := by
    unfold first_seq_code
    split
    · exact le_rfl
    · exact Nat.le_succ _

/-! ## The compressor -/

/-- The table of the compressor, the words that are known, and the word behind them. -/
structure Writes (F : Coding UInt8) (s : LZCCompress) (prev : ℕ) (words : List Bytes)
    (last : Option Bytes) (w : Bytes) : Prop where
  free : s.next_free = F.first + words.length
  limit : s.code_limit = F.limit
  known : F.word words prev = some w
  table : ∀ code ch found, s.table (code, ch) = some found →
    ∃ v, F.word words code = some v ∧ F.word words found = some (v ++ [ch])
  pending : (s.emitted = 0 ∧ last = none) ∨
    (1 ≤ s.emitted ∧ ∃ code ch v, s.pending = some (code, ch) ∧ last = some v ∧
      F.word words code = some v ∧ w.head? = some ch)

/-- INTERNAL: a code that is emitted changes the output and the group. -/
theorem emit_eq (code : ℕ) (s : LZCCompress) :
    ∃ out group, LZCCompress.emit code s = { s with out := out, group := group } := by
  unfold LZCCompress.emit
  dsimp only
  split
  · exact ⟨_, _, flush_group_eq _⟩
  · exact ⟨_, _, rfl⟩

/-- INTERNAL: what `account_for` does to the dictionary. -/
theorem account_for_cases (s : LZCCompress) (code : ℕ) :
    (LZCCompress.account_for code s).code_limit = s.code_limit ∧
    (LZCCompress.account_for code s).emitted = s.emitted + 1 ∧
    ((∃ key, s.pending = some key ∧ 1 ≤ s.emitted ∧ s.next_free < s.code_limit ∧
        (LZCCompress.account_for code s).next_free = s.next_free + 1 ∧
        (LZCCompress.account_for code s).table =
          Function.update s.table key (some s.next_free)) ∨
      ((s.pending = none ∨ s.emitted = 0 ∨ s.code_limit ≤ s.next_free) ∧
        (LZCCompress.account_for code s).next_free = s.next_free ∧
        (LZCCompress.account_for code s).table = s.table)) := by
  obtain ⟨out, group, hemit⟩ := emit_eq code s
  cases hkey : s.pending with
  | none => simp [LZCCompress.account_for, hemit, hkey]
  | some key =>
    by_cases hadd : 1 ≤ s.emitted ∧ s.next_free < s.code_limit
    · by_cases hover : s.max_code < s.next_free + 1
      · simp [LZCCompress.account_for, LZCCompress.widen, LZCCompress.set_code_len,
          flush_group_eq, hemit, hkey, hadd, hover]
      · simp [LZCCompress.account_for, LZCCompress.widen, hemit, hkey, hadd, hover]
    · have hnot : s.emitted = 0 ∨ s.code_limit ≤ s.next_free := by omega
      simp [LZCCompress.account_for, hemit, hkey, hadd, hnot]

variable {F : Coding UInt8}

/-- INTERNAL: behind a code that is written, the table names words that are known. -/
theorem Writes.account_for {s : LZCCompress} {prev : ℕ} {words : List Bytes}
    {last : Option Bytes} {w : Bytes} (h : Writes F s prev words last w)
    (hletters : F.letters = LZC_LITERAL_COUNT) (hletter : F.letter = UInt8.ofNat) (ch : UInt8) :
    Writes F { LZCCompress.account_for prev s with pending := some (prev, ch) } ch.toNat
      (F.learn words last w) (some w) [ch] := by
  obtain ⟨hlimit, hemitted, hcases⟩ := account_for_cases s prev
  have hknown : F.word (F.learn words last w) ch.toNat = some [ch] := by
    rw [Coding.word_letter _ (by rw [hletters]; exact ch.toNat_lt), hletter, UInt8.ofNat_toNat]
  have hpending : 1 ≤ s.emitted + 1 ∧ ∃ code x v, some (prev, ch) = some (code, x) ∧
      some w = some v ∧ F.word (F.learn words last w) code = some v ∧ [ch].head? = some x :=
    ⟨Nat.succ_pos _, prev, ch, w, rfl, rfl, Coding.word_learn last w h.known, rfl⟩
  rcases hcases with ⟨key, hkey, hstarted, hroom, hfree, htable⟩ | ⟨hwhy, hfree, htable⟩
  · rcases h.pending with ⟨hzero, -⟩ | ⟨-, code, x, v, hsome, hlast, hv, hhead⟩
    · omega
    · obtain rfl : key = (code, x) := Option.some.inj (hkey.symm.trans hsome)
      have htake : w.take 1 = [x] := by
        cases w with
        | nil => cases hhead
        | cons y ys => rw [List.take_succ_cons, List.take_zero, Option.some.inj hhead]
      have hlearn : F.learn words last w = words ++ [v ++ [x]] := by
        rw [hlast, Coding.learn, if_pos (by rw [← h.free, ← h.limit]; exact hroom), htake]
      refine ⟨?_, hlimit.trans h.limit, hknown, ?_, Or.inr ?_⟩
      · show (LZCCompress.account_for prev s).next_free = _
        rw [hfree, h.free, hlearn, List.length_append, List.length_singleton, Nat.add_assoc]
      · intro code' ch' found hfound
        have hfound' : Function.update s.table (code, x) (some s.next_free) (code', ch') =
            some found := by
          rw [← htable]
          exact hfound
        by_cases hsame : (code', ch') = (code, x)
        · -- the entry that was pending
          rw [hsame, Function.update_self] at hfound'
          obtain ⟨rfl, rfl⟩ := Prod.mk.inj hsame
          refine ⟨v, Coding.word_learn last w hv, ?_⟩
          rw [← Option.some.inj hfound', h.free, hlearn, Coding.word_first_add,
            List.getElem?_concat_length]
        · rw [Function.update_of_ne hsame] at hfound'
          obtain ⟨u, hu, hword⟩ := h.table code' ch' found hfound'
          exact ⟨u, Coding.word_learn last w hu, Coding.word_learn last w hword⟩
      · rw [hemitted]
        exact hpending
  · have hlearn : F.learn words last w = words := by
      rcases h.pending with ⟨-, hlast⟩ | ⟨hstarted, code, x, v, hsome, hlast, -, -⟩
      · rw [hlast, Coding.learn]
      · have hfull : s.code_limit ≤ s.next_free := by
          rcases hwhy with hnone | hzero | hfull
          · rw [hnone] at hsome
            cases hsome
          · omega
          · exact hfull
        rw [hlast, Coding.learn, if_neg (by rw [← h.free, ← h.limit]; omega)]
    refine ⟨?_, hlimit.trans h.limit, hknown, ?_, Or.inr ?_⟩
    · show (LZCCompress.account_for prev s).next_free = _
      rw [hfree, hlearn, h.free]
    · intro code' ch' found hfound
      have hfound' : s.table (code', ch') = some found := by
        rw [← htable]
        exact hfound
      rw [hlearn]
      exact h.table code' ch' found hfound'
    · rw [hemitted]
      exact hpending

/-- INTERNAL: a byte that the table knows makes the word longer. -/
theorem Writes.extend {s : LZCCompress} {prev found : ℕ} {words : List Bytes}
    {last : Option Bytes} {w : Bytes} {ch : UInt8} (h : Writes F s prev words last w)
    (hfound : s.table (prev, ch) = some found) :
    Writes F s found words last (w ++ [ch]) := by
  obtain ⟨v, hv, hword⟩ := h.table prev ch found hfound
  obtain rfl : v = w := Option.some.inj (hv.symm.trans h.known)
  refine ⟨h.free, h.limit, hword, h.table, ?_⟩
  rcases h.pending with hzero | ⟨hstarted, code, x, u, hsome, hlast, hu, hhead⟩
  · exact Or.inl hzero
  · refine Or.inr ⟨hstarted, code, x, u, hsome, hlast, hu, ?_⟩
    rw [List.head?_append, hhead]
    rfl

/-- INTERNAL: behind the first code there is always an entry to come. -/
theorem Writes.some_pending {s : LZCCompress} {prev : ℕ} {words : List Bytes}
    {last : Option Bytes} {w : Bytes} (h : Writes F s prev words last w) (hone : 1 ≤ s.emitted) :
    s.pending ≠ none := by
  rcases h.pending with ⟨hzero, -⟩ | ⟨-, code, x, v, hsome, -⟩
  · omega
  · rw [hsome]
    exact Option.some_ne_none _

/-- The compressor writes codes that spell its input. -/
theorem loop_spells (hletters : F.letters = LZC_LITERAL_COUNT) (hletter : F.letter = UInt8.ofNat)
    (data : Bytes) : ∀ {s : LZCCompress} {prev : ℕ} {words : List Bytes} {last : Option Bytes}
      {w : Bytes}, Writes F s prev words last w → (framer s).Fits →
      ∃ codes, F.Spells words last codes (w ++ data) ∧
        framer (LZCCompress.loop data prev s) = ((framer s).puts codes).flush := by
  induction data with
  | nil =>
    intro s prev words last w h hfits
    refine ⟨[prev], .cons h.known (.nil _ _), ?_⟩
    rw [LZCCompress.loop, flush_group_eq]
    show (framer (LZCCompress.account_for prev s)).flush = _
    rw [framer_account_for h.some_pending hfits.free_le]
    rfl
  | cons ch data ih =>
    intro s prev words last w h hfits
    cases hfound : s.table (prev, ch) with
    | some found =>
      obtain ⟨codes, hspells, hframer⟩ := ih (h.extend hfound) hfits
      refine ⟨codes, ?_, ?_⟩
      · rw [List.append_cons]
        exact hspells
      · rw [LZCCompress.loop, hfound]
        exact hframer
    | none =>
      have hput : framer { LZCCompress.account_for prev s with pending := some (prev, ch) } =
          (framer s).put prev := framer_account_for h.some_pending hfits.free_le prev
      obtain ⟨codes, hspells, hframer⟩ := ih (h.account_for hletters hletter ch)
        (by rw [hput]; exact Framer.put_fits hfits prev)
      refine ⟨prev :: codes, ?_, ?_⟩
      · exact .cons h.known hspells
      · rw [LZCCompress.loop, hfound]
        rw [hput] at hframer
        exact hframer

/-! ## The counter -/

/-- The counter of the frames counts the words that are known. -/
structure Counts (F : Coding UInt8) (P : Framer) (words : List Bytes) (last : Option Bytes) :
    Prop where
  free : P.next_free = F.first + words.length
  limit : P.code_limit = F.limit
  started : P.started = last.isSome

variable {P : Framer} {words : List Bytes} {last : Option Bytes} {w : Bytes} {code : ℕ}

/-- INTERNAL: the counter grows where a word is learned. -/
theorem Counts.counted (h : Counts F P words last) (w : Bytes) :
    P.counted = F.first + (F.learn words last w).length := by
  unfold Framer.counted
  rw [h.started, h.free, h.limit]
  cases last with
  | none => rfl
  | some p =>
    by_cases hroom : F.first + words.length < F.limit
    · rw [if_pos ⟨rfl, hroom⟩, Coding.learn, if_pos hroom, List.length_append,
        List.length_singleton, Nat.add_assoc]
    · rw [if_neg (fun hc => hroom hc.2), Coding.learn, if_neg hroom]

theorem Counts.put (hfits : P.Fits) (h : Counts F P words last) (w : Bytes) :
    Counts F (P.put code) (F.learn words last w) (some w) := by
  have hcounted := h.counted w
  have hplaced := Framer.placed_put hfits code
  generalize P.put code = Q at hplaced ⊢
  cases hplaced with
  | inside short free => exact ⟨hcounted, h.limit, rfl⟩
  | full eight free => exact ⟨hcounted, h.limit, rfl⟩
  | wider above => exact ⟨hcounted, h.limit, rfl⟩

/-- Codes that spell something are below the counter. -/
theorem spells_below {codes : List ℕ} {text : Bytes} (h : F.Spells words last codes text) :
    ∀ {P : Framer}, P.Fits → Counts F P words last → P.Below codes := by
  induction h with
  | nil words last => intro P hfits hcounts; trivial
  | @cons words last code w codes text known rest ih =>
    intro P hfits hcounts
    refine ⟨?_, ih (Framer.put_fits hfits code) (hcounts.put hfits w)⟩
    rw [hcounts.free]
    exact Coding.word_lt known

/-! ## The entries of the decompressor -/

/-- The entries are the words: each is the word of a smaller code and one byte. -/
structure Entries (F : Coding UInt8) (codes : ℕ → Option CodeDef) (words : List Bytes) :
    Prop where
  none_of_lt : ∀ c, c < F.first → codes c = none
  entry : ∀ i w, words[i]? = some w → ∃ base p x,
    codes (F.first + i) = some ⟨base, x, p.length⟩ ∧ F.word words base = some p ∧
      base < F.first + i ∧ w = p ++ [x]

variable {codes : ℕ → Option CodeDef}

theorem entries_nil : Entries F (fun _ => none) [] :=
  ⟨fun _ _ => rfl, fun i w h => by cases h⟩

/-- A word is not longer than its code allows. -/
theorem Entries.length_le (h : Entries F codes words) :
    ∀ (code : ℕ) (w : Bytes), F.word words code = some w → w ≠ [] ∧ w.length ≤ code + 1 := by
  intro code
  induction code using Nat.strong_induction_on with
  | _ code ih =>
    intro w hw
    rcases Coding.word_cases hw with ⟨-, rfl⟩ | ⟨i, -, rfl, -, hi⟩
    · exact ⟨List.cons_ne_nil _ _, Nat.succ_le_succ (Nat.zero_le _)⟩
    · obtain ⟨base, p, x, -, hp, hbase, rfl⟩ := h.entry i w hi
      obtain ⟨-, hlen⟩ := ih base hbase p hp
      refine ⟨by simp, ?_⟩
      rw [List.length_append, List.length_singleton]
      omega

/-- The depth that an entry notes, or none for a letter, is one less than the length. -/
theorem Entries.chain_index (h : Entries F codes words) (hw : F.word words code = some w) :
    (match codes code with
      | some cdef => cdef.chain_index
      | none => 0) + 1 = w.length := by
  rcases Coding.word_cases hw with ⟨hlt, rfl⟩ | ⟨i, -, rfl, -, hi⟩
  · rw [h.none_of_lt code (lt_of_lt_of_le hlt F.letters_le)]
    rfl
  · obtain ⟨base, p, x, hentry, -, -, rfl⟩ := h.entry i w hi
    rw [hentry, List.length_append, List.length_singleton]

/-- A new entry behind the others. -/
theorem Entries.learn {v : Bytes} {x : UInt8} (h : Entries F codes words)
    (hv : F.word words code = some v) :
    Entries F (Function.update codes (F.first + words.length) (some ⟨code, x, v.length⟩))
      (words ++ [v ++ [x]]) := by
  have hlt := Coding.word_lt hv
  constructor
  · intro c hc
    rw [Function.update_of_ne (by omega)]
    exact h.none_of_lt c hc
  · intro i w hi
    obtain ⟨hlen, -⟩ := List.getElem?_eq_some_iff.mp hi
    rw [List.length_append, List.length_singleton] at hlen
    by_cases hlast : i = words.length
    · subst hlast
      rw [List.getElem?_concat_length] at hi
      refine ⟨code, v, x, Function.update_self .., Coding.word_append _ hv, hlt, ?_⟩
      exact (Option.some.inj hi).symm
    · rw [List.getElem?_append_left (by omega)] at hi
      obtain ⟨base, p, y, hentry, hp, hbase, rfl⟩ := h.entry i w hi
      refine ⟨base, p, y, ?_, Coding.word_append _ hp, hbase, rfl⟩
      rw [Function.update_of_ne (by omega), hentry]

/-- INTERNAL: one byte of the buffer is set. -/
theorem drop_set_self {buf : Bytes} {n : ℕ} (x : UInt8) (h : n < buf.length) :
    (buf.set n x).drop n = x :: buf.drop (n + 1) := by
  rw [List.set_eq_take_append_cons_drop, if_pos h]
  exact List.drop_left' (by rw [List.length_take]; omega)

/-- The walk back to the letter puts the word of a code at the front of the buffer. -/
theorem walk_chain_spec (h : Entries F codes words) (hletters : F.letters = LZC_LITERAL_COUNT)
    (hletter : F.letter = UInt8.ofNat) :
    ∀ (fuel code : ℕ) (w : Bytes) (chain_len : ℕ) (buf : Bytes), F.word words code = some w →
      code < fuel → w.length ≤ buf.length →
      ∃ buf', LZCDecompress.walk_chain (F.first + words.length) codes fuel code chain_len buf =
          .ok (chain_len + w.length, buf') ∧
        buf'.take w.length = w ∧ buf'.drop w.length = buf.drop w.length ∧
        buf'.length = buf.length := by
  intro fuel
  induction fuel with
  | zero => intro code w chain_len buf hw hlt; omega
  | succ fuel ih =>
    intro code w chain_len buf hw hlt hlen
    rcases Coding.word_cases hw with ⟨hlit, rfl⟩ | ⟨i, hge, rfl, hi, hword⟩
    · rw [hletters] at hlit
      have hset : LZCDecompress.set_char buf 0 (UInt8.ofNat code) =
          .ok (buf.set 0 (UInt8.ofNat code)) := if_pos hlen
      have hdrop : (buf.set 0 (UInt8.ofNat code)).drop 0 = UInt8.ofNat code :: buf.drop 1 :=
        drop_set_self (UInt8.ofNat code) hlen
      rw [List.drop_zero] at hdrop
      refine ⟨buf.set 0 (UInt8.ofNat code), ?_, ?_, ?_, List.length_set⟩
      · rw [LZCDecompress.walk_chain, if_pos hlit, hset]
        rfl
      · rw [hdrop, hletter]
        rfl
      · rw [hdrop]
        rfl
    · obtain ⟨base, p, x, hentry, hp, hbase, rfl⟩ := h.entry i w hword
      rw [hletters] at hge
      rw [List.length_append, List.length_singleton] at hlen ⊢
      have hroom : p.length < buf.length := by omega
      have hset : LZCDecompress.set_char buf p.length x = .ok (buf.set p.length x) :=
        if_pos hroom
      obtain ⟨buf', heq, htake, hdrop, hlength⟩ := ih base p (chain_len + 1)
        (buf.set p.length x) hp (by omega) (by rw [List.length_set]; omega)
      rw [drop_set_self x hroom] at hdrop
      refine ⟨buf', ?_, ?_, ?_, hlength.trans List.length_set⟩
      · have hnot : ¬ F.first + i < LZC_LITERAL_COUNT := Nat.not_lt_of_le hge
        have hfree : ¬ F.first + words.length ≤ F.first + i := by omega
        rw [LZCDecompress.walk_chain, if_neg hnot, if_neg hfree, hentry]
        show (LZCDecompress.set_char buf p.length x >>= fun buf =>
          LZCDecompress.walk_chain (F.first + words.length) codes fuel base (chain_len + 1) buf) = _
        rw [hset]
        show LZCDecompress.walk_chain (F.first + words.length) codes fuel base (chain_len + 1)
          (buf.set p.length x) = _
        rw [heq, Nat.add_assoc, Nat.add_comm 1]
      · rw [List.take_add, htake, hdrop]
        rfl
      · rw [← List.drop_drop, hdrop]
        rfl

end SapRfc.Analysis.LzcWords
