import SapRfc.Library.BitPacking
import SapRfc.Library.RingBuffers
import SapRfc.Program.Lz4

/-!
# LZ4 blocks

A block is a list of sequences, each of a run of literals and a match, and an ending.  The format
writes a length as a nibble and, from 15 on, as bytes behind it.  The decompressor returns the
expansion of a block's sequences.  What it accepts beyond the blocks of the format differs from
them at the end only: the last token's second nibble is not read, the last literals may be
missing, and the last match's length may stop where the input does.
-/

set_option autoImplicit false

namespace SapRfc.Analysis.Lz4Blocks

open SapRfc.Library SapRfc.Library.CountedLoops SapRfc.Library.RingBuffers SapRfc.Program
  SapRfc.Program.Lz4Block

/-! ## Blocks -/

/-- Literals, and a match behind them. -/
structure Sequence where
  literals : Bytes
  offset : ℕ
  length : ℕ
  deriving DecidableEq, Repr

/-- The bytes behind a nibble. -/
def extra (n : ℕ) : Bytes :=
  if n < 15 then [] else List.replicate ((n - 15) / 255) 255 ++ [UInt8.ofNat ((n - 15) % 255)]

/-- A token, from the length of the literals and a second nibble. -/
def token (literals nibble : ℕ) : UInt8 := UInt8.ofNat (16 * min literals 15 + nibble)

/-- Literals behind a token. -/
def encodeLiterals (literals : Bytes) (nibble : ℕ) : Bytes :=
  token literals.length nibble :: (extra literals.length ++ literals)

/-- A sequence in the format. -/
def Sequence.encode (s : Sequence) : Bytes :=
  encodeLiterals s.literals (min (s.length - 4) 15) ++ (toLE 2 s.offset ++ extra (s.length - 4))

/-- The output behind a sequence. -/
def Sequence.expand (out : Bytes) (s : Sequence) : Bytes :=
  copyBack s.offset s.length (out ++ s.literals)

/-- A match that the format can write, within what is produced so far. -/
structure Sequence.Legal (out : Bytes) (s : Sequence) : Prop where
  pos : 1 ≤ s.offset
  short : s.offset ≤ 65535
  produced : s.offset ≤ (out ++ s.literals).length
  long : 4 ≤ s.length

/-- The output behind a list of sequences. -/
def expand (out : Bytes) (seqs : List Sequence) : Bytes := seqs.foldl Sequence.expand out

/-- Each match is within what is produced before it. -/
def Legal : Bytes → List Sequence → Prop
  | _, [] => True
  | out, s :: seqs => s.Legal out ∧ Legal (s.expand out) seqs

/-- What ends an input that is accepted: literals, which in the format have a zero nibble, or
nothing, or a sequence whose length is so many bytes 255 and stops there. -/
inductive Ending where
  | literals (nibble : Fin 16) (last : Bytes)
  | missing
  | stopped (run : Bytes) (offset full : ℕ)
  deriving DecidableEq, Repr

def Ending.encode : Ending → Bytes
  | .literals nibble last => encodeLiterals last nibble
  | .missing => []
  | .stopped run offset full =>
    encodeLiterals run 15 ++ (toLE 2 offset ++ List.replicate full 255)

/-- The sequence that an ending stands for, and the literals behind it. -/
def Ending.sequences : Ending → List Sequence × Bytes
  | .literals _ last => ([], last)
  | .missing => ([], [])
  | .stopped run offset full => ([⟨run, offset, 19 + 255 * full⟩], [])

/-- Sequences in the format, with an ending behind them. -/
def encode (seqs : List Sequence) (ending : Ending) : Bytes :=
  seqs.flatMap Sequence.encode ++ ending.encode

/-- The output behind a list of sequences and an ending. -/
def output (out : Bytes) (seqs : List Sequence) (ending : Ending) : Bytes :=
  expand out (seqs ++ ending.sequences.1) ++ ending.sequences.2

/-! ## Lengths -/

section Lengths

variable {a b n base nibble : ℕ} {left rest : Bytes}

/-- INTERNAL: a length's bytes, in front of anything. -/
theorem read_extra_replicate {r : ℕ} (hr : r < 255) (k a : ℕ) (left : Bytes) :
    read_extra a (List.replicate k 255 ++ UInt8.ofNat r :: left) = (a + 255 * k + r, left) := by
  induction k generalizing a with
  | zero =>
    have hbyte : (UInt8.ofNat r).toNat = r := UInt8.toNat_ofNat_of_lt' (show r < 256 by omega)
    have hne : UInt8.ofNat r ≠ 255 := by
      intro heq
      rw [heq] at hbyte
      exact absurd hbyte.symm (Nat.ne_of_lt hr)
    simp only [List.replicate_zero, List.nil_append, read_extra]
    rw [if_pos hne, hbyte]
    rfl
  | succ k ih =>
    rw [List.replicate_succ, List.cons_append, read_extra, if_neg (not_not.mpr rfl), ih]
    simp only [Prod.mk.injEq, and_true]
    have hfull : (255 : UInt8).toNat = 255 := rfl
    rw [hfull]
    omega

/-- INTERNAL: a length's bytes, where the input ends. -/
theorem read_extra_stopped (k a : ℕ) :
    read_extra a (List.replicate k 255) = (a + 255 * k, []) := by
  induction k generalizing a with
  | zero => rfl
  | succ k ih =>
    rw [List.replicate_succ, read_extra, if_neg (not_not.mpr rfl), ih]
    simp only [Prod.mk.injEq, and_true]
    have hfull : (255 : UInt8).toNat = 255 := rfl
    rw [hfull]
    omega

/-- INTERNAL: a length's bytes either end below 255, or with the input. -/
theorem read_extra_cases (a : ℕ) (left : Bytes) :
    (∃ k r rest, r < 255 ∧ left = List.replicate k 255 ++ UInt8.ofNat r :: rest ∧
      read_extra a left = (a + 255 * k + r, rest)) ∨
    ∃ k, left = List.replicate k 255 ∧ read_extra a left = (a + 255 * k, []) := by
  induction left generalizing a with
  | nil => exact .inr ⟨0, rfl, rfl⟩
  | cons x left ih =>
    by_cases hx : x = 255
    · subst hx
      have hturn : read_extra a (255 :: left) = read_extra (a + 255) left := by
        rw [read_extra, if_neg (not_not.mpr rfl)]
        rfl
      rcases ih (a + 255) with ⟨k, r, rest, hr, hleft, hread⟩ | ⟨k, hleft, hread⟩
      · refine .inl ⟨k + 1, r, rest, hr, ?_, ?_⟩
        · rw [hleft, List.replicate_succ, List.cons_append]
        · rw [hturn, hread, Nat.mul_succ]
          simp only [Prod.mk.injEq, and_true]
          omega
      · refine .inr ⟨k + 1, ?_, ?_⟩
        · rw [hleft, List.replicate_succ]
        · rw [hturn, hread, Nat.mul_succ]
          simp only [Prod.mk.injEq, and_true]
          omega
    · have hlt : x.toNat < 255 := by
        have hle := x.toNat_lt
        have hne : x.toNat ≠ 255 := fun heq => hx (UInt8.toNat_inj.mp heq)
        omega
      refine .inl ⟨0, x.toNat, left, hlt, ?_, ?_⟩
      · rw [UInt8.ofNat_toNat]
        rfl
      · rw [read_extra, if_pos hx]
        rfl

theorem extra_of_lt (h : n < 15) : extra n = [] := if_pos h

theorem extra_full {k r : ℕ} (hr : r < 255) :
    extra (15 + 255 * k + r) = List.replicate k 255 ++ [UInt8.ofNat r] := by
  have hsub : 15 + 255 * k + r - 15 = r + 255 * k := by omega
  unfold extra
  rw [if_neg (by omega), hsub, Nat.add_mul_div_left r k (by omega), Nat.div_eq_of_lt hr,
    Nat.zero_add, Nat.add_mul_mod_self_left, Nat.mod_eq_of_lt hr]

/-- A length that the format writes is read back. -/
theorem read_length_extra (n base : ℕ) (left : Bytes) :
    read_length (min n 15) (min n 15 + base) (extra n ++ left) = (n + base, left) := by
  unfold read_length
  by_cases hn : n < 15
  · rw [if_neg (by omega), extra_of_lt hn, Nat.min_eq_left (Nat.le_of_lt hn), List.nil_append]
  · have hsplit : n = 15 + 255 * ((n - 15) / 255) + (n - 15) % 255 := by omega
    have hr : (n - 15) % 255 < 255 := Nat.mod_lt _ (by omega)
    rw [if_pos (by omega), Nat.min_eq_right (by omega)]
    generalize (n - 15) / 255 = k at hsplit
    generalize (n - 15) % 255 = r at hsplit hr
    subst hsplit
    rw [extra_full hr, List.append_assoc, List.singleton_append, read_extra_replicate hr]
    simp only [Prod.mk.injEq, and_true]
    omega

/-- A length that is read is one that the format writes, or stops with the input. -/
theorem read_length_cases (hnibble : nibble < 16) (base : ℕ) (left : Bytes) :
    (∃ n rest, nibble = min n 15 ∧ left = extra n ++ rest ∧
      read_length nibble (nibble + base) left = (n + base, rest)) ∨
    ∃ k, nibble = 15 ∧ left = List.replicate k 255 ∧
      read_length nibble (nibble + base) left = (15 + base + 255 * k, []) := by
  unfold read_length
  by_cases h15 : nibble = 15
  · subst h15
    rw [if_pos rfl]
    rcases read_extra_cases (15 + base) left with ⟨k, r, rest, hr, hleft, hread⟩ | ⟨k, hleft, hread⟩
    · refine .inl ⟨15 + 255 * k + r, rest, by omega, ?_, ?_⟩
      · rw [extra_full hr, hleft, List.append_assoc, List.singleton_append]
      · rw [hread]
        simp only [Prod.mk.injEq, and_true]
        omega
    · exact .inr ⟨k, rfl, hleft, hread⟩
  · refine .inl ⟨nibble, left, by omega, ?_, if_neg h15⟩
    rw [extra_of_lt (by omega), List.nil_append]

end Lengths

/-! ## Tokens and offsets -/

theorem token_toNat {nibble : ℕ} (n : ℕ) (h : nibble < 16) :
    (token n nibble).toNat = 16 * min n 15 + nibble :=
  UInt8.toNat_ofNat_of_lt' (show 16 * min n 15 + nibble < 256 by omega)

/-- INTERNAL: the two nibbles of a byte. -/
theorem shiftRight_four (x : UInt8) : x.toNat >>> 4 &&& 0xF = x.toNat / 16 := by
  have hlt := x.toNat_lt
  have hmask : x.toNat >>> 4 &&& 0xF = x.toNat >>> 4 % 2 ^ 4 := Nat.and_two_pow_sub_one_eq_mod _ 4
  rw [hmask, Nat.shiftRight_eq_div_pow]
  omega

theorem and_fifteen (x : UInt8) : x.toNat &&& 0xF = x.toNat % 16 :=
  Nat.and_two_pow_sub_one_eq_mod _ 4

theorem token_high {nibble : ℕ} (n : ℕ) (h : nibble < 16) :
    (token n nibble).toNat >>> 4 &&& 0xF = min n 15 := by
  rw [shiftRight_four, token_toNat n h]
  omega

theorem token_low {nibble : ℕ} (n : ℕ) (h : nibble < 16) :
    (token n nibble).toNat &&& 0xF = nibble := by
  rw [and_fifteen, token_toNat n h]
  omega

/-- INTERNAL: a byte is the token of its nibbles. -/
theorem eq_token {x : UInt8} {n : ℕ} (h : x.toNat >>> 4 &&& 0xF = min n 15) :
    x = token n (x.toNat % 16) := by
  rw [shiftRight_four] at h
  refine UInt8.toNat_inj.mp ?_
  rw [token_toNat n (Nat.mod_lt _ (by omega)), ← h]
  omega

theorem offset_eq (low high : UInt8) :
    low.toNat ||| high.toNat <<< 8 = low.toNat + 256 * high.toNat := by
  rw [or_shiftLeft high.toNat (n := 8) low.toNat_lt]
  omega

/-! ## Copies -/

section Copies

variable {offset : ℕ} {out : Bytes}

/-- INTERNAL: the loop over a match's length. -/
theorem foldlM_append_copy (hpos : 1 ≤ offset) (hle : offset ≤ out.length) (n : ℕ) :
    (List.range n).foldlM (append_copy (out.length - offset)) out =
      .ok (copyBack offset n out) := by
  induction n with
  | zero => rfl
  | succ n ih =>
    have hlength := length_copyBack hpos hle n
    have hindex : out.length - offset + n = (copyBack offset n out).length - offset := by
      rw [hlength]
      omega
    have hreach : offset ≤ (copyBack offset n out).length := by
      rw [hlength]
      exact Nat.le_add_right_of_le hle
    obtain ⟨b, hb⟩ := toList_back hpos hreach
    rw [List.range_succ, List.foldlM_append, ih, Eff.except_ok_bind, List.foldlM_cons,
      append_copy, hindex, hb, copyBack_succ, hb]
    rfl

/-- A match within what is produced so far is copied byte by byte. -/
theorem copy_match_eq (hpos : 1 ≤ offset) (hle : offset ≤ out.length) (n : ℕ) :
    copy_match offset n out = .ok (copyBack offset n out) := by
  unfold copy_match
  rw [if_neg (Nat.not_lt.mpr hle), foldlM_append_copy hpos hle]

end Copies

/-! ## Turns -/

section Turns

variable {offset nibble : ℕ} {out : Bytes}

/-- INTERNAL: a turn reads its literals. -/
theorem turn_literals (n : ℕ) (literals rest out : Bytes) (h : nibble < 16) :
    turn n ⟨encodeLiterals literals nibble ++ rest, out⟩ =
      read_match n (token literals.length nibble) (out ++ literals) rest := by
  have hlength : ¬ (literals ++ rest).length < literals.length := by
    rw [List.length_append]
    omega
  have hread := read_length_extra literals.length 0 (literals ++ rest)
  simp only [Nat.add_zero] at hread
  unfold turn encodeLiterals
  simp only [List.cons_append, List.append_assoc, token_high _ h, hread]
  rw [if_neg hlength, List.take_left, List.drop_left]

/-- INTERNAL: behind the literals, an offset and a length. -/
theorem read_match_toLE (hpos : 1 ≤ offset) (hshort : offset ≤ 65535) (n : ℕ) (x : UInt8)
    (out left : Bytes) {length : ℕ} {rest : Bytes}
    (hread : read_length (x.toNat &&& 0xF) ((x.toNat &&& 0xF) + 4) left = (length, rest))
    (hle : offset ≤ out.length) :
    read_match n x out (toLE 2 offset ++ left) =
      .ok (true, ⟨rest, copyBack offset length out⟩) := by
  have hoffset : (UInt8.ofNat offset).toNat ||| (UInt8.ofNat (offset / 256)).toNat <<< 8 =
      offset := by
    rw [offset_eq, UInt8.toNat_ofNat', UInt8.toNat_ofNat']
    omega
  rw [toLE_two]
  simp only [List.cons_append, List.nil_append, read_match, hoffset, hread]
  rw [if_neg (by omega), copy_match_eq hpos hle]
  rfl

/-- A turn reads a sequence. -/
theorem turn_encode {s : Sequence} (h : s.Legal out) (n : ℕ) (rest : Bytes) :
    turn n ⟨s.encode ++ rest, out⟩ = .ok (true, ⟨rest, s.expand out⟩) := by
  have hnibble : min (s.length - 4) 15 < 16 := by omega
  have hread := read_length_extra (s.length - 4) 4 rest
  rw [Nat.sub_add_cancel h.long] at hread
  unfold Sequence.encode
  rw [List.append_assoc, List.append_assoc, turn_literals n _ _ _ hnibble]
  refine read_match_toLE h.pos h.short n _ _ _ ?_ h.produced
  rw [token_low _ hnibble]
  exact hread

/-- A turn reads a sequence whose length stops where the input does. -/
theorem turn_stopped {run : Bytes} (hpos : 1 ≤ offset) (hshort : offset ≤ 65535)
    (hle : offset ≤ (out ++ run).length) (n full : ℕ) :
    turn n ⟨(Ending.stopped run offset full).encode, out⟩ =
      .ok (true, ⟨[], copyBack offset (19 + 255 * full) (out ++ run)⟩) := by
  unfold Ending.encode
  rw [turn_literals n _ _ _ (by omega)]
  refine read_match_toLE hpos hshort n _ _ _ ?_ hle
  rw [token_low _ (by omega)]
  exact read_extra_stopped full 19

/-- INTERNAL: what can follow the literals. -/
theorem read_match_cases (n : ℕ) (x : UInt8) (out left : Bytes) :
    (∃ text, read_match n x out left = .error (.decompress text)) ∨
    (left = [] ∧ read_match n x out left = .ok (false, ⟨[], out⟩)) ∨
    ∃ offset, 1 ≤ offset ∧ offset ≤ 65535 ∧ offset ≤ out.length ∧
      ((∃ length rest, x.toNat % 16 = min length 15 ∧
          left = toLE 2 offset ++ extra length ++ rest ∧
          read_match n x out left = .ok (true, ⟨rest, copyBack offset (length + 4) out⟩)) ∨
        ∃ full, x.toNat % 16 = 15 ∧ left = toLE 2 offset ++ List.replicate full 255 ∧
          read_match n x out left =
            .ok (true, ⟨[], copyBack offset (19 + 255 * full) out⟩)) := by
  match left with
  | [] => exact .inr (.inl ⟨rfl, rfl⟩)
  | [_] => exact .inl ⟨_, rfl⟩
  | low :: high :: left =>
    have hlow := low.toNat_lt
    have hhigh := high.toNat_lt
    obtain ⟨offset, hoffset⟩ : ∃ offset, low.toNat + 256 * high.toNat = offset := ⟨_, rfl⟩
    have hbytes : low :: high :: left = toLE 2 offset ++ left := by
      rw [toLE_two, ← hoffset]
      simp only [List.cons_append, List.nil_append, List.cons.injEq, and_true]
      refine ⟨UInt8.toNat_inj.mp ?_, UInt8.toNat_inj.mp ?_⟩
      · rw [UInt8.toNat_ofNat']
        omega
      · rw [UInt8.toNat_ofNat']
        omega
    by_cases hzero : offset = 0
    · refine .inl ⟨lit "LZ4 block: match offset 0 is invalid", ?_⟩
      simp only [read_match, offset_eq, hoffset]
      rw [if_pos hzero]
      rfl
    by_cases hle : offset ≤ out.length
    · have hread : ∀ length rest, read_length (x.toNat % 16) (x.toNat % 16 + 4) left =
          (length, rest) → read_match n x out (low :: high :: left) =
            .ok (true, ⟨rest, copyBack offset length out⟩) := by
        intro length rest h
        rw [← and_fifteen] at h
        rw [hbytes]
        exact read_match_toLE (by omega) (by omega) n x out left h hle
      refine .inr (.inr ⟨offset, by omega, by omega, hle, ?_⟩)
      rcases read_length_cases (Nat.mod_lt x.toNat (show 0 < 16 by omega)) 4 left with
        ⟨length, rest, hnibble, hleft, hlength⟩ | ⟨full, hnibble, hleft, hlength⟩
      · refine .inl ⟨length, rest, hnibble, ?_, hread _ _ hlength⟩
        rw [hbytes, hleft, List.append_assoc]
      · refine .inr ⟨full, hnibble, ?_, hread _ _ hlength⟩
        rw [hbytes, hleft]
    · left
      simp only [read_match, offset_eq, hoffset]
      rw [if_neg hzero]
      unfold copy_match
      rw [if_pos (by omega)]
      exact ⟨_, rfl⟩

/-- A turn reads a sequence, or the ending, or fails. -/
theorem turn_cases (n : ℕ) (s : Lz4Block) :
    (∃ text, turn n s = .error (.decompress text)) ∨
    (∃ ending, Legal s.out ending.sequences.1 ∧ s.left = ending.encode ∧
      ∃ more, turn n s = .ok (more, ⟨[], output s.out [] ending⟩)) ∨
    ∃ (seq : Sequence) (rest : Bytes), seq.Legal s.out ∧ s.left = seq.encode ++ rest ∧
      turn n s = .ok (true, ⟨rest, seq.expand s.out⟩) := by
  obtain ⟨left, out⟩ := s
  match left with
  | [] =>
    refine .inr (.inl ⟨.missing, trivial, rfl, false, ?_⟩)
    show Except.ok (false, Lz4Block.mk [] out) = Except.ok (false, ⟨[], out ++ []⟩)
    rw [List.append_nil]
  | x :: left =>
    have hlow : x.toNat % 16 < 16 := Nat.mod_lt _ (by omega)
    have hhigh : x.toNat >>> 4 &&& 0xF < 16 := by
      rw [shiftRight_four]
      have hlt := x.toNat_lt
      omega
    rcases read_length_cases hhigh 0 left with
      ⟨length, rest, hnibble, hleft, hread⟩ | ⟨full, hnibble, hleft, hread⟩
    · simp only [Nat.add_zero] at hread
      by_cases hover : rest.length < length
      · left
        simp only [turn, hread]
        rw [if_pos hover]
        exact ⟨_, rfl⟩
      · obtain ⟨run, behind, hrest, hrun⟩ : ∃ run behind, rest = run ++ behind ∧
            run.length = length :=
          ⟨rest.take length, rest.drop length, (List.take_append_drop _ _).symm,
            List.length_take_of_le (Nat.not_lt.mp hover)⟩
        subst hrest hrun
        have hinput : x :: left = encodeLiterals run (x.toNat % 16) ++ behind := by
          rw [hleft]
          unfold encodeLiterals
          rw [← eq_token hnibble, List.cons_append, List.append_assoc]
        have hturn := turn_literals n run behind out hlow
        rw [← hinput, ← eq_token hnibble] at hturn
        rcases read_match_cases n x (out ++ run) behind with
          ⟨text, hmatch⟩ | ⟨hnil, hmatch⟩ | ⟨offset, hpos, hshort, hle, hkinds⟩
        · exact .inl ⟨text, hturn.trans hmatch⟩
        · refine .inr (.inl ⟨.literals ⟨x.toNat % 16, hlow⟩ run, trivial, ?_, false,
            hturn.trans hmatch⟩)
          show x :: left = encodeLiterals run (x.toNat % 16)
          rw [hinput, hnil, List.append_nil]
        · rcases hkinds with
            ⟨length, rest, hlength, hbehind, hmatch⟩ | ⟨full, hfull, hbehind, hmatch⟩
          · refine .inr (.inr ⟨⟨run, offset, length + 4⟩, rest,
              ⟨hpos, hshort, hle, Nat.le_add_left 4 length⟩, ?_, hturn.trans hmatch⟩)
            unfold Sequence.encode
            rw [Nat.add_sub_cancel]
            show x :: left = _
            rw [hinput, hbehind, hlength, List.append_assoc, List.append_assoc, List.append_assoc]
          · refine .inr (.inl ⟨.stopped run offset full,
              ⟨⟨hpos, hshort, hle, show 4 ≤ 19 + 255 * full by omega⟩, trivial⟩, ?_, true,
              hturn.trans (hmatch.trans ?_)⟩)
            · show x :: left = encodeLiterals run 15 ++ _
              rw [hinput, hbehind, hfull]
            · show Except.ok _ = Except.ok (true, Lz4Block.mk [] (_ ++ []))
              rw [List.append_nil]
              rfl
    · left
      simp only [Nat.add_zero] at hread
      simp only [turn, hread]
      rw [if_pos (by rw [List.length_nil]; omega)]
      exact ⟨_, rfl⟩

end Turns

/-! ## Runs -/

/-- INTERNAL: a sequence has a token. -/
theorem length_encode_pos (s : Sequence) : 0 < s.encode.length := by
  unfold Sequence.encode encodeLiterals
  rw [List.cons_append, List.length_cons]
  exact Nat.succ_pos _

/-- Each turn that goes on reads something. -/
theorem turn_lowers (n : ℕ) : Lowers (turn n) (fun s => s.left.length) := by
  intro s s' hturn
  rcases turn_cases n s with ⟨text, h⟩ | ⟨ending, -, hleft, more, h⟩ | ⟨seq, rest, -, hleft, h⟩
  · rw [h] at hturn
    cases hturn
  · rw [h] at hturn
    cases hturn
    cases hs : s.left with
    | nil =>
      unfold turn at h
      rw [hs] at h
      cases h
    | cons x left =>
      show 0 < s.left.length
      rw [hs]
      exact Nat.succ_pos _
  · rw [h] at hturn
    cases hturn
    have hpos := length_encode_pos seq
    show rest.length < s.left.length
    rw [hleft, List.length_append]
    omega

/-- The loop, one turn at a time. -/
theorem counted_turn (n : ℕ) (s : Lz4Block) :
    counted (turn n) (s.left.length + 1) s =
      (turn n s >>= fun r => if r.1 then counted (turn n) (r.2.left.length + 1) r.2 else .ok r.2) :=
  counted_eq (turn_lowers n) s

/-- INTERNAL: the loop at the end of the input. -/
theorem counted_nil (n : ℕ) (out : Bytes) : counted (turn n) 1 ⟨[], out⟩ = .ok ⟨[], out⟩ := rfl

/-- INTERNAL: an ending is read in the last turns. -/
theorem counted_ending (n : ℕ) {out : Bytes} {ending : Ending}
    (h : Legal out ending.sequences.1) :
    counted (turn n) (ending.encode.length + 1) ⟨ending.encode, out⟩ =
      .ok ⟨[], output out [] ending⟩ := by
  cases ending with
  | literals nibble last =>
    have hturn := turn_literals n last [] out nibble.isLt
    rw [List.append_nil] at hturn
    have hloop := counted_turn n ⟨encodeLiterals last nibble, out⟩
    rw [hturn] at hloop
    exact hloop
  | missing =>
    rw [output, Ending.sequences, List.append_nil]
    exact counted_nil n out
  | stopped run offset full =>
    have hturn := turn_stopped h.1.pos h.1.short h.1.produced n full
    have hloop := counted_turn n ⟨(Ending.stopped run offset full).encode, out⟩
    rw [hturn] at hloop
    rw [output, Ending.sequences, List.append_nil]
    exact hloop

/-- The loop reads sequences and an ending. -/
theorem counted_encode (n : ℕ) {out : Bytes} {seqs : List Sequence} {ending : Ending}
    (h : Legal out (seqs ++ ending.sequences.1)) :
    counted (turn n) ((encode seqs ending).length + 1) ⟨encode seqs ending, out⟩ =
      .ok ⟨[], output out seqs ending⟩ := by
  induction seqs generalizing out with
  | nil => exact counted_ending n h
  | cons seq seqs ih =>
    obtain ⟨hseq, hseqs⟩ := h
    have hsplit : encode (seq :: seqs) ending = seq.encode ++ encode seqs ending := by
      unfold encode
      rw [List.flatMap_cons, List.append_assoc]
    have hloop := counted_turn n ⟨encode (seq :: seqs) ending, out⟩
    rw [hsplit, turn_encode hseq, Eff.except_ok_bind, if_pos rfl] at hloop
    rw [hsplit]
    exact hloop.trans (ih hseqs)

/-- The loop fails, or has read sequences and an ending. -/
theorem counted_cases (n : ℕ) (s : Lz4Block) :
    (∃ text, counted (turn n) (s.left.length + 1) s = .error (.decompress text)) ∨
    ∃ seqs ending, Legal s.out (seqs ++ ending.sequences.1) ∧ s.left = encode seqs ending := by
  induction hlength : s.left.length using Nat.strong_induction_on generalizing s with
  | _ length ih =>
    have hloop := counted_turn n s
    rw [hlength] at hloop
    rcases turn_cases n s with ⟨text, hturn⟩ | ⟨ending, hlegal, hleft, -⟩ |
      ⟨seq, rest, hlegal, hleft, hturn⟩
    · rw [hturn] at hloop
      exact .inl ⟨text, hloop⟩
    · exact .inr ⟨[], ending, hlegal, hleft⟩
    · rw [hturn, Eff.except_ok_bind, if_pos rfl] at hloop
      have hlower : rest.length < length := by
        have hpos := length_encode_pos seq
        rw [← hlength, hleft, List.length_append]
        omega
      rcases ih rest.length hlower ⟨rest, seq.expand s.out⟩ rfl with
        ⟨text, hrest⟩ | ⟨seqs, ending, hseqs, hrest⟩
      · exact .inl ⟨text, hloop.trans hrest⟩
      · refine .inr ⟨seq :: seqs, ending, ⟨hlegal, hseqs⟩, ?_⟩
        show s.left = encode (seq :: seqs) ending
        rw [hleft, show rest = encode seqs ending from hrest]
        unfold encode
        rw [List.flatMap_cons, List.append_assoc]

/-- What is read in full is expanded. -/
theorem decompress_encode {seqs : List Sequence} {ending : Ending} (max_output : ℕ)
    (h : Legal [] (seqs ++ ending.sequences.1)) :
    lz4_block_decompress (encode seqs ending) max_output = .ok (output [] seqs ending) := by
  unfold lz4_block_decompress
  rw [counted_encode _ h]
  rfl

/-- What fails, fails with an error of the module. -/
theorem decompress_cases (src : Bytes) (max_output : ℕ) :
    (∃ text, lz4_block_decompress src max_output = .error (.decompress text)) ∨
    ∃ seqs ending, Legal [] (seqs ++ ending.sequences.1) ∧ src = encode seqs ending := by
  rcases counted_cases src.length ⟨src, []⟩ with ⟨text, h⟩ | h
  · left
    refine ⟨text, ?_⟩
    unfold lz4_block_decompress
    rw [show counted (turn src.length) (src.length + 1) ⟨src, []⟩ = _ from h]
    rfl
  · exact .inr h

/-- The decompressor returns the expansion of every block of the format.  For any other byte
string it fails with an error of the module, or the string differs from a block in its ending
only, and the result is the expansion of its sequences, in which every byte is a literal of the
string or a copy of an earlier byte of the output. -/
theorem blocks_expanded :
    (∀ seqs last max_output, Legal [] seqs →
      lz4_block_decompress (encode seqs (.literals 0 last)) max_output =
        .ok (expand [] seqs ++ last)) ∧
    ∀ src max_output, (∃ text, lz4_block_decompress src max_output = .error (.decompress text)) ∨
      ∃ seqs ending, Legal [] (seqs ++ ending.sequences.1) ∧ src = encode seqs ending ∧
        lz4_block_decompress src max_output = .ok (output [] seqs ending) := by
  refine ⟨?_, ?_⟩
  · intro seqs last max_output h
    have hlegal : Legal [] (seqs ++ (Ending.literals 0 last).sequences.1) := by
      rw [Ending.sequences, List.append_nil]
      exact h
    rw [decompress_encode max_output hlegal, output, Ending.sequences, List.append_nil]
  · intro src max_output
    rcases decompress_cases src max_output with hfail | ⟨seqs, ending, hlegal, hsrc⟩
    · exact .inl hfail
    · refine .inr ⟨seqs, ending, hlegal, hsrc, ?_⟩
      rw [hsrc]
      exact decompress_encode max_output hlegal

theorem overlap_expanded :
    lz4_block_decompress (encode [⟨[97, 98], 2, 5⟩] (.literals 0 [99])) 0 =
      .ok [97, 98, 97, 98, 97, 98, 97, 99] :=
  blocks_expanded.1 [⟨[97, 98], 2, 5⟩] [99] 0
    ⟨⟨by decide, by decide, by decide, by decide⟩, trivial⟩

/-! ## Frames -/

/-- A block with its marker and the two lengths. -/
def frame (block : Bytes) (n : ℕ) : Bytes :=
  [SAP_LZ4_MARKER] ++ (toLE 4 n ++ (toLE 4 block.length ++ block))

section Frames

variable (block : Bytes) (n : ℕ)

theorem length_frame : (frame block n).length = 9 + block.length := by
  unfold frame
  simp only [List.length_append, length_toLE, List.length_singleton]
  omega

theorem slice_frame_output : slice (frame block n) 1 5 = toLE 4 n := by
  have h := slice_between [SAP_LZ4_MARKER] (toLE 4 n) (toLE 4 block.length ++ block)
  rwa [length_toLE] at h

theorem slice_frame_block : slice (frame block n) 5 9 = toLE 4 block.length := by
  have h := slice_between ([SAP_LZ4_MARKER] ++ toLE 4 n) (toLE 4 block.length) block
  rwa [List.length_append, length_toLE, length_toLE, List.append_assoc] at h

theorem slice_frame : slice (frame block n) 9 (9 + block.length) = block := by
  have h := slice_between ([SAP_LZ4_MARKER] ++ (toLE 4 n ++ toLE 4 block.length)) block []
  rwa [List.length_append, List.length_append, length_toLE, length_toLE, List.append_nil,
    List.append_assoc, List.append_assoc] at h

end Frames

/-- A frame is its block's expansion, where the lengths fit their fields. -/
theorem frame_expanded {seqs : List Sequence} {ending : Ending}
    (h : Legal [] (seqs ++ ending.sequences.1))
    (hblock : (encode seqs ending).length < 256 ^ 4)
    (hout : (output [] seqs ending).length < 256 ^ 4) :
    sap_lz4_frame_decompress (frame (encode seqs ending) (output [] seqs ending).length) =
      .ok (output [] seqs ending) := by
  have hresult := decompress_encode (output [] seqs ending).length h
  generalize encode seqs ending = block at hblock hresult
  generalize output [] seqs ending = out at hout hresult
  have hlength := length_frame block out.length
  have hne : frame block out.length ≠ [] := List.cons_ne_nil _ _
  have hmarker : (frame block out.length).headD 0 = SAP_LZ4_MARKER := rfl
  unfold sap_lz4_frame_decompress
  simp only [slice_frame_output, slice_frame_block, ofLE_toLE hblock, ofLE_toLE hout, slice_frame,
    hresult, hlength, hmarker, hne, if_false, ne_eq, not_true_eq_false, Eff.except_ok_bind]
  rw [if_neg (by omega), if_neg (by omega)]

end SapRfc.Analysis.Lz4Blocks
