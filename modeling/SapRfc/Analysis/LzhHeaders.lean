import SapRfc.Analysis.LzhTrees

/-!
# The tree header of the LZH decoder

The lengths of both codes of a block are one sequence, run-length encoded under a code of their
own.  The decoder reads it as two: with the first length of the distances it forgets the length
before, and a run that goes on from the one part into the other is an overflow.  So it reads the
encodings that are those of two sequences, as long as the look-up of each code has its bits.
-/

set_option autoImplicit false

namespace SapRfc.Analysis.LzhHeaders

open SapRfc.Library SapRfc.Library.PrefixCodes SapRfc.Program SapRfc.Program.LZHDecompress
open SapRfc.Analysis.LzhTrees

/-! ## Run lengths -/

instance instNeZero16 : NeZero 16 := inferInstance

instance instNeZero128 : NeZero 128 := inferInstance

/-- An entry of the encoding. -/
inductive LengthOp where
  | length (l : Fin 16)
  | repeat_nz (extra : Fin 4)
  | repeat_z3 (extra : Fin 8)
  | repeat_z11 (extra : Fin 128)
  deriving DecidableEq, Repr

namespace LengthOp

/-- The symbol of an entry under the code of the lengths. -/
def symbol : LengthOp → ℕ
  | length l => l
  | repeat_nz _ => LZH_BITLEN_REPEAT_NZ
  | repeat_z3 _ => LZH_BITLEN_REPEAT_Z3
  | repeat_z11 _ => LZH_BITLEN_REPEAT_Z11

/-- The bits behind the symbol. -/
def extraBits : LengthOp → List Bool
  | length _ => []
  | repeat_nz extra => toBits 2 extra
  | repeat_z3 extra => toBits 3 extra
  | repeat_z11 extra => toBits 7 extra

/-- The lengths that an entry stands for, behind a length. -/
def lengths (last : ℕ) : LengthOp → List ℕ
  | length l => [(l : ℕ)]
  | repeat_nz extra => List.replicate (3 + extra) last
  | repeat_z3 extra => List.replicate (3 + extra) 0
  | repeat_z11 extra => List.replicate (11 + extra) 0

/-- The length that the next entry may repeat. -/
def next (last : ℕ) : LengthOp → ℕ
  | length l => l
  | repeat_nz _ => last
  | repeat_z3 _ => 0
  | repeat_z11 _ => 0

/-- An entry under the code of the lengths. -/
def encode (bitlens : List ℕ) (op : LengthOp) : List Bool :=
  codeBits bitlens op.symbol ++ op.extraBits

end LengthOp

/-- The sequence that is encoded. -/
def expand : ℕ → List LengthOp → List ℕ
  | _, [] => []
  | last, op :: ops => op.lengths last ++ expand (op.next last) ops

/-- The length before the entries that follow. -/
def lastOf : ℕ → List LengthOp → ℕ
  | last, [] => last
  | last, op :: ops => lastOf (op.next last) ops

/-- At each entry, the bits that are left are enough for the look-up of its code. -/
def Room (bitlens : List ℕ) (rest : List Bool) : List LengthOp → Prop
  | [] => True
  | op :: ops =>
    maxLength bitlens ≤ ((op :: ops).flatMap (LengthOp.encode bitlens) ++ rest).length ∧
      Room bitlens rest ops

/-- A header of a block: the lengths of both codes, those of the code for the lengths, and a
run-length encoding of the lengths as one sequence. -/
structure TreeHeader where
  litlen : List ℕ
  dist : List ℕ
  bitlens : List ℕ
  hclen : ℕ
  ops : List LengthOp
  litlen_count : 257 ≤ litlen.length ∧ litlen.length ≤ 286
  dist_count : 1 ≤ dist.length ∧ dist.length ≤ 30
  bitlens_count : bitlens.length = 19
  bitlens_fit : Fits bitlens 7
  hclen_le : hclen ≤ 15
  left_out : ∀ i < LZH_BITLEN_COUNT, i ∉ LZH_BITLEN_RANKING.take (4 + hclen) →
    lengthAt bitlens i = 0
  coded : ∀ op ∈ ops, 0 < lengthAt bitlens op.symbol
  starts : ∀ extra, ops.head? ≠ some (.repeat_nz extra)
  encoded : expand 0 ops = litlen ++ dist

namespace TreeHeader

/-- The bits of a header. -/
def encode (h : TreeHeader) : List Bool :=
  toBits 5 (h.litlen.length - 257) ++ (toBits 5 (h.dist.length - 1) ++ (toBits 4 h.hclen ++
    ((LZH_BITLEN_RANKING.take (4 + h.hclen)).flatMap (fun i => toBits 3 (lengthAt h.bitlens i)) ++
      h.ops.flatMap (LengthOp.encode h.bitlens))))

/-- An entry ends where the first sequence does, and the next one repeats no length from it but
zero. -/
def Divides (h : TreeHeader) : Prop :=
  ∃ front back, h.ops = front ++ back ∧ (expand 0 front).length = h.litlen.length ∧
    ∀ extra, back.head? = some (.repeat_nz extra) → lastOf 0 front = 0

/-- The headers that the decoder reads, with these bits behind them. -/
def Readable (h : TreeHeader) (rest : List Bool) : Prop :=
  h.Divides ∧ Room h.bitlens rest h.ops

end TreeHeader

section Ops

variable {bitlens : List ℕ} {rest tail : List Bool}

theorem room_append (front back : List LengthOp) :
    Room bitlens rest (front ++ back) ↔
      Room bitlens (back.flatMap (LengthOp.encode bitlens) ++ rest) front ∧
        Room bitlens rest back := by
  induction front with
  | nil => exact ⟨fun h => ⟨trivial, h⟩, fun h => h.2⟩
  | cons op front ih =>
    rw [List.cons_append, Room, Room, ih, ← List.cons_append, List.flatMap_append,
      List.append_assoc, and_assoc]

/-- INTERNAL: how many lengths an entry stands for does not depend on the length before. -/
theorem length_lengths (op : LengthOp) (last last' : ℕ) :
    (op.lengths last).length = (op.lengths last').length := by
  cases op <;> simp [LengthOp.lengths]

theorem length_expand (ops : List LengthOp) (last last' : ℕ) :
    (expand last ops).length = (expand last' ops).length := by
  induction ops generalizing last last' with
  | nil => rfl
  | cons op ops ih =>
    rw [expand, expand, List.length_append, List.length_append, length_lengths op last last',
      ih (op.next last) (op.next last')]

theorem lengths_pos (op : LengthOp) (last : ℕ) : 1 ≤ (op.lengths last).length := by
  cases op <;> simp [LengthOp.lengths] <;> omega

theorem expand_append (last : ℕ) (front back : List LengthOp) :
    expand last (front ++ back) = expand last front ++ expand (lastOf last front) back := by
  induction front generalizing last with
  | nil => rfl
  | cons op front ih => rw [List.cons_append, expand, expand, ih, List.append_assoc]; rfl

/-- No entries are left where no lengths are. -/
theorem eq_nil_of_expand {last : ℕ} {ops : List LengthOp} (h : (expand last ops).length = 0) :
    ops = [] := by
  cases ops with
  | nil => rfl
  | cons op ops =>
    rw [expand, List.length_append] at h
    have hpos := lengths_pos op last
    omega

/-- INTERNAL: the length before matters to a repeat only. -/
theorem expand_eq_iff (last : ℕ) (ops : List LengthOp) :
    expand 0 ops = expand last ops ↔
      ∀ extra, ops.head? = some (.repeat_nz extra) → last = 0 := by
  cases ops with
  | nil => exact ⟨fun _ _ h => (nomatch h), fun _ => rfl⟩
  | cons op ops =>
    cases op with
    | length l => exact ⟨fun _ _ h => (nomatch h), fun _ => rfl⟩
    | repeat_z3 extra => exact ⟨fun _ _ h => (nomatch h), fun _ => rfl⟩
    | repeat_z11 extra => exact ⟨fun _ _ h => (nomatch h), fun _ => rfl⟩
    | repeat_nz extra =>
      constructor
      · intro heq _ _
        have hcons : ∀ x : ℕ, List.replicate (3 + (extra : ℕ)) x =
            x :: List.replicate (2 + (extra : ℕ)) x := by
          intro x
          rw [← List.replicate_succ]
          congr 1
          omega
        simp only [expand, LengthOp.lengths, hcons, List.cons_append, List.cons.injEq] at heq
        exact heq.1.symm
      · intro hzero
        rw [hzero extra rfl]

/-! ## Reading entries -/

variable {r : BitReader} {count : ℕ} {codes : List ℕ}

/-- INTERNAL: a repeat adds its lengths if they are not too many. -/
theorem repeat_adds {n base extra : ℕ} (last : ℕ) (hextra : extra < 2 ^ n)
    (hcount : codes.length < count) (hr : Reads r (toBits n extra ++ tail)) :
    (count < codes.length + (List.replicate (base + extra) last).length ∧
        (do
          let (extra, r) ← r.read_bits n
          let rep := base + extra
          if count - codes.length < rep then .error (.decompress (lit "repeat overflow"))
          else .ok (r, codes ++ List.replicate rep last, last)) =
          Except.error (.decompress (lit "repeat overflow"))) ∨
      codes.length + (List.replicate (base + extra) last).length ≤ count ∧
        ∃ r', (do
          let (extra, r) ← r.read_bits n
          let rep := base + extra
          if count - codes.length < rep then .error (.decompress (lit "repeat overflow"))
          else .ok (r, codes ++ List.replicate rep last, last)) =
          Except.ok (r', codes ++ List.replicate (base + extra) last, last) ∧ Reads r' tail := by
  obtain ⟨r', hread, hr'⟩ := read_field hr hextra
  rw [hread, Eff.except_ok_bind, List.length_replicate]
  dsimp only
  split
  · exact .inl ⟨by omega, rfl⟩
  · exact .inr ⟨by omega, r', rfl, hr'⟩

/-- A turn of the loop reads an entry, and adds its lengths if they are not too many. -/
theorem read_length_op (lastlen : ℕ) (hfits : Fits bitlens 7) {op : LengthOp}
    (hcoded : 0 < lengthAt bitlens op.symbol) (hcount : codes.length < count)
    (hr : Reads r (op.encode bitlens ++ tail))
    (hroom : maxLength bitlens ≤ (op.encode bitlens ++ tail).length) :
    (count < codes.length + (op.lengths lastlen).length ∧
        read_length (HuffTree.from_distribution bitlens) count r codes lastlen =
          .error (.decompress (lit "repeat overflow"))) ∨
      codes.length + (op.lengths lastlen).length ≤ count ∧
        ∃ r', read_length (HuffTree.from_distribution bitlens) count r codes lastlen =
          .ok (r', codes ++ op.lengths lastlen, op.next lastlen) ∧ Reads r' tail := by
  unfold LengthOp.encode at hr hroom
  rw [List.append_assoc] at hr hroom
  obtain ⟨r₁, hcode, hr₁⟩ := read_code_symbol hfits hcoded hr hroom
  have hvalue : (nodeAt bitlens op.symbol).value = op.symbol := rfl
  unfold read_length
  rw [hcode, Eff.except_ok_bind]
  dsimp only
  rw [hvalue]
  cases op with
  | length l =>
    have hlt : (LengthOp.length l).symbol < 16 := l.isLt
    rw [if_pos hlt]
    exact .inr ⟨hcount, r₁, rfl, hr₁⟩
  | repeat_nz extra =>
    have hlarge : ¬ (LengthOp.repeat_nz extra).symbol < 16 := Nat.lt_irrefl 16
    have hsymbol : (LengthOp.repeat_nz extra).symbol = LZH_BITLEN_REPEAT_NZ := rfl
    rw [if_neg hlarge, if_pos hsymbol]
    exact repeat_adds lastlen (Nat.lt_of_lt_of_le extra.isLt (by decide)) hcount hr₁
  | repeat_z3 extra =>
    have hlarge : ¬ (LengthOp.repeat_z3 extra).symbol < 16 := by
      show ¬ 17 < 16
      decide
    have hother : (LengthOp.repeat_z3 extra).symbol ≠ LZH_BITLEN_REPEAT_NZ := by
      show 17 ≠ 16
      decide
    have hsymbol : (LengthOp.repeat_z3 extra).symbol = LZH_BITLEN_REPEAT_Z3 := rfl
    rw [if_neg hlarge, if_neg hother, if_pos hsymbol]
    exact repeat_adds 0 (Nat.lt_of_lt_of_le extra.isLt (by decide)) hcount hr₁
  | repeat_z11 extra =>
    have hlarge : ¬ (LengthOp.repeat_z11 extra).symbol < 16 := by
      show ¬ 18 < 16
      decide
    have hother : (LengthOp.repeat_z11 extra).symbol ≠ LZH_BITLEN_REPEAT_NZ := by
      show 18 ≠ 16
      decide
    have hother' : (LengthOp.repeat_z11 extra).symbol ≠ LZH_BITLEN_REPEAT_Z3 := by
      show 18 ≠ 17
      decide
    have hsymbol : (LengthOp.repeat_z11 extra).symbol = LZH_BITLEN_REPEAT_Z11 := rfl
    rw [if_neg hlarge, if_neg hother, if_neg hother', if_pos hsymbol]
    exact repeat_adds 0 (Nat.lt_of_lt_of_le extra.isLt (by decide)) hcount hr₁

/-- INTERNAL: without the bits of the look-up no entry is read. -/
theorem read_length_short (lastlen : ℕ) {bits : List Bool} (hr : Reads r bits)
    (hshort : bits.length < maxLength bitlens) :
    read_length (HuffTree.from_distribution bitlens) count r codes lastlen =
      .error endOfInput := by
  unfold read_length
  rw [read_code_short hr hshort]
  rfl

/-- The loop stops once there are as many lengths as are wanted. -/
theorem read_lengths_done (bl_tree : HuffTree) (fuel lastlen : ℕ) (r : BitReader)
    (h : count ≤ codes.length) :
    read_lengths bl_tree count fuel r codes lastlen = .ok (r, codes) := by
  cases fuel with
  | zero => rfl
  | succ fuel =>
    unfold read_lengths
    rw [if_neg (Nat.not_lt_of_le h)]

/-- Entries whose lengths are as many as are wanted are read. -/
theorem read_lengths_ok (hfits : Fits bitlens 7) (ops : List LengthOp) :
    ∀ (fuel : ℕ) (r : BitReader) (codes : List ℕ) (lastlen : ℕ),
      (∀ op ∈ ops, 0 < lengthAt bitlens op.symbol) → Room bitlens tail ops →
      codes.length + (expand lastlen ops).length = count → count ≤ fuel + codes.length →
      Reads r (ops.flatMap (LengthOp.encode bitlens) ++ tail) →
      ∃ r', read_lengths (HuffTree.from_distribution bitlens) count fuel r codes lastlen =
        .ok (r', codes ++ expand lastlen ops) ∧ Reads r' tail := by
  induction ops with
  | nil =>
    intro fuel r codes lastlen _ _ hcount hfuel hr
    refine ⟨r, ?_, hr⟩
    rw [expand, List.append_nil]
    exact read_lengths_done _ fuel lastlen r (Nat.le_of_eq hcount.symm)
  | cons op ops ih =>
    intro fuel r codes lastlen hcoded hroom hcount hfuel hr
    rw [expand, List.length_append] at hcount
    have hpos := lengths_pos op lastlen
    obtain ⟨hroom₁, hroom₂⟩ := hroom
    rw [List.flatMap_cons, List.append_assoc] at hr hroom₁
    cases fuel with
    | zero => omega
    | succ fuel =>
      have hmore : codes.length < count := by omega
      rcases read_length_op lastlen hfits (hcoded op List.mem_cons_self) hmore hr hroom₁ with
        ⟨hover, -⟩ | ⟨-, r₁, hread, hr₁⟩
      · omega
      · obtain ⟨r₂, hrest, hr₂⟩ := ih fuel r₁ (codes ++ op.lengths lastlen) (op.next lastlen)
          (fun op' hop' => hcoded op' (List.mem_cons_of_mem _ hop')) hroom₂
          (by rw [List.length_append]; omega) (by rw [List.length_append]; omega) hr₁
        refine ⟨r₂, ?_, hr₂⟩
        unfold read_lengths
        rw [if_pos hmore, hread, Eff.except_ok_bind]
        dsimp only
        rw [hrest, List.append_assoc]
        rfl

/-- What the loop returns are the lengths of the first entries, and it stops behind them. -/
theorem read_lengths_inv (hfits : Fits bitlens 7) (ops : List LengthOp) :
    ∀ (fuel : ℕ) (r : BitReader) (codes : List ℕ) (lastlen : ℕ) (r' : BitReader) (out : List ℕ),
      (∀ op ∈ ops, 0 < lengthAt bitlens op.symbol) → codes.length ≤ count →
      count ≤ codes.length + (expand lastlen ops).length → count ≤ fuel + codes.length →
      Reads r (ops.flatMap (LengthOp.encode bitlens) ++ rest) →
      read_lengths (HuffTree.from_distribution bitlens) count fuel r codes lastlen =
        .ok (r', out) →
      ∃ front back, ops = front ++ back ∧ out = codes ++ expand lastlen front ∧
        out.length = count ∧ Reads r' (back.flatMap (LengthOp.encode bitlens) ++ rest) ∧
        Room bitlens (back.flatMap (LengthOp.encode bitlens) ++ rest) front := by
  induction ops with
  | nil =>
    intro fuel r codes lastlen r' out _ hle hcount _ hr hrun
    rw [expand, List.length_nil, Nat.add_zero] at hcount
    rw [read_lengths_done _ fuel lastlen r hcount] at hrun
    cases hrun
    exact ⟨[], [], rfl, (List.append_nil _).symm, Nat.le_antisymm hle hcount, hr, trivial⟩
  | cons op ops ih =>
    intro fuel r codes lastlen r' out hcoded hle hcount hfuel hr hrun
    rcases Nat.lt_or_eq_of_le hle with hmore | hdone
    · cases fuel with
      | zero => omega
      | succ fuel =>
        unfold read_lengths at hrun
        rw [if_pos hmore] at hrun
        rcases Nat.lt_or_ge ((op :: ops).flatMap (LengthOp.encode bitlens) ++ rest).length
          (maxLength bitlens) with hshort | hroom
        · rw [read_length_short lastlen hr hshort] at hrun
          cases hrun
        · have hroom' := hroom
          rw [List.flatMap_cons, List.append_assoc] at hr hroom'
          rcases read_length_op lastlen hfits (hcoded op List.mem_cons_self) hmore hr hroom' with
            ⟨-, hread⟩ | ⟨hfit, r₁, hread, hr₁⟩
          · rw [hread] at hrun
            cases hrun
          · rw [hread, Eff.except_ok_bind] at hrun
            rw [expand, List.length_append] at hcount
            obtain ⟨front, back, rfl, hout, hlength, hr', hfront⟩ := ih fuel r₁
              (codes ++ op.lengths lastlen) (op.next lastlen) r' out
              (fun op' hop' => hcoded op' (List.mem_cons_of_mem _ hop'))
              (by rwa [List.length_append]) (by rw [List.length_append]; omega)
              (by rw [List.length_append]; have hpos := lengths_pos op lastlen; omega) hr₁ hrun
            refine ⟨op :: front, back, rfl, ?_, hlength, hr', ?_, hfront⟩
            · rw [hout, expand, List.append_assoc]
            · rw [← List.cons_append, List.flatMap_append, List.append_assoc] at hroom
              exact hroom
    · rw [read_lengths_done _ fuel lastlen r (Nat.le_of_eq hdone.symm)] at hrun
      cases hrun
      exact ⟨[], op :: ops, rfl, (List.append_nil _).symm, hdone, hr, trivial⟩

/-! ## Reading a header -/

/-- The lengths of the code for the lengths, in the order of their ranks. -/
theorem read_bitlens_eq (hfits : Fits bitlens 7) (ranking : List ℕ) :
    ∀ (r : BitReader) (bl_dist : List ℕ),
      Reads r (ranking.flatMap (fun i => toBits 3 (lengthAt bitlens i)) ++ tail) →
      ∃ r', read_bitlens ranking r bl_dist =
        .ok (r', ranking.foldl (fun l i => l.set i (lengthAt bitlens i)) bl_dist) ∧
        Reads r' tail := by
  induction ranking with
  | nil => exact fun r bl_dist hr => ⟨r, rfl, hr⟩
  | cons i ranking ih =>
    intro r bl_dist hr
    rw [List.flatMap_cons, List.append_assoc] at hr
    have hsmall : lengthAt bitlens i < 2 ^ 3 := by
      rcases Nat.eq_zero_or_pos (lengthAt bitlens i) with hzero | hpos
      · rw [hzero]
        decide
      · exact Nat.lt_succ_of_le (hfits.bounded _ (lengthAt_mem hpos))
    obtain ⟨r₁, hread, hr₁⟩ := read_field hr hsmall
    obtain ⟨r₂, hrest, hr₂⟩ := ih r₁ (bl_dist.set i (lengthAt bitlens i)) hr₁
    refine ⟨r₂, ?_, hr₂⟩
    unfold read_bitlens
    rw [hread, Eff.except_ok_bind]
    exact hrest

end Ops

namespace TreeHeader

variable {r : BitReader} {rest : List Bool}

/-- INTERNAL: the lengths that are left out are zero. -/
theorem ranked_bitlens (h : TreeHeader) :
    (LZH_BITLEN_RANKING.take (4 + h.hclen)).foldl
      (fun l i => l.set i (lengthAt h.bitlens i)) (List.replicate LZH_BITLEN_COUNT 0) =
        h.bitlens := by
  have hlength := length_foldl_set (fun i => i) (lengthAt h.bitlens)
    (LZH_BITLEN_RANKING.take (4 + h.hclen)) (List.replicate LZH_BITLEN_COUNT 0)
  rw [List.length_replicate] at hlength
  refine List.ext_getElem? fun k => ?_
  rcases Nat.lt_or_ge k LZH_BITLEN_COUNT with hk | hk
  · have hat : h.bitlens[k]? = some (lengthAt h.bitlens k) := by
      rw [lengthAt, List.getD_eq_getElem?_getD,
        List.getElem?_eq_getElem (by rw [h.bitlens_count]; exact hk)]
      rfl
    rw [getElem?_foldl_set (fun i => i) (lengthAt h.bitlens) _ _
      (by rwa [List.length_replicate]), hat]
    split
    · rfl
    next hmem =>
      have hleft : k ∉ LZH_BITLEN_RANKING.take (4 + h.hclen) := fun hk => hmem ⟨k, hk, rfl⟩
      rw [h.left_out k hk hleft, List.getElem?_replicate, if_pos hk]
  · rw [List.getElem?_eq_none (by rwa [hlength]),
      List.getElem?_eq_none (by rw [h.bitlens_count]; exact hk)]

/-- The fields in front of the entries are read as they are. -/
theorem read_fields (h : TreeHeader) (hr : Reads r (h.encode ++ rest)) :
    ∃ r', Reads r' (h.ops.flatMap (LengthOp.encode h.bitlens) ++ rest) ∧
      read_dynamic_trees r = (do
        let (r, litlen_cl) ← read_encoded_lengths r' (HuffTree.from_distribution h.bitlens)
          h.litlen.length
        let (r, dist_cl) ← read_encoded_lengths r (HuffTree.from_distribution h.bitlens)
          h.dist.length
        .ok (r, HuffTree.from_distribution litlen_cl, HuffTree.from_distribution dist_cl)) := by
  have hlit := h.litlen_count
  have hdist := h.dist_count
  have hclen := h.hclen_le
  unfold encode at hr
  rw [List.append_assoc, List.append_assoc, List.append_assoc, List.append_assoc] at hr
  obtain ⟨r₁, hread₁, hr₁⟩ := read_field hr (by omega)
  obtain ⟨r₂, hread₂, hr₂⟩ := read_field hr₁ (by omega)
  obtain ⟨r₃, hread₃, hr₃⟩ := read_field hr₂ (by omega)
  obtain ⟨r₄, hread₄, hr₄⟩ := read_bitlens_eq h.bitlens_fit _ r₃
    (List.replicate LZH_BITLEN_COUNT 0) hr₃
  rw [ranked_bitlens] at hread₄
  refine ⟨r₄, hr₄, ?_⟩
  have hlitlen : 257 + (h.litlen.length - 257) = h.litlen.length := by omega
  have hdistance : 1 + (h.dist.length - 1) = h.dist.length := by omega
  have hlit_le : ¬ LZH_LITLEN_COUNT < h.litlen.length := Nat.not_lt_of_le hlit.2
  have hdist_le : ¬ LZH_DIST_COUNT < h.dist.length := Nat.not_lt_of_le hdist.2
  unfold read_dynamic_trees
  rw [hread₁, Eff.except_ok_bind]
  dsimp only
  rw [hread₂, Eff.except_ok_bind]
  dsimp only
  rw [hread₃, Eff.except_ok_bind]
  dsimp only
  rw [hlitlen, hdistance, if_neg hlit_le, if_neg hdist_le, hread₄, Eff.except_ok_bind]

/-- INTERNAL: a tree has the lengths that it was made of. -/
theorem from_distribution_injective {lens lens' : List ℕ}
    (h : HuffTree.from_distribution lens = HuffTree.from_distribution lens') : lens = lens' := by
  have hlengths : ∀ lens, (HuffTree.from_distribution lens).nodes.map (·.code_length) = lens := by
    intro lens
    conv_rhs => rw [← map_lengthAt lens]
    rw [from_distribution_nodes, List.map_map]
    rfl
  rw [← hlengths lens, h, hlengths]

/-- INTERNAL: such an encoding is that of the two sequences, one behind the other. -/
theorem divides_iff (h : TreeHeader) :
    h.Divides ↔
      ∃ front back, h.ops = front ++ back ∧ expand 0 front = h.litlen ∧ expand 0 back = h.dist := by
  have hencoded := h.encoded
  constructor
  · rintro ⟨front, back, hops, hlength, hlast⟩
    rw [hops, expand_append] at hencoded
    obtain ⟨hfront, hback⟩ := List.append_inj hencoded hlength
    exact ⟨front, back, hops, hfront, ((expand_eq_iff _ back).mpr hlast).trans hback⟩
  · rintro ⟨front, back, hops, hfront, hback⟩
    rw [hops, expand_append, hfront] at hencoded
    refine ⟨front, back, hops, congrArg List.length hfront, (expand_eq_iff _ back).mp ?_⟩
    exact hback.trans (List.append_cancel_left hencoded).symm

/-- The decoder builds the two trees of a header, and stops behind it, just when the encoding is
that of two sequences and each look-up has its bits. -/
theorem trees_read_iff (h : TreeHeader) (hr : Reads r (h.encode ++ rest)) :
    (∃ r', read_dynamic_trees r = .ok (r', HuffTree.from_distribution h.litlen,
        HuffTree.from_distribution h.dist) ∧ Reads r' rest) ↔ h.Readable rest := by
  obtain ⟨r₁, hr₁, hrun⟩ := h.read_fields hr
  rw [hrun]
  constructor
  · rintro ⟨r₃, hok, -⟩
    obtain ⟨⟨r₂, litlen_cl⟩, hlit, hok⟩ := Eff.except_bind_eq_ok.mp hok
    obtain ⟨⟨r₃', dist_cl⟩, hdist, hok⟩ := Eff.except_bind_eq_ok.mp hok
    have hsame := Except.ok.inj hok
    simp only [Prod.mk.injEq] at hsame
    have hlitlen := from_distribution_injective hsame.2.1
    have hdistance := from_distribution_injective hsame.2.2
    subst hlitlen
    subst hdistance
    have htotal := congrArg List.length h.encoded
    rw [List.length_append] at htotal
    obtain ⟨front, back, hops, hfront, hfcount, hr₂, hroom₁⟩ := read_lengths_inv h.bitlens_fit h.ops
      _ r₁ [] 0 r₂ h.litlen h.coded (Nat.zero_le _)
      (by rw [List.length_nil, htotal]; omega) (Nat.le_refl _) hr₁ hlit
    rw [hops, expand_append, List.length_append, length_expand back _ 0] at htotal
    rw [List.nil_append] at hfront
    have hlength := congrArg List.length hfront
    obtain ⟨mid, last, hback, hmid, hmcount, -, hroom₂⟩ := read_lengths_inv h.bitlens_fit back
      _ r₂ [] 0 r₃' h.dist
      (fun op hop => h.coded op (hops ▸ List.mem_append_right front hop)) (Nat.zero_le _)
      (by rw [List.length_nil]; omega) (Nat.le_refl _) hr₂ hdist
    rw [List.nil_append] at hmid
    have hlast : last = [] := by
      rw [hback, expand_append, List.length_append, ← hfront, ← hmid] at htotal
      have hzero : (expand (lastOf 0 mid) last).length = 0 := by omega
      exact eq_nil_of_expand hzero
    subst hlast
    rw [List.append_nil] at hback
    subst hback
    refine ⟨h.divides_iff.mpr ⟨front, back, hops, hfront.symm, hmid.symm⟩, ?_⟩
    rw [hops, room_append]
    exact ⟨hroom₁, hroom₂⟩
  · rintro ⟨hdivides, hroom⟩
    obtain ⟨front, back, hops, hfront, hback⟩ := h.divides_iff.mp hdivides
    rw [hops] at hr₁ hroom
    rw [room_append] at hroom
    rw [List.flatMap_append, List.append_assoc] at hr₁
    obtain ⟨r₂, hlit, hr₂⟩ := read_lengths_ok h.bitlens_fit front h.litlen.length r₁ [] 0
      (fun op hop => h.coded op (hops ▸ List.mem_append_left back hop)) hroom.1
      (by rw [hfront, List.length_nil, Nat.zero_add]) (Nat.le_add_right _ _) hr₁
    obtain ⟨r₃, hdist, hr₃⟩ := read_lengths_ok h.bitlens_fit back h.dist.length r₂ [] 0
      (fun op hop => h.coded op (hops ▸ List.mem_append_right front hop)) hroom.2
      (by rw [hback, List.length_nil, Nat.zero_add]) (Nat.le_add_right _ _) hr₂
    rw [List.nil_append, hfront] at hlit
    rw [List.nil_append, hback] at hdist
    refine ⟨r₃, ?_, hr₃⟩
    unfold read_encoded_lengths
    rw [hlit, Eff.except_ok_bind]
    dsimp only
    rw [hdist, Eff.except_ok_bind]

end TreeHeader

/-! ## Headers -/

section Runs

instance (bitlens : List ℕ) (rest : List Bool) : ∀ ops, Decidable (Room bitlens rest ops)
  | [] => isTrue trivial
  | _ :: ops =>
    have := instDecidableRoom bitlens rest ops
    inferInstanceAs (Decidable (_ ∧ _))

/-- Codes of one length for the symbols of a list. -/
def evenLengths (n l : ℕ) (symbols : List ℕ) : List ℕ :=
  (List.range n).map fun i => if i ∈ symbols then l else 0

/-- Two codes of one bit for the literals, and two for the distances. -/
def one_by_one : TreeHeader where
  litlen := evenLengths 257 1 [0, 256]
  dist := [1, 1]
  bitlens := evenLengths 19 1 [1, 18]
  hclen := 14
  ops := [.length 1, .repeat_z11 127, .repeat_z11 106, .length 1, .length 1, .length 1]
  litlen_count := by decide +kernel
  dist_count := by decide +kernel
  bitlens_count := by decide +kernel
  bitlens_fit := ⟨by decide +kernel, by decide +kernel⟩
  hclen_le := by decide
  left_out := by decide +kernel
  coded := by decide +kernel
  starts := by decide
  encoded := by decide +kernel

/-- Four distances that repeat the length of the end of the block. -/
def repeated : TreeHeader where
  litlen := evenLengths 257 2 [0, 1, 2, 256]
  dist := [2, 2, 2, 2]
  bitlens := evenLengths 19 2 [2, 16, 18, 1]
  hclen := 14
  ops := [.length 2, .length 2, .length 2, .repeat_z11 127, .repeat_z11 104, .length 2,
    .repeat_nz 1]
  litlen_count := by decide +kernel
  dist_count := by decide +kernel
  bitlens_count := by decide +kernel
  bitlens_fit := ⟨by decide +kernel, by decide +kernel⟩
  hclen_le := by decide
  left_out := by decide +kernel
  coded := by decide +kernel
  starts := by decide
  encoded := by decide +kernel

/-- A run of zeros that goes on with the distances. -/
def continued : TreeHeader where
  litlen := evenLengths 258 1 [0, 256]
  dist := evenLengths 4 1 [2, 3]
  bitlens := evenLengths 19 2 [1, 16, 17, 18]
  hclen := 14
  ops := [.length 1, .repeat_z11 127, .repeat_z11 106, .length 1, .repeat_z3 0, .length 1,
    .length 1]
  litlen_count := by decide +kernel
  dist_count := by decide +kernel
  bitlens_count := by decide +kernel
  bitlens_fit := ⟨by decide +kernel, by decide +kernel⟩
  hclen_le := by decide
  left_out := by decide +kernel
  coded := by decide +kernel
  starts := by decide
  encoded := by decide +kernel

/-- A header of the two sequences is read, with the bits of a byte behind it. -/
theorem one_by_one_read :
    ∃ r', read_dynamic_trees (BitReader.new (packBits one_by_one.encode)) =
        .ok (r', HuffTree.from_distribution one_by_one.litlen,
          HuffTree.from_distribution one_by_one.dist) ∧
      Reads r' (padBits one_by_one.encode) := by
  have hr := reads_new (packBits one_by_one.encode)
  rw [bitsOf_packBits] at hr
  refine (one_by_one.trees_read_iff hr).mpr ⟨?_, by decide +kernel⟩
  exact ⟨one_by_one.ops.take 4, one_by_one.ops.drop 4, by decide, by decide +kernel, by decide⟩

/-- Code 16 at the first distance reads zeros without an error, and a run over the boundary is an
overflow. -/
theorem boundary_misread :
    ((read_dynamic_trees (BitReader.new (packBits repeated.encode))).map (·.2.2) =
        .ok (HuffTree.from_distribution [0, 0, 0, 0]) ∧
      HuffTree.from_distribution repeated.dist ≠ HuffTree.from_distribution [0, 0, 0, 0]) ∧
    read_dynamic_trees (BitReader.new (packBits continued.encode)) =
      .error (.decompress (lit "repeat overflow")) := by
  decide +kernel

end Runs

end SapRfc.Analysis.LzhHeaders
