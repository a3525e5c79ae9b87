import SapRfc.Library.ChunkedReads
import Mathlib.Data.List.Infix
import Mathlib.Tactic.Common

/-!
# Reading up to a mark

A message on a stream ends with a mark.  Its reader lets pieces arrive until the mark is there, and
gives back the message and what came with its last piece.  Where the pieces are cut decides how much
comes with it, and nothing else: the message is the stream up to its first mark, and what came with
it and what is still to come are the stream behind it.
-/

set_option autoImplicit false

namespace SapRfc.Library.Delimiters

open ChunkedReads

variable {α ε : Type} {mark s front back : List α}

/-- A message: the mark stands at its end, and nowhere before. -/
def EndedBy (mark front : List α) : Prop := mark <:+ front ∧ ¬ mark <:+: front.dropLast

/-- INTERNAL: the mark by itself. -/
theorem endedBy_self (hmark : mark ≠ []) : EndedBy mark mark := by
  refine ⟨List.suffix_rfl, fun hinfix => ?_⟩
  have hlength := hinfix.length_le
  have hpos := List.length_pos_iff.mpr hmark
  rw [List.length_dropLast] at hlength
  omega

theorem EndedBy.ne_nil (hmark : mark ≠ []) (h : EndedBy mark front) : front ≠ [] := by
  rintro rfl
  exact hmark (List.suffix_nil.mp h.1)

/-- INTERNAL: a message that begins with the mark is the mark. -/
theorem EndedBy.eq_of_prefix (h : EndedBy mark front) (hhead : mark <+: front ++ back) :
    front = mark := by
  obtain ⟨before, rfl⟩ := h.1
  by_cases hbefore : before = []
  · rw [hbefore, List.nil_append]
  · have hpos := List.length_pos_iff.mpr hbefore
    have hdrop : (before ++ mark).dropLast <+: (before ++ mark) ++ back :=
      (List.dropLast_prefix _).trans (List.prefix_append _ _)
    have hshort : mark <+: (before ++ mark).dropLast := by
      refine List.prefix_of_prefix_length_le hhead hdrop ?_
      rw [List.length_dropLast, List.length_append]
      omega
    exact absurd hshort.isInfix h.2

/-- INTERNAL: a message behind another item, where the mark does not begin with that item. -/
theorem endedBy_cons {x : α} (hmark : mark ≠ []) (hhead : ¬ mark <+: x :: (front ++ back)) :
    EndedBy mark (x :: front) ↔ EndedBy mark front := by
  constructor
  · rintro ⟨hsuffix, hfirst⟩
    rcases List.suffix_cons_iff.mp hsuffix with rfl | hsuffix
    · exact absurd (List.prefix_append (x :: front) back) hhead
    have hne : front ≠ [] := by
      rintro rfl
      exact hmark (List.suffix_nil.mp hsuffix)
    rw [List.dropLast_cons_of_ne_nil hne] at hfirst
    exact ⟨hsuffix, fun hinfix => hfirst (List.infix_cons hinfix)⟩
  · rintro ⟨hsuffix, hfirst⟩
    have hne : front ≠ [] := by
      rintro rfl
      exact hmark (List.suffix_nil.mp hsuffix)
    refine ⟨hsuffix.trans (List.suffix_cons x front), ?_⟩
    rw [List.dropLast_cons_of_ne_nil hne]
    intro hinfix
    rcases List.infix_cons_iff.mp hinfix with hbegins | hinfix
    · refine hhead (hbegins.trans ?_)
      exact (List.cons_prefix_cons.mpr ⟨rfl, (List.dropLast_prefix front).trans
        (List.prefix_append _ _)⟩)
    · exact hfirst hinfix

section Cut

variable [DecidableEq α]

/-- The first message of a list, and what is behind it. -/
def cut (mark : List α) : List α → Option (List α × List α)
  | [] => none
  | x :: xs =>
    if mark <+: x :: xs then some (mark, (x :: xs).drop mark.length)
    else (cut mark xs).map fun parts => (x :: parts.1, parts.2)

/-- The cut is behind the first mark. -/
theorem cut_eq_some (hmark : mark ≠ []) :
    cut mark s = some (front, back) ↔ EndedBy mark front ∧ s = front ++ back := by
  induction s generalizing front with
  | nil =>
    constructor
    · intro h
      cases h
    · rintro ⟨hended, hs⟩
      exact absurd (List.append_eq_nil_iff.mp hs.symm).1 (hended.ne_nil hmark)
  | cons x xs ih =>
    unfold cut
    by_cases hhead : mark <+: x :: xs
    · rw [if_pos hhead]
      constructor
      · intro h
        obtain ⟨rfl, rfl⟩ := Prod.mk.inj (Option.some.inj h)
        exact ⟨endedBy_self hmark, (List.prefix_iff_eq_append.mp hhead).symm⟩
      · rintro ⟨hended, hs⟩
        rw [hs] at hhead ⊢
        obtain rfl := hended.eq_of_prefix hhead
        rw [List.drop_left]
    · rw [if_neg hhead, Option.map_eq_some_iff]
      constructor
      · rintro ⟨⟨front', back'⟩, hcut, heq⟩
        obtain ⟨rfl, rfl⟩ := Prod.mk.inj heq
        obtain ⟨hended, rfl⟩ := ih.mp hcut
        exact ⟨(endedBy_cons hmark hhead).mpr hended, rfl⟩
      · rintro ⟨hended, hs⟩
        cases front with
        | nil => exact absurd rfl (hended.ne_nil hmark)
        | cons y front =>
          obtain ⟨rfl, rfl⟩ := List.cons.inj hs
          exact ⟨(front, back), ih.mpr ⟨(endedBy_cons hmark hhead).mp hended, rfl⟩, rfl⟩

/-- More of the stream does not move the cut. -/
theorem cut_append (hmark : mark ≠ []) (h : cut mark s = some (front, back)) (more : List α) :
    cut mark (s ++ more) = some (front, back ++ more) := by
  obtain ⟨hended, rfl⟩ := (cut_eq_some hmark).mp h
  exact (cut_eq_some hmark).mpr ⟨hended, List.append_assoc ..⟩

/-! ## The reader -/

/-- Lets pieces of at most `size` items arrive behind what is there until the mark is there;
`closed` is raised where the stream ends before, `long` where more than `cap` items were read. -/
def readUntilFrom (mark : List α) (size cap : ℕ) (closed long : ε) :
    ℕ → List α → Eff ε (List (List α)) (List α × List α)
  | 0, _ => throw closed
  | turns + 1, buf =>
    match cut mark buf with
    | some parts => pure parts
    | none => do
      let chunk ← recv size
      if chunk = [] then throw closed
      else if cap < (buf ++ chunk).length then throw long
      else readUntilFrom mark size cap closed long turns (buf ++ chunk)

/-- Reads up to a mark; each turn but the last takes an item at least. -/
def readUntil (mark : List α) (size cap : ℕ) (closed long : ε) :
    Eff ε (List (List α)) (List α × List α) :=
  Eff.mk fun pieces =>
    Eff.run (readUntilFrom mark size cap closed long (pieces.flatten.length + 1) []) pieces

variable {size cap : ℕ} {closed long : ε} {pieces rest : List (List α)}

omit [DecidableEq α] in
/-- INTERNAL: a read takes nothing of later pieces. -/
theorem receive_append_more (h : pieces.flatten ≠ []) (more : List (List α)) :
    ChunkedReads.receive size (pieces ++ more) =
      ((ChunkedReads.receive size pieces).1, (ChunkedReads.receive size pieces).2 ++ more) := by
  induction pieces with
  | nil => exact absurd rfl h
  | cons piece later ih =>
    cases piece with
    | nil => exact ih h
    | cons a piece => rfl

/-- INTERNAL: one turn that finds no mark. -/
theorem run_readUntilFrom_succ {buf : List α} (hcut : cut mark buf = none) (turns : ℕ) :
    Eff.run (readUntilFrom mark size cap closed long (turns + 1) buf) pieces =
      if (ChunkedReads.receive size pieces).1 = [] then
        (.error closed, (ChunkedReads.receive size pieces).2)
      else if cap < (buf ++ (ChunkedReads.receive size pieces).1).length then
        (.error long, (ChunkedReads.receive size pieces).2)
      else Eff.run (readUntilFrom mark size cap closed long turns
        (buf ++ (ChunkedReads.receive size pieces).1)) (ChunkedReads.receive size pieces).2 := by
  conv_lhs => unfold readUntilFrom
  rw [hcut]
  dsimp only
  rw [Eff.run_bind_ok (run_recv size pieces), Eff.run_ite, Eff.run_ite]
  rfl

/-- INTERNAL: what a reader returns is the message in front of what it has and what is to come. -/
theorem run_readUntilFrom_ok (hmark : mark ≠ []) {turns : ℕ} {buf : List α}
    {parts : List α × List α}
    (h : Eff.run (readUntilFrom mark size cap closed long turns buf) pieces = (.ok parts, rest)) :
    EndedBy mark parts.1 ∧ buf ++ pieces.flatten = parts.1 ++ (parts.2 ++ rest.flatten) := by
  induction turns generalizing buf pieces with
  | zero => cases h
  | succ turns ih =>
    cases hcut : cut mark buf with
    | some found =>
      unfold readUntilFrom at h
      rw [hcut] at h
      obtain ⟨hparts, rfl⟩ := Prod.mk.inj h
      obtain rfl := Except.ok.inj hparts
      obtain ⟨hended, rfl⟩ := (cut_eq_some hmark).mp hcut
      exact ⟨hended, List.append_assoc ..⟩
    | none =>
      rw [run_readUntilFrom_succ hcut] at h
      split at h
      · cases h
      split at h
      · cases h
      obtain ⟨hended, hstream⟩ := ih h
      rw [List.append_assoc, receive_append] at hstream
      exact ⟨hended, hstream⟩

variable (closed long) in
/-- INTERNAL: a message that is to come, and is not too long, is read, and no further than the piece
that ends it. -/
theorem run_readUntilFrom_ended (hmark : mark ≠ []) (hsize : 0 < size) (hended : EndedBy mark front)
    (hcap : front.length + size ≤ cap + 1) (more : List (List α)) {turns : ℕ} {buf behind : List α}
    (hstream : buf ++ pieces.flatten = front ++ behind) (hturns : pieces.flatten.length < turns) :
    ∃ left rest, Eff.run (readUntilFrom mark size cap closed long turns buf) (pieces ++ more) =
      (.ok (front, left), rest ++ more) ∧ left ++ rest.flatten = behind := by
  induction turns generalizing buf pieces with
  | zero => exact absurd hturns (Nat.not_lt_zero _)
  | succ turns ih =>
    cases hcut : cut mark buf with
    | some found =>
      have hwhole := cut_append hmark hcut pieces.flatten
      rw [hstream, (cut_eq_some hmark).mpr ⟨hended, rfl⟩] at hwhole
      obtain ⟨hfront, hbehind⟩ := Prod.mk.inj (Option.some.inj hwhole)
      refine ⟨found.2, pieces, ?_, hbehind.symm⟩
      unfold readUntilFrom
      rw [hcut, hfront]
      rfl
    | none =>
      have hpart := receive_append size pieces
      have hshort : buf.length < front.length := by
        by_contra hlong
        have hhead : front <+: buf := by
          refine List.prefix_of_prefix_length_le (List.prefix_append front behind) ?_
            (Nat.le_of_not_lt hlong)
          rw [← hstream]
          exact List.prefix_append _ _
        obtain ⟨after, rfl⟩ := hhead
        rw [(cut_eq_some hmark).mpr ⟨hended, rfl⟩] at hcut
        cases hcut
      have hsome : pieces.flatten ≠ [] := by
        intro hnothing
        rw [hnothing, List.append_nil] at hstream
        rw [hstream, List.length_append] at hshort
        omega
      have hreceived : (ChunkedReads.receive size pieces).1 ≠ [] :=
        fun hnone => hsome (flatten_of_receive_eq_nil hsize hnone)
      have hle := length_receive_le size pieces
      have hlength := congrArg List.length hpart
      rw [List.length_append] at hlength
      have hpos := List.length_pos_iff.mpr hreceived
      rw [run_readUntilFrom_succ hcut, receive_append_more hsome]
      dsimp only
      rw [if_neg hreceived, if_neg (by rw [List.length_append]; omega)]
      refine ih ?_ (by omega)
      rw [List.append_assoc, hpart, hstream]

/-- What a reader returns is the first message of the stream; what came with it and what is still to
come are what is behind it. -/
theorem run_readUntil_ok (hmark : mark ≠ []) {parts : List α × List α}
    (h : Eff.run (readUntil mark size cap closed long) pieces = (.ok parts, rest)) :
    EndedBy mark parts.1 ∧ pieces.flatten = parts.1 ++ (parts.2 ++ rest.flatten) :=
  run_readUntilFrom_ok hmark h

/-- However the pieces are cut, a message that is not too long is read. -/
theorem run_readUntil_ended (hmark : mark ≠ []) (hsize : 0 < size) (hended : EndedBy mark front)
    (hcap : front.length + size ≤ cap + 1) {behind : List α}
    (hstream : pieces.flatten = front ++ behind) :
    ∃ left rest, Eff.run (readUntil mark size cap closed long) pieces =
      (.ok (front, left), rest) ∧ left ++ rest.flatten = behind := by
  have hwhole : [] ++ pieces.flatten = front ++ behind := hstream
  obtain ⟨left, rest, hrun, hbehind⟩ := run_readUntilFrom_ended closed long hmark hsize hended hcap
    [] hwhole (Nat.lt_succ_self _)
  rw [List.append_nil, List.append_nil] at hrun
  exact ⟨left, rest, hrun, hbehind⟩

/-- A message in pieces of its own is read, and nothing of what comes in later ones. -/
theorem run_readUntil_apart (hmark : mark ≠ []) (hsize : 0 < size) (hended : EndedBy mark front)
    (hcap : front.length + size ≤ cap + 1) (hstream : pieces.flatten = front)
    (more : List (List α)) :
    ∃ rest, Eff.run (readUntil mark size cap closed long) (pieces ++ more) =
      (.ok (front, []), rest ++ more) ∧ rest.flatten = [] := by
  have hturns : pieces.flatten.length < (pieces ++ more).flatten.length + 1 := by
    rw [List.flatten_append, List.length_append]
    omega
  have hfront : [] ++ pieces.flatten = front ++ [] := by rw [hstream, List.append_nil]; rfl
  obtain ⟨left, rest, hrun, hbehind⟩ := run_readUntilFrom_ended closed long hmark hsize hended hcap
      more
    hfront hturns
  obtain ⟨rfl, hrest⟩ := List.append_eq_nil_iff.mp hbehind
  exact ⟨rest, hrun, hrest⟩

end Cut

end SapRfc.Library.Delimiters
