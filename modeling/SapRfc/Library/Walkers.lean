import SapRfc.Library.Spans

/-!
# Walkers of a record stream

A reader written by hand is a loop on an offset: it reads a header, does something with the
record, and goes on behind the closing tag.  `Walker` is such a loop with its parts apart:
`loop` runs it over the bytes, and notes which records it came through; `along` is the same
visit over a list of records that is given.  A walker whose headers are read as `readAt` reads
them goes along the records of the stream.
-/

set_option autoImplicit false

namespace SapRfc.Library.Records

/-- What a reader finds at an offset. -/
inductive Turn where
  /-- fewer than four bytes are left -/
  | short
  /-- the record that ends the stream -/
  | terminator
  /-- an announced four-byte length is cut; `left` bytes follow the header -/
  | headless (tag left : ℕ)
  /-- the value runs past the end; `left` bytes are there of `declared` -/
  | overrun (tag : ℕ) (extended : Bool) (declared left : ℕ)
  | record (s : Span)
  deriving DecidableEq, Repr

/-- Read the header at an offset. -/
def readAt (last : ℕ) (b : Bytes) (pos : ℕ) : Turn :=
  if b.length < pos + 4 then .short
  else
    let tag := numberAt b pos 2
    let length := numberAt b (pos + 2) 2
    let pos := pos + 4
    if tag = last then .terminator
    else if length = 0xFFFF then
      if b.length < pos + 4 then .headless tag (b.length - pos)
      else
        let length := numberAt b pos 4
        let pos := pos + 4
        if b.length < pos + length then .overrun tag true length (b.length - pos)
        else .record ⟨tag, pos, length⟩
    else if b.length < pos + length then .overrun tag false length (b.length - pos)
    else .record ⟨tag, pos, length⟩

/-- The value of a record. -/
def Span.value (b : Bytes) (s : Span) : Bytes := slice b s.start s.stop

/-- A reader in its parts.  A visit goes on with a new state or returns a result. -/
structure Walker (σ ε ρ : Type) where
  read : σ → ℕ → Turn
  next : σ → Span → ℕ
  visit : σ → Span → Except ε (σ ⊕ ρ)
  finish : σ → Turn → Except ε ρ

namespace Walker

variable {σ ε ρ : Type} (w : Walker σ ε ρ)

/-- The loop, with the records it came through. -/
def loop : ℕ → ℕ → σ → List Span × Except ε ρ
  | 0, _, s => ([], w.finish s .short)
  | fuel + 1, pos, s =>
    match w.read s pos with
    | .record span =>
      match w.visit s span with
      | .error e => ([span], .error e)
      | .ok (.inr result) => ([span], .ok result)
      | .ok (.inl s) =>
        let (spans, result) := loop fuel (w.next s span) s
        (span :: spans, result)
    | ending => ([], w.finish s ending)

/-- The visit of one record after the other. -/
def along (ending : Turn) : List Span → σ → List Span × Except ε ρ
  | [], s => ([], w.finish s ending)
  | span :: rest, s =>
    match w.visit s span with
    | .error e => ([span], .error e)
    | .ok (.inr result) => ([span], .ok result)
    | .ok (.inl s) =>
      let (spans, result) := along ending rest s
      (span :: spans, result)

end Walker

/-- The records from an offset on, and what ended them. -/
def chain (read : ℕ → Turn) (next : Span → ℕ) : ℕ → ℕ → List Span × Turn
  | 0, _ => ([], .short)
  | fuel + 1, pos =>
    match read pos with
    | .record span =>
      let (spans, ending) := chain read next fuel (next span)
      (span :: spans, ending)
    | ending => ([], ending)

/-- A walker that sees the headers that `read` and `next` see goes along their records. -/
theorem Walker.loop_eq_along {σ ε ρ : Type} (w : Walker σ ε ρ) (read : ℕ → Turn)
    (next : Span → ℕ) (S : σ → ℕ → Prop)
    (sees_read : ∀ s pos, S s pos → w.read s pos = read pos)
    (sees_next : ∀ s s' pos span, S s pos → read pos = .record span →
      w.visit s span = .ok (.inl s') → w.next s' span = next span ∧ S s' (next span))
    (fuel : ℕ) : ∀ (pos : ℕ) (s : σ), S s pos →
      w.loop fuel pos s = w.along (chain read next fuel pos).2 (chain read next fuel pos).1 s := by
  induction fuel with
  | zero => exact fun _ _ _ => rfl
  | succ fuel ih =>
    intro pos s hsees
    unfold Walker.loop chain
    rw [sees_read s pos hsees]
    cases hread : read pos with
    | record span =>
      show _ = w.along (chain read next fuel (next span)).2
        (span :: (chain read next fuel (next span)).1) s
      unfold Walker.along
      simp only
      cases hvisit : w.visit s span with
      | error e => rfl
      | ok went =>
        cases went with
        | inr result => rfl
        | inl s' =>
          obtain ⟨hnext, hsees'⟩ := sees_next s s' pos span hsees hread hvisit
          simp only
          rw [hnext, ih (next span) s' hsees']
    | _ => rfl

/-- A walker over fixed bytes. -/
theorem Walker.loop_eq_along_fixed {σ ε ρ : Type} (w : Walker σ ε ρ) (read : ℕ → Turn)
    (next : Span → ℕ) (hread : ∀ s pos, w.read s pos = read pos)
    (hnext : ∀ s span, w.next s span = next span) (fuel pos : ℕ) (s : σ) :
    w.loop fuel pos s = w.along (chain read next fuel pos).2 (chain read next fuel pos).1 s :=
  w.loop_eq_along read next (fun _ _ => True) (fun s pos _ => hread s pos)
    (fun _ s' _ span _ _ _ => ⟨hnext s' span, trivial⟩) fuel pos s trivial

/-! ## Offsets and suffixes -/

section Suffix

variable {last : ℕ} {b : Bytes} {pos : ℕ}

theorem numberAt_drop (b : Bytes) (pos k width : ℕ) :
    numberAt b (pos + k) width = ofBE (((b.drop pos).drop k).take width) := by
  unfold numberAt slice
  rw [List.drop_drop, Nat.add_sub_cancel_left]

/-- What is found at an offset, as what is found at the head of the suffix. -/
def Turn.toScan (b : Bytes) : Turn → Scan
  | .short => .short
  | .terminator => .terminator
  | .headless tag left => .headless tag left
  | .overrun tag extended declared left => .overrun tag extended declared left
  | .record s => .record s.tag (s.value b) (b.drop (s.next b))

/-- INTERNAL: the closing tag behind a value. -/
theorem skipClose_drop (b : Bytes) (s : Span) :
    skipClose s.tag (b.drop s.stop) = b.drop (s.next b) := by
  have hnumber : numberAt b s.stop 2 = ofBE ((b.drop s.stop).take 2) := numberAt_drop b s.stop 0 2
  have hlen : 2 ≤ (b.drop s.stop).length ↔ s.stop + 2 ≤ b.length := by
    rw [List.length_drop]
    omega
  unfold skipClose Span.next
  rw [hnumber]
  by_cases h : s.stop + 2 ≤ b.length ∧ ofBE ((b.drop s.stop).take 2) = s.tag
  · rw [if_pos h, if_pos ⟨hlen.mpr h.1, h.2⟩, List.drop_drop]
  · rw [if_neg h, if_neg fun hboth => h ⟨hlen.mp hboth.1, hboth.2⟩]

/-- INTERNAL: a value, at an offset and at the head of a suffix. -/
theorem takeValue_drop (tag : ℕ) (extended : Bool) (length : ℕ) (hpos : pos ≤ b.length) :
    takeValue tag extended length (b.drop pos) =
      (if b.length < pos + length then Turn.overrun tag extended length (b.length - pos)
        else Turn.record ⟨tag, pos, length⟩).toScan b := by
  unfold takeValue
  rw [List.length_drop]
  by_cases h : b.length < pos + length
  · rw [if_pos h, if_pos (by omega)]
    rfl
  · rw [if_neg h, if_neg (by omega)]
    have hclose := skipClose_drop b ⟨tag, pos, length⟩
    show Scan.record tag ((b.drop pos).take length) (skipClose tag ((b.drop pos).drop length)) =
      .record tag (slice b pos (pos + length)) (b.drop (Span.next b ⟨tag, pos, length⟩))
    rw [← hclose, List.drop_drop]
    unfold slice
    rw [Nat.add_sub_cancel_left]
    rfl

theorem scan_drop (last : ℕ) (b : Bytes) (pos : ℕ) :
    scan last (b.drop pos) = (readAt last b pos).toScan b := by
  have htag : ofBE ((b.drop pos).take 2) = numberAt b pos 2 := (numberAt_drop b pos 0 2).symm
  have hfield : ofBE (((b.drop pos).drop 2).take 2) = numberAt b (pos + 2) 2 :=
    (numberAt_drop b pos 2 2).symm
  unfold scan readAt
  rw [htag, hfield, List.length_drop]
  by_cases h4 : b.length < pos + 4
  · rw [if_pos h4, if_pos (by omega)]
    rfl
  · rw [if_neg h4, if_neg (by omega)]
    simp only
    by_cases hlast : numberAt b pos 2 = last
    · rw [if_pos hlast, if_pos hlast]
      rfl
    · rw [if_neg hlast, if_neg hlast, List.drop_drop, List.length_drop, List.drop_drop]
      by_cases hext : numberAt b (pos + 2) 2 = 0xFFFF
      · rw [if_pos hext, if_pos hext]
        by_cases h8 : b.length < pos + 4 + 4
        · rw [if_pos h8, if_pos (by omega)]
          rfl
        · rw [if_neg h8, if_neg (by omega)]
          have hlong : ofBE ((b.drop (pos + 4)).take 4) = numberAt b (pos + 4) 4 :=
            (numberAt_drop b (pos + 4) 0 4).symm
          rw [hlong]
          exact takeValue_drop _ true _ (by omega)
      · rw [if_neg hext, if_neg hext]
        exact takeValue_drop _ false _ (by omega)

/-- A walk over a suffix, by offsets. -/
theorem walkFuel_drop (last : ℕ) (b : Bytes) (fuel : ℕ) : ∀ pos,
    walkFuel last fuel (b.drop pos) =
      ⟨(chain (readAt last b) (Span.next b) fuel pos).1.map fun s => (s.tag, s.value b),
        (chain (readAt last b) (Span.next b) fuel pos).2.toScan b⟩ := by
  induction fuel with
  | zero => exact fun _ => rfl
  | succ fuel ih =>
    intro pos
    unfold walkFuel chain
    rw [scan_drop]
    cases hread : readAt last b pos with
    | record s =>
      simp only [Turn.toScan]
      rw [ih (s.next b)]
      rfl
    | _ => rfl

/-- A walk, by offsets. -/
theorem walk_eq_chain (last : ℕ) (b : Bytes) :
    walk last b =
      ⟨(chain (readAt last b) (Span.next b) (b.length + 1) 0).1.map fun s => (s.tag, s.value b),
        (chain (readAt last b) (Span.next b) (b.length + 1) 0).2.toScan b⟩ :=
  walkFuel_drop last b (b.length + 1) 0

end Suffix

/-- Streams that agree from an offset on have the same header there. -/
theorem readAt_congr {last pos : ℕ} {b b' : Bytes} (hlen : b.length = b'.length)
    (hb : ∀ i, pos ≤ i → b[i]? = b'[i]?) : readAt last b pos = readAt last b' pos := by
  have hnumber : ∀ k width, numberAt b (pos + k) width = numberAt b' (pos + k) width :=
    fun k width => numberAt_congr fun i hlo _ => hb i (by omega)
  have htag : numberAt b pos 2 = numberAt b' pos 2 := hnumber 0 2
  unfold readAt
  simp only [htag, hnumber, hlen]

/-! ## Written streams -/

/-- Where the records lie that are written from an offset on. -/
def spansOf : ℕ → List (ℕ × Bytes) → List Span
  | _, [] => []
  | pos, r :: rs =>
    ⟨r.1, pos + (if 0xFFFF ≤ r.2.length then 8 else 4), r.2.length⟩ ::
      spansOf (pos + (encode r.1 r.2).length) rs

section Written

variable {last : ℕ} {b : Bytes} {pos : ℕ} {r : ℕ × Bytes} {rest : Bytes}

/-- INTERNAL: the length field of a written record. -/
theorem numberAt_field (hb : b.drop pos = encode r.1 r.2 ++ rest) :
    numberAt b (pos + 2) 2 = if 0xFFFF ≤ r.2.length then 0xFFFF else r.2.length := by
  have hskip : ∀ x y : Bytes, ((toBE 2 r.1 ++ x) ++ y).drop 2 = x ++ y := by
    intro x y
    rw [List.append_assoc, List.drop_append_of_le_length (by simp),
      List.drop_eq_nil_of_le (by simp), List.nil_append]
  rw [numberAt_drop, hb]
  unfold encode
  by_cases hlong : 0xFFFF ≤ r.2.length
  · rw [if_pos hlong, if_pos hlong]
    simp only [List.append_assoc]
    rw [← List.append_assoc, hskip]
    rfl
  · rw [if_neg hlong, if_neg hlong]
    simp only [List.append_assoc]
    rw [← List.append_assoc, hskip, List.take_append_of_le_length (by simp),
      List.take_of_length_le (by simp), ofBE_toBE_of_lt (by norm_num; omega)]

/-- INTERNAL: where the value of a record starts. -/
theorem start_of_readAt {s : Span} (h : readAt last b pos = .record s) :
    s.start = pos + (if numberAt b (pos + 2) 2 = 0xFFFF then 8 else 4) ∧ s.stop ≤ b.length := by
  unfold readAt at h
  by_cases h4 : b.length < pos + 4
  · rw [if_pos h4] at h
    cases h
  · rw [if_neg h4] at h
    simp only at h
    by_cases hlast : numberAt b pos 2 = last
    · rw [if_pos hlast] at h
      cases h
    · rw [if_neg hlast] at h
      by_cases hext : numberAt b (pos + 2) 2 = 0xFFFF
      · rw [if_pos hext] at h ⊢
        by_cases h8 : b.length < pos + 4 + 4
        · rw [if_pos h8] at h
          cases h
        · rw [if_neg h8] at h
          by_cases hend : b.length < pos + 4 + 4 + numberAt b (pos + 4) 4
          · rw [if_pos hend] at h
            cases h
          · rw [if_neg hend] at h
            cases h
            exact ⟨rfl, by simp only [Span.stop]; omega⟩
      · rw [if_neg hext] at h ⊢
        by_cases hend : b.length < pos + 4 + numberAt b (pos + 2) 2
        · rw [if_pos hend] at h
          cases h
        · rw [if_neg hend] at h
          cases h
          exact ⟨rfl, by simp only [Span.stop]; omega⟩

/-- A written record is read where it lies. -/
theorem readAt_encode (hr : Fits last r) (hb : b.drop pos = encode r.1 r.2 ++ rest) :
    readAt last b pos =
      .record ⟨r.1, pos + (if 0xFFFF ≤ r.2.length then 8 else 4), r.2.length⟩ := by
  have hscan := scan_drop last b pos
  rw [hb, scan_encode hr] at hscan
  cases hread : readAt last b pos with
  | record s =>
    rw [hread] at hscan
    obtain ⟨htag, hvalue, -⟩ := Scan.record.inj hscan
    obtain ⟨hstart, hstop⟩ := start_of_readAt hread
    have hlength : s.length = r.2.length := by
      rw [hvalue]
      unfold Span.value
      rw [length_slice]
      unfold Span.stop at hstop ⊢
      omega
    rw [numberAt_field hb] at hstart
    have hwhich : (if (if 0xFFFF ≤ r.2.length then 0xFFFF else r.2.length) = 0xFFFF then 8 else 4) =
        if 0xFFFF ≤ r.2.length then 8 else 4 := by
      split_ifs <;> omega
    rw [hwhich] at hstart
    rw [← hstart, ← hlength, htag]
  | _ =>
    rw [hread] at hscan
    cases hscan

/-- INTERNAL: the next header lies behind the closing tag. -/
theorem next_encode (hr : Fits last r) (hb : b.drop pos = encode r.1 r.2 ++ rest)
    (hpos : pos ≤ b.length) :
    Span.next b ⟨r.1, pos + (if 0xFFFF ≤ r.2.length then 8 else 4), r.2.length⟩ =
      pos + (encode r.1 r.2).length := by
  have hlen := congrArg List.length hb
  have hopened := length_encode r.1 r.2
  have hsize : (opened r.1 r.2).length = (if 0xFFFF ≤ r.2.length then 8 else 4) + r.2.length := by
    unfold opened
    split <;> simp <;> omega
  have hclose : numberAt b (pos + (opened r.1 r.2).length) 2 = r.1 := by
    rw [numberAt_drop, hb, encode_eq_opened, List.append_assoc, List.drop_left,
      List.take_append_of_le_length (by simp), List.take_of_length_le (by simp),
      ofBE_toBE_of_lt hr.tag_lt]
  rw [List.length_drop, List.length_append] at hlen
  unfold Span.next
  have hstop : Span.stop ⟨r.1, pos + (if 0xFFFF ≤ r.2.length then 8 else 4), r.2.length⟩ =
      pos + (opened r.1 r.2).length := by
    show pos + (if 0xFFFF ≤ r.2.length then 8 else 4) + r.2.length = _
    omega
  rw [hstop, if_pos ⟨by omega, hclose⟩]
  omega

/-- A written stream has its records where they were written. -/
theorem chain_stream (hlast : last < 256 ^ 2) {rs : List (ℕ × Bytes)}
    (hrs : ∀ r ∈ rs, Fits last r) : ∀ {fuel pos : ℕ}, rs.length < fuel → pos ≤ b.length →
      b.drop pos = stream last rs →
        chain (readAt last b) (Span.next b) fuel pos = (spansOf pos rs, .terminator) := by
  induction rs with
  | nil =>
    intro fuel pos hfuel hpos hb
    obtain ⟨fuel, rfl⟩ := Nat.exists_eq_succ_of_ne_zero (Nat.ne_of_gt hfuel)
    have hscan := scan_drop last b pos
    have hend : scan last (stream last []) = .terminator := by
      refine scan_terminator hlast ?_ ?_
      · have hsix := length_stream_ge last []
        omega
      · simp [stream, encode]
    rw [hb, hend] at hscan
    unfold chain
    cases hread : readAt last b pos with
    | terminator => rfl
    | _ =>
      rw [hread] at hscan
      cases hscan
  | cons r rs ih =>
    intro fuel pos hfuel hpos hb
    obtain ⟨fuel, rfl⟩ := Nat.exists_eq_succ_of_ne_zero (Nat.ne_of_gt (Nat.lt_of_le_of_lt
      (Nat.zero_le _) hfuel))
    rw [stream_cons] at hb
    have hr := hrs r List.mem_cons_self
    have hlen := congrArg List.length hb
    rw [List.length_drop, List.length_append] at hlen
    have hrest : b.drop (pos + (encode r.1 r.2).length) = stream last rs := by
      rw [← List.drop_drop, hb, List.drop_left]
    have hsix := length_stream_ge last rs
    unfold chain
    rw [readAt_encode hr hb]
    simp only
    rw [next_encode hr hb hpos, ih (fun q hq => hrs q (List.mem_cons_of_mem r hq))
      (by rw [List.length_cons] at hfuel; omega) (by omega) hrest]
    rfl

/-- The values of the records that were written. -/
theorem values_spansOf {rs : List (ℕ × Bytes)} (hrs : ∀ r ∈ rs, Fits last r) : ∀ {pos : ℕ},
    b.drop pos = stream last rs →
      (spansOf pos rs).map (fun s => (s.tag, s.value b)) = rs := by
  induction rs with
  | nil => exact fun _ => rfl
  | cons r rs ih =>
    intro pos hb
    rw [stream_cons] at hb
    have hr := hrs r List.mem_cons_self
    have hrest : b.drop (pos + (encode r.1 r.2).length) = stream last rs := by
      rw [← List.drop_drop, hb, List.drop_left]
    have hscan := scan_drop last b pos
    rw [hb, scan_encode hr, readAt_encode hr hb] at hscan
    obtain ⟨-, hvalue, -⟩ := Scan.record.inj hscan
    unfold spansOf
    rw [List.map_cons, ih (fun q hq => hrs q (List.mem_cons_of_mem r hq)) hrest, ← hvalue]

end Written

end SapRfc.Library.Records
