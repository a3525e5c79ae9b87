import SapRfc.Library.Records

/-!
# Where the records of a stream lie

The position view of a tag-length-value stream: `spans` lists tag, start and length of
the values that a reader finds which begins at a given offset.  The reader is a loop
on an offset, so what it finds depends on the bytes it reads as headers only.  Two
streams that differ inside one interval are read alike up to that interval, and beyond
it when one value covers it.
-/

set_option autoImplicit false

namespace SapRfc.Library.Records

/-- The value of a record in a stream. -/
structure Span where
  tag : ℕ
  start : ℕ
  length : ℕ
  deriving DecidableEq, Repr

/-- The offset behind the value. -/
def Span.stop (s : Span) : ℕ := s.start + s.length

/-- The value lies around the interval. -/
def Span.Covers (s : Span) (lo hi : ℕ) : Prop := s.start ≤ lo ∧ hi ≤ s.stop

instance (s : Span) (lo hi : ℕ) : Decidable (s.Covers lo hi) :=
  inferInstanceAs (Decidable (_ ∧ _))

/-- The offset lies in the value. -/
def Span.Has (s : Span) (i : ℕ) : Prop := s.start ≤ i ∧ i < s.stop

instance (s : Span) (i : ℕ) : Decidable (s.Has i) := inferInstanceAs (Decidable (_ ∧ _))

/-- The number that the bytes from `pos` on spell, `width` of them. -/
def numberAt (b : Bytes) (pos width : ℕ) : ℕ := ofBE (slice b pos (pos + width))

/-- The record whose header is at `pos`, when header and value are there. -/
def spanAt (last : ℕ) (b : Bytes) (pos : ℕ) : Option Span :=
  if b.length < pos + 4 then none
  else
    let tag := numberAt b pos 2
    let length := numberAt b (pos + 2) 2
    if tag = last then none
    else if length = 0xFFFF then
      if b.length < pos + 8 then none
      else
        let length := numberAt b (pos + 4) 4
        if b.length < pos + 8 + length then none else some ⟨tag, pos + 8, length⟩
    else if b.length < pos + 4 + length then none
    else some ⟨tag, pos + 4, length⟩

/-- The offset of the next header: behind the closing tag, if it is there. -/
def Span.next (b : Bytes) (s : Span) : ℕ :=
  if s.stop + 2 ≤ b.length ∧ numberAt b s.stop 2 = s.tag then s.stop + 2 else s.stop

/-- INTERNAL: the records from `pos` on, with a bound on their number. -/
def spansFuel (last : ℕ) (b : Bytes) : ℕ → ℕ → List Span
  | 0, _ => []
  | fuel + 1, pos =>
    match spanAt last b pos with
    | none => []
    | some s => s :: spansFuel last b fuel (s.next b)

/-- The records from `pos` on. -/
def spans (last : ℕ) (b : Bytes) (pos : ℕ) : List Span :=
  spansFuel last b (b.length + 1) pos

variable {last : ℕ} {b b' : Bytes}

/-! ## One record -/

theorem slice_congr {lo hi : ℕ} (h : ∀ i, lo ≤ i → i < hi → b[i]? = b'[i]?) :
    slice b lo hi = slice b' lo hi := by
  apply List.ext_getElem?
  intro i
  unfold slice
  by_cases hi' : i < hi - lo
  · rw [List.getElem?_take_of_lt hi', List.getElem?_take_of_lt hi', List.getElem?_drop,
      List.getElem?_drop]
    exact h (lo + i) (by omega) (by omega)
  · rw [List.getElem?_eq_none (by simp; omega), List.getElem?_eq_none (by simp; omega)]

theorem numberAt_congr {pos width : ℕ}
    (h : ∀ i, pos ≤ i → i < pos + width → b[i]? = b'[i]?) :
    numberAt b pos width = numberAt b' pos width := by
  unfold numberAt
  rw [slice_congr h]

/-- INTERNAL: what a record that was found says about the offsets. -/
theorem spanAt_bounds {pos : ℕ} {s : Span} (h : spanAt last b pos = some s) :
    pos + 4 ≤ s.start ∧ s.start ≤ pos + 8 ∧ s.stop ≤ b.length ∧
      (s.start = pos + 4 ∨ s.start = pos + 8) := by
  unfold spanAt at h
  split at h
  · cases h
  · simp only at h
    split at h
    · cases h
    · split at h
      · split at h
        · cases h
        · split at h
          · cases h
          · cases h
            exact ⟨by simp, by simp, by simp only [Span.stop]; omega, Or.inr rfl⟩
      · split at h
        · cases h
        · cases h
          exact ⟨by simp, by simp, by simp only [Span.stop]; omega, Or.inl rfl⟩

/-- A record depends on the bytes of its header only. -/
theorem spanAt_congr {pos : ℕ} {s : Span} (hlen : b.length = b'.length)
    (h : spanAt last b pos = some s) (hb : ∀ i, pos ≤ i → i < s.start → b[i]? = b'[i]?) :
    spanAt last b' pos = some s := by
  obtain ⟨hlo, -, -, hstart⟩ := spanAt_bounds h
  have htag : numberAt b' pos 2 = numberAt b pos 2 :=
    numberAt_congr fun i h1 h2 => (hb i h1 (by omega)).symm
  have hfield : numberAt b' (pos + 2) 2 = numberAt b (pos + 2) 2 :=
    numberAt_congr fun i h1 h2 => (hb i (by omega) (by omega)).symm
  rw [← h]
  unfold spanAt
  rw [htag, hfield, hlen]
  rcases hstart with h4 | h8
  · -- the short form: the long one would start later
    have hshort : numberAt b (pos + 2) 2 ≠ 0xFFFF := by
      intro hff
      unfold spanAt at h
      rw [hff] at h
      simp only at h
      split at h
      · cases h
      · split at h
        · cases h
        · rw [if_pos trivial] at h
          split at h
          · cases h
          · split at h
            · cases h
            · cases h
              simp at h4
    simp only [if_neg hshort]
  · have hext : numberAt b' (pos + 4) 4 = numberAt b (pos + 4) 4 :=
      numberAt_congr fun i h1 h2 => (hb i (by omega) (by omega)).symm
    simp only [hext]

/-- Streams that agree from an offset on have the same record there. -/
theorem spanAt_eq_of_agree {pos : ℕ} (hlen : b.length = b'.length)
    (hb : ∀ i, pos ≤ i → b[i]? = b'[i]?) : spanAt last b pos = spanAt last b' pos := by
  cases hs : spanAt last b pos with
  | some s => exact (spanAt_congr hlen hs fun i h1 _ => hb i h1).symm
  | none =>
    cases hs' : spanAt last b' pos with
    | none => rfl
    | some s' =>
      have := spanAt_congr hlen.symm hs' fun i h1 _ => (hb i h1).symm
      rw [hs] at this
      cases this

theorem le_next (s : Span) : s.stop ≤ s.next b := by
  unfold Span.next
  split <;> omega

theorem next_congr {s : Span} (hlen : b.length = b'.length)
    (hb : ∀ i, s.stop ≤ i → i < s.stop + 2 → b[i]? = b'[i]?) : s.next b = s.next b' := by
  unfold Span.next
  rw [numberAt_congr hb, hlen]

/-! ## The list -/

/-- INTERNAL: a value that is found starts behind a header. -/
theorem le_start_of_mem {fuel : ℕ} : ∀ {pos : ℕ} {s : Span},
    s ∈ spansFuel last b fuel pos → pos + 4 ≤ s.start ∧ s.stop ≤ b.length := by
  induction fuel with
  | zero => intro pos s h; cases h
  | succ fuel ih =>
    intro pos s h
    unfold spansFuel at h
    cases hs : spanAt last b pos with
    | none => rw [hs] at h; cases h
    | some t =>
      rw [hs] at h
      have ht := spanAt_bounds hs
      rcases List.mem_cons.mp h with rfl | h
      · exact ⟨ht.1, ht.2.2.1⟩
      · have hrest := ih h
        have hnext := le_next (b := b) t
        simp only [Span.stop] at hnext
        exact ⟨by omega, hrest.2⟩

/-- Two different values have a header between them. -/
theorem apart_of_mem {fuel : ℕ} : ∀ {pos : ℕ} {s t : Span},
    s ∈ spansFuel last b fuel pos → t ∈ spansFuel last b fuel pos →
      s = t ∨ s.stop + 4 ≤ t.start ∨ t.stop + 4 ≤ s.start := by
  induction fuel with
  | zero => intro pos s t h; cases h
  | succ fuel ih =>
    intro pos s t hs ht
    unfold spansFuel at hs ht
    cases hu : spanAt last b pos with
    | none => rw [hu] at hs; cases hs
    | some u =>
      rw [hu] at hs ht
      have hnext := le_next (b := b) u
      rcases List.mem_cons.mp hs with rfl | hs
      · rcases List.mem_cons.mp ht with rfl | ht
        · exact Or.inl rfl
        · have := (le_start_of_mem ht).1
          exact Or.inr (Or.inl (by omega))
      · rcases List.mem_cons.mp ht with rfl | ht
        · have := (le_start_of_mem hs).1
          exact Or.inr (Or.inr (by omega))
        · exact ih hs ht

/-- INTERNAL: values found from an offset on depend on the bytes from there on only. -/
theorem spansFuel_congr (hlen : b.length = b'.length) {fuel : ℕ} : ∀ {pos : ℕ},
    (∀ i, pos ≤ i → b[i]? = b'[i]?) → spansFuel last b fuel pos = spansFuel last b' fuel pos := by
  induction fuel with
  | zero => intro pos _; rfl
  | succ fuel ih =>
    intro pos hb
    unfold spansFuel
    rw [spanAt_eq_of_agree hlen hb]
    cases hs : spanAt last b' pos with
    | none => rfl
    | some s =>
      have hlo := (spanAt_bounds hs).1
      simp only
      have hstop : pos ≤ s.stop := by simp only [Span.stop]; omega
      rw [next_congr hlen fun i h1 _ => hb i (by omega)]
      rw [ih fun i h1 => hb i (hstop.trans ((le_next s).trans h1))]

/-- A value that starts inside a common prefix is found in both streams. -/
theorem mem_spans_congr (hlen : b.length = b'.length) {v : ℕ}
    (hb : ∀ i, i < v → b[i]? = b'[i]?) {fuel : ℕ} : ∀ {pos : ℕ} {s : Span},
    s ∈ spansFuel last b fuel pos → s.start ≤ v → s ∈ spansFuel last b' fuel pos := by
  induction fuel with
  | zero => intro pos s h; cases h
  | succ fuel ih =>
    intro pos s h hv
    unfold spansFuel at h ⊢
    cases hu : spanAt last b pos with
    | none => rw [hu] at h; cases h
    | some u =>
      rw [hu] at h
      have hnext := le_next (b := b) u
      rcases List.mem_cons.mp h with rfl | h
      · rw [spanAt_congr hlen hu fun i _ h2 => hb i (by omega)]
        exact List.mem_cons_self
      · have hlo := (le_start_of_mem h).1
        have hu' : u.start ≤ u.stop := by simp [Span.stop]
        rw [spanAt_congr hlen hu fun i _ h2 => hb i (by omega)]
        have hsame : u.next b = u.next b' := by
          -- a closing tag that is skipped lies before the next header
          apply next_congr hlen
          intro i h1 h2
          exact hb i (by omega)
        simp only
        rw [← hsame]
        exact List.mem_cons_of_mem _ (ih h hv)

/-- Streams that differ inside an interval only are read alike when a value of one of
them covers the interval. -/
theorem spansFuel_eq_of_covers (hlen : b.length = b'.length) {lo hi : ℕ}
    (hb : ∀ i, i < lo ∨ hi ≤ i → b[i]? = b'[i]?) {fuel : ℕ} : ∀ {pos : ℕ} {s : Span},
    s ∈ spansFuel last b fuel pos → s.Covers lo hi →
      spansFuel last b fuel pos = spansFuel last b' fuel pos := by
  induction fuel with
  | zero => intro pos s h; cases h
  | succ fuel ih =>
    intro pos s h hcov
    obtain ⟨hc1, hc2⟩ := hcov
    unfold spansFuel at h ⊢
    cases hu : spanAt last b pos with
    | none => rw [hu] at h; cases h
    | some u =>
      rw [hu] at h
      have hnext := le_next (b := b) u
      rcases List.mem_cons.mp h with rfl | h
      · -- the covering value: what follows it lies behind the interval
        rw [spanAt_congr hlen hu fun i _ h2 => hb i (Or.inl (by omega))]
        simp only
        rw [← next_congr hlen fun i h1 _ => hb i (Or.inr (by omega))]
        rw [spansFuel_congr hlen fun i h1 => hb i (Or.inr (by omega))]
      · -- an earlier value: it ends before the interval
        have hlo := (le_start_of_mem h).1
        have hu' : u.start ≤ u.stop := by simp [Span.stop]
        rw [spanAt_congr hlen hu fun i _ h2 => hb i (Or.inl (by omega))]
        simp only
        rw [← next_congr hlen fun i h1 h2 => hb i (Or.inl (by omega))]
        rw [ih h ⟨hc1, hc2⟩]

end SapRfc.Library.Records
