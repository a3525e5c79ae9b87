import SapRfc.Library.Effect

/-!
# Reading a stream that arrives in pieces

A stream arrives in pieces, and a read asks for a number of items.  One reader takes what is there
of the first piece, again and again, until it has them all; another lets pieces arrive until its
buffer has enough.  Both read what is read of the whole stream: where the pieces are cut does not
matter.
-/

set_option autoImplicit false

namespace SapRfc.Library.ChunkedReads

variable {α ε : Type}

/-! ## The whole stream -/

/-- So many items of a stream that has ended; a shorter one is used up. -/
def exactly (short : ℕ → ℕ → ε) (n : ℕ) : Eff ε (List α) (List α) :=
  Eff.mk fun stream =>
    if stream.length < n then (.error (short stream.length n), [])
    else (.ok (stream.take n), stream.drop n)

theorem run_exactly_append (short : ℕ → ℕ → ε) (a b : List α) {n : ℕ} (h : a.length = n) :
    Eff.run (exactly short n) (a ++ b) = (.ok a, b) := by
  unfold exactly
  rw [Eff.run_mk, if_neg (by rw [List.length_append]; omega), List.take_left' h,
    List.drop_left' h]

theorem run_exactly_short (short : ℕ → ℕ → ε) {stream : List α} {n : ℕ} (h : stream.length < n) :
    Eff.run (exactly short n) stream = (.error (short stream.length n), []) := by
  unfold exactly
  rw [Eff.run_mk, if_pos h]

/-- So many items are returned where there are so many. -/
theorem endsAs_exactly (short : ℕ → ℕ → ε) (n : ℕ) :
    Eff.EndsAs id (exactly (α := α) short n) fun t a t' => a.length = n ∧ t = a ++ t' := by
  intro stream a t
  constructor
  · rintro ⟨t', hrun, rfl⟩
    by_cases hshort : stream.length < n
    · rw [run_exactly_short short hshort] at hrun
      cases hrun
    · unfold exactly at hrun
      rw [Eff.run_mk, if_neg hshort] at hrun
      cases hrun
      exact ⟨List.length_take_of_le (Nat.le_of_not_lt hshort), (List.take_append_drop n _).symm⟩
  · rintro ⟨hlength, hstream⟩
    exact ⟨t, by rw [show stream = a ++ t from hstream, run_exactly_append short a t hlength], rfl⟩

/-! ## Piece by piece -/

/-- At most `n` items of the first piece that has any; none where no piece has. -/
def receive (n : ℕ) : List (List α) → List α × List (List α)
  | [] => ([], [])
  | [] :: rest => receive n rest
  | (a :: piece) :: rest => ((a :: piece).take n, (a :: piece).drop n :: rest)

theorem receive_append (n : ℕ) (pieces : List (List α)) :
    (receive n pieces).1 ++ (receive n pieces).2.flatten = pieces.flatten := by
  fun_induction receive n pieces with
  | case1 => rfl
  | case2 rest ih => exact ih
  | case3 a piece rest =>
    rw [List.flatten_cons, List.flatten_cons, ← List.append_assoc, List.take_append_drop]

theorem length_receive_le (n : ℕ) (pieces : List (List α)) :
    (receive n pieces).1.length ≤ n := by
  fun_induction receive n pieces with
  | case1 => exact Nat.zero_le _
  | case2 rest ih => exact ih
  | case3 a piece rest => exact List.length_take_le ..

/-- Nothing is received only where nothing is left. -/
theorem flatten_of_receive_eq_nil {n : ℕ} (hn : 0 < n) {pieces : List (List α)}
    (h : (receive n pieces).1 = []) : pieces.flatten = [] := by
  fun_induction receive n pieces with
  | case1 => rfl
  | case2 rest ih => exact ih h
  | case3 a piece rest =>
    obtain ⟨m, rfl⟩ := Nat.exists_eq_succ_of_ne_zero (Nat.ne_of_gt hn)
    cases h

/-- One read. -/
def recv (n : ℕ) : Eff ε (List (List α)) (List α) :=
  Eff.mk fun pieces => (.ok (receive n pieces).1, (receive n pieces).2)

theorem run_recv (n : ℕ) (pieces : List (List α)) :
    Eff.run (recv n : Eff ε (List (List α)) (List α)) pieces =
      (.ok (receive n pieces).1, (receive n pieces).2) := rfl

/-- Reads until `n` items are there; each turn adds one at least. -/
def gatherFrom (short : ℕ → ℕ → ε) (n : ℕ) : ℕ → List α → Eff ε (List (List α)) (List α)
  | 0, got => pure got
  | turns + 1, got =>
    if got.length < n then do
      let piece ← recv (n - got.length)
      if piece.length = 0 then throw (short got.length n)
      else gatherFrom short n turns (got ++ piece)
    else pure got

/-- Reads until `n` items are there. -/
def gather (short : ℕ → ℕ → ε) (n : ℕ) : Eff ε (List (List α)) (List α) :=
  gatherFrom short n n []

/-- The pieces of a stream. -/
def Joins (pieces : List (List α)) (stream : List α) : Prop := pieces.flatten = stream

/-- INTERNAL: what is there and what is still to come are one stream. -/
theorem run_gatherFrom (short : ℕ → ℕ → ε) {n turns : ℕ} (got : List α) (pieces : List (List α))
    (hgot : got.length ≤ n) (hturns : n ≤ got.length + turns) :
    (Eff.run (gatherFrom short n turns got) pieces).1 =
        (Eff.run (exactly short n) (got ++ pieces.flatten)).1 ∧
      (Eff.run (gatherFrom short n turns got) pieces).2.flatten =
        (Eff.run (exactly short n) (got ++ pieces.flatten)).2 := by
  induction turns generalizing got pieces with
  | zero =>
    rw [run_exactly_append short got _ (by omega)]
    exact ⟨rfl, rfl⟩
  | succ turns ih =>
    unfold gatherFrom
    by_cases hmore : got.length < n
    · have hpart := receive_append (n - got.length) pieces
      have hle := length_receive_le (n - got.length) pieces
      rw [if_pos hmore, Eff.run_bind_ok (run_recv _ pieces)]
      by_cases hnone : (receive (n - got.length) pieces).1.length = 0
      · have hend := flatten_of_receive_eq_nil (by omega) (List.length_eq_zero_iff.mp hnone)
        rw [List.length_eq_zero_iff.mp hnone, List.nil_append] at hpart
        rw [if_pos hnone, hend, List.append_nil, run_exactly_short short hmore]
        exact ⟨rfl, hpart.trans hend⟩
      · have hstep := ih (got ++ (receive (n - got.length) pieces).1)
          (receive (n - got.length) pieces).2 (by rw [List.length_append]; omega)
          (by rw [List.length_append]; omega)
        rw [List.append_assoc, hpart] at hstep
        rw [if_neg hnone]
        exact hstep
    · rw [if_neg hmore, run_exactly_append short got _ (by omega)]
      exact ⟨rfl, rfl⟩

/-- The pieces are read as the stream is. -/
theorem gather_tracks (short : ℕ → ℕ → ε) (n : ℕ) :
    Eff.Tracks Joins (fun _ => False) (gather short n) (exactly (α := α) short n) := by
  rintro pieces stream rfl
  have h := run_gatherFrom short [] pieces (Nat.zero_le n) (Nat.le_add_left n 0)
  exact .inl h

/-! ## A buffer that is filled -/

/-- What has arrived and was not read yet, and the pieces that are still to arrive. -/
structure Feed (α : Type) where
  buffer : List α
  arriving : List (List α)

namespace Feed

/-- Pieces arrive until the buffer has `n` items, or all have arrived. -/
def fill (n : ℕ) (buffer : List α) : List (List α) → Feed α
  | [] => ⟨buffer, []⟩
  | piece :: rest =>
    if n ≤ buffer.length then ⟨buffer, piece :: rest⟩ else fill n (buffer ++ piece) rest

/-- The items that were not read yet, as one stream. -/
def stream (feed : Feed α) : List α := feed.buffer ++ feed.arriving.flatten

theorem stream_fill (n : ℕ) (buffer : List α) (arriving : List (List α)) :
    (fill n buffer arriving).stream = buffer ++ arriving.flatten := by
  fun_induction fill n buffer arriving with
  | case1 => rfl
  | case2 => rfl
  | case3 buffer piece rest hmore ih =>
    rw [ih, List.flatten_cons, List.append_assoc]

/-- Where the buffer stays short, all has arrived. -/
theorem arriving_fill {n : ℕ} {buffer : List α} {arriving : List (List α)}
    (h : (fill n buffer arriving).buffer.length < n) :
    (fill n buffer arriving).arriving = [] := by
  fun_induction fill n buffer arriving with
  | case1 => rfl
  | case2 buffer piece rest henough => exact absurd henough (Nat.not_le_of_lt h)
  | case3 buffer piece rest hmore ih => exact ih h

end Feed

/-- Reads `n` items of the buffer once they have arrived; where the stream ends before, what the
buffer has is dropped. -/
def await (short : ℕ → ℕ → ε) (n : ℕ) : Eff ε (Feed α) (List α) :=
  Eff.mk fun feed =>
    let feed := Feed.fill n feed.buffer feed.arriving
    if feed.buffer.length < n then (.error (short feed.buffer.length n), ⟨[], feed.arriving⟩)
    else (.ok (feed.buffer.take n), ⟨feed.buffer.drop n, feed.arriving⟩)

/-- The buffer is read as the stream is. -/
theorem await_tracks (short : ℕ → ℕ → ε) (n : ℕ) :
    Eff.Tracks (fun feed stream => Feed.stream feed = stream) (fun _ => False) (await short n)
      (exactly (α := α) short n) := by
  rintro feed stream rfl
  have hstream := Feed.stream_fill n feed.buffer feed.arriving
  rw [Feed.stream] at hstream
  refine .inl ?_
  unfold await
  rw [Eff.run_mk, Feed.stream, ← hstream]
  dsimp only
  by_cases hshort : (Feed.fill n feed.buffer feed.arriving).buffer.length < n
  · rw [if_pos hshort, Feed.arriving_fill hshort, List.flatten_nil, List.append_nil,
      run_exactly_short short hshort]
    exact ⟨rfl, rfl⟩
  · have hlong := Nat.le_of_not_lt hshort
    unfold exactly
    rw [if_neg hshort, Eff.run_mk, if_neg (by rw [List.length_append]; omega),
      List.take_append_of_le_length hlong, List.drop_append_of_le_length hlong]
    exact ⟨rfl, rfl⟩

/-! ## Successive calls -/

/-- `n` calls, one after the other. -/
def calls {σ : Type} (x : Eff ε σ α) : ℕ → Eff ε σ (List α)
  | 0 => pure []
  | n + 1 => do
    let a ← x
    let rest ← calls x n
    pure (a :: rest)

theorem tracks_calls {σ τ : Type} {R : σ → τ → Prop} {E : ε → Prop} {x : Eff ε σ α}
    {y : Eff ε τ α} (h : Eff.Tracks R E x y) (n : ℕ) : Eff.Tracks R E (calls x n) (calls y n) := by
  induction n with
  | zero => exact Eff.Tracks.pure _
  | succ n ih => exact Eff.Tracks.bind h fun _ => Eff.Tracks.bind ih fun _ => Eff.Tracks.pure _

end SapRfc.Library.ChunkedReads
