import SapRfc.Library.RingBuffers
import SapRfc.Program.Lzh

/-!
# The window of the LZH decoder

The window is a ring over the output behind `0x4000` zeros.  A literal goes to the next position,
and a match is copied in chunks that end where its source or its destination wraps.  So a chunk
is a loop over positions, and the chunks together are the copy of one byte at a time.
-/

set_option autoImplicit false

namespace SapRfc.Analysis.LzhWindow

open SapRfc.Library SapRfc.Library.RingBuffers SapRfc.Program SapRfc.Program.LZHDecompress

variable {s s' : LZHDecompress}

/-! ## The invariant -/

/-- The output, behind the zeros that the window starts with. -/
def history (s : LZHDecompress) : Bytes := List.replicate LZH_WINDOW_SIZE 0 ++ s.written

/-- The window is the ring of the output. -/
structure Windowed (s : LZHDecompress) : Prop where
  size : s.window.length = LZH_WINDOW_SIZE
  next : s.wpos = s.written.length % LZH_WINDOW_SIZE
  holds : Holds s.window (history s)

theorem length_history (s : LZHDecompress) :
    (history s).length = LZH_WINDOW_SIZE + s.written.length := by
  rw [history, List.length_append, List.length_replicate]

/-- INTERNAL: the next position, as the ring counts it. -/
theorem Windowed.next_history (h : Windowed s) :
    (history s).length % s.window.length = s.wpos := by
  rw [length_history, h.size, h.next, Nat.add_mod_left]

theorem Windowed.wpos_lt (h : Windowed s) : s.wpos < LZH_WINDOW_SIZE := by
  rw [h.next]
  exact Nat.mod_lt _ (by decide)

/-- The window starts empty. -/
theorem windowed_new (data : Bytes) : Windowed (new data) where
  size := List.length_replicate
  next := rfl
  holds := by
    have hwindow : history (new data) = (new data).window := List.append_nil _
    have hlength : (new data).window.length = LZH_WINDOW_SIZE := List.length_replicate
    refine ⟨?_, ?_, ?_⟩
    · rw [hlength]
      decide
    · rw [hwindow]
    · intro i _ hi
      rw [hwindow] at hi ⊢
      rw [Nat.mod_eq_of_lt hi]

/-- The reader does not touch the window. -/
theorem Windowed.read (h : Windowed s) (r : BitReader) : Windowed { s with reader := r } :=
  ⟨h.size, h.next, h.holds⟩

/-- A literal is the next byte of the output, and of the window. -/
theorem Windowed.write_literal (h : Windowed s) (val : ℕ) : Windowed (write_literal val s) where
  size := by
    rw [LZHDecompress.write_literal, List.length_set, h.size]
  next := by
    show (s.wpos + 1) % _ = (s.written ++ [_]).length % _
    rw [h.next, Nat.mod_add_mod, List.length_append, List.length_singleton]
  holds := by
    have hpush := h.holds.push (UInt8.ofNat val)
    rw [h.next_history] at hpush
    show Holds (s.window.set s.wpos (UInt8.ofNat val)) (_ ++ (s.written ++ [UInt8.ofNat val]))
    rw [← List.append_assoc]
    exact hpush

/-! ## Matches -/

/-- The state behind a chunk. -/
def chunk_copied (src chunk : ℕ) (s : LZHDecompress) : LZHDecompress :=
  { s with
    window := copy_chunk src s.wpos chunk s.window
    written := s.written ++ slice (copy_chunk src s.wpos chunk s.window) s.wpos (s.wpos + chunk)
    wpos := (s.wpos + chunk) % LZH_WINDOW_SIZE }

section Copy

variable {distance : ℕ} (hpos : 1 ≤ distance) (hle : distance ≤ LZH_WINDOW_SIZE)

include hle in
/-- INTERNAL: the output goes back that far, with the zeros in front of it. -/
theorem back_le (s : LZHDecompress) : distance ≤ (history s).length := by
  rw [length_history]
  omega

include hpos hle

/-- A chunk that does not wrap is a copy of one byte at a time. -/
theorem Windowed.chunk_copied (h : Windowed s) {src : ℕ} (chunk : ℕ)
    (hfrom : ((history s).length - distance) % LZH_WINDOW_SIZE = src)
    (hsrc : src + chunk ≤ LZH_WINDOW_SIZE) (hdst : s.wpos + chunk ≤ LZH_WINDOW_SIZE) :
    history (chunk_copied src chunk s) = copyBack distance chunk (history s) ∧
      Windowed (chunk_copied src chunk s) := by
  have hcopy : Holds (copy_chunk src s.wpos chunk s.window)
      (copyBack distance chunk (history s)) := by
    have hrange := h.holds.copyRange hpos (by rwa [h.size]) 0 (n := chunk)
      (by rwa [h.size, hfrom]) (by rwa [h.next_history, h.size])
    rw [h.next_history, h.size, hfrom] at hrange
    exact hrange
  have hsize : (copy_chunk src s.wpos chunk s.window).length = LZH_WINDOW_SIZE :=
    (length_copyRange (0 : UInt8) src s.wpos chunk s.window).trans h.size
  have hlength := length_copyBack hpos (back_le hle s) chunk
  have hnext : (history s).length % LZH_WINDOW_SIZE = s.wpos := by
    rw [← h.next_history, h.size]
  have hnew : slice (copy_chunk src s.wpos chunk s.window) s.wpos (s.wpos + chunk) =
      (copyBack distance chunk (history s)).drop (history s).length := by
    have hdrop := hcopy.drop_take hlength.symm (by rwa [hsize, hnext])
    rw [hsize, hnext] at hdrop
    unfold slice
    rw [Nat.add_sub_cancel_left]
    exact hdrop
  have hhistory : history (LzhWindow.chunk_copied src chunk s) =
      copyBack distance chunk (history s) := by
    obtain ⟨appended, happended⟩ := prefix_copyBack distance chunk (history s)
    rw [happended, List.drop_left] at hnew
    rw [happended, ← hnew]
    exact (List.append_assoc _ _ _).symm
  have hwritten := congrArg List.length hhistory
  rw [hlength, length_history, length_history, Nat.add_assoc] at hwritten
  refine ⟨hhistory, hsize, ?_, ?_⟩
  · show (s.wpos + chunk) % _ = _
    rw [Nat.add_left_cancel hwritten, h.next, Nat.mod_add_mod]
  · rw [hhistory]
    exact hcopy

/-- The chunks of a match are a copy of one byte at a time. -/
theorem copy_chunks_spec (fuel : ℕ) : ∀ (copy_left src : ℕ) (s : LZHDecompress),
    copy_left ≤ fuel → Windowed s → ((history s).length - distance) % LZH_WINDOW_SIZE = src →
    history (copy_chunks fuel copy_left src s) = copyBack distance copy_left (history s) ∧
      Windowed (copy_chunks fuel copy_left src s) := by
  induction fuel with
  | zero =>
    intro copy_left src s hfuel h _
    obtain rfl := Nat.le_zero.mp hfuel
    rw [copy_chunks, copyBack]
    exact ⟨rfl, h⟩
  | succ fuel ih =>
    intro copy_left src s hfuel h hfrom
    rw [copy_chunks]
    by_cases hleft : 0 < copy_left
    · rw [if_pos hleft]
      dsimp only
      have hwpos := h.wpos_lt
      have hsrc : src < LZH_WINDOW_SIZE := hfrom ▸ Nat.mod_lt _ (by decide)
      generalize hchunk : min (LZH_WINDOW_SIZE - max src s.wpos) copy_left = chunk
      obtain ⟨hhistory, hwindowed⟩ := h.chunk_copied hpos hle chunk hfrom (by omega) (by omega)
      have hlength := length_copyBack hpos (back_le hle s) chunk
      have hnext : ((history (chunk_copied src chunk s)).length - distance) % LZH_WINDOW_SIZE =
          (src + chunk) % LZH_WINDOW_SIZE := by
        have hback := back_le hle s
        have hsub : (history s).length + chunk - distance =
            (history s).length - distance + chunk := by omega
        rw [hhistory, hlength, hsub, ← Nat.mod_add_mod, hfrom]
      obtain ⟨hrest, hend⟩ := ih (copy_left - chunk) _ _ (by omega) hwindowed hnext
      rw [hhistory, ← copyBack_add, Nat.add_sub_cancel' (by omega)] at hrest
      unfold LzhWindow.chunk_copied at hrest hend
      exact ⟨hrest, hend⟩
    · rw [if_neg hleft]
      obtain rfl := Nat.eq_zero_of_not_pos hleft
      rw [copyBack]
      exact ⟨rfl, h⟩

/-- A match is a copy of one byte at a time, over the output behind the zeros. -/
theorem copy_match_spec (h : Windowed s) (length : ℕ) :
    history (copy_match length distance s) = copyBack distance length (history s) ∧
      Windowed (copy_match length distance s) := by
  refine copy_chunks_spec hpos hle length length _ s (Nat.le_refl _) h ?_
  have hsub : LZH_WINDOW_SIZE + s.written.length - distance =
      s.written.length + (LZH_WINDOW_SIZE - distance) := by omega
  rw [length_history, hsub, Nat.add_sub_assoc hle, h.next, Nat.mod_add_mod]

end Copy

/-! ## Reachable states -/

/-- INTERNAL: a distance code stands for one byte back or more. -/
theorem dist_starts_pos : ∀ dc < dist_starts.length, 1 ≤ dist_starts.getD dc 0 := by
  decide +kernel

/-- A match that is read lies in the window. -/
theorem read_match_distance {dist_tree : HuffTree} {val length distance : ℕ} {r r' : BitReader}
    (h : read_match dist_tree val r = .ok (length, distance, r')) :
    1 ≤ distance ∧ distance ≤ LZH_WINDOW_SIZE := by
  unfold read_match at h
  dsimp only at h
  split at h
  · cases h
  obtain ⟨⟨extra, r₁⟩, -, h⟩ := Eff.except_bind_eq_ok.mp h
  dsimp only at h
  split at h
  · cases h
  obtain ⟨⟨dnd, r₂⟩, -, h⟩ := Eff.except_bind_eq_ok.mp h
  dsimp only at h
  split at h
  · cases h
  next hindex =>
    obtain ⟨⟨extra', r₃⟩, -, h⟩ := Eff.except_bind_eq_ok.mp h
    dsimp only at h
    split at h
    · cases h
    next hwindow =>
      obtain ⟨-, rfl, -⟩ := by simpa only [Except.ok.injEq, Prod.mk.injEq] using h
      have hpos := dist_starts_pos dnd.value (Nat.lt_of_not_le hindex)
      omega

/-- The states of a decoder.  Between two tokens it reads the head, the trees and the code of the
next token, which leaves it with another reader. -/
inductive Reached : LZHDecompress → Prop
  | new (data : Bytes) : Reached (new data)
  | read {state : LZHDecompress} (r : BitReader) : Reached state →
    Reached { state with reader := r }
  | token {state next : LZHDecompress} {litlen_tree dist_tree : HuffTree} {more : Bool} :
    Reached state → next_token litlen_tree dist_tree state = .ok (more, next) → Reached next

/-- A token keeps the window. -/
theorem Windowed.token {litlen_tree dist_tree : HuffTree} {more : Bool} (h : Windowed s)
    (htoken : next_token litlen_tree dist_tree s = .ok (more, s')) : Windowed s' := by
  unfold next_token at htoken
  obtain ⟨⟨nd, r⟩, -, htoken⟩ := Eff.except_bind_eq_ok.mp htoken
  dsimp only at htoken
  split at htoken
  · cases htoken
    exact (h.read r).write_literal _
  · split at htoken
    · cases htoken
      exact h.read r
    · obtain ⟨⟨length, distance, r'⟩, hmatch, htoken⟩ := Eff.except_bind_eq_ok.mp htoken
      obtain ⟨hpos, hle⟩ := read_match_distance hmatch
      cases htoken
      exact (copy_match_spec hpos hle (h.read r') length).2

/-- In each state the window is the ring of the output. -/
theorem Reached.windowed (h : Reached s) : Windowed s := by
  induction h with
  | new data => exact windowed_new data
  | read r _ ih => exact ih.read r
  | token _ htoken ih => exact ih.token htoken

section Runs

variable {litlen_tree dist_tree : HuffTree}

/-- INTERNAL: the tokens of a block. -/
theorem Reached.read_tokens (h : Reached s) {fuel : ℕ}
    (hrun : read_tokens litlen_tree dist_tree fuel s = .ok s') : Reached s' := by
  induction fuel generalizing s with
  | zero =>
    cases hrun
    exact h
  | succ fuel ih =>
    unfold LZHDecompress.read_tokens at hrun
    obtain ⟨⟨more, next⟩, htoken, hrun⟩ := Eff.except_bind_eq_ok.mp hrun
    dsimp only at hrun
    split at hrun
    · exact ih (h.token htoken) hrun
    · cases hrun
      exact h.token htoken

/-- INTERNAL: the blocks of a stream. -/
theorem Reached.read_blocks (h : Reached s) {fuel : ℕ}
    (hrun : read_blocks fuel s = .ok s') : Reached s' := by
  induction fuel generalizing s with
  | zero =>
    cases hrun
    exact h
  | succ fuel ih =>
    unfold LZHDecompress.read_blocks at hrun
    obtain ⟨⟨last, r⟩, -, hrun⟩ := Eff.except_bind_eq_ok.mp hrun
    obtain ⟨⟨btype, r'⟩, -, hrun⟩ := Eff.except_bind_eq_ok.mp hrun
    obtain ⟨next, hblock, hrun⟩ := Eff.except_bind_eq_ok.mp hrun
    have hnext : Reached next := by
      dsimp only at hblock
      split at hblock
      · exact (h.read r').read_tokens hblock
      · split at hblock
        · obtain ⟨⟨r'', _, _⟩, -, hblock⟩ := Eff.except_bind_eq_ok.mp hblock
          exact (h.read r'').read_tokens hblock
        · cases hblock
    split at hrun
    · cases hrun
      exact hnext
    · exact ih hnext hrun

/-- What the decoder returns is the output of a state it reaches. -/
theorem reached_of_decompress {data out : Bytes} (h : decompress data = .ok out) :
    ∃ s, Reached s ∧ s.written = out := by
  unfold decompress at h
  obtain ⟨r, -, h⟩ := Eff.except_bind_eq_ok.mp h
  obtain ⟨s, hblocks, h⟩ := Eff.except_bind_eq_ok.mp h
  cases h
  exact ⟨s, ((Reached.new data).read r).read_blocks hblocks, rfl⟩

end Runs

/-! ## The copy of a match -/

/-- The window has the last bytes of the output, up to its size. -/
def HoldsOutput (s : LZHDecompress) : Prop :=
  s.wpos = s.written.length % LZH_WINDOW_SIZE ∧
    ∀ k, 1 ≤ k → k ≤ s.written.length → k ≤ LZH_WINDOW_SIZE →
      s.window[(s.wpos + LZH_WINDOW_SIZE - k) % LZH_WINDOW_SIZE]? =
        s.written[s.written.length - k]?

theorem Windowed.holdsOutput (h : Windowed s) : HoldsOutput s := by
  refine ⟨h.next, fun k hpos hwritten hsize => ?_⟩
  have hsub : s.wpos + LZH_WINDOW_SIZE - k = s.wpos + (LZH_WINDOW_SIZE - k) :=
    Nat.add_sub_assoc hsize _
  have hindex : s.written.length + (LZH_WINDOW_SIZE - k) =
      LZH_WINDOW_SIZE + (s.written.length - k) := by omega
  have hlast := h.holds.last (LZH_WINDOW_SIZE + (s.written.length - k))
    (by rw [length_history, h.size]; omega) (by rw [length_history]; omega)
  rw [h.size, history, List.getElem?_append_right (by rw [List.length_replicate]; omega),
    List.length_replicate, Nat.add_sub_cancel_left] at hlast
  rw [hsub, h.next, Nat.mod_add_mod, hindex]
  exact hlast

/-- In each state the decoder reaches, a match appends what a copy of one byte at a time from the
output appends, and the window still holds the last bytes of the output. -/
theorem match_copies_output (h : Reached s) {length distance : ℕ}
    (_ : LZH_MIN_MATCH ≤ length ∧ length ≤ LZH_MAX_MATCH) (hpos : 1 ≤ distance)
    (hdistance : distance ≤ min s.written.length LZH_WINDOW_SIZE) :
    (copy_match length distance s).written = copyBack distance length s.written ∧
      (copy_match length distance s).written.length = s.written.length + length ∧
      HoldsOutput (copy_match length distance s) := by
  obtain ⟨hwritten, hwindow⟩ := Nat.le_min.mp hdistance
  obtain ⟨hhistory, hwindowed⟩ := copy_match_spec hpos hwindow h.windowed length
  have hcopy : (copy_match length distance s).written = copyBack distance length s.written := by
    unfold history at hhistory
    rw [copyBack_append _ hpos hwritten] at hhistory
    exact List.append_cancel_left hhistory
  refine ⟨hcopy, ?_, hwindowed.holdsOutput⟩
  rw [hcopy, length_copyBack hpos hwritten]

section Witness

/-- The state behind one literal. -/
def one_literal : LZHDecompress := write_literal 97 { new [] with reader := ⟨[], 0, 7⟩ }

/-- INTERNAL: a code of one bit for the literal, and one for the end of the block. -/
theorem reached_one_literal : Reached one_literal := by
  have hcode : HuffTree.read_code_two_staged ⟨[⟨97, 0, 1⟩, ⟨256, 1, 1⟩]⟩ ⟨[], 0, 8⟩ 1 =
      .ok (⟨97, 0, 1⟩, ⟨[], 0, 7⟩) := by
    decide +kernel
  have heob : eob_len ⟨[⟨97, 0, 1⟩, ⟨256, 1, 1⟩]⟩ = 1 := by decide
  have htoken : next_token ⟨[⟨97, 0, 1⟩, ⟨256, 1, 1⟩]⟩ ⟨[]⟩ { new [] with reader := ⟨[], 0, 8⟩ } =
      .ok (true, one_literal) := by
    unfold next_token
    rw [heob, hcode, Eff.except_ok_bind]
    exact if_pos (by decide)
  exact .token (Reached.read ⟨[], 0, 8⟩ (.new [])) htoken

/-- A match of the last byte repeats it. -/
theorem match_repeats_byte :
    (copy_match 3 1 one_literal).written = [97, 97, 97, 97] ∧
      (copy_match 3 1 one_literal).written.length = 4 ∧
      HoldsOutput (copy_match 3 1 one_literal) := by
  obtain ⟨hcopy, hlength, hholds⟩ := @match_copies_output one_literal
    reached_one_literal 3 1 (by decide) (by decide) (by decide)
  exact ⟨hcopy.trans (by decide), hlength.trans (by decide), hholds⟩

end Witness

end SapRfc.Analysis.LzhWindow
