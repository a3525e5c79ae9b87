import SapRfc.Library.Effect
import SapRfc.Program.Invoke

/-!
# Replies in several frames

A reply larger than a gateway frame arrives in several.  `join_response_frames` puts
the bodies together and asks the stream read so far whether to read another.  The
frame source is a program of its own, so the synchronous and the asynchronous
connection share the definition.
-/

set_option autoImplicit false

namespace SapRfc.Program

open SapRfc.Library

/-- SOURCE: connection.py:701-715.  The gateway header and the RFC marker go. -/
def strip_gw_header (resp : Bytes) : Bytes :=
  match resp with
  | [] => []
  | b :: _ => if b = 0x06 then resp.drop 80 else resp

/-- SOURCE: connection.py:1629-1650. -/
def frame_reports_itself_final (raw : Bytes) : Option Bool :=
  if 64 ≤ raw.length ∧ raw.take 1 = [0x06] then some (ofBE (slice raw 60 64) = 1) else none

/-- `_MAX_RESPONSE_FRAMES` -/
def MAX_RESPONSE_FRAMES : ℕ := 256

section Join

variable {σ : Type}

/-- SOURCE: connection.py:1672-1698, the loop.  `raw` is the last frame, `tlv` the
bodies joined so far, and `left` the number of frames that may still be read. -/
def join_loop (read_frame : Eff PyError σ Bytes) (func_name : PyStr) :
    ℕ → Bytes → Bytes → Eff PyError σ Bytes
  | left, raw, tlv =>
    if tlv_stream_status tlv ≠ .truncated then pure tlv
    else if frame_reports_itself_final raw = some true then
      throw (err .value (func_name ++ lit ": frame " ++ dec (MAX_RESPONSE_FRAMES - left) ++
        lit " reports itself as the last of the response, but the TLV stream is still short at " ++
        dec tlv.length ++ lit " bytes"))
    else
      match left with
      | 0 =>
        throw (err .value (func_name ++ lit ": response still incomplete after " ++
          dec MAX_RESPONSE_FRAMES ++ lit " frames (" ++ dec tlv.length ++
          lit " bytes); refusing to read further"))
      | left + 1 => do
        let raw ← read_frame
        let part := strip_gw_header raw
        if part = [] then
          throw (err .value (func_name ++ lit ": response truncated after " ++
            dec (MAX_RESPONSE_FRAMES - (left + 1)) ++
            lit " frame(s) and the next frame carried no payload"))
        else join_loop read_frame func_name left raw (tlv ++ part)

/-- SOURCE: connection.py:1653-1728.  The asynchronous twin is the same program. -/
def join_response_frames (read_frame : Eff PyError σ Bytes) (func_name : PyStr) :
    Eff PyError σ Bytes := do
  let raw ← read_frame
  join_loop read_frame func_name (MAX_RESPONSE_FRAMES - 1) raw (strip_gw_header raw)

variable {read_frame : Eff PyError σ Bytes} {func_name : PyStr}

/-- A stream that is not short is the reply. -/
theorem join_loop_of_not_truncated {tlv : Bytes} (h : tlv_stream_status tlv ≠ .truncated)
    (left : ℕ) (raw : Bytes) :
    join_loop read_frame func_name left raw tlv = pure tlv := by
  unfold join_loop
  rw [if_pos h]

/-- A short stream whose last frame does not call itself final takes one frame more. -/
theorem run_join_loop_read {tlv raw raw' : Bytes} {s s' : σ} {left : ℕ}
    (h : tlv_stream_status tlv = .truncated)
    (hfinal : frame_reports_itself_final raw ≠ some true)
    (hread : Eff.run read_frame s = (.ok raw', s')) (hpart : strip_gw_header raw' ≠ []) :
    Eff.run (join_loop read_frame func_name (left + 1) raw tlv) s =
      Eff.run (join_loop read_frame func_name left raw' (tlv ++ strip_gw_header raw')) s' := by
  conv_lhs => unfold join_loop
  rw [if_neg (not_not.mpr h), if_neg hfinal, Eff.run_bind_ok hread]
  simp only [if_neg hpart]

theorem run_join_response_frames {raw : Bytes} {s s' : σ}
    (hread : Eff.run read_frame s = (.ok raw, s')) :
    Eff.run (join_response_frames read_frame func_name) s =
      Eff.run (join_loop read_frame func_name 255 raw (strip_gw_header raw)) s' := by
  unfold join_response_frames
  rw [Eff.run_bind_ok hread]
  rfl

theorem keeps_join_response_frames {R : σ → σ → Prop} (refl : ∀ s, R s s)
    (trans : ∀ a b c, R a b → R b c → R a c) (h : Eff.Keeps R read_frame) :
    Eff.Keeps R (join_response_frames read_frame func_name) := by
  have hloop : ∀ left raw tlv, Eff.Keeps R (join_loop read_frame func_name left raw tlv) := by
    intro left
    induction left with
    | zero =>
      intro raw tlv
      unfold join_loop
      exact Eff.Keeps.ite _ (Eff.Keeps.pure refl _)
        (Eff.Keeps.ite _ (Eff.Keeps.throw refl _) (Eff.Keeps.throw refl _))
    | succ left ih =>
      intro raw tlv
      unfold join_loop
      refine Eff.Keeps.ite _ (Eff.Keeps.pure refl _)
        (Eff.Keeps.ite _ (Eff.Keeps.throw refl _) ?_)
      exact Eff.Keeps.bind trans h fun raw' =>
        Eff.Keeps.ite _ (Eff.Keeps.throw refl _) (ih raw' _)
  unfold join_response_frames
  exact Eff.Keeps.bind trans h fun raw => hloop _ raw _

theorem tracks_join_response_frames {τ : Type} {R : σ → τ → Prop} {E : PyError → Prop}
    {read_frame' : Eff PyError τ Bytes} (h : Eff.Tracks R E read_frame read_frame') :
    Eff.Tracks R E (join_response_frames read_frame func_name)
      (join_response_frames read_frame' func_name) := by
  have hloop : ∀ left raw tlv, Eff.Tracks R E (join_loop read_frame func_name left raw tlv)
      (join_loop read_frame' func_name left raw tlv) := by
    intro left
    induction left with
    | zero =>
      intro raw tlv
      unfold join_loop
      exact Eff.Tracks.ite _ (Eff.Tracks.pure _)
        (Eff.Tracks.ite _ (Eff.Tracks.throw _) (Eff.Tracks.throw _))
    | succ left ih =>
      intro raw tlv
      unfold join_loop
      refine Eff.Tracks.ite _ (Eff.Tracks.pure _) (Eff.Tracks.ite _ (Eff.Tracks.throw _) ?_)
      exact Eff.Tracks.bind h fun raw' => Eff.Tracks.ite _ (Eff.Tracks.throw _) (ih raw' _)
  unfold join_response_frames
  exact Eff.Tracks.bind h fun raw => hloop _ raw _

/-- The loop itself raises a `ValueError` only. -/
theorem throws_join_response_frames {E : PyError → Prop} (hvalue : ∀ text, E (err .value text))
    (h : Eff.Throws E read_frame) : Eff.Throws E (join_response_frames read_frame func_name) := by
  have hloop : ∀ left raw tlv, Eff.Throws E (join_loop read_frame func_name left raw tlv) := by
    intro left
    induction left with
    | zero =>
      intro raw tlv
      unfold join_loop
      exact Eff.Throws.ite _ (Eff.Throws.pure _) (Eff.Throws.ite _
        (Eff.Throws.throw (hvalue _)) (Eff.Throws.throw (hvalue _)))
    | succ left ih =>
      intro raw tlv
      unfold join_loop
      refine Eff.Throws.ite _ (Eff.Throws.pure _)
        (Eff.Throws.ite _ (Eff.Throws.throw (hvalue _)) ?_)
      exact Eff.Throws.bind h fun raw' =>
        Eff.Throws.ite _ (Eff.Throws.throw (hvalue _)) (ih raw' _)
  unfold join_response_frames
  exact Eff.Throws.bind h fun raw => hloop _ raw _

end Join

/-! ## Frames -/

/-- A gateway header: 80 bytes of which the first is `0x06`. -/
structure IsGwHeader (header : Bytes) : Prop where
  length_eq : header.length = 80
  first : header.take 1 = [0x06]

/-- The header says that its frame ends the reply: bytes 60 to 63 spell 1. -/
def saysFinal (header : Bytes) : Prop := ofBE (slice header 60 64) = 1

instance (header : Bytes) : Decidable (saysFinal header) :=
  inferInstanceAs (Decidable (_ = _))

theorem strip_gw_header_frame {header : Bytes} (h : IsGwHeader header) (piece : Bytes) :
    strip_gw_header (header ++ piece) = piece := by
  obtain ⟨hlen, hfirst⟩ := h
  cases header with
  | nil => cases hfirst
  | cons b bs =>
    have hb : b = 0x06 := by simpa using hfirst
    subst hb
    rw [List.cons_append]
    show (0x06 :: (bs ++ piece)).drop 80 = piece
    rw [← List.cons_append, ← hlen, List.drop_left]

theorem frame_reports_itself_final_frame {header : Bytes} (h : IsGwHeader header)
    (piece : Bytes) :
    frame_reports_itself_final (header ++ piece) = some (decide (saysFinal header)) := by
  obtain ⟨hlen, hfirst⟩ := h
  unfold frame_reports_itself_final saysFinal
  rw [if_pos ⟨by simp; omega, by rw [List.take_append_of_le_length (by omega), hfirst]⟩,
    slice_append_left _ _ (by omega)]
  rfl

end SapRfc.Program
