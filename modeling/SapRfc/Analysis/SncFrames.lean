import SapRfc.Analysis.SncRoundTrip

/-!
# Frames of SNC that are cut off

A frame that is built is read back, with or without an extension of its header and whatever
stands behind it.  The reader checks that the fixed header is there and that the declared token
and message are within the cap.  It does not check that they are there: a slice ends where the
buffer does, so a frame that is cut off behind its fixed header is read as a shorter one.
-/

set_option autoImplicit false

namespace SapRfc.Analysis.SncFrames

open SapRfc.Library SapRfc.Program SapRfc.Analysis.SncRoundTrip

/-! ## What a header declares -/

/-- Where the token begins: behind the declared header, which has 24 bytes at least. -/
def token_start (buf : Bytes) : ℕ := max SNC_HEADER_SIZE (ofBE (slice buf 10 12))

/-- The bytes of the token and of the message. -/
def declared_payload (buf : Bytes) : ℕ := ofBE (slice buf 12 16) + ofBE (slice buf 16 20)

/-- The buffer has all the bytes that its header declares. -/
def Whole (buf : Bytes) : Prop := token_start buf + declared_payload buf ≤ buf.length

instance (buf : Bytes) : Decidable (Whole buf) := inferInstanceAs (Decidable (_ ≤ _))

/-- The reader looks at the fixed header and at the cap only. -/
theorem parse_snc_frame_isOk_iff (buf : Bytes) :
    (∃ frame, parse_snc_frame buf = .ok frame) ↔
      SNC_HEADER_SIZE ≤ buf.length ∧ declared_payload buf ≤ MAX_FRAME_BYTES := by
  unfold parse_snc_frame declared_payload
  by_cases hshort : buf.length < SNC_HEADER_SIZE
  · rw [if_pos hshort]
    exact ⟨fun ⟨_, h⟩ => (nomatch h), fun h => absurd hshort (Nat.not_lt_of_le h.1)⟩
  · rw [if_neg hshort]
    dsimp only
    by_cases hover : MAX_FRAME_BYTES < ofBE (slice buf 12 16) + ofBE (slice buf 16 20)
    · rw [if_pos hover]
      exact ⟨fun ⟨_, h⟩ => (nomatch h), fun h => absurd hover (Nat.not_lt_of_le h.2)⟩
    · rw [if_neg hover]
      exact ⟨fun _ => ⟨Nat.le_of_not_lt hshort, Nat.le_of_not_lt hover⟩, fun _ => ⟨_, rfl⟩⟩

/-- Every frame whose numbers fit their fields and whose payload is within the cap is built and
read back, whatever stands behind it.  And what is read is whole exactly where the buffer lacks
its fixed header, declares more than the cap, or has all that it declares. -/
theorem frames_read_iff (buf : Bytes) :
    (∀ (eye token data ext_header behind : Bytes) (frame_type ctx_id qop : ℕ),
        frame_type < 256 → ctx_id < 256 ^ 2 → qop < 256 ^ 2 →
        SNC_HEADER_SIZE + ext_header.length < 256 ^ 2 →
        token.length + data.length ≤ MAX_FRAME_BYTES →
        ∃ frame, build_snc_frame eye frame_type ctx_id qop token data ext_header = .ok frame ∧
          parse_snc_frame (frame ++ behind) = .ok ⟨frame_type, ctx_id, qop, token, data⟩) ∧
      ((∀ frame, parse_snc_frame buf = .ok frame → Whole buf) ↔
        buf.length < SNC_HEADER_SIZE ∨ MAX_FRAME_BYTES < declared_payload buf ∨ Whole buf) := by
  constructor
  · intro eye token data ext_header behind frame_type ctx_id qop htype hctx hqop hheader hcap
    have hmax : MAX_FRAME_BYTES < 256 ^ 4 := by decide
    have hfits : token.length < 256 ^ 4 ∧ data.length < 256 ^ 4 := by omega
    obtain ⟨frame, hbuild⟩ : ∃ frame,
        build_snc_frame eye frame_type ctx_id qop token data ext_header = .ok frame :=
      ⟨_, build_snc_frame_eq_ok.mpr ⟨⟨htype, hheader, hfits.1, hfits.2, hctx, hqop⟩, rfl⟩⟩
    exact ⟨frame, hbuild, parse_snc_frame_append hcap hbuild behind⟩
  · have hread := parse_snc_frame_isOk_iff buf
    constructor
    · intro h
      by_cases hok : ∃ frame, parse_snc_frame buf = .ok frame
      · obtain ⟨frame, hframe⟩ := hok
        exact .inr (.inr (h frame hframe))
      · rw [hread, not_and_or] at hok
        exact hok.imp Nat.lt_of_not_le fun hover => .inl (Nat.lt_of_not_le hover)
    · rintro (hshort | hover | hwhole) frame hframe
      · exact absurd (hread.mp ⟨frame, hframe⟩).1 (Nat.not_le_of_lt hshort)
      · exact absurd (hread.mp ⟨frame, hframe⟩).2 (Nat.not_le_of_lt hover)
      · exact hwhole

/-! ## A frame that is cut off -/

/-- A plain frame that declares a message of four bytes and has two of them. -/
def cutFrame : Bytes :=
  [0x53, 0x4E, 0x43, 0x46, 0x52, 0x41, 0x4D, 0x45, 7, 6, 0, 24, 0, 0, 0, 0, 0, 0, 0, 4, 0, 3, 0, 1,
    0xAA, 0xBB]

/-- Its two bytes are returned as the message. -/
theorem cutFrame_read :
    parse_snc_frame cutFrame = .ok ⟨7, 3, 1, [], [0xAA, 0xBB]⟩ ∧ declared_payload cutFrame = 4 ∧
      ¬ ∀ frame, parse_snc_frame cutFrame = .ok frame → Whole cutFrame := by
  have hread : parse_snc_frame cutFrame = .ok ⟨7, 3, 1, [], [0xAA, 0xBB]⟩ := by decide
  exact ⟨hread, by decide, fun h => absurd (h _ hread) (by decide)⟩

/-- A frame with a token is read back, and with two of its four bytes it is not whole. -/
theorem small_frame_read :
    (∃ frame, build_snc_frame [0x53] 8 3 2 [1, 2] [3] [9, 9] = .ok frame ∧
        parse_snc_frame (frame ++ [5]) = .ok ⟨8, 3, 2, [1, 2], [3]⟩) ∧
      ¬ (cutFrame.length < SNC_HEADER_SIZE ∨ MAX_FRAME_BYTES < declared_payload cutFrame ∨
        Whole cutFrame) :=
  ⟨(frames_read_iff cutFrame).1 [0x53] [1, 2] [3] [9, 9] [5] 8 3 2 (by decide) (by decide)
      (by decide) (by decide) (by decide),
    fun h => absurd ((frames_read_iff cutFrame).2.mpr h ⟨7, 3, 1, [], [0xAA, 0xBB]⟩ (by decide))
      (by decide)⟩

end SapRfc.Analysis.SncFrames
