import SapRfc.Program.Reply

/-!
# Reassembly of a reply

A reply is a stream of records behind gateway headers.  The joiner decides from the
bytes so far whether to read on, and it takes a stream for whole as soon as the tag
and the length of the terminator are there.  So a reply is reassembled exactly when
its last frame carries at least three bytes; a shorter last frame stays in the socket
and is the first frame of the next reply.
-/

set_option autoImplicit false

namespace SapRfc.Analysis.Reassembly

open SapRfc.Library SapRfc.Program

/-- The stream `tlv_record` writes for these records and the terminator. -/
def responseStream (rs : List (ℕ × Bytes)) : Except PyError Bytes := do
  let records ← rs.mapM fun r => tlv_record r.1 r.2
  let terminator ← tlv_record Tag.TERMINATOR []
  pure (records.flatten ++ terminator)

/-- `frames` carry `pieces`, one each, behind gateway headers; no header but the last
says that its frame is the last. -/
inductive Delivery : List Bytes → List Bytes → Prop where
  | last {header piece : Bytes} : IsGwHeader header → Delivery [header ++ piece] [piece]
  | cons {header piece : Bytes} {frames pieces : List Bytes} : IsGwHeader header →
      ¬ saysFinal header → Delivery frames pieces →
      Delivery ((header ++ piece) :: frames) (piece :: pieces)

/-- One frame from a queue of frames; an empty queue is the end of the stream. -/
def readQueued : Eff PyError (List Bytes) Bytes := Eff.mk fun frames =>
  match frames with
  | [] => (.error (err .eof (lit "connection closed")), [])
  | frame :: rest => (.ok frame, rest)

/-! ## The stream -/

/-- INTERNAL: records that are all written are the concatenation of their encodings,
and each fits its fields. -/
theorem mapM_tlv_record {rs : List (ℕ × Bytes)} {out : List Bytes}
    (h : (rs.mapM fun r => tlv_record r.1 r.2) = .ok out) :
    out = rs.map (fun r => Records.encode r.1 r.2) ∧
      ∀ r ∈ rs, r.1 < 256 ^ 2 ∧ r.2.length < 256 ^ 4 := by
  induction rs generalizing out with
  | nil =>
    cases h
    exact ⟨rfl, nofun⟩
  | cons r rs ih =>
    rw [List.mapM_cons] at h
    cases hr : tlv_record r.1 r.2 with
    | error e => rw [hr] at h; cases h
    | ok b =>
      cases hrs : rs.mapM fun r => tlv_record r.1 r.2 with
      | error e => rw [hr, hrs] at h; cases h
      | ok bs =>
        rw [hr, hrs] at h
        cases h
        obtain ⟨htag, hlen, rfl⟩ := tlv_record_eq_ok.mp hr
        obtain ⟨rfl, hfit⟩ := ih hrs
        refine ⟨rfl, ?_⟩
        intro q hq
        rcases List.mem_cons.mp hq with rfl | hq
        · exact ⟨htag, hlen⟩
        · exact hfit q hq

/-- A response stream is the stream of its records, each of which fits its fields. -/
theorem responseStream_eq_ok {rs : List (ℕ × Bytes)} {S : Bytes}
    (h : responseStream rs = .ok S) (htag : ∀ r ∈ rs, r.1 ≠ Tag.TERMINATOR) :
    S = Records.stream Tag.TERMINATOR rs ∧ ∀ r ∈ rs, Records.Fits Tag.TERMINATOR r := by
  unfold responseStream at h
  cases hrs : rs.mapM fun r => tlv_record r.1 r.2 with
  | error e => rw [hrs] at h; cases h
  | ok out =>
    rw [hrs] at h
    obtain ⟨rfl, hfit⟩ := mapM_tlv_record hrs
    cases h
    refine ⟨?_, fun r hr => ⟨(hfit r hr).1, htag r hr, (hfit r hr).2⟩⟩
    rw [Records.stream, List.flatMap_def]

/-- A proper prefix of a stream that holds the first record is short, unless no more
than two bytes are missing. -/
theorem status_take {r : ℕ × Bytes} {rs : List (ℕ × Bytes)}
    (hfit : ∀ q ∈ r :: rs, Records.Fits Tag.TERMINATOR q) {m : ℕ}
    (hm : (Records.encode r.1 r.2).length ≤ m) :
    tlv_stream_status ((Records.stream Tag.TERMINATOR (r :: rs)).take m) = .truncated ↔
      m + 2 < (Records.stream Tag.TERMINATOR (r :: rs)).length := by
  rw [tlv_stream_status_truncated, ne_eq,
    Records.ending_take_stream (by decide) hfit, Nat.not_le]
  have hrec : (Records.walk Tag.TERMINATOR
      ((Records.stream Tag.TERMINATOR (r :: rs)).take m)).records ≠ [] :=
    Records.records_take_stream (hfit r (by simp)) hm
  exact ⟨fun h => h.1, fun h => ⟨h, hrec⟩⟩

/-! ## The loop -/

/-- INTERNAL: a frame of a delivery carries its piece, and only the last may call
itself final. -/
theorem Delivery.ne_nil {frames pieces : List Bytes} (h : Delivery frames pieces) :
    frames ≠ [] ∧ pieces ≠ [] := by
  cases h with
  | last _ => exact ⟨nofun, nofun⟩
  | cons _ _ _ => exact ⟨nofun, nofun⟩

section Loop

variable {r : ℕ × Bytes} {rs : List (ℕ × Bytes)}

/-- The loop with `tlv` joined and `pieces` still to come.  By induction on the frames
to come: it reads them all exactly when the last has three bytes or more, and leaves
some in the queue otherwise. -/
theorem run_join_loop {frames pieces : List Bytes} (next : List Bytes) (func_name : PyStr)
    (hd : Delivery frames pieces) (hfit : ∀ q ∈ r :: rs, Records.Fits Tag.TERMINATOR q) :
    ∀ (tlv raw : Bytes) (left : ℕ),
      tlv ++ pieces.flatten = Records.stream Tag.TERMINATOR (r :: rs) →
      (Records.encode r.1 r.2).length ≤ tlv.length →
      frame_reports_itself_final raw ≠ some true →
      (∀ p ∈ pieces, p ≠ []) → pieces.length ≤ left →
      (3 ≤ (pieces.getLastD []).length →
        Eff.run (join_loop readQueued func_name left raw tlv) (frames ++ next) =
          (.ok (Records.stream Tag.TERMINATOR (r :: rs)), next)) ∧
      ((pieces.getLastD []).length < 3 →
        next.length < (Eff.run (join_loop readQueued func_name left raw tlv)
          (frames ++ next)).2.length) := by
  induction hd with
  | @last header piece hh =>
    intro tlv raw left hS hrec hfinal hne hleft
    have hlen : tlv.length + piece.length =
        (Records.stream Tag.TERMINATOR (r :: rs)).length := by
      rw [← hS]
      simp
    have hpre : tlv = (Records.stream Tag.TERMINATOR (r :: rs)).take tlv.length := by
      rw [← hS, List.take_left]
    have hstatus := status_take hfit hrec
    rw [← hpre] at hstatus
    constructor
    · intro hlast
      have hp : 3 ≤ piece.length := hlast
      obtain ⟨left, rfl⟩ : ∃ k, left = k + 1 := ⟨left - 1, by simp at hleft; omega⟩
      have hread : Eff.run readQueued ([header ++ piece] ++ next) =
          (.ok (header ++ piece), next) := rfl
      rw [run_join_loop_read (hstatus.mpr (by omega)) hfinal hread
        (by rw [strip_gw_header_frame hh]; exact hne piece (by simp)),
        strip_gw_header_frame hh]
      have hall : tlv ++ piece = Records.stream Tag.TERMINATOR (r :: rs) := by simpa using hS
      have hdone : tlv_stream_status (tlv ++ piece) ≠ .truncated := by
        have := status_take hfit (m := (tlv ++ piece).length) (by simp; omega)
        rw [← hall, List.take_length] at this
        rw [hall] at this ⊢
        intro hc
        have := this.mp hc
        omega
      rw [join_loop_of_not_truncated hdone, hall]
      rfl
    · intro hshort
      have hp : piece.length < 3 := hshort
      rw [join_loop_of_not_truncated (fun hc => by have := hstatus.mp hc; omega)]
      simp
  | @cons header piece frames pieces hh hnot hd ih =>
    intro tlv raw left hS hrec hfinal hne hleft
    have hlen : tlv.length + (piece.length + pieces.flatten.length) =
        (Records.stream Tag.TERMINATOR (r :: rs)).length := by
      rw [← hS]
      simp
    have hpre : tlv = (Records.stream Tag.TERMINATOR (r :: rs)).take tlv.length := by
      rw [← hS, List.take_left]
    have hstatus := status_take hfit hrec
    rw [← hpre] at hstatus
    have hpiece : 1 ≤ piece.length := List.length_pos_iff.mpr (hne piece (by simp))
    obtain ⟨left, rfl⟩ : ∃ k, left = k + 1 := ⟨left - 1, by simp at hleft; omega⟩
    have hlast : (piece :: pieces).getLastD [] = pieces.getLastD [] := by
      cases pieces with
      | nil => exact absurd rfl hd.ne_nil.2
      | cons q qs => rfl
    have hin : (pieces.getLastD []).length ≤ pieces.flatten.length := by
      apply List.Sublist.length_le
      apply List.sublist_flatten_of_mem
      rw [List.getLastD_eq_getLast?, List.getLast?_eq_some_getLast hd.ne_nil.2]
      exact List.getLast_mem hd.ne_nil.2
    have hstep : tlv.length + 2 < (Records.stream Tag.TERMINATOR (r :: rs)).length →
        Eff.run (join_loop readQueued func_name (left + 1) raw tlv)
          ((header ++ piece) :: frames ++ next) =
        Eff.run (join_loop readQueued func_name left (header ++ piece) (tlv ++ piece))
          (frames ++ next) := by
      intro hshort
      have hread : Eff.run readQueued ((header ++ piece) :: frames ++ next) =
          (.ok (header ++ piece), frames ++ next) := rfl
      rw [run_join_loop_read (hstatus.mpr hshort) hfinal hread
        (by rw [strip_gw_header_frame hh]; exact hne piece (by simp)),
        strip_gw_header_frame hh]
    have hih := ih (tlv ++ piece) (header ++ piece) left
      (by rw [← hS]; simp) (by simp; omega)
      (by rw [frame_reports_itself_final_frame hh]; simpa using hnot)
      (fun p hp => hne p (by simp [hp])) (by simp at hleft; omega)
    rw [hlast]
    constructor
    · intro h3
      rw [hstep (by omega)]
      exact hih.1 h3
    · intro h3
      by_cases hshort : tlv.length + 2 < (Records.stream Tag.TERMINATOR (r :: rs)).length
      · rw [hstep hshort]
        exact hih.2 h3
      · rw [join_loop_of_not_truncated (fun hc => hshort (hstatus.mp hc))]
        simp only [Eff.run_pure, List.length_append, List.length_cons]
        omega

end Loop

/-- SOURCE: connection.py:1653-1698.  A reply is read to its end, and nothing else is
read, exactly when its last frame carries at least three bytes. -/
theorem join_response_frames_reads_reply_iff (r : ℕ × Bytes) (rs : List (ℕ × Bytes))
    {S : Bytes} {frames pieces : List Bytes} (next : List Bytes) (func_name : PyStr)
    (htag : ∀ q ∈ r :: rs, q.1 ≠ Tag.TERMINATOR) (hS : responseStream (r :: rs) = .ok S)
    (hcut : pieces.flatten = S) (hne : ∀ p ∈ pieces, p ≠ []) (hcount : pieces.length ≤ 256)
    (hfirst : (Records.encode r.1 r.2).length ≤ (pieces.headD []).length)
    (hd : Delivery frames pieces) :
    Eff.run (join_response_frames readQueued func_name) (frames ++ next) = (.ok S, next) ↔
      3 ≤ (pieces.getLastD []).length := by
  obtain ⟨rfl, hfit⟩ := responseStream_eq_ok hS htag
  cases hd with
  | @last header piece hh =>
    have hall : piece = Records.stream Tag.TERMINATOR (r :: rs) := by simpa using hcut
    have hlen := Records.length_stream_ge Tag.TERMINATOR (r :: rs)
    have hread : Eff.run readQueued ([header ++ piece] ++ next) =
        (.ok (header ++ piece), next) := rfl
    have hdone : tlv_stream_status piece ≠ .truncated := by
      have := status_take hfit (m := piece.length) hfirst
      rw [hall, List.take_length] at this
      rw [hall]
      intro hc
      have := this.mp hc
      omega
    rw [run_join_response_frames hread, strip_gw_header_frame hh,
      join_loop_of_not_truncated hdone, hall]
    exact ⟨fun _ => by show 3 ≤ (Records.stream Tag.TERMINATOR (r :: rs)).length; omega,
      fun _ => rfl⟩
  | @cons header piece frames pieces hh hnot hd =>
    have hread : Eff.run readQueued ((header ++ piece) :: frames ++ next) =
        (.ok (header ++ piece), frames ++ next) := rfl
    have hloop := run_join_loop next func_name hd hfit piece (header ++ piece) 255
      (by simpa using hcut) hfirst
      (by rw [frame_reports_itself_final_frame hh]; simpa using hnot)
      (fun p hp => hne p (by simp [hp])) (by simp at hcount; omega)
    have hlast : (piece :: pieces).getLastD [] = pieces.getLastD [] := by
      cases pieces with
      | nil => exact absurd rfl hd.ne_nil.2
      | cons q qs => rfl
    rw [run_join_response_frames hread, strip_gw_header_frame hh, hlast]
    constructor
    · intro hok
      by_contra h3
      have hleft := hloop.2 (by omega)
      rw [hok] at hleft
      exact absurd hleft (Nat.lt_irrefl _)
    · exact hloop.1

/-! ## A reply cut inside the closing tag of its terminator -/

/-- An empty record and the terminator. -/
def shortReply : Bytes := [0x05, 0x00, 0, 0, 0x05, 0x00, 0xFF, 0xFF, 0, 0, 0xFF, 0xFF]

/-- A gateway header whose bytes 60 to 63 spell `final`. -/
def gwHeader (final : UInt8) : Bytes :=
  0x06 :: List.replicate 62 0 ++ final :: List.replicate 16 0

/-- The reply in two frames, the second with its last `n` bytes. -/
def shortReplyPieces (n : ℕ) : List Bytes := [shortReply.take (12 - n), shortReply.drop (12 - n)]

def shortReplyFrames (n : ℕ) : List Bytes :=
  [gwHeader 0 ++ shortReply.take (12 - n), gwHeader 1 ++ shortReply.drop (12 - n)]

theorem delivery_shortReply (n : ℕ) : Delivery (shortReplyFrames n) (shortReplyPieces n) :=
  .cons ⟨by decide, by decide⟩ (by decide) (.last ⟨by decide, by decide⟩)

/-- Four bytes in the last frame: the reply is reassembled. -/
theorem join_response_frames_reads_short_reply :
    Eff.run (join_response_frames readQueued (lit "RFCPING"))
      (shortReplyFrames 4 ++ [[0x06]]) = (.ok shortReply, [[0x06]]) :=
  (join_response_frames_reads_reply_iff (0x0500, []) [] [[0x06]] (lit "RFCPING")
    (by decide) (by rfl) (by decide) (by decide) (by decide) (by decide)
    (delivery_shortReply 4)).mpr (by decide)

/-- Two bytes in the last frame, the closing tag: the frame is left in the queue and
the next reader takes it for its own reply. -/
theorem closing_tag_in_last_frame_is_left :
    responseStream [(0x0500, [])] = .ok shortReply ∧
      (shortReplyPieces 2).flatten = shortReply ∧ (∀ p ∈ shortReplyPieces 2, p ≠ []) ∧
      (shortReplyPieces 2).length ≤ 256 ∧
      (Records.encode 0x0500 []).length ≤ ((shortReplyPieces 2).headD []).length ∧
      (∀ q ∈ [((0x0500 : ℕ), ([] : Bytes))], q.1 ≠ Tag.TERMINATOR) ∧
      Delivery (shortReplyFrames 2) (shortReplyPieces 2) ∧
      Eff.run (join_response_frames readQueued (lit "RFCPING")) (shortReplyFrames 2) =
        (.ok (shortReply.take 10), [gwHeader 1 ++ [0xFF, 0xFF]]) ∧
      Eff.run (join_response_frames readQueued (lit "RFCPING")) (shortReplyFrames 2) ≠
        (.ok shortReply, []) := by
  have hrun : Eff.run (join_response_frames readQueued (lit "RFCPING")) (shortReplyFrames 2) =
      (.ok (shortReply.take 10), [gwHeader 1 ++ [0xFF, 0xFF]]) := by rfl
  refine ⟨by rfl, by decide, by decide, by decide, by decide, by decide, delivery_shortReply 2,
    hrun, ?_⟩
  rw [hrun]
  intro h
  have hlen := congrArg (fun p => p.2.length) h
  simp at hlen

end SapRfc.Analysis.Reassembly
