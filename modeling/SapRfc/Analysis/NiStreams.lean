import SapRfc.Program.Sockets

/-!
# Frames over a stream in pieces

Frames are sent one behind the other, and the stream arrives in pieces that are cut anywhere.
Successive calls return the payloads that have arrived in full, and the call behind them raises:
at the end of the stream between two frames, inside a length, inside a payload.  The reader of a
socket and the reader of a buffer are both compared with reading the whole stream.
-/

set_option autoImplicit false

namespace SapRfc.Analysis.NiStreams

open SapRfc.Library SapRfc.Library.ChunkedReads SapRfc.Program

/-- A payload that is returned: within the cap, and not a router's refusal. -/
def Deliverable (payload : Bytes) : Prop :=
  payload.length ≤ MAX_FRAME_BYTES ∧ payload.take 8 ≠ NI_RTERR

/-- The payloads whose frames are wholly among the first `k` bytes of the stream. -/
def fully_received : List Bytes → ℕ → List Bytes
  | [], _ => []
  | payload :: rest, k =>
    if 4 + payload.length ≤ k then payload :: fully_received rest (k - (4 + payload.length))
    else []

/-- Successive calls return the payloads, and the next one raises `EOFError`. -/
def Delivers {σ : Type} (recv : Eff PyError σ Bytes) (s : σ) (payloads : List Bytes) : Prop :=
  ∃ s', Eff.run (calls recv payloads.length) s = (.ok payloads, s') ∧
    ∃ e, (Eff.run recv s').1 = .error e ∧ e.kind = .eof

/-! ## Frames -/

/-- The frame of a payload. -/
def frame (payload : Bytes) : Bytes := toBE 4 payload.length ++ payload

theorem length_frame (payload : Bytes) : (frame payload).length = 4 + payload.length := by
  rw [frame, List.length_append, length_toBE]

theorem MAX_FRAME_BYTES_lt : MAX_FRAME_BYTES < 256 ^ 4 := by
  norm_num [MAX_FRAME_BYTES]

theorem build_ni_frame_of_deliverable {payload : Bytes} (h : Deliverable payload) :
    build_ni_frame payload = .ok (frame payload) := by
  have hcap := MAX_FRAME_BYTES_lt
  have hle := h.1
  unfold build_ni_frame
  rw [if_neg (by omega)]
  rfl

theorem build_frames {payloads : List Bytes} (h : ∀ payload ∈ payloads, Deliverable payload) :
    payloads.mapM build_ni_frame = .ok (payloads.map frame) := by
  induction payloads with
  | nil => rfl
  | cons payload payloads ih =>
    obtain ⟨hpayload, hrest⟩ := List.forall_mem_cons.mp h
    exact Eff.except_mapM_cons_eq_ok.mpr
      ⟨_, _, build_ni_frame_of_deliverable hpayload, ih hrest, rfl⟩

/-! ## The whole stream -/

section Stream

variable {u : Unicode} {short : ℕ → ℕ → PyError}

/-- INTERNAL: a payload that is no refusal is let through. -/
theorem raise_for_ni_error_of_deliverable {payload : Bytes} (h : Deliverable payload) :
    raise_for_ni_error u payload = .ok () := by
  unfold raise_for_ni_error
  rw [if_neg h.2]

theorem run_recv_message_frame {payload : Bytes} (h : Deliverable payload) (rest : Bytes) :
    Eff.run (recv_message u (exactly short)) (frame payload ++ rest) = (.ok payload, rest) := by
  have hcap := MAX_FRAME_BYTES_lt
  have hle := h.1
  unfold recv_message frame
  rw [List.append_assoc, Eff.run_bind_ok (run_exactly_append short _ _ (length_toBE ..)),
    ofBE_toBE_of_lt (by omega), Eff.run_ite, if_neg (by omega),
    Eff.run_bind_ok (run_exactly_append short _ _ rfl), raise_for_ni_error_of_deliverable h]
  rfl

variable (u short) in
/-- A frame that is cut off raises what the short read raises. -/
theorem run_recv_message_cut {payload : Bytes} (h : Deliverable payload) {k : ℕ}
    (hk : k < 4 + payload.length) :
    ∃ r n, (Eff.run (recv_message u (exactly short)) ((frame payload).take k)).1 =
      .error (short r n) := by
  have hcap := MAX_FRAME_BYTES_lt
  have hle := h.1
  have hlength := length_frame payload
  unfold recv_message
  by_cases hheader : k < 4
  · have hshort : ((frame payload).take k).length < 4 := by
      rw [List.length_take]
      omega
    rw [Eff.run_bind_error (run_exactly_short short hshort)]
    exact ⟨_, _, rfl⟩
  · have hwidth : (toBE 4 payload.length).length = 4 := length_toBE ..
    have hcut : (frame payload).take k = toBE 4 payload.length ++ payload.take (k - 4) := by
      rw [frame, List.take_append, hwidth, List.take_of_length_le (by omega)]
    have hshort : (payload.take (k - 4)).length < payload.length := by
      rw [List.length_take]
      omega
    rw [hcut, Eff.run_bind_ok (run_exactly_append short _ _ hwidth), ofBE_toBE_of_lt (by omega),
      Eff.run_ite, if_neg (by omega), Eff.run_bind_error (run_exactly_short short hshort)]
    exact ⟨_, _, rfl⟩

/-- A stream that has ended raises what the short read raises. -/
theorem run_recv_message_nil :
    (Eff.run (recv_message u (exactly short)) []).1 = .error (short 0 4) := by
  unfold recv_message
  rw [Eff.run_bind_error (run_exactly_short short (show ([] : Bytes).length < 4 by decide))]
  rfl

/-- The first `k` bytes of the frames are read as the payloads that are wholly among them. -/
theorem delivers_stream (heof : ∀ r n, (short r n).kind = .eof) {payloads : List Bytes}
    (h : ∀ payload ∈ payloads, Deliverable payload) (k : ℕ) :
    Delivers (recv_message u (exactly short)) ((payloads.map frame).flatten.take k)
      (fully_received payloads k) := by
  induction payloads generalizing k with
  | nil =>
    refine ⟨[], ?_, short 0 4, run_recv_message_nil, heof 0 4⟩
    rw [List.map_nil, List.flatten_nil, List.take_nil, fully_received]
    rfl
  | cons payload payloads ih =>
    obtain ⟨hpayload, hrest⟩ := List.forall_mem_cons.mp h
    have hlength := length_frame payload
    rw [List.map_cons, List.flatten_cons, List.take_append, hlength]
    unfold fully_received
    by_cases hwhole : 4 + payload.length ≤ k
    · obtain ⟨s', hcalls, hlast⟩ := ih hrest (k - (4 + payload.length))
      rw [if_pos hwhole, List.take_of_length_le (by omega)]
      refine ⟨s', ?_, hlast⟩
      rw [List.length_cons, calls, Eff.run_bind_ok (run_recv_message_frame hpayload _),
        Eff.run_bind_ok hcalls]
      rfl
    · obtain ⟨r, n, hraised⟩ := run_recv_message_cut u short hpayload
        (Nat.lt_of_not_le hwhole)
      rw [if_neg hwhole, Nat.sub_eq_zero_of_le (by omega), List.take_zero, List.append_nil]
      exact ⟨_, rfl, short r n, hraised, heof r n⟩

end Stream

/-! ## The stream in pieces -/

/-- INTERNAL: what reads as the whole stream does delivers what that delivers. -/
theorem Delivers.of_tracks {σ τ : Type} {R : σ → τ → Prop} {recv : Eff PyError σ Bytes}
    {recv' : Eff PyError τ Bytes} (h : Eff.Tracks R (fun _ => False) recv recv') {s : σ} {t : τ}
    (hst : R s t) {payloads : List Bytes} (hd : Delivers recv' t payloads) :
    Delivers recv s payloads := by
  obtain ⟨t', hcalls, e, hraised, heof⟩ := hd
  rcases tracks_calls h payloads.length s t hst with ⟨hresult, hstates⟩ | ⟨_, -, hfalse⟩
  · rw [hcalls] at hresult hstates
    refine ⟨_, Prod.ext hresult rfl, e, ?_, heof⟩
    rcases h _ _ hstates with ⟨hlast, -⟩ | ⟨_, -, hfalse⟩
    · exact hlast.trans hraised
    · exact hfalse.elim
  · exact hfalse.elim

/-- All payloads are received where the stream has all the bytes of their frames. -/
theorem fully_received_of_le {payloads : List Bytes} {k : ℕ}
    (h : (payloads.map frame).flatten.length ≤ k) : fully_received payloads k = payloads := by
  induction payloads generalizing k with
  | nil => rfl
  | cons payload payloads ih =>
    rw [List.map_cons, List.flatten_cons, List.length_append, length_frame] at h
    rw [fully_received, if_pos (by omega), ih (by omega)]

/-- However the stream of the frames is cut into pieces, and wherever it ends, both transports
return the payloads that it has in full, in order, and then raise `EOFError`. -/
theorem frames_delivered (u : Unicode) {payloads : List Bytes}
    (h : ∀ payload ∈ payloads, Deliverable payload) :
    ∃ frames, payloads.mapM build_ni_frame = .ok frames ∧
      (∀ k, frames.flatten.length ≤ k → fully_received payloads k = payloads) ∧
      ∀ k, (∀ socket : Socket, socket.flatten = frames.flatten.take k →
          Delivers (Socket.recv_message u) socket (fully_received payloads k)) ∧
        ∀ reader : StreamReader, reader.stream = frames.flatten.take k →
          Delivers (StreamReader.recv_message u) reader (fully_received payloads k) := by
  refine ⟨_, build_frames h, fun k => fully_received_of_le, fun k => ⟨?_, ?_⟩⟩
  · intro socket hsocket
    exact (delivers_stream (fun _ _ => rfl) h k).of_tracks
      (tracks_recv_message (gather_tracks short_read)) hsocket
  · intro reader hreader
    exact (delivers_stream (fun _ _ => rfl) h k).of_tracks
      (tracks_recv_message (await_tracks incomplete_read)) hreader

/-- An empty payload and one of two bytes, cut inside the second length and before the last
byte. -/
theorem two_frames_delivered :
    Delivers (Socket.recv_message asciiTables) [[0, 0, 0, 0, 0, 0], [0, 2, 7], [9]] [[], [7, 9]] ∧
      Delivers (StreamReader.recv_message asciiTables)
        ⟨[0, 0], [[0, 0, 0, 0], [0, 2, 7]]⟩ [[]] := by
  obtain ⟨frames, hframes, -, hall⟩ := frames_delivered asciiTables
    (show ∀ payload ∈ [[], [7, 9]], Deliverable payload by
      unfold Deliverable MAX_FRAME_BYTES NI_RTERR
      decide)
  obtain rfl : [[0, 0, 0, 0], [0, 0, 0, 2, 7, 9]] = frames := by
    have hbuilt : [[], [7, 9]].mapM build_ni_frame = .ok [[0, 0, 0, 0], [0, 0, 0, 2, 7, 9]] := by
      decide
    exact Except.ok.inj (hbuilt.symm.trans hframes)
  exact ⟨(hall 10).1 _ rfl, (hall 9).2 _ rfl⟩

end SapRfc.Analysis.NiStreams
