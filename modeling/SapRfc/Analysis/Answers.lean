import SapRfc.Analysis.Responses
import SapRfc.Analysis.Transactions
import SapRfc.Analysis.Units
import SapRfc.Program.Serving

/-!
# When the server answers

A dispatch guards the call of the handler and little else.  For each branch a predicate on
the frame and on what the application code does says when nothing unguarded raises, and the
dispatch returns an answer that can be sent exactly then.  A frame that is not answered gets
no reply at all, and the gateway is not told that the server waits for the next call.
-/

set_option autoImplicit false

namespace SapRfc.Analysis.Answers

open SapRfc.Library SapRfc.Program SapRfc.Analysis.Shipping SapRfc.Analysis.Responses
open SapRfc.Analysis.Units (respondState)
open SapRfc.Analysis.Residue (run_attempt_state)

variable {χ V α β : Type}

/-- An answer that the serve step can send: complete, and no longer than its header can say. -/
def Sendable (out : Bytes) : Prop := Complete out ∧ out.length < 256 ^ 4

/-- A dispatch gives a sendable answer from the application states of `D` and no others. -/
abbrev AnswersWhen (x : Eff PyError (ServerWorld χ) Bytes) (D : χ → Prop) : Prop :=
  Eff.ReturnsWhen ServerWorld.user Sendable x D

/-- A part of a dispatch ends as `C` says, on the application state. -/
abbrev EndsAs (x : Eff PyError (ServerWorld χ) α) (C : χ → α → χ → Prop) : Prop :=
  Eff.EndsAs ServerWorld.user x C

/-! ## Application code -/

/-- A failure is sent exactly of a message that can be spoken. -/
theorem answersWhen_failure (message : PyStr) :
    AnswersWhen (Eff.lift (build_system_failure message) : Eff PyError (ServerWorld χ) Bytes)
      fun _ => Speakable message := by
  refine Eff.ReturnsWhen.lift ⟨?_, ?_⟩
  · rintro ⟨out, hout, -⟩
    exact (build_system_failure_ok_iff message).mp ⟨out, hout⟩
  · intro h
    obtain ⟨out, hout⟩ := (build_system_failure_ok_iff message).mpr h
    exact ⟨out, hout, complete_system_failure hout, length_system_failure_lt hout⟩

/-- INTERNAL: plain text can be spoken. -/
theorem speakable_of_lt {message : PyStr} (h : ∀ c ∈ message, c < 0xD800) :
    Speakable message := by
  intro c hc
  have hmem : c ∈ message :=
    (List.takeWhile_sublist _).subset (List.mem_of_mem_take hc)
  unfold isSurrogate
  rw [decide_eq_false_iff_not]
  have hlt := h c hmem
  omega

/-- A failure with a text of our own. -/
theorem answersWhen_plain_failure {message : PyStr} (h : ∀ c ∈ message, c < 0xD800) :
    AnswersWhen (Eff.lift (build_system_failure message) : Eff PyError (ServerWorld χ) Bytes)
      fun _ => True :=
  (answersWhen_failure message).congr fun _ => iff_true_intro (speakable_of_lt h)

section Conditions

variable (p : Platform V) (srv : RfcServer χ V) (tlv : Bytes)

/-! ## Ordinary calls -/

variable {p srv tlv}

/-- INTERNAL: a guard in front of the rest. -/
theorem AnswersWhen.guard {b : Bool} {x y : Eff PyError (ServerWorld χ) Bytes} {D : χ → Prop}
    (hx : AnswersWhen x fun _ => True) (hy : AnswersWhen y D) {c : Bool} :
    AnswersWhen (if b = c then x else y) fun g => b = (!c) → D g := by
  by_cases hb : b = c
  · rw [if_pos hb]
    refine hx.congr fun g => iff_of_true trivial fun h => ?_
    rw [hb] at h
    cases c <;> cases h
  · rw [if_neg hb]
    refine hy.congr fun g => ⟨fun h _ => h, fun h => h ?_⟩
    cases b <;> cases c <;> first | rfl | exact absurd rfl hb

variable (p srv tlv)

variable {p srv tlv}

/-- INTERNAL: a check of an id in front of the rest. -/
theorem AnswersWhen.fault {fault : Option PyStr} {x : Eff PyError (ServerWorld χ) Bytes}
    {D : χ → Prop} (hplain : ∀ message, fault = some message → ∀ c ∈ message, c < 0xD800)
    (hx : AnswersWhen x D) :
    AnswersWhen (match fault with
      | some message => Eff.lift (build_system_failure message)
      | none => x) fun g => fault = none → D g := by
  cases fault with
  | none => exact hx.congr fun g => ⟨fun h _ => h, fun h => h rfl⟩
  | some message =>
    refine (answersWhen_plain_failure (hplain message rfl)).congr fun g => ?_
    exact iff_of_true trivial fun h => nomatch h

variable (p srv tlv)

variable {p srv tlv}

/-- INTERNAL: a check of a length in front of the rest. -/
theorem AnswersWhen.unless {c : Prop} [Decidable c] {x y : Eff PyError (ServerWorld χ) Bytes}
    {D : χ → Prop} (hx : AnswersWhen x fun _ => True) (hy : AnswersWhen y D) :
    AnswersWhen (if ¬ c then x else y) fun g => c → D g := by
  by_cases hc : c
  · rw [if_neg (not_not.mpr hc)]
    exact hy.congr fun g => ⟨fun h _ => h, fun h => h hc⟩
  · rw [if_pos hc]
    exact hx.congr fun g => iff_of_true trivial fun h => absurd h hc

variable (p srv)

variable {p srv}

/-- INTERNAL: an answer is wrapped exactly when its length fits the header. -/
theorem wrap_in_0608_ok_iff {out gw_handle : Bytes} :
    (∃ reply, wrap_in_0608 out gw_handle = .ok reply) ↔ out.length < 256 ^ 4 := by
  unfold wrap_in_0608 pack_u32
  split
  next h => exact ⟨fun ⟨_, he⟩ => (nomatch he), fun hlen => by omega⟩
  next h => exact ⟨fun _ => by omega, fun _ => ⟨_, rfl⟩⟩

/-- The serve step leaves the server as the dispatch leaves it, and sends all four messages of an
answer, or nothing. -/
theorem state_dispatch_and_reply (frame gw_handle : Bytes) (w : ServerWorld χ) (sent : List Bytes) :
    (Eff.run (dispatch_and_reply_sync p srv frame gw_handle) ⟨w, sent⟩).2 =
      ⟨(Eff.run (dispatch_inbound p srv frame) w).2,
        match (Eff.run (dispatch_inbound p srv frame) w).1.bind fun out =>
          wrap_in_0608 out gw_handle with
        | .ok reply => sent ++
          [reply, build_post_call_b gw_handle, build_post_call_d2 gw_handle, build_reg_waiting]
        | .error _ => sent⟩ := by
  have hbody : (Eff.run (dispatch_and_reply_sync p srv frame gw_handle) ⟨w, sent⟩).2 =
      (Eff.run (dispatch_and_send p srv frame gw_handle) ⟨w, sent⟩).2 := by
    have hattempt := run_attempt_state (dispatch_and_send p srv frame gw_handle) ⟨w, sent⟩
    unfold dispatch_and_reply_sync
    rw [← hattempt, Eff.run_bind]
    cases Eff.run (attempt (dispatch_and_send p srv frame gw_handle)) ⟨w, sent⟩ with
    | mk q s => cases q <;> rfl
  rw [hbody]
  have hserved : Eff.run (serving (dispatch_inbound p srv frame)) ⟨w, sent⟩ =
      ((Eff.run (dispatch_inbound p srv frame) w).1,
        ⟨(Eff.run (dispatch_inbound p srv frame) w).2, sent⟩) := rfl
  unfold dispatch_and_send
  rw [Eff.run_bind, hserved]
  cases (Eff.run (dispatch_inbound p srv frame) w).1 with
  | error e => rfl
  | ok out =>
    dsimp only [Except.bind]
    rw [Eff.run_bind, Eff.run_lift]
    cases wrap_in_0608 out gw_handle with
    | error e => rfl
    | ok reply =>
      have hsent : sent ++ [reply] ++ [build_post_call_b gw_handle] ++
          [build_post_call_d2 gw_handle] ++ [build_reg_waiting] = sent ++
            [reply, build_post_call_b gw_handle, build_post_call_d2 gw_handle,
              build_reg_waiting] := by
        simp only [List.append_assoc, List.cons_append, List.nil_append]
      exact congrArg (Serving.mk (Eff.run (dispatch_inbound p srv frame) w).2) hsent

/-- INTERNAL: what the serve step sends. -/
theorem sent_dispatch_and_reply (frame gw_handle : Bytes) (w : ServerWorld χ) (sent : List Bytes) :
    (Eff.run (dispatch_and_reply_sync p srv frame gw_handle) ⟨w, sent⟩).2.sent =
      match (Eff.run (dispatch_inbound p srv frame) w).1.bind fun out =>
        wrap_in_0608 out gw_handle with
      | .ok reply => sent ++
        [reply, build_post_call_b gw_handle, build_post_call_d2 gw_handle, build_reg_waiting]
      | .error _ => sent := by
  rw [state_dispatch_and_reply]

end Conditions

/-! ## A request that cannot be decoded -/

end SapRfc.Analysis.Answers
