import SapRfc.Program.Snc

/-!
# What an SNC receive lets through

The sender picks the protection from the negotiated level, by a table.  The receiver
picks the check from the type byte of the frame.  A frame whose type byte is neither
the one the level selects nor refused by the GSS library is handed up as it came, so
a session holds its protection exactly on the frames that are refused or carry the
right type.
-/

set_option autoImplicit false

namespace SapRfc.Analysis.SncReceive

open SapRfc.Library SapRfc.Program

/-! ## The levels -/

/-- A level is let through as the one that has its number. -/
theorem validate_snc_qop_eq_ok {level : ℤ} {q : SncQop} :
    validate_snc_qop level = .ok q ↔ level = q.value := by
  unfold validate_snc_qop
  constructor
  · intro h
    split at h
    next q' hfind =>
      obtain rfl := Except.ok.inj h
      have hvalue := List.find?_some hfind
      exact (of_decide_eq_true hvalue).symm
    next => cases h
  · rintro rfl
    cases q <;> rfl

/-- Every level that is let through protects what is sent, but for the first. -/
theorem plain_of_validated {level : ℤ} {q : SncQop} (h : validate_snc_qop level = .ok q) :
    QOP_PROTECTION q = .PLAIN ↔ level = 1 := by
  rw [validate_snc_qop_eq_ok.mp h]
  cases q <;> decide

section Receive

variable {γ ι : Type} (gss : GssBinding γ) (inner : InnerTransport ι) (cfg : SncConfig)

/-- A transport whose handshake for a gateway handle completed, after any number of
messages sent and received on it. -/
inductive Activated : SncTransport γ ι → Prop where
  | handshake {s₀ s : SncTransport γ ι} {fuel : ℕ} {handle : Bytes} :
      Eff.run (activate_snc gss inner cfg fuel (some handle)) s₀ = (.ok (some ()), s) →
      Activated s
  | sent {s : SncTransport γ ι} (payload : Bytes) : Activated s →
      Activated (Eff.run (snc_send_message gss inner cfg payload) s).2
  | received {s : SncTransport γ ι} : Activated s →
      Activated (Eff.run (snc_recv_message gss inner cfg) s).2

/-- The flags that a completed handshake for a handle has set. -/
def Secured (s : SncTransport γ ι) : Prop := s.established = true ∧ s.use_gw = true

/-- Nothing resets a flag. -/
def FlagsKept (s s' : SncTransport γ ι) : Prop :=
  (s.established = true → s'.established = true) ∧ s'.use_gw = s.use_gw

theorem FlagsKept.refl (s : SncTransport γ ι) : FlagsKept s s := ⟨id, rfl⟩

theorem FlagsKept.trans (a b c : SncTransport γ ι) (h : FlagsKept a b) (h' : FlagsKept b c) :
    FlagsKept a c :=
  ⟨fun ha => h'.1 (h.1 ha), h'.2.trans h.2⟩

theorem flagsKept_onGss {α : Type} (x : Eff PyError γ α) :
    Eff.Keeps FlagsKept (onGss x : Eff PyError (SncTransport γ ι) α) :=
  fun _ => ⟨id, rfl⟩

theorem flagsKept_onInner {α : Type} (x : Eff PyError ι α) :
    Eff.Keeps FlagsKept (onInner x : Eff PyError (SncTransport γ ι) α) :=
  fun _ => ⟨id, rfl⟩

theorem flagsKept_wrapTransportError {α : Type} {x : Eff PyError (SncTransport γ ι) α}
    (h : Eff.Keeps FlagsKept x) : Eff.Keeps FlagsKept (wrapTransportError x) := by
  apply Eff.Keeps.tryCatch FlagsKept.trans h
  intro exc
  split
  · exact Eff.Keeps.throw FlagsKept.refl _
  · exact Eff.Keeps.throw FlagsKept.refl _

theorem flagsKept_send_snc_frame (frame_type : SncFrameType) (token data ext : Bytes) (qop : ℕ) :
    Eff.Keeps FlagsKept (send_snc_frame (γ := γ) inner cfg frame_type token data ext qop) := by
  unfold send_snc_frame
  apply Eff.Keeps.bind FlagsKept.trans (Eff.Keeps.state FlagsKept.refl)
  intro s
  apply Eff.Keeps.bind FlagsKept.trans (Eff.Keeps.lift FlagsKept.refl _)
  intro frame
  apply Eff.Keeps.bind FlagsKept.trans (Eff.Keeps.lift FlagsKept.refl _)
  intro wire
  exact flagsKept_wrapTransportError (flagsKept_onInner _)

theorem flagsKept_recv_snc_frame :
    Eff.Keeps FlagsKept (recv_snc_frame (γ := γ) inner) := by
  unfold recv_snc_frame
  apply Eff.Keeps.bind FlagsKept.trans (flagsKept_wrapTransportError (flagsKept_onInner _))
  intro raw
  apply Eff.Keeps.bind FlagsKept.trans (Eff.Keeps.state FlagsKept.refl)
  intro s
  apply Eff.Keeps.bind FlagsKept.trans (Eff.Keeps.lift FlagsKept.refl _)
  intro buf
  exact Eff.Keeps.lift FlagsKept.refl _

theorem flagsKept_snc_send_message (payload : Bytes) :
    Eff.Keeps FlagsKept (snc_send_message gss inner cfg payload) := by
  unfold snc_send_message
  apply Eff.Keeps.bind FlagsKept.trans (Eff.Keeps.state FlagsKept.refl)
  intro s
  apply Eff.Keeps.ite
  · exact flagsKept_onInner _
  · split
    · apply Eff.Keeps.bind FlagsKept.trans (flagsKept_onGss _)
      intro wrapped
      exact flagsKept_send_snc_frame inner cfg _ _ _ _ _
    · apply Eff.Keeps.bind FlagsKept.trans (flagsKept_onGss _)
      intro mic
      exact flagsKept_send_snc_frame inner cfg _ _ _ _ _
    · exact flagsKept_send_snc_frame inner cfg _ _ _ _ _

theorem flagsKept_snc_recv_message :
    Eff.Keeps FlagsKept (snc_recv_message gss inner cfg) := by
  have hlog : ∀ event : GssEvent, Eff.Keeps FlagsKept (Eff.update (ε := PyError)
      fun s : SncTransport γ ι => { s with log := s.log ++ [event] }) :=
    fun _ => Eff.Keeps.update fun _ => ⟨id, rfl⟩
  unfold snc_recv_message unwrap verify_mic
  apply Eff.Keeps.bind FlagsKept.trans (flagsKept_wrapTransportError (flagsKept_onInner _))
  intro raw
  apply Eff.Keeps.bind FlagsKept.trans (Eff.Keeps.state FlagsKept.refl)
  intro s
  apply Eff.Keeps.ite _ (Eff.Keeps.pure FlagsKept.refl _)
  apply Eff.Keeps.ite _ (Eff.Keeps.pure FlagsKept.refl _)
  apply Eff.Keeps.bind FlagsKept.trans (Eff.Keeps.lift FlagsKept.refl _)
  intro buf
  apply Eff.Keeps.bind FlagsKept.trans (Eff.Keeps.lift FlagsKept.refl _)
  intro frame
  apply Eff.Keeps.ite
  · apply Eff.Keeps.bind FlagsKept.trans (flagsKept_onGss _)
    intro payload
    exact Eff.Keeps.bind FlagsKept.trans (hlog _) fun _ => Eff.Keeps.pure FlagsKept.refl _
  · apply Eff.Keeps.ite _ _ (Eff.Keeps.pure FlagsKept.refl _)
    apply Eff.Keeps.bind FlagsKept.trans
      (Eff.Keeps.bind FlagsKept.trans (flagsKept_onGss _) fun _ => hlog _)
    intro _
    exact Eff.Keeps.pure FlagsKept.refl _

/-- INTERNAL: the handshake leaves the envelope flag alone, and completes with the
transport established.  By induction on its turns. -/
theorem handshake_loop_secured (fuel : ℕ) : ∀ (token : Bytes) (first : Bool)
    (s : SncTransport γ ι),
    Eff.Sat (handshake_loop gss inner cfg fuel token first)
      (fun r s' => s'.use_gw = s.use_gw ∧ (r = .ok (some ()) → s'.established = true)) s := by
  induction fuel with
  | zero =>
    intro token first s
    exact ⟨rfl, nofun⟩
  | succ fuel ih =>
    intro token first s
    unfold handshake_loop
    apply Eff.Keeps.sat_bind (flagsKept_onGss _)
    · rintro ⟨major, out⟩ s₁ h₁
      apply Eff.Keeps.sat_bind
        (Eff.Keeps.ite _ (Eff.Keeps.pure FlagsKept.refl _) (flagsKept_send_snc_frame _ _ _ _ _ _ _))
      · intro _ s₂ h₂
        have h₁₂ := h₁.trans _ _ _ h₂
        by_cases hdone : major = GSS_S_COMPLETE
        · rw [if_pos hdone]
          exact ⟨h₁₂.2, fun _ => rfl⟩
        · rw [if_neg hdone]
          by_cases hhard : major % 2 = 0
          · rw [if_pos hhard]
            exact ⟨h₁₂.2, nofun⟩
          · rw [if_neg hhard]
            apply Eff.Keeps.sat_bind (flagsKept_recv_snc_frame inner)
            · intro frame s₃ h₃
              have hrest := ih frame.gss_token (first && decide (out = [])) s₃
              exact ⟨hrest.1.trans (h₁₂.trans _ _ _ h₃).2, hrest.2⟩
            · intro e s₃ h₃
              exact ⟨(h₁₂.trans _ _ _ h₃).2, nofun⟩
      · intro e s₂ h₂
        exact ⟨(h₁.trans _ _ _ h₂).2, nofun⟩
    · intro e s₁ h₁
      exact ⟨h₁.2, nofun⟩

/-- Every activated transport is secured. -/
theorem Activated.secured {s : SncTransport γ ι} (h : Activated gss inner cfg s) : Secured s := by
  induction h with
  | @handshake s₀ s fuel handle hrun =>
    have hloop := handshake_loop_secured gss inner cfg fuel [] true
      { s₀ with gw_handle := handle, use_gw := true }
    have hrun' : Eff.run (handshake_loop gss inner cfg fuel [] true)
        { s₀ with gw_handle := handle, use_gw := true } = (.ok (some ()), s) := hrun
    unfold Eff.Sat at hloop
    rw [hrun'] at hloop
    exact ⟨hloop.2 rfl, hloop.1⟩
  | @sent s payload _ ih =>
    have hk := flagsKept_snc_send_message gss inner cfg payload s
    exact ⟨hk.1 ih.1, hk.2.trans ih.2⟩
  | @received s _ ih =>
    have hk := flagsKept_snc_recv_message gss inner cfg s
    exact ⟨hk.1 ih.1, hk.2.trans ih.2⟩

/-! ## One receive -/

/-- The SNC frame behind the gateway header of a message. -/
def snc_frame (raw : Bytes) : Except PyError SncFrame := do
  let snc_raw ← strip_gw_snc_frame raw
  parse_snc_frame snc_raw

/-- The payload of a receive has the protection that the level stands for: it is what
`unwrap` made of the frame's token, or a message whose MIC `verify_mic` accepted. -/
def Protected (s : SncTransport γ ι) (payload : Bytes) (s' : SncTransport γ ι) : Prop :=
  match QOP_PROTECTION cfg.qop with
  | .PRIVACY => ∃ token g, Eff.run (gss.unwrap token) s.gss = (.ok payload, g) ∧
      s'.gss = g ∧ s'.log = s.log ++ [.unwrapped token payload]
  | .INTEGRITY => ∃ mic g, Eff.run (gss.verify_mic payload mic) s.gss = (.ok (), g) ∧
      s'.gss = g ∧ s'.log = s.log ++ [.verified payload mic]
  | _ => True

/-- The GSS library refuses the token of a frame of the other protected type. -/
def OtherRefused (g : γ) (frame : SncFrame) : Prop :=
  match QOP_PROTECTION cfg.qop with
  | .PRIVACY => frame.frame_type = SncFrameType.INTEGRITY.toByte ∧
      ∃ e, (Eff.run (gss.verify_mic frame.app_data frame.gss_token) g).1 = .error e
  | .INTEGRITY => frame.frame_type = SncFrameType.PRIVACY.toByte ∧
      ∃ e, (Eff.run (gss.unwrap frame.gss_token) g).1 = .error e
  | _ => False

/-- The condition on a message from the wire: no SNC frame is read from it, or the
type byte is the one the level selects, or it is that of the other protected type and
the library refuses the token. -/
def Safe (g : γ) (raw : Bytes) : Prop :=
  ∀ frame, snc_frame raw = .ok frame →
    frame.frame_type = (QOP_PROTECTION cfg.qop).toByte ∨ OtherRefused gss cfg g frame

theorem run_unwrap (token : Bytes) (s : SncTransport γ ι) :
    Eff.run (unwrap gss token) s =
      match Eff.run (gss.unwrap token) s.gss with
      | (.ok payload, g) =>
        (.ok payload, { s with gss := g, log := s.log ++ [.unwrapped token payload] })
      | (.error e, g) => (.error e, { s with gss := g }) := by
  unfold unwrap
  rw [Eff.run_bind]
  unfold onGss
  rw [Eff.run_mk]
  rcases Eff.run (gss.unwrap token) s.gss with ⟨_ | _, _⟩ <;> rfl

theorem run_verify_mic (message mic : Bytes) (s : SncTransport γ ι) :
    Eff.run (verify_mic gss message mic) s =
      match Eff.run (gss.verify_mic message mic) s.gss with
      | (.ok (), g) => (.ok (), { s with gss := g, log := s.log ++ [.verified message mic] })
      | (.error e, g) => (.error e, { s with gss := g }) := by
  unfold verify_mic
  rw [Eff.run_bind]
  unfold onGss
  rw [Eff.run_mk]
  rcases Eff.run (gss.verify_mic message mic) s.gss with ⟨_ | _, _⟩ <;> rfl

/-- INTERNAL: what an established receive in envelope mode makes of a frame. -/
def dispatch (frame : SncFrame) : Eff PyError (SncTransport γ ι) Bytes :=
  if frame.frame_type = SncFrameType.PRIVACY.toByte then unwrap gss frame.gss_token
  else if frame.frame_type = SncFrameType.INTEGRITY.toByte then do
    verify_mic gss frame.app_data frame.gss_token
    pure frame.app_data
  else pure frame.app_data

/-- INTERNAL: what the inner transport returns. -/
theorem run_wrapped_inner {α : Type} {x : Eff PyError ι α} {s : SncTransport γ ι} {a : α} {i : ι}
    (h : Eff.run x s.inner = (.ok a, i)) :
    Eff.run (wrapTransportError (onInner (γ := γ) x)) s = (.ok a, { s with inner := i }) := by
  rw [run_wrapTransportError]
  unfold onInner
  rw [Eff.run_mk, h]

/-- INTERNAL: what it raises. -/
theorem run_wrapped_inner_error {α : Type} {x : Eff PyError ι α} {s : SncTransport γ ι}
    {exc : PyError} {i : ι} (h : Eff.run x s.inner = (.error exc, i)) :
    Eff.run (wrapTransportError (onInner (γ := γ) x)) s =
      (.error (asCommunication exc), { s with inner := i }) := by
  rw [run_wrapTransportError]
  unfold onInner
  rw [Eff.run_mk, h]

/-- A message that the inner transport delivers is refused or dispatched. -/
theorem run_snc_recv_message {s : SncTransport γ ι} (hs : Secured s) {raw : Bytes} {i : ι}
    (hraw : Eff.run inner.recv_message s.inner = (.ok raw, i)) :
    Eff.run (snc_recv_message gss inner cfg) s =
      match snc_frame raw with
      | .ok frame => Eff.run (dispatch gss frame) { s with inner := i }
      | .error e => (.error e, { s with inner := i }) := by
  obtain ⟨hest, hgw⟩ := hs
  have hread := run_wrapped_inner hraw
  unfold snc_recv_message snc_frame
  rw [Eff.run_bind_ok hread, Eff.run_bind_ok (Eff.run_state _), Eff.run_ite,
    if_neg (by simp [hest]), Eff.run_ite, if_neg (by simp [hgw])]
  simp only [hgw, if_true]
  rw [Eff.run_bind, Eff.run_lift]
  cases hstrip : strip_gw_snc_frame raw with
  | error e => rfl
  | ok buf =>
    show Eff.run (Eff.lift (parse_snc_frame buf) >>= _) _ = _
    rw [Eff.run_bind, Eff.run_lift]
    show _ = (match parse_snc_frame buf with | .ok frame => _ | .error e => _)
    cases parse_snc_frame buf with
    | error e => rfl
    | ok frame => rfl

/-- A message that the inner transport does not deliver is not returned. -/
theorem run_snc_recv_message_error {s : SncTransport γ ι} {exc : PyError} {i : ι}
    (hraw : Eff.run inner.recv_message s.inner = (.error exc, i)) :
    ∃ e, (Eff.run (snc_recv_message gss inner cfg) s).1 = .error e := by
  have hread := run_wrapped_inner_error hraw
  refine ⟨asCommunication exc, ?_⟩
  unfold snc_recv_message
  rw [Eff.run_bind_error hread]

/-- INTERNAL: a dispatched frame is handed up with its protection exactly when its type
byte is the one the level selects, or the library refuses it. -/
theorem dispatch_protected_iff
    (hq : QOP_PROTECTION cfg.qop = .INTEGRITY ∨ QOP_PROTECTION cfg.qop = .PRIVACY)
    (s : SncTransport γ ι) (frame : SncFrame) :
    (∀ payload s', Eff.run (dispatch gss frame) s = (.ok payload, s') →
        Protected gss cfg s payload s') ↔
      (frame.frame_type = (QOP_PROTECTION cfg.qop).toByte ∨
        OtherRefused gss cfg s.gss frame) := by
  have hne : SncFrameType.INTEGRITY.toByte ≠ SncFrameType.PRIVACY.toByte := by decide
  unfold dispatch
  by_cases h9 : frame.frame_type = SncFrameType.PRIVACY.toByte
  · rw [if_pos h9, run_unwrap]
    rcases hu : Eff.run (gss.unwrap frame.gss_token) s.gss with ⟨e | payload, g⟩
    · -- refused: nothing is returned
      refine ⟨fun _ => ?_, fun _ payload s' h => by cases h⟩
      rcases hq with hp | hp
      · exact Or.inr (by unfold OtherRefused; rw [hp]; exact ⟨h9, e, by rw [hu]⟩)
      · exact Or.inl (by rw [hp, h9])
    · rcases hq with hp | hp
      · -- a PRIVACY frame that unwraps, where a MIC was due
        refine ⟨fun h => absurd (h payload _ rfl) ?_, fun h => ?_⟩
        · unfold Protected
          rw [hp]
          rintro ⟨mic, g', -, -, hlog⟩
          simp at hlog
        · unfold OtherRefused at h
          rw [hp] at h
          rcases h with h | ⟨-, e, he⟩
          · exact absurd (h.symm.trans h9) hne
          · rw [hu] at he
            cases he
      · refine ⟨fun _ => Or.inl (by rw [hp, h9]), fun _ payload' s' h => ?_⟩
        unfold Protected
        rw [hp]
        cases h
        exact ⟨frame.gss_token, g, hu, rfl, rfl⟩
  · rw [if_neg h9]
    by_cases h8 : frame.frame_type = SncFrameType.INTEGRITY.toByte
    · rw [if_pos h8, Eff.run_bind, run_verify_mic]
      rcases hv : Eff.run (gss.verify_mic frame.app_data frame.gss_token) s.gss with ⟨e | _, g⟩
      · refine ⟨fun _ => ?_, fun _ payload s' h => by cases h⟩
        rcases hq with hp | hp
        · exact Or.inl (by rw [hp, h8])
        · exact Or.inr (by unfold OtherRefused; rw [hp]; exact ⟨h8, e, by rw [hv]⟩)
      · rcases hq with hp | hp
        · refine ⟨fun _ => Or.inl (by rw [hp, h8]), fun _ payload' s' h => ?_⟩
          unfold Protected
          rw [hp]
          cases h
          exact ⟨frame.gss_token, g, hv, rfl, rfl⟩
        · -- a signed message where an encrypted one was due
          refine ⟨fun h => absurd (h frame.app_data _ rfl) ?_, fun h => ?_⟩
          · unfold Protected
            rw [hp]
            rintro ⟨token, g', -, -, hlog⟩
            simp at hlog
          · unfold OtherRefused at h
            rw [hp] at h
            rcases h with h | ⟨-, e, he⟩
            · exact absurd h h9
            · rw [hv] at he
              cases he
    · -- any other type byte: the application data goes up unchecked
      rw [if_neg h8]
      refine ⟨fun h => absurd (h frame.app_data s rfl) ?_, fun h => ?_⟩
      · unfold Protected
        rcases hq with hp | hp
        · rw [hp]
          rintro ⟨mic, g', -, -, hlog⟩
          simp at hlog
        · rw [hp]
          rintro ⟨token, g', -, -, hlog⟩
          simp at hlog
      · unfold OtherRefused at h
        rcases hq with hp | hp
        · rw [hp] at h
          rcases h with h | ⟨h, -⟩
          · exact absurd h h8
          · exact absurd h h9
        · rw [hp] at h
          rcases h with h | ⟨h, -⟩
          · exact absurd h h9
          · exact absurd h h8

/-- SOURCE: snc.py:1022-1049.  A receive on an activated transport returns only what has
the negotiated protection, exactly when every message that the wire can deliver next is
safe. -/
theorem snc_recv_message_protected_iff {s : SncTransport γ ι} (hs : Activated gss inner cfg s)
    (hq : QOP_PROTECTION cfg.qop = .INTEGRITY ∨ QOP_PROTECTION cfg.qop = .PRIVACY) :
    (∀ payload s', Eff.run (snc_recv_message gss inner cfg) s = (.ok payload, s') →
        Protected gss cfg s payload s') ↔
      ∀ raw i, Eff.run inner.recv_message s.inner = (.ok raw, i) → Safe gss cfg s.gss raw := by
  have hsec := hs.secured
  rcases hread : Eff.run inner.recv_message s.inner with ⟨exc | raw, i⟩
  · obtain ⟨e, he⟩ := run_snc_recv_message_error gss inner cfg hread
    refine ⟨fun _ raw i' h => (by cases h), fun _ payload s' h => ?_⟩
    rw [h] at he
    cases he
  · rw [run_snc_recv_message gss inner cfg hsec hread]
    unfold Safe
    cases hframe : snc_frame raw with
    | error e =>
      refine ⟨fun _ raw' i' h frame hf => ?_, fun _ payload s' h => by cases h⟩
      cases h
      rw [hframe] at hf
      cases hf
    | ok frame =>
      have hd := dispatch_protected_iff (ι := ι) gss cfg hq { s with inner := i } frame
      constructor
      · intro h raw' i' hr frame' hf
        cases hr
        rw [hframe] at hf
        cases hf
        exact hd.mp h
      · intro h
        exact hd.mpr (h raw i rfl frame hframe)

end Receive

/-! ## A frame of type PLAIN in a session with privacy -/

/-- A mechanism of one token: the context is complete with the first call, and the peer
has wrapped and signed nothing, so nothing is unwrapped or verified. -/
def oneTokenGss : GssBinding Unit where
  init_sec_context := fun _ => pure (GSS_S_COMPLETE, [0x01])
  wrap := fun payload => pure payload
  unwrap := fun _ => throw (err .snc (lit "GSS error"))
  get_mic := fun _ => pure []
  verify_mic := fun _ _ => throw (err .snc (lit "GSS error"))

/-- The NI transport over a socket; what is sent is not kept. -/
def niInner : InnerTransport Bytes where
  send_message := fun payload => do
    let _ ← Eff.lift (build_ni_frame payload)
    pure ()
  recv_message := recv_message asciiTables (recv_exactly_closed short_read)

/-- Privacy is negotiated. -/
def privacyConfig : SncConfig where
  qop := .PRIVACY
  eye := [0x53, 0x4E, 0x43, 0x46, 0x52, 0x41, 0x4D, 0x45]
  ext_header := []
  adapter_info := []

/-- An SNC frame of a type, with a token and data, behind a gateway header. -/
def gwSncFrame (frame_type : UInt8) (token data : Bytes) : Bytes :=
  0x06 :: List.replicate 79 0 ++ privacyConfig.eye ++ [frame_type, 0x06, 0x00, 0x18] ++
    toBE 4 token.length ++ toBE 4 data.length ++ [0x00, 0x03, 0x00, 0x03] ++ token ++ data

/-- The bytes on the wire: an unprotected frame with the text `EVIL`. -/
def plainFrameOnWire : Bytes :=
  [0x00, 0x00, 0x00, 0x6C] ++ gwSncFrame 7 [] [0x45, 0x56, 0x49, 0x4C]

/-- The transport before its handshake, with these bytes to come. -/
def freshTransport (wire : Bytes) : SncTransport Unit Bytes where
  gss := ()
  inner := wire
  established := false
  use_gw := false
  gw_handle := List.replicate 8 0x20
  log := []

/-- The transport after its handshake for the handle `00000001`. -/
def activatedTransport (wire : Bytes) : SncTransport Unit Bytes :=
  (Eff.run (activate_snc oneTokenGss niInner privacyConfig 1
    (some [0x30, 0x30, 0x30, 0x30, 0x30, 0x30, 0x30, 0x31])) (freshTransport wire)).2

theorem activated_activatedTransport (wire : Bytes) :
    Activated oneTokenGss niInner privacyConfig (activatedTransport wire) := by
  have hrun : Eff.run (activate_snc oneTokenGss niInner privacyConfig 1
      (some [0x30, 0x30, 0x30, 0x30, 0x30, 0x30, 0x30, 0x31])) (freshTransport wire) =
        (.ok (some ()), activatedTransport wire) := rfl
  exact .handshake hrun

set_option maxRecDepth 4000 in
/-- A frame of the right type whose token does not unwrap is safe, so the receive keeps
the protection. -/
theorem snc_recv_message_protected_privacy_frame :
    snc_frame (gwSncFrame 9 [0x01] []) = .ok ⟨9, 3, 3, [0x01], []⟩ ∧
      ∀ payload s', Eff.run (snc_recv_message oneTokenGss niInner privacyConfig)
          (activatedTransport ([0x00, 0x00, 0x00, 0x69] ++ gwSncFrame 9 [0x01] [])) =
            (.ok payload, s') →
        Protected oneTokenGss privacyConfig
          (activatedTransport ([0x00, 0x00, 0x00, 0x69] ++ gwSncFrame 9 [0x01] [])) payload s' := by
  have hparse : snc_frame (gwSncFrame 9 [0x01] []) = .ok ⟨9, 3, 3, [0x01], []⟩ := by rfl
  refine ⟨hparse, ?_⟩
  apply (snc_recv_message_protected_iff oneTokenGss niInner privacyConfig
    (activated_activatedTransport _) (Or.inr rfl)).mpr
  intro raw i hraw frame hframe
  have hrun : Eff.run niInner.recv_message
      (activatedTransport ([0x00, 0x00, 0x00, 0x69] ++ gwSncFrame 9 [0x01] [])).inner =
        (.ok (gwSncFrame 9 [0x01] []), []) := by rfl
  rw [hrun] at hraw
  cases hraw
  rw [hparse] at hframe
  cases hframe
  exact Or.inl rfl

set_option maxRecDepth 4000 in
/-- A frame of type PLAIN is handed up in a session with privacy: its data is returned
though the GSS library accepted nothing. -/
theorem snc_recv_message_returns_plain_frame :
    Activated oneTokenGss niInner privacyConfig (activatedTransport plainFrameOnWire) ∧
      QOP_PROTECTION privacyConfig.qop = .PRIVACY ∧
      ∃ s', Eff.run (snc_recv_message oneTokenGss niInner privacyConfig)
          (activatedTransport plainFrameOnWire) = (.ok [0x45, 0x56, 0x49, 0x4C], s') ∧
        ¬ Protected oneTokenGss privacyConfig (activatedTransport plainFrameOnWire)
          [0x45, 0x56, 0x49, 0x4C] s' := by
  refine ⟨activated_activatedTransport _, rfl, _, rfl, ?_⟩
  rintro ⟨token, g, -, -, hlog⟩
  have hlen : (activatedTransport plainFrameOnWire).log.length =
      ((activatedTransport plainFrameOnWire).log ++
        [GssEvent.unwrapped token [0x45, 0x56, 0x49, 0x4C]]).length := congrArg List.length hlog
  simp at hlen

end SapRfc.Analysis.SncReceive
