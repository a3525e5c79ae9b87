import SapRfc.Library.Spans
import SapRfc.Program.Logon
import SapRfc.Program.Trace

/-!
# What a trace shows of a logon

`redact` reads the frame as records from offset 80 on.  In a logon frame the twelve
bytes of the COM head stand there, and their first four read as a record of 50160
bytes.  So the walk is in step with the password record only where the records that
it finds behind those bytes happen to cover the password; and exactly there the dump
is the same for every password and seed.
-/

set_option autoImplicit false

namespace SapRfc.Analysis.TraceRedaction

open SapRfc.Library SapRfc.Library.Records SapRfc.Program

/-! ## The walk of `redact` -/

/-- Blank the value of a password record. -/
def blankSpan (out : Bytes) (s : Span) : Bytes :=
  if s.tag = TAG_PASSWORD then zeroFill out s.start s.length else out

/-- Blank the values of the password records among `l`. -/
def blank (l : List Span) (out : Bytes) : Bytes := l.foldl blankSpan out

/-- A password record among `l` has the offset. -/
def Blanked (l : List Span) (i : ℕ) : Prop := ∃ s ∈ l, s.tag = TAG_PASSWORD ∧ s.Has i

instance (l : List Span) (i : ℕ) : Decidable (Blanked l i) :=
  inferInstanceAs (Decidable (∃ s ∈ l, _))

@[simp] theorem length_blankSpan (out : Bytes) (s : Span) :
    (blankSpan out s).length = out.length := by
  unfold blankSpan
  split
  · exact length_zeroFill _ _ _
  · rfl

/-- The byte at `i` after blanking one record. -/
theorem getElem?_blankSpan (out : Bytes) (s : Span) (i : ℕ) :
    (blankSpan out s)[i]? =
      if (s.tag = TAG_PASSWORD ∧ s.Has i) ∧ i < out.length then some 0 else out[i]? := by
  unfold blankSpan
  by_cases hs : s.tag = TAG_PASSWORD
  · rw [if_pos hs, getElem?_zeroFill]
    have hhas : (s.start ≤ i ∧ i < s.start + s.length ∧ i < out.length) ↔
        (s.tag = TAG_PASSWORD ∧ s.Has i) ∧ i < out.length := by
      unfold Span.Has Span.stop
      exact ⟨fun h => ⟨⟨hs, h.1, h.2.1⟩, h.2.2⟩, fun h => ⟨h.1.2.1, h.1.2.2, h.2⟩⟩
    exact if_congr hhas rfl rfl
  · rw [if_neg hs, if_neg fun h => hs h.1.1]

/-- The byte at `i` after blanking: zero in a password record, unchanged elsewhere. -/
theorem getElem?_blank (l : List Span) (out : Bytes) (i : ℕ) :
    (blank l out)[i]? = if Blanked l i ∧ i < out.length then some 0 else out[i]? := by
  induction l generalizing out with
  | nil =>
    have h : ¬ Blanked [] i := by
      rintro ⟨s, hs, -⟩
      cases hs
    rw [if_neg fun hc => h hc.1]
    rfl
  | cons s l ih =>
    have hcons : Blanked (s :: l) i ↔ (s.tag = TAG_PASSWORD ∧ s.Has i) ∨ Blanked l i := by
      unfold Blanked
      simp
    show (blank l (blankSpan out s))[i]? = _
    rw [ih, getElem?_blankSpan, length_blankSpan]
    by_cases hi : i < out.length
    · by_cases hl : Blanked l i
      · rw [if_pos ⟨hl, hi⟩, if_pos ⟨hcons.mpr (Or.inr hl), hi⟩]
      · rw [if_neg fun h => hl h.1]
        exact if_congr ⟨fun h => ⟨hcons.mpr (Or.inl h.1), hi⟩,
          fun h => ⟨(hcons.mp h.1).resolve_right hl, hi⟩⟩ rfl rfl
    · rw [if_neg fun h => hi h.2, if_neg fun h => hi h.2, if_neg fun h => hi h.2]

/-- INTERNAL: one turn of the loop reads the record at the offset. -/
theorem redact_turn_eq (out : Bytes) (pos : ℕ) :
    redact_turn out pos = (spanAt 0xFFFF out pos).map fun s => (blankSpan out s, s.next out) := by
  have hvalue : ∀ tag start length, redact_value out tag start length =
      (if out.length < start + length then none else some (Span.mk tag start length)).map
        fun s => (blankSpan out s, s.next out) := by
    intro tag start length
    -- the closing tag lies behind the value that is blanked
    have hnum : numberAt (blankSpan out ⟨tag, start, length⟩) (start + length) 2 =
        numberAt out (start + length) 2 := by
      apply numberAt_congr
      intro i h1 h2
      rw [getElem?_blankSpan, if_neg]
      rintro ⟨⟨-, -, hlt⟩, -⟩
      simp only [Span.stop] at hlt
      omega
    have hnext : Span.next (blankSpan out ⟨tag, start, length⟩) ⟨tag, start, length⟩ =
        Span.next out ⟨tag, start, length⟩ := by
      unfold Span.next Span.stop
      rw [length_blankSpan, hnum]
    unfold redact_value
    split
    · rfl
    · rw [Option.map_some, ← hnext]
      rfl
  unfold redact_turn spanAt
  simp only [hvalue]
  split
  · rfl
  · show (if numberAt out pos 2 = 0xFFFF then _ else _) = _
    split
    · rfl
    · show (if numberAt out (pos + 2) 2 = 0xFFFF then _ else _) = _
      split
      · split
        · rfl
        · rfl
      · rfl

/-- INTERNAL: the loop blanks the password records of the bytes it started with.  By
induction on its turns: what it has blanked lies before the offset it has reached. -/
theorem redact_loop_eq {b : Bytes} (fuel : ℕ) : ∀ {out : Bytes} {pos : ℕ},
    out.length = b.length → (∀ i, pos ≤ i → out[i]? = b[i]?) →
      redact_loop fuel out pos = blank (spansFuel 0xFFFF b fuel pos) out := by
  induction fuel with
  | zero => intro out pos _ _; rfl
  | succ fuel ih =>
    intro out pos hlen hb
    unfold redact_loop spansFuel
    rw [redact_turn_eq, spanAt_eq_of_agree hlen hb]
    cases hs : spanAt 0xFFFF b pos with
    | none => rfl
    | some s =>
      have hlo := (spanAt_bounds hs).1
      have hstop : s.start ≤ s.stop := by simp [Span.stop]
      have hnext : s.next out = s.next b :=
        next_congr hlen fun i h1 _ => hb i (by omega)
      have hle := le_next (b := b) s
      simp only [Option.map_some, hnext]
      apply ih
      · rw [length_blankSpan, hlen]
      · intro i hi
        rw [getElem?_blankSpan, if_neg]
        · exact hb i (by omega)
        · rintro ⟨⟨-, -, hlt⟩, -⟩
          omega

/-- `redact` of a frame blanks the password records that lie behind offset 80. -/
theorem redact_eq {b : Bytes} (h6 : b.take 1 = [0x06]) (h80 : 80 < b.length) :
    redact b = blank (spans 0xFFFF b 80) b := by
  unfold redact
  rw [if_pos ⟨h6, h80⟩]
  exact redact_loop_eq _ rfl fun _ _ => rfl

/-- INTERNAL: streams that differ inside an interval which a password record covers
are redacted alike. -/
theorem blank_eq_of_covers {b b' : Bytes} {lo hi pos : ℕ} {s : Span}
    (hlen : b.length = b'.length) (hb : ∀ i, i < lo ∨ hi ≤ i → b[i]? = b'[i]?)
    (hs : s ∈ spans 0xFFFF b pos) (htag : s.tag = TAG_PASSWORD) (hcov : s.Covers lo hi) :
    blank (spans 0xFFFF b pos) b = blank (spans 0xFFFF b' pos) b' := by
  have hspans : spans 0xFFFF b pos = spans 0xFFFF b' pos := by
    unfold spans at hs ⊢
    rw [← hlen]
    exact spansFuel_eq_of_covers hlen hb hs hcov
  apply List.ext_getElem?
  intro i
  rw [getElem?_blank, getElem?_blank, ← hspans, ← hlen]
  by_cases hin : lo ≤ i ∧ i < hi
  · have hblank : Blanked (spans 0xFFFF b pos) i :=
      ⟨s, hs, htag, hcov.1.trans hin.1, Nat.lt_of_lt_of_le hin.2 hcov.2⟩
    have hstop := (le_start_of_mem hs).2
    have hi' : i < b.length := by
      have := hcov.2
      omega
    rw [if_pos ⟨hblank, hi'⟩, if_pos ⟨hblank, hi'⟩]
  · rw [hb i (by omega)]

/-! ## The logon frame -/

/-- A logon in all but password and seed. -/
structure Logon where
  unicode : Unicode
  env : LogonEnv
  params : LogonParams
  handle : Bytes
  snc : Bool
  handle_length : handle.length = 8

/-- The logon frame for a password and a seed. -/
def Logon.frame (l : Logon) (passwd : PyStr) (seed : ℤ) : Except PyError Bytes := do
  let body ← build_logon_request l.unicode l.env l.params (some passwd) (some seed)
  pure (build_logon_frame l.handle body l.snc)

/-- The frame up to the value of the password record, for a password of `n` characters. -/
def Logon.before (l : Logon) (head : Bytes) (n : ℕ) : Bytes :=
  gw_rfc_header l.handle ++ gw_client_tail l.snc ++ COM_HEAD ++
    (head ++ (toBE 2 0x0117 ++ toBE 2 (4 + n)))

theorem length_ab_scramble_loop (seed : ℕ) (buf : Bytes) : ∀ i k ck,
    (ab_scramble_loop seed buf i k ck).length = buf.length := by
  induction buf with
  | nil => intro i k ck; rfl
  | cons b rest ih =>
    intro i k ck
    simp [ab_scramble_loop, ih]

theorem length_scramble_password (passwd : PyStr) (seed : ℤ) (nonce : Bytes) :
    (scramble_password passwd (some seed) nonce).length = 4 + passwd.length := by
  simp [scramble_password, ab_scramble, length_ab_scramble_loop, encodeLatin1Replace]

/-- INTERNAL: the password record is a value of `4 + n` bytes between its header and its
closing tag. -/
theorem logon_password_eq (env : LogonEnv) (passwd : PyStr) (seed : ℤ) :
    logon_password env (some passwd) (some seed) =
      if 256 ^ 2 ≤ 4 + passwd.length then
        .error (err .overflow (lit "int too big to convert"))
      else .ok (toBE 2 0x0117 ++ toBE 2 (4 + passwd.length) ++
        scramble_password passwd (some seed) env.nonce ++ toBE 2 0x0117) := by
  show tlv_ext 0x0117 (scramble_password passwd (some seed) env.nonce) = _
  unfold tlv_ext
  rw [length_scramble_password]

/-- INTERNAL: a frame that is built is the password value between two parts that do not
depend on it. -/
theorem frame_eq_ok {l : Logon} {passwd : PyStr} {seed : ℤ} {F : Bytes} :
    l.frame passwd seed = .ok F ↔
      ∃ head tail, logon_head l.env l.params = .ok head ∧
        logon_tail l.unicode l.env l.params = .ok tail ∧ 4 + passwd.length < 256 ^ 2 ∧
        F = l.before head passwd.length ++
          (scramble_password passwd (some seed) l.env.nonce ++ (toBE 2 0x0117 ++ tail)) := by
  unfold Logon.frame build_logon_request
  rw [logon_password_eq]
  cases hhead : logon_head l.env l.params with
  | error e => exact ⟨nofun, fun ⟨_, _, h, _⟩ => nomatch h⟩
  | ok head =>
    by_cases hlen : 256 ^ 2 ≤ 4 + passwd.length
    · simp only [hlen, if_true]
      exact ⟨nofun, fun ⟨_, _, _, _, h, _⟩ => absurd h (by omega)⟩
    · simp only [hlen, if_false]
      cases htail : logon_tail l.unicode l.env l.params with
      | error e => exact ⟨nofun, fun ⟨_, _, _, h, _⟩ => nomatch h⟩
      | ok tail =>
        have hframe : build_logon_frame l.handle (head ++ (toBE 2 0x0117 ++
            toBE 2 (4 + passwd.length) ++ scramble_password passwd (some seed) l.env.nonce ++
            toBE 2 0x0117) ++ tail) l.snc =
            l.before head passwd.length ++
              (scramble_password passwd (some seed) l.env.nonce ++ (toBE 2 0x0117 ++ tail)) := by
          unfold build_logon_frame Logon.before
          simp only [List.append_assoc]
        constructor
        · intro h
          cases h
          exact ⟨head, tail, rfl, rfl, by omega, hframe⟩
        · rintro ⟨head', tail', hh, ht, -, rfl⟩
          cases hh
          cases ht
          rw [← hframe]
          rfl

/-- The offset of the password value; it does not depend on the password. -/
def Logon.passwordAt (l : Logon) : ℕ :=
  match logon_head l.env l.params with
  | .ok head => (l.before head 0).length
  | .error _ => 0

theorem passwordAt_eq {l : Logon} {head : Bytes} (h : logon_head l.env l.params = .ok head)
    (n : ℕ) : l.passwordAt = (l.before head n).length := by
  unfold Logon.passwordAt
  rw [h]
  simp [Logon.before]

/-- INTERNAL: two logons that differ in password and seed only differ inside the
password value only. -/
theorem frame_agree {l : Logon} {p₁ p₂ : PyStr} {s₁ s₂ : ℤ} {F₁ F₂ : Bytes}
    (hlen : p₁.length = p₂.length) (h₁ : l.frame p₁ s₁ = .ok F₁) (h₂ : l.frame p₂ s₂ = .ok F₂) :
    F₁.length = F₂.length ∧
      ∀ i, i < l.passwordAt ∨ l.passwordAt + (4 + p₁.length) ≤ i → F₁[i]? = F₂[i]? := by
  obtain ⟨head, tail, hh, ht, -, rfl⟩ := frame_eq_ok.mp h₁
  obtain ⟨head', tail', hh', ht', -, rfl⟩ := frame_eq_ok.mp h₂
  rw [hh] at hh'
  rw [ht] at ht'
  cases hh'
  cases ht'
  have hv₁ := length_scramble_password p₁ s₁ l.env.nonce
  have hv₂ := length_scramble_password p₂ s₂ l.env.nonce
  rw [passwordAt_eq hh p₁.length, ← hlen]
  refine ⟨by simp only [List.length_append, hv₁, hv₂, hlen], ?_⟩
  intro i hi
  exact getElem?_append_middle _ _ (by rw [hv₁, hv₂, hlen]) (by rw [hv₁]; exact hi)

/-- INTERNAL: the byte of a frame inside the password value. -/
theorem frame_getElem? {l : Logon} {passwd : PyStr} {seed : ℤ} {F : Bytes}
    (h : l.frame passwd seed = .ok F) {j : ℕ} (hj : j < 4 + passwd.length) :
    F[l.passwordAt + j]? = (scramble_password passwd (some seed) l.env.nonce)[j]? := by
  obtain ⟨head, tail, hh, ht, -, rfl⟩ := frame_eq_ok.mp h
  rw [passwordAt_eq hh passwd.length, List.getElem?_append_right (by omega),
    Nat.add_sub_cancel_left,
    List.getElem?_append_left (by rw [length_scramble_password]; exact hj)]

/-- INTERNAL: whether a frame is built does not depend on password and seed. -/
theorem frame_exists {l : Logon} {p₁ p₂ : PyStr} {s₁ : ℤ} {F₁ : Bytes} (s₂ : ℤ)
    (hlen : p₁.length = p₂.length) (h₁ : l.frame p₁ s₁ = .ok F₁) :
    ∃ F₂, l.frame p₂ s₂ = .ok F₂ := by
  obtain ⟨head, tail, hh, ht, hn, -⟩ := frame_eq_ok.mp h₁
  exact ⟨_, frame_eq_ok.mpr ⟨head, tail, hh, ht, hlen ▸ hn, rfl⟩⟩

/-- INTERNAL: `redact` of a logon frame starts behind its gateway header. -/
theorem redact_frame {l : Logon} {passwd : PyStr} {seed : ℤ} {F : Bytes}
    (h : l.frame passwd seed = .ok F) : redact F = blank (spans 0xFFFF F 80) F := by
  obtain ⟨head, tail, hh, ht, -, rfl⟩ := frame_eq_ok.mp h
  apply redact_eq
  · rfl
  · have := l.handle_length
    simp [Logon.before, gw_rfc_header, gw_client_tail, COM_HEAD]
    omega

/-! ## Passwords that show a byte -/

/-- INTERNAL: of the passwords of characters 0 and of characters 1 one shows a given
byte of its scrambled form. -/
theorem exists_scrambled_ne_zero (seed : ℕ) (n : ℕ) : ∀ (i k ck j : ℕ), j < n →
    ∃ c : ℕ, c < 2 ∧ ∃ x : UInt8, x ≠ 0 ∧
      (ab_scramble_loop seed (encodeLatin1Replace (List.replicate n c)) i k ck)[j]? = some x := by
  induction n with
  | zero => intro i k ck j hj; omega
  | succ n ih =>
    intro i k ck j hj
    cases j with
    | succ j =>
      obtain ⟨c, hc, x, hx, hget⟩ := ih (i + 1) ((k + 1) % 64) ((ck + seed) % 2 ^ 32) j (by omega)
      exact ⟨c, hc, x, hx, hget⟩
    | zero =>
      -- the two characters are scrambled with the same key byte
      by_cases hkey : UInt8.ofNat (ck * i % 2 ^ 32) ^^^ AB_SCRAMBLE_KT.getD k 0 = 0
      · refine ⟨1, by omega, 1, by decide, ?_⟩
        show some ((1 : UInt8) ^^^ _) = _
        rw [hkey]
        rfl
      · refine ⟨0, by omega, UInt8.ofNat (ck * i % 2 ^ 32) ^^^ AB_SCRAMBLE_KT.getD k 0, hkey, ?_⟩
        show some ((0 : UInt8) ^^^ _) = _
        rw [UInt8.zero_xor]

/-- INTERNAL: every byte of the password value is shown by some password and seed. -/
theorem exists_password_ne_zero (n : ℕ) (nonce : Bytes) {j : ℕ} (hj : j < 4 + n) :
    ∃ (passwd : PyStr) (seed : ℤ) (x : UInt8), passwd.length = n ∧ x ≠ 0 ∧
      (scramble_password passwd (some seed) nonce)[j]? = some x := by
  have hseed : ((0x01010101 : ℤ) % 2 ^ 32).toNat = 0x01010101 := by decide
  by_cases h4 : j < 4
  · refine ⟨List.replicate n 0, 0x01010101, 1, by simp, by decide, ?_⟩
    unfold scramble_password
    simp only [hseed]
    rw [List.getElem?_append_left (by simpa using h4)]
    have hbytes : toLE 4 0x01010101 = [1, 1, 1, 1] := by decide
    rw [hbytes]
    match j, h4 with
    | 0, _ => rfl
    | 1, _ => rfl
    | 2, _ => rfl
    | 3, _ => rfl
  · obtain ⟨c, -, x, hx, hget⟩ := exists_scrambled_ne_zero 0x01010101 n 0
      ((0x01010101 >>> 5 ^^^ 0x01010101 * 2 % 2 ^ 32 ^^^ 0x01010101) % 64) 0xFFFFFFFF (j - 4)
      (by omega)
    refine ⟨List.replicate n c, 0x01010101, x, by simp, hx, ?_⟩
    unfold scramble_password
    simp only [hseed]
    rw [List.getElem?_append_right (by simp; omega), length_toLE]
    exact hget

/-! ## What the trace shows -/

/-- The trace of a logon with a password of `n` characters reveals nothing about password
and seed: the redacted bytes and the lines written are the same for any two, and the
bytes of the password value are zero. -/
structure Hidden (l : Logon) (n : ℕ) : Prop where
  same_bytes : ∀ {p₁ p₂ : PyStr} {s₁ s₂ : ℤ} {F₁ F₂ : Bytes}, p₁.length = n → p₂.length = n →
    l.frame p₁ s₁ = .ok F₁ → l.frame p₂ s₂ = .ok F₂ → redact F₁ = redact F₂
  same_dump : ∀ (ctx : TraceContext) {p₁ p₂ : PyStr} {s₁ s₂ : ℤ} {F₁ F₂ : Bytes},
    p₁.length = n → p₂.length = n → l.frame p₁ s₁ = .ok F₁ → l.frame p₂ s₂ = .ok F₂ →
    RfcTrace_frame ctx F₁ = RfcTrace_frame ctx F₂
  zero : ∀ {passwd : PyStr} {seed : ℤ} {F : Bytes}, passwd.length = n →
    l.frame passwd seed = .ok F →
    ∀ j, j < 4 + n → (redact F)[l.passwordAt + j]? = some 0

/-- The records that a reader finds from offset 80 on are in step with the password: one
of them has the tag `0x0117` and lies around the password value. -/
def InStep (l : Logon) (n : ℕ) (F : Bytes) : Prop :=
  ∃ s ∈ spans 0xFFFF F 80, s.tag = TAG_PASSWORD ∧ s.Covers l.passwordAt (l.passwordAt + (4 + n))

/-- A frame in step is redacted like every other frame of the logon. -/
theorem hidden_of_inStep {l : Logon} {n : ℕ}
    (h : ∀ passwd seed F, passwd.length = n → l.frame passwd seed = .ok F → InStep l n F) :
    Hidden l n := by
  have hsame : ∀ {p₁ p₂ : PyStr} {s₁ s₂ : ℤ} {F₁ F₂ : Bytes}, p₁.length = n → p₂.length = n →
      l.frame p₁ s₁ = .ok F₁ → l.frame p₂ s₂ = .ok F₂ → redact F₁ = redact F₂ := by
    intro p₁ p₂ s₁ s₂ F₁ F₂ hp₁ hp₂ hF₁ hF₂
    obtain ⟨s, hs, htag, hcov⟩ := h p₁ s₁ F₁ hp₁ hF₁
    obtain ⟨hlen, hagree⟩ := frame_agree (hp₁.trans hp₂.symm) hF₁ hF₂
    rw [hp₁] at hagree
    rw [redact_frame hF₁, redact_frame hF₂]
    exact blank_eq_of_covers hlen hagree hs htag hcov
  refine ⟨hsame, ?_, ?_⟩
  · intro ctx p₁ p₂ s₁ s₂ F₁ F₂ hp₁ hp₂ hF₁ hF₂
    unfold RfcTrace_frame
    rw [hsame hp₁ hp₂ hF₁ hF₂, (frame_agree (hp₁.trans hp₂.symm) hF₁ hF₂).1]
  · intro passwd seed F hp hF j hj
    obtain ⟨s, hs, htag, hcov⟩ := h passwd seed F hp hF
    have hstop := (le_start_of_mem hs).2
    obtain ⟨hc1, hc2⟩ := hcov
    rw [redact_frame hF, getElem?_blank, if_pos]
    exact ⟨⟨s, hs, htag, by omega, by omega⟩, by omega⟩

/-- INTERNAL: where the password is hidden, every byte of its value lies in a password
record that starts at or before it. -/
theorem Hidden.exists_span {l : Logon} {n : ℕ} (h : Hidden l n) {passwd : PyStr} {seed : ℤ}
    {F : Bytes} (hp : passwd.length = n) (hF : l.frame passwd seed = .ok F) {j : ℕ}
    (hj : j < 4 + n) :
    ∃ (p' : PyStr) (s' : ℤ) (F' : Bytes), p'.length = n ∧ l.frame p' s' = .ok F' ∧
      ∃ s ∈ spans 0xFFFF F' 80, s.tag = TAG_PASSWORD ∧ s.Has (l.passwordAt + j) := by
  obtain ⟨p', s', x, hp', hx, hget⟩ := exists_password_ne_zero n l.env.nonce hj
  obtain ⟨F', hF'⟩ := frame_exists s' (hp.trans hp'.symm) hF
  refine ⟨p', s', F', hp', hF', ?_⟩
  have hzero := h.zero hp' hF' j hj
  rw [redact_frame hF', getElem?_blank] at hzero
  by_contra hnot
  rw [if_neg fun hb => hnot hb.1, frame_getElem? hF' (by omega), hget] at hzero
  exact hx (Option.some.inj hzero)

/-- A password that is hidden is hidden by a record around it. -/
theorem Hidden.inStep {l : Logon} {n : ℕ} (h : Hidden l n) {passwd : PyStr} {seed : ℤ}
    {F : Bytes} (hp : passwd.length = n) (hF : l.frame passwd seed = .ok F) : InStep l n F := by
  -- a password record of another frame is one of this frame if it starts before the value
  have hmove : ∀ {p₁ p₂ : PyStr} {s₁ s₂ : ℤ} {F₁ F₂ : Bytes} {s : Span}, p₁.length = n →
      p₂.length = n → l.frame p₁ s₁ = .ok F₁ → l.frame p₂ s₂ = .ok F₂ →
      s ∈ spans 0xFFFF F₁ 80 → s.start ≤ l.passwordAt → s ∈ spans 0xFFFF F₂ 80 := by
    intro p₁ p₂ s₁ s₂ F₁ F₂ s hp₁ hp₂ hF₁ hF₂ hs hstart
    obtain ⟨hlen, hagree⟩ := frame_agree (hp₁.trans hp₂.symm) hF₁ hF₂
    unfold spans at hs ⊢
    rw [← hlen]
    exact mem_spans_congr hlen (fun i hi => hagree i (Or.inl hi)) hs hstart
  obtain ⟨p₀, s₀, F₀, hp₀, hF₀, s, hs, htag, hhas⟩ := h.exists_span hp hF (j := 0) (by omega)
  have hstart : s.start ≤ l.passwordAt := hhas.1
  refine ⟨s, hmove hp₀ hp hF₀ hF hs hstart, htag, hstart, ?_⟩
  by_contra hshort
  -- the byte behind the record is a header byte: no other record blanks it
  have hlt : l.passwordAt < s.stop := hhas.2
  obtain ⟨p₁, s₁, F₁, hp₁, hF₁, t, ht, -, hthas⟩ :=
    h.exists_span hp hF (j := s.stop - l.passwordAt) (by omega)
  have hs₁ := hmove hp₀ hp₁ hF₀ hF₁ hs hstart
  have hstops : s.start ≤ s.stop := by simp [Span.stop]
  have h1 := hthas.1
  have h2 := hthas.2
  rcases apart_of_mem hs₁ ht with rfl | hap | hap
  · omega
  · omega
  · omega

/-- SOURCE: trace.py:54-86, 171-188 and connection.py:2219-2240, 2299-2360.  A trace
reveals nothing of the password of a logon exactly when every frame of the logon is in
step. -/
theorem logon_hidden_iff (l : Logon) (n : ℕ) :
    Hidden l n ↔
      ∀ passwd seed F, passwd.length = n → l.frame passwd seed = .ok F → InStep l n F :=
  ⟨fun h _ _ _ hp hF => h.inStep hp hF, hidden_of_inStep⟩

/-! ## An ordinary logon -/

/-- Client 001, user `DEV`, host `pc`. -/
def sampleLogon : Logon where
  unicode := asciiTables
  env := { hostname := some (lit "pc"), session_token := List.replicate 16 0xA5, nonce := [] }
  params := { client := lit "001", user := some (lit "DEV"), program_name := [], lang := lit "EN" }
  handle := [0x30, 0x30, 0x30, 0x30, 0x30, 0x30, 0x30, 0x31]
  snc := false
  handle_length := rfl

/-- The bytes of a frame that is built, and nothing otherwise. -/
def Logon.bytes (l : Logon) (passwd : PyStr) (seed : ℤ) : Bytes :=
  match l.frame passwd seed with
  | .ok F => F
  | .error _ => []

set_option maxRecDepth 20000 in
/-- Two logons that differ in the password are dumped differently, and the password
value stands in the dump as it was sent. -/
theorem sample_logon_not_hidden :
    sampleLogon.frame (lit "secret") 7 = .ok (sampleLogon.bytes (lit "secret") 7) ∧
      sampleLogon.frame (lit "Secret") 7 = .ok (sampleLogon.bytes (lit "Secret") 7) ∧
      redact (sampleLogon.bytes (lit "secret") 7) = sampleLogon.bytes (lit "secret") 7 ∧
      redact (sampleLogon.bytes (lit "secret") 7) ≠ redact (sampleLogon.bytes (lit "Secret") 7) ∧
      ¬ Hidden sampleLogon 6 := by
  have h₁ : sampleLogon.frame (lit "secret") 7 = .ok (sampleLogon.bytes (lit "secret") 7) := by rfl
  have h₂ : sampleLogon.frame (lit "Secret") 7 = .ok (sampleLogon.bytes (lit "Secret") 7) := by rfl
  have hne : redact (sampleLogon.bytes (lit "secret") 7) ≠
      redact (sampleLogon.bytes (lit "Secret") 7) := by decide
  exact ⟨h₁, h₂, by decide, hne, fun h => hne (h.same_bytes (by decide) (by decide) h₁ h₂)⟩

end SapRfc.Analysis.TraceRedaction
