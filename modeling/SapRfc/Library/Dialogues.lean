import SapRfc.Library.ChunkedReads
import Mathlib.Data.List.Basic

/-!
# Dialogues over a link

A client sends a request and reads the answer to it before it sends the next one.  Sending may
fail after a part of the request has gone out.  What a run has sent says how far the peer had
answered: the next request is not begun before the answers to all those in front of it were read
and accepted.  A dialogue that is through has taken from the link the accepted answers and nothing
behind them.
-/

set_option autoImplicit false

namespace SapRfc.Library.Dialogues

variable {α ε σ : Type}

/-- A send that fails: so many items still went out, and the error. -/
structure Fault (ε : Type) where
  sent : ℕ
  raised : ε

/-- A link to a peer: what is arriving, what was sent, what becomes of the sends to come, and how
often it was closed on this side. -/
structure Link (σ ε α : Type) where
  arriving : σ
  sent : List α
  faults : List (Option (Fault ε))
  closes : ℕ

/-- Sends the items, or some of them. -/
def send (items : List α) : Eff ε (Link σ ε α) Unit := Eff.mk fun link =>
  match link.faults with
  | [] => (.ok (), { link with sent := link.sent ++ items })
  | none :: later => (.ok (), { link with sent := link.sent ++ items, faults := later })
  | some fault :: later =>
    (.error fault.raised,
      { link with sent := link.sent ++ items.take fault.sent, faults := later })

/-- Reads from what is arriving. -/
def receive {β : Type} (read : Eff ε σ β) : Eff ε (Link σ ε α) β :=
  Eff.zoom Link.arriving (fun arriving link => { link with arriving := arriving }) read

/-- `except BaseException: link.close(); raise` -/
def closing {β : Type} (x : Eff ε (Link σ ε α) β) : Eff ε (Link σ ε α) β :=
  tryCatch x fun e => do
    Eff.update fun link => { link with closes := link.closes + 1 }
    throw e

theorem run_receive {β : Type} (read : Eff ε σ β) (link : Link σ ε α) :
    Eff.run (receive read) link =
      ((Eff.run read link.arriving).1,
        { link with arriving := (Eff.run read link.arriving).2 }) := rfl

/-- Reads in turn are one read. -/
theorem receive_bind {β γ : Type} (read : Eff ε σ β) (next : β → Eff ε σ γ) :
    (receive (read >>= next) : Eff ε (Link σ ε α) γ) =
      receive read >>= fun b => receive (next b) := by
  funext link
  show Eff.run (receive (read >>= next)) link = Eff.run (receive read >>= _) link
  rw [run_receive, Eff.run_bind, Eff.run_bind, run_receive]
  rcases Eff.run read link.arriving with ⟨_ | _, _⟩ <;> rfl

theorem receive_lift {β : Type} (r : Except ε β) :
    (receive (Eff.lift r) : Eff ε (Link σ ε α) β) = Eff.lift r := rfl

/-- What is sent behind a check is sent where the check lets through. -/
theorem receive_guard {β : Type} (c : Prop) [Decidable c] (e : ε)
    (next : Unit → Eff ε (Link σ ε α) β) :
    (receive (if c then throw e else pure ()) >>= next) = if c then throw e else next () := by
  split <;> rfl

theorem run_closing_ok {β : Type} {x : Eff ε (Link σ ε α) β} {link link' : Link σ ε α} {b : β} :
    Eff.run (closing x) link = (.ok b, link') ↔ Eff.run x link = (.ok b, link') := by
  unfold closing
  rw [Eff.run_tryCatch]
  rcases Eff.run x link with ⟨e | c, mid⟩
  · constructor
    · intro h
      cases h
    · intro h
      cases h
  · exact Iff.rfl

theorem run_closing_error {β : Type} {x : Eff ε (Link σ ε α) β} {link link' : Link σ ε α} {e : ε}
    (h : Eff.run x link = (.error e, link')) :
    Eff.run (closing x) link = (.error e, { link' with closes := link'.closes + 1 }) := by
  unfold closing
  rw [Eff.run_tryCatch, h]
  rfl

/-- The link was not closed in between. -/
def OpenStill (link link' : Link σ ε α) : Prop := link'.closes = link.closes

theorem OpenStill.refl (link : Link σ ε α) : OpenStill link link := rfl

theorem OpenStill.trans (l₁ l₂ l₃ : Link σ ε α) (h : OpenStill l₁ l₂) (h' : OpenStill l₂ l₃) :
    OpenStill l₁ l₃ := Eq.trans h' h

/-- Sending closes nothing. -/
theorem keeps_send (items : List α) :
    Eff.Keeps OpenStill (send items : Eff ε (Link σ ε α) Unit) := by
  intro link
  unfold send OpenStill
  rw [Eff.run_mk]
  cases link.faults with
  | nil => rfl
  | cons fault later => cases fault <;> rfl

theorem keeps_receive {β : Type} (read : Eff ε σ β) :
    Eff.Keeps OpenStill (receive read : Eff ε (Link σ ε α) β) :=
  fun _ => rfl

/-- A program that closes nothing is closed once where it raises. -/
theorem closes_closing {β : Type} {x : Eff ε (Link σ ε α) β} (hx : Eff.Keeps OpenStill x)
    {link link' : Link σ ε α} {e : ε} (h : Eff.run (closing x) link = (.error e, link')) :
    link'.closes = link.closes + 1 := by
  have hkept := hx link
  rcases hrun : Eff.run x link with ⟨e' | b, mid⟩
  · rw [run_closing_error hrun] at h
    rw [hrun] at hkept
    cases h
    exact congrArg (· + 1) hkept
  · rw [run_closing_ok.mpr hrun] at h
    cases h

theorem sent_closing {β : Type} (x : Eff ε (Link σ ε α) β) (link : Link σ ε α) :
    (Eff.run (closing x) link).2.sent = (Eff.run x link).2.sent := by
  unfold closing
  rw [Eff.run_tryCatch]
  rcases Eff.run x link with ⟨_ | _, _⟩ <;> rfl

/-! ## Exchanges -/

/-- A request, or what making it raises, and the reader of its answer. -/
structure Exchange (σ ε α : Type) where
  request : Except ε (List α)
  answer : Eff ε σ Unit

/-- One request and its answer. -/
def Exchange.run (x : Exchange σ ε α) : Eff ε (Link σ ε α) Unit := do
  let request ← Eff.lift x.request
  send request
  receive x.answer

/-- The exchanges in turn. -/
def dialogue : List (Exchange σ ε α) → Eff ε (Link σ ε α) Unit
  | [] => pure ()
  | x :: later => do
    x.run
    dialogue later

theorem dialogue_append (xs ys : List (Exchange σ ε α)) :
    dialogue (xs ++ ys) = dialogue xs >>= fun _ => dialogue ys := by
  induction xs with
  | nil => rfl
  | cons x later ih =>
    show (x.run >>= fun _ => dialogue (later ++ ys)) = (x.run >>= fun _ => dialogue later) >>= _
    rw [ih, Eff.bind_assoc]

/-- A dialogue of one exchange. -/
theorem dialogue_singleton (x : Exchange σ ε α) : dialogue [x] = x.run := by
  funext link
  show Eff.run (x.run >>= fun _ => pure ()) link = Eff.run x.run link
  rw [Eff.run_bind]
  rcases Eff.run x.run link with ⟨_ | _, _⟩ <;> rfl

/-- A dialogue closes nothing. -/
theorem keeps_dialogue (xs : List (Exchange σ ε α)) :
    Eff.Keeps OpenStill (dialogue xs) := by
  induction xs with
  | nil => exact Eff.Keeps.pure OpenStill.refl ()
  | cons x later ih =>
    refine Eff.Keeps.bind OpenStill.trans ?_ fun _ => ih
    refine Eff.Keeps.bind OpenStill.trans (Eff.Keeps.lift OpenStill.refl _) fun request => ?_
    exact Eff.Keeps.bind OpenStill.trans (keeps_send request) fun _ => keeps_receive x.answer

/-- The exchanges were through: their requests went out and their answers were accepted. -/
inductive Through : List (Exchange σ ε α) → σ → List α → σ → Prop
  | nil (s : σ) : Through [] s [] s
  | cons {x : Exchange σ ε α} {later : List (Exchange σ ε α)} {s s' s'' : σ}
      {request out : List α} (hrequest : x.request = .ok request)
      (hanswer : Eff.run x.answer s = (.ok (), s')) (hlater : Through later s' out s'') :
      Through (x :: later) s (request ++ out) s''

/-- So much went out of a dialogue: the requests of the exchanges that were through, and a part of
the request behind them. -/
inductive Reached : List (Exchange σ ε α) → σ → List α → Prop
  | here (xs : List (Exchange σ ε α)) (s : σ) : Reached xs s []
  | asked {x : Exchange σ ε α} {later : List (Exchange σ ε α)} {s : σ} {request part : List α}
      (hrequest : x.request = .ok request) (hpart : part <+: request) :
      Reached (x :: later) s part
  | answered {x : Exchange σ ε α} {later : List (Exchange σ ε α)} {s s' : σ}
      {request out : List α} (hrequest : x.request = .ok request)
      (hanswer : Eff.run x.answer s = (.ok (), s')) (hlater : Reached later s' out) :
      Reached (x :: later) s (request ++ out)

/-- INTERNAL: a send that returns has sent all. -/
theorem run_send_ok {items : List α} {link link' : Link σ ε α}
    (h : Eff.run (send items) link = (.ok (), link')) :
    link'.arriving = link.arriving ∧ link'.sent = link.sent ++ items ∧
      link'.closes = link.closes := by
  unfold send at h
  rw [Eff.run_mk] at h
  cases hfaults : link.faults with
  | nil =>
    rw [hfaults] at h
    cases h
    exact ⟨rfl, rfl, rfl⟩
  | cons fault later =>
    rw [hfaults] at h
    cases fault with
    | none =>
      cases h
      exact ⟨rfl, rfl, rfl⟩
    | some fault => cases h

/-- INTERNAL: a send that raises has sent a part. -/
theorem run_send_error {items : List α} {link link' : Link σ ε α} {e : ε}
    (h : Eff.run (send items) link = (.error e, link')) :
    ∃ part, part <+: items ∧ link'.sent = link.sent ++ part := by
  unfold send at h
  rw [Eff.run_mk] at h
  cases hfaults : link.faults with
  | nil =>
    rw [hfaults] at h
    cases h
  | cons fault later =>
    rw [hfaults] at h
    cases fault with
    | none => cases h
    | some fault =>
      cases h
      exact ⟨_, List.take_prefix .., rfl⟩

theorem run_send_of_no_faults (items : List α) {link : Link σ ε α} (h : link.faults = []) :
    Eff.run (send items) link = (.ok (), { link with sent := link.sent ++ items }) := by
  unfold send
  rw [Eff.run_mk, h]

/-- A dialogue that returns was through. -/
theorem dialogue_returns {xs : List (Exchange σ ε α)} {link link' : Link σ ε α}
    (h : Eff.run (dialogue xs) link = (.ok (), link')) :
    ∃ out, Through xs link.arriving out link'.arriving ∧ link'.sent = link.sent ++ out ∧
      link'.closes = link.closes := by
  induction xs generalizing link with
  | nil =>
    cases h
    exact ⟨[], .nil _, (List.append_nil _).symm, rfl⟩
  | cons x later ih =>
    obtain ⟨_, mid, hx, hlater⟩ := Eff.run_bind_eq_ok h
    obtain ⟨request, l₁, hmade, hx⟩ := Eff.run_bind_eq_ok hx
    obtain ⟨_, l₂, hsend, hanswer⟩ := Eff.run_bind_eq_ok hx
    rw [Eff.run_lift] at hmade
    obtain ⟨hrequest, rfl⟩ := Prod.mk.inj hmade
    obtain ⟨harriving, hsent, hclosed⟩ := run_send_ok hsend
    rw [run_receive] at hanswer
    obtain ⟨haccepted, rfl⟩ := Prod.mk.inj hanswer
    obtain ⟨out, hout, hsent', hclosed'⟩ := ih hlater
    rw [harriving] at haccepted hout
    refine ⟨request ++ out, .cons hrequest (Prod.ext haccepted rfl) hout, ?_, ?_⟩
    · rw [hsent', hsent, List.append_assoc]
    · rw [hclosed', hclosed]

/-- A dialogue whose answers are there goes through. -/
theorem dialogue_of_through {xs : List (Exchange σ ε α)} {s s' : σ} {out : List α}
    (h : Through xs s out s') {link : Link σ ε α} (hlink : link.arriving = s)
    (hfaults : link.faults = []) :
    Eff.run (dialogue xs) link =
      (.ok (), { link with arriving := s', sent := link.sent ++ out }) := by
  induction h generalizing link with
  | nil s =>
    subst hlink
    rw [List.append_nil]
    rfl
  | @cons x later s s' s'' request out hrequest hanswer hlater ih =>
    have hx : Eff.run x.run link =
        (.ok (), { link with arriving := s', sent := link.sent ++ request }) := by
      unfold Exchange.run
      rw [hrequest, Eff.run_bind_ok (Eff.run_lift ..),
        Eff.run_bind_ok (run_send_of_no_faults request hfaults), run_receive]
      dsimp only
      rw [hlink, hanswer]
    show Eff.run (x.run >>= fun _ => dialogue later) link = _
    have hrest := @ih { link with arriving := s', sent := link.sent ++ request } rfl hfaults
    rw [Eff.run_bind_ok hx, hrest]
    dsimp only
    rw [List.append_assoc]

/-- However a dialogue ends, what went out says how far it was answered. -/
theorem dialogue_reaches (xs : List (Exchange σ ε α)) (link : Link σ ε α) :
    ∃ out, Reached xs link.arriving out ∧
      (Eff.run (dialogue xs) link).2.sent = link.sent ++ out := by
  induction xs generalizing link with
  | nil => exact ⟨[], .here _ _, (List.append_nil _).symm⟩
  | cons x later ih =>
    show ∃ out, _ ∧ (Eff.run (x.run >>= fun _ => dialogue later) link).2.sent = _
    unfold Exchange.run
    cases hrequest : x.request with
    | error e => exact ⟨[], .here _ _, (List.append_nil _).symm⟩
    | ok request =>
      rw [Eff.run_bind, Eff.run_bind_ok (Eff.run_lift ..)]
      rcases hsend : Eff.run (send request) link with ⟨e | u, l₁⟩
      · obtain ⟨part, hpart, hsent⟩ := run_send_error hsend
        rw [Eff.run_bind_error hsend]
        exact ⟨part, .asked hrequest hpart, hsent⟩
      · obtain ⟨harriving, hsent, -⟩ := run_send_ok hsend
        rw [Eff.run_bind_ok hsend, run_receive, harriving]
        rcases hanswer : Eff.run x.answer link.arriving with ⟨e | u, s'⟩
        · exact ⟨request, .asked hrequest (List.prefix_refl _), hsent⟩
        · obtain ⟨out, hout, hsent'⟩ := ih { l₁ with arriving := s' }
          refine ⟨request ++ out, .answered hrequest hanswer hout, hsent'.trans ?_⟩
          show l₁.sent ++ out = _
          rw [hsent, List.append_assoc]

/-! ## What the peer said -/

/-- The reader of the answers takes an answer of `L` off the stream, and returns on no other. -/
def Exchange.Accepts (stream : σ → List α) (x : Exchange σ ε α) (L : List α → Prop) : Prop :=
  Eff.EndsAs stream x.answer fun t _ t' => ∃ answer, L answer ∧ t = answer ++ t'

/-- A dialogue in full: what the peer answered and what went out. -/
inductive Spoken : List (Exchange σ ε α × (List α → Prop)) → List α → List α → Prop
  | nil : Spoken [] [] []
  | cons {x : Exchange σ ε α} {L : List α → Prop}
      {later : List (Exchange σ ε α × (List α → Prop))} {request answer answers out : List α}
      (hrequest : x.request = .ok request) (hanswer : L answer)
      (hlater : Spoken later answers out) :
      Spoken ((x, L) :: later) (answer ++ answers) (request ++ out)

/-- What went out of a dialogue, against what the peer says. -/
inductive Heard : List (Exchange σ ε α × (List α → Prop)) → List α → List α → Prop
  | here (ps : List (Exchange σ ε α × (List α → Prop))) (said : List α) : Heard ps said []
  | asked {x : Exchange σ ε α} {L : List α → Prop}
      {later : List (Exchange σ ε α × (List α → Prop))} {said request part : List α}
      (hrequest : x.request = .ok request) (hpart : part <+: request) :
      Heard ((x, L) :: later) said part
  | answered {x : Exchange σ ε α} {L : List α → Prop}
      {later : List (Exchange σ ε α × (List α → Prop))} {said request answer out : List α}
      (hrequest : x.request = .ok request) (hanswer : L answer) (hlater : Heard later said out) :
      Heard ((x, L) :: later) (answer ++ said) (request ++ out)

section Stream

variable {stream : σ → List α} {ps : List (Exchange σ ε α × (List α → Prop))}

/-- INTERNAL: a dialogue that was through took the accepted answers off the stream. -/
theorem spoken_of_through (hps : ∀ p ∈ ps, p.1.Accepts stream p.2) {s s' : σ} {out : List α}
    (h : Through (ps.map Prod.fst) s out s') :
    ∃ answers, Spoken ps answers out ∧ stream s = answers ++ stream s' := by
  induction ps generalizing s out with
  | nil =>
    cases h
    exact ⟨[], .nil, rfl⟩
  | cons p later ih =>
    obtain ⟨haccepts, hps⟩ := List.forall_mem_cons.mp hps
    cases h with
    | @cons _ _ _ mid _ request out hrequest hanswer hlater =>
      obtain ⟨answer, hL, hmid⟩ := (haccepts s () (stream mid)).mp ⟨mid, hanswer, rfl⟩
      obtain ⟨answers, hspoken, hrest⟩ := ih hps hlater
      refine ⟨answer ++ answers, .cons hrequest hL hspoken, ?_⟩
      rw [hmid, hrest, List.append_assoc]

/-- INTERNAL: where the accepted answers are on the stream a dialogue goes through. -/
theorem through_of_spoken (hps : ∀ p ∈ ps, p.1.Accepts stream p.2) {s : σ}
    {answers out rest : List α} (h : Spoken ps answers out) (hs : stream s = answers ++ rest) :
    ∃ s', Through (ps.map Prod.fst) s out s' ∧ stream s' = rest := by
  induction h generalizing s with
  | nil => exact ⟨s, .nil s, hs⟩
  | @cons x L later request answer answers out hrequest hanswer hlater ih =>
    obtain ⟨haccepts, hps⟩ := List.forall_mem_cons.mp hps
    rw [List.append_assoc] at hs
    obtain ⟨mid, hrun, hmid⟩ := (haccepts s () _).mpr ⟨answer, hanswer, hs⟩
    obtain ⟨s', hthrough, hrest⟩ := ih hps hmid
    exact ⟨s', .cons hrequest hrun hthrough, hrest⟩

/-- INTERNAL: what went out, against the stream. -/
theorem heard_of_reached (hps : ∀ p ∈ ps, p.1.Accepts stream p.2) {s : σ} {out : List α}
    (h : Reached (ps.map Prod.fst) s out) : Heard ps (stream s) out := by
  induction ps generalizing s out with
  | nil =>
    cases h
    exact .here _ _
  | cons p later ih =>
    obtain ⟨haccepts, hps⟩ := List.forall_mem_cons.mp hps
    cases h with
    | here => exact .here _ _
    | asked hrequest hpart => exact .asked hrequest hpart
    | @answered _ _ _ mid request out hrequest hanswer hlater =>
      obtain ⟨answer, hL, hmid⟩ := (haccepts s () (stream mid)).mp ⟨mid, hanswer, rfl⟩
      rw [hmid]
      exact .answered hrequest hL (ih hps hlater)

/-- A dialogue returns on the accepted answers, and leaves what is behind them. -/
theorem dialogue_of_spoken (hps : ∀ p ∈ ps, p.1.Accepts stream p.2) {link : Link σ ε α}
    (hfaults : link.faults = []) {answers out rest : List α} (h : Spoken ps answers out)
    (harriving : stream link.arriving = answers ++ rest) :
    ∃ link', Eff.run (dialogue (ps.map Prod.fst)) link = (.ok (), link') ∧
      stream link'.arriving = rest ∧ link'.sent = link.sent ++ out ∧
      link'.closes = link.closes := by
  obtain ⟨s', hthrough, hrest⟩ := through_of_spoken hps h harriving
  exact ⟨_, dialogue_of_through hthrough rfl hfaults, hrest, rfl, rfl⟩

/-- A dialogue returns on no other answers, whatever became of its sends. -/
theorem spoken_of_dialogue (hps : ∀ p ∈ ps, p.1.Accepts stream p.2) {link link' : Link σ ε α}
    (h : Eff.run (dialogue (ps.map Prod.fst)) link = (.ok (), link')) :
    ∃ answers out, Spoken ps answers out ∧
      stream link.arriving = answers ++ stream link'.arriving ∧
      link'.sent = link.sent ++ out ∧ link'.closes = link.closes := by
  obtain ⟨out, hthrough, hsent, hclosed⟩ := dialogue_returns h
  obtain ⟨answers, hspoken, hstream⟩ := spoken_of_through hps hthrough
  exact ⟨answers, out, hspoken, hstream, hsent, hclosed⟩

/-- What a dialogue sent, however it ended, against what the peer says. -/
theorem heard_of_dialogue (hps : ∀ p ∈ ps, p.1.Accepts stream p.2) (link : Link σ ε α) :
    ∃ out, Heard ps (stream link.arriving) out ∧
      (Eff.run (dialogue (ps.map Prod.fst)) link).2.sent = link.sent ++ out := by
  obtain ⟨out, hreached, hsent⟩ := dialogue_reaches (ps.map Prod.fst) link
  exact ⟨out, heard_of_reached hps hreached, hsent⟩

end Stream

end SapRfc.Library.Dialogues
