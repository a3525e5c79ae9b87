import SapRfc.Library.Dialogues

/-!
# Conversations over a link

A client that decides what it says by what it has heard: it reads an answer, makes something of it,
and says what comes of that, until it has heard enough.  What went out of a conversation, however
it ended, says which answers the client had accepted by then; a conversation that came to its end
has taken the accepted answers off the stream and nothing behind them.
-/

set_option autoImplicit false

namespace SapRfc.Library.Conversations

open SapRfc.Library.Dialogues

variable {α β ε σ τ : Type}

/-- A client and its link to the peer. -/
structure Side (τ σ ε α : Type) where
  client : τ
  link : Link σ ε α

def onClient {γ : Type} (x : Eff ε τ γ) : Eff ε (Side τ σ ε α) γ :=
  Eff.zoom Side.client (fun client side => { side with client := client }) x

def onLink {γ : Type} (x : Eff ε (Link σ ε α) γ) : Eff ε (Side τ σ ε α) γ :=
  Eff.zoom Side.link (fun link side => { side with link := link }) x

/-- Messages in turn; each is made when it is its turn, which may raise. -/
def speak : List (Except ε (List α)) → Eff ε (Link σ ε α) Unit
  | [] => pure ()
  | message :: later => do
    let items ← Eff.lift message
    send items
    speak later

/-- An answer is read, and the client reacts to it. -/
def turn (read : Eff ε σ β) (react : β → Eff ε τ (List (Except ε (List α)))) :
    Eff ε (Side τ σ ε α) Unit := do
  let answer ← onLink (receive read)
  let messages ← onClient (react answer)
  onLink (speak messages)

/-- Turns until the client has heard enough: whether it has, within so many. -/
def converse (ended : τ → Bool) (read : Eff ε σ β)
    (react : β → Eff ε τ (List (Except ε (List α)))) : ℕ → Eff ε (Side τ σ ε α) Bool
  | 0 => do
    let side ← Eff.state
    pure (ended side.client)
  | left + 1 => do
    let side ← Eff.state
    if ended side.client then pure true
    else do
      turn read react
      converse ended read react left

theorem run_onClient {γ : Type} (x : Eff ε τ γ) (side : Side τ σ ε α) :
    Eff.run (onClient x) side =
      ((Eff.run x side.client).1, { side with client := (Eff.run x side.client).2 }) := rfl

theorem run_onLink {γ : Type} (x : Eff ε (Link σ ε α) γ) (side : Side τ σ ε α) :
    Eff.run (onLink x) side =
      ((Eff.run x side.link).1, { side with link := (Eff.run x side.link).2 }) := rfl

/-! ## Messages -/

/-- All of the messages could be made. -/
def Made (messages : List (Except ε (List α))) (said : List α) : Prop :=
  ∃ parts : List (List α), messages = parts.map .ok ∧ said = parts.flatten

/-- What may have gone out of the messages. -/
def Begun (messages : List (Except ε (List α))) (part : List α) : Prop :=
  ∃ (parts : List (List α)) (later : List (Except ε (List α))),
    messages = parts.map .ok ++ later ∧ part <+: parts.flatten

theorem Made.nil : Made ([] : List (Except ε (List α))) [] := ⟨[], rfl, rfl⟩

theorem Made.cons {messages : List (Except ε (List α))} {items said : List α}
    (h : Made messages said) : Made (.ok items :: messages) (items ++ said) := by
  obtain ⟨parts, rfl, rfl⟩ := h
  exact ⟨items :: parts, rfl, rfl⟩

/-- Messages that are made are made one by one. -/
theorem made_cons {message : Except ε (List α)} {messages : List (Except ε (List α))}
    {said : List α} :
    Made (message :: messages) said ↔
      ∃ items later, message = .ok items ∧ Made messages later ∧ said = items ++ later := by
  constructor
  · rintro ⟨_ | ⟨items, parts⟩, hmessages, rfl⟩
    · cases hmessages
    · obtain ⟨rfl, rfl⟩ := List.cons.inj hmessages
      exact ⟨items, parts.flatten, rfl, ⟨parts, rfl, rfl⟩, rfl⟩
  · rintro ⟨items, later, rfl, hlater, rfl⟩
    exact hlater.cons

theorem made_nil {said : List α} : Made ([] : List (Except ε (List α))) said ↔ said = [] := by
  constructor
  · rintro ⟨_ | ⟨items, parts⟩, hmessages, rfl⟩
    · rfl
    · cases hmessages
  · rintro rfl
    exact Made.nil

theorem made_singleton {message : Except ε (List α)} {said : List α} :
    Made [message] said ↔ message = .ok said := by
  rw [made_cons]
  constructor
  · rintro ⟨items, later, rfl, hlater, rfl⟩
    rw [made_nil.mp hlater, List.append_nil]
  · rintro rfl
    exact ⟨said, [], rfl, Made.nil, (List.append_nil _).symm⟩

theorem made_pair {first second : Except ε (List α)} {said : List α} :
    Made [first, second] said ↔ ∃ a b, first = .ok a ∧ second = .ok b ∧ said = a ++ b := by
  rw [made_cons]
  constructor
  · rintro ⟨a, b, hfirst, hb, rfl⟩
    exact ⟨a, b, hfirst, made_singleton.mp hb, rfl⟩
  · rintro ⟨a, b, hfirst, hb, rfl⟩
    exact ⟨a, b, hfirst, made_singleton.mpr hb, rfl⟩

/-- Messages that were made were begun. -/
theorem Made.begun {messages : List (Except ε (List α))} {said : List α}
    (h : Made messages said) : Begun messages said := by
  obtain ⟨parts, rfl, rfl⟩ := h
  exact ⟨parts, [], (List.append_nil _).symm, List.prefix_refl _⟩

theorem Begun.nil (messages : List (Except ε (List α))) : Begun messages [] :=
  ⟨[], messages, rfl, List.nil_prefix⟩

theorem begun_of_part {items part : List α} (messages : List (Except ε (List α)))
    (h : part <+: items) : Begun (.ok items :: messages) part := by
  refine ⟨[items], messages, rfl, ?_⟩
  rw [List.flatten_singleton]
  exact h

theorem Begun.cons {messages : List (Except ε (List α))} {items part : List α}
    (h : Begun messages part) : Begun (.ok items :: messages) (items ++ part) := by
  obtain ⟨parts, later, rfl, hpart⟩ := h
  refine ⟨items :: parts, later, rfl, ?_⟩
  rw [List.flatten_cons]
  exact (List.prefix_append_right_inj items).mpr hpart

/-- Of messages that are begun, the first is begun, or it went out and the others are. -/
theorem begun_cons {message : Except ε (List α)} {messages : List (Except ε (List α))}
    {part : List α} (h : Begun (message :: messages) part) :
    part = [] ∨ ∃ items, message = .ok items ∧
      (part <+: items ∨ ∃ later, Begun messages later ∧ part = items ++ later) := by
  obtain ⟨_ | ⟨items, parts⟩, later, hmessages, hpart⟩ := h
  · exact .inl (List.prefix_nil.mp hpart)
  · obtain ⟨rfl, rfl⟩ := List.cons.inj hmessages
    refine .inr ⟨items, rfl, ?_⟩
    rw [List.flatten_cons] at hpart
    rcases List.prefix_or_prefix_of_prefix hpart (List.prefix_append items _) with
      hinside | ⟨rest, rfl⟩
    · exact .inl hinside
    · have hrest := (List.prefix_append_right_inj items).mp hpart
      exact .inr ⟨rest, ⟨parts, later, rfl, hrest⟩, rfl⟩

/-- Where there is nothing to say, nothing went out. -/
theorem begun_nil {part : List α} (h : Begun ([] : List (Except ε (List α))) part) :
    part = [] := by
  obtain ⟨parts, later, hmessages, hpart⟩ := h
  obtain ⟨hparts, -⟩ := List.append_eq_nil_iff.mp hmessages.symm
  rw [List.map_eq_nil_iff.mp hparts] at hpart
  exact List.prefix_nil.mp hpart

/-- Of one message, a beginning went out. -/
theorem begun_singleton {items part : List α}
    (h : Begun [(.ok items : Except ε (List α))] part) : part <+: items := by
  rcases begun_cons h with rfl | ⟨said, hsaid, hinside | ⟨later, hlater, rfl⟩⟩
  · exact List.nil_prefix
  · rw [Except.ok.inj hsaid]
    exact hinside
  · have hall : said ++ later = items := by
      rw [begun_nil hlater, List.append_nil, Except.ok.inj hsaid]
    exact ⟨[], (List.append_nil _).trans hall⟩

/-- Messages that were said were made, and all of them went out. -/
theorem speak_returns {messages : List (Except ε (List α))} {link link' : Link σ ε α}
    (h : Eff.run (speak messages) link = (.ok (), link')) :
    ∃ said, Made messages said ∧ link'.arriving = link.arriving ∧
      link'.sent = link.sent ++ said ∧ link'.closes = link.closes := by
  induction messages generalizing link with
  | nil =>
    cases h
    exact ⟨[], Made.nil, rfl, (List.append_nil _).symm, rfl⟩
  | cons message later ih =>
    obtain ⟨items, l₁, hmade, h⟩ := Eff.run_bind_eq_ok h
    obtain ⟨_, l₂, hsend, hlater⟩ := Eff.run_bind_eq_ok h
    rw [Eff.run_lift] at hmade
    obtain ⟨rfl, rfl⟩ := Prod.mk.inj hmade
    obtain ⟨harriving, hsent, hclosed⟩ := run_send_ok hsend
    obtain ⟨said, hsaid, harriving', hsent', hclosed'⟩ := ih hlater
    refine ⟨items ++ said, hsaid.cons, harriving'.trans harriving, ?_, hclosed'.trans hclosed⟩
    rw [hsent', hsent, List.append_assoc]

/-- Where no send fails, messages that can be made go out. -/
theorem speak_of_made {messages : List (Except ε (List α))} {said : List α}
    (h : Made messages said) {link : Link σ ε α} (hfaults : link.faults = []) :
    Eff.run (speak messages) link = (.ok (), { link with sent := link.sent ++ said }) := by
  induction messages generalizing said link with
  | nil =>
    rw [made_nil.mp h, List.append_nil]
    rfl
  | cons message later ih =>
    obtain ⟨items, rest, rfl, hlater, rfl⟩ := made_cons.mp h
    have hrest := @ih rest hlater { link with sent := link.sent ++ items } hfaults
    unfold speak
    rw [Eff.run_bind_ok (Eff.run_lift ..), Eff.run_bind_ok (run_send_of_no_faults items hfaults),
      hrest]
    dsimp only
    rw [List.append_assoc]

/-- However the messages ended, a beginning of them went out. -/
theorem speak_begins (messages : List (Except ε (List α))) (link : Link σ ε α) :
    ∃ part, Begun messages part ∧ (Eff.run (speak messages) link).2.sent = link.sent ++ part := by
  induction messages generalizing link with
  | nil => exact ⟨[], Begun.nil _, (List.append_nil _).symm⟩
  | cons message later ih =>
    unfold speak
    cases message with
    | error e => exact ⟨[], Begun.nil _, (List.append_nil _).symm⟩
    | ok items =>
      rw [Eff.run_bind_ok (Eff.run_lift ..)]
      rcases hsend : Eff.run (send items) link with ⟨e | _, l₁⟩
      · obtain ⟨part, hpart, hsent⟩ := run_send_error hsend
        rw [Eff.run_bind_error hsend]
        exact ⟨part, begun_of_part later hpart, hsent⟩
      · obtain ⟨-, hsent, -⟩ := run_send_ok hsend
        obtain ⟨part, hpart, hsent'⟩ := ih l₁
        rw [Eff.run_bind_ok hsend]
        refine ⟨items ++ part, hpart.cons, hsent'.trans ?_⟩
        rw [hsent, List.append_assoc]

/-! ## Turns -/

/-- A turn in full: the answer was accepted, and what comes of it went out. -/
def Turned (A : List α → β → Prop) (react : β → Eff ε τ (List (Except ε (List α)))) (t : τ)
    (answer said : List α) (t' : τ) : Prop :=
  ∃ heard messages, A answer heard ∧ Eff.run (react heard) t = (.ok messages, t') ∧
    Made messages said

/-- A turn in part: the answer was accepted, and what comes of it was begun. -/
def Turning (A : List α → β → Prop) (react : β → Eff ε τ (List (Except ε (List α)))) (t : τ)
    (answer part : List α) : Prop :=
  ∃ heard messages t', A answer heard ∧ Eff.run (react heard) t = (.ok messages, t') ∧
    Begun messages part

/-- A conversation in full, in so many turns: what the peer answered, what the client said, and
where that left the client. -/
inductive Held (ended : τ → Bool) (A : List α → β → Prop)
    (react : β → Eff ε τ (List (Except ε (List α)))) : ℕ → τ → List α → List α → τ → Prop
  | ended {t : τ} (hended : ended t = true) : Held ended A react 0 t [] [] t
  | turn {n : ℕ} {t t' t'' : τ} {answer answers said out : List α} (hended : ended t = false)
      (hturn : Turned A react t answer said t') (hlater : Held ended A react n t' answers out t'') :
      Held ended A react (n + 1) t (answer ++ answers) (said ++ out) t''

/-- What went out of a conversation, against what the peer says. -/
inductive Overheard (ended : τ → Bool) (A : List α → β → Prop)
    (react : β → Eff ε τ (List (Except ε (List α)))) : τ → List α → List α → Prop
  | here (t : τ) (stream : List α) : Overheard ended A react t stream []
  | part {t : τ} {answer part : List α} (rest : List α) (hended : ended t = false)
      (hturn : Turning A react t answer part) : Overheard ended A react t (answer ++ rest) part
  | turn {t t' : τ} {answer rest said out : List α} (hended : ended t = false)
      (hturn : Turned A react t answer said t') (hlater : Overheard ended A react t' rest out) :
      Overheard ended A react t (answer ++ rest) (said ++ out)

section Runs

variable {ended : τ → Bool} {A : List α → β → Prop} {read : Eff ε σ β}
  {react : β → Eff ε τ (List (Except ε (List α)))} {stream : σ → List α}

/-- The reader takes an answer off the stream, and returns on nothing else. -/
def TakesAnswers (stream : σ → List α) (read : Eff ε σ β) (A : List α → β → Prop) : Prop :=
  Eff.EndsAs stream read fun t heard t' => ∃ answer, A answer heard ∧ t = answer ++ t'

/-- INTERNAL: a turn that returns was one in full. -/
theorem turned_of_turn (hread : TakesAnswers stream read A) {side side' : Side τ σ ε α}
    (h : Eff.run (turn read react) side = (.ok (), side')) :
    ∃ answer said, Turned A react side.client answer said side'.client ∧
      stream side.link.arriving = answer ++ stream side'.link.arriving ∧
      side'.link.sent = side.link.sent ++ said ∧ side'.link.closes = side.link.closes := by
  obtain ⟨heard, s₁, hheard, h⟩ := Eff.run_bind_eq_ok h
  obtain ⟨messages, s₂, hreact, hspeak⟩ := Eff.run_bind_eq_ok h
  rw [run_onLink, run_receive] at hheard
  obtain ⟨hreturned, rfl⟩ := Prod.mk.inj hheard
  rw [run_onClient] at hreact
  obtain ⟨hmessages, rfl⟩ := Prod.mk.inj hreact
  rw [run_onLink] at hspeak
  obtain ⟨hspoken, rfl⟩ := Prod.mk.inj hspeak
  obtain ⟨said, hmade, harriving, hsent, hclosed⟩ := speak_returns (Prod.ext hspoken rfl)
  obtain ⟨answer, hanswer, hstream⟩ :=
    (hread side.link.arriving heard _).mp ⟨_, Prod.ext hreturned rfl, rfl⟩
  refine ⟨answer, said, ⟨heard, messages, hanswer, Prod.ext hmessages rfl, hmade⟩, ?_, hsent,
    hclosed⟩
  rw [hstream]
  exact congrArg (answer ++ stream ·) harriving.symm

/-- INTERNAL: a turn whose answer is there is one in full. -/
theorem turn_of_turned (hread : TakesAnswers stream read A) {t t' : τ} {answer said rest : List α}
    (h : Turned A react t answer said t') {link : Link σ ε α} (hfaults : link.faults = [])
    (hstream : stream link.arriving = answer ++ rest) :
    ∃ arriving, stream arriving = rest ∧ Eff.run (turn read react) ⟨t, link⟩ =
      (.ok (), ⟨t', { link with arriving := arriving, sent := link.sent ++ said }⟩) := by
  obtain ⟨heard, messages, hanswer, hreact, hmade⟩ := h
  obtain ⟨arriving, hrun, hrest⟩ := (hread link.arriving heard rest).mpr ⟨answer, hanswer, hstream⟩
  refine ⟨arriving, hrest, ?_⟩
  have hheard : Eff.run (onLink (receive read) : Eff ε (Side τ σ ε α) β) ⟨t, link⟩ =
      (.ok heard, ⟨t, { link with arriving := arriving }⟩) := by
    rw [run_onLink, run_receive, hrun]
  have hreacted : Eff.run (onClient (react heard) : Eff ε (Side τ σ ε α) _)
      ⟨t, { link with arriving := arriving }⟩ =
        (.ok messages, ⟨t', { link with arriving := arriving }⟩) := by
    rw [run_onClient, hreact]
  have hspoken : Eff.run (speak messages) { link with arriving := arriving } =
      (.ok (), { link with arriving := arriving, sent := link.sent ++ said }) :=
    speak_of_made hmade hfaults
  unfold turn
  rw [Eff.run_bind_ok hheard, Eff.run_bind_ok hreacted, run_onLink, hspoken]

/-- INTERNAL: what went out of a turn, however it ended. -/
theorem turning_of_turn (hread : TakesAnswers stream read A) (side : Side τ σ ε α) :
    ∃ out, (Eff.run (turn read react) side).2.link.sent = side.link.sent ++ out ∧
      (out = [] ∨ ∃ answer rest, stream side.link.arriving = answer ++ rest ∧
        Turning A react side.client answer out) := by
  unfold turn
  rcases hheard : Eff.run (onLink (receive read) : Eff ε (Side τ σ ε α) β) side with ⟨e | heard, s₁⟩
  · rw [Eff.run_bind_error hheard]
    rw [run_onLink, run_receive] at hheard
    obtain ⟨-, rfl⟩ := Prod.mk.inj hheard
    exact ⟨[], (List.append_nil _).symm, .inl rfl⟩
  · rw [Eff.run_bind_ok hheard]
    rw [run_onLink, run_receive] at hheard
    obtain ⟨hreturned, rfl⟩ := Prod.mk.inj hheard
    obtain ⟨answer, hanswer, hstream⟩ :=
      (hread side.link.arriving heard _).mp ⟨_, Prod.ext hreturned rfl, rfl⟩
    rcases hreact : Eff.run (react heard) side.client with ⟨e | messages, t'⟩
    · refine ⟨[], ?_, .inl rfl⟩
      rw [Eff.run_bind, run_onClient]
      dsimp only
      rw [hreact, List.append_nil]
    · obtain ⟨part, hpart, hsent⟩ := speak_begins messages
        { side.link with arriving := (Eff.run read side.link.arriving).2 }
      refine ⟨part, ?_, .inr ⟨answer, _, hstream, ⟨heard, messages, t', hanswer, hreact, hpart⟩⟩⟩
      rw [Eff.run_bind, run_onClient]
      dsimp only
      rw [hreact]
      exact hsent

/-- A conversation that came to its end was held in full. -/
theorem held_of_converse (hread : TakesAnswers stream read A) {left : ℕ} {side side' : Side τ σ ε α}
    (h : Eff.run (converse ended read react left) side = (.ok true, side')) :
    ∃ n answers out, Held ended A react n side.client answers out side'.client ∧
      stream side.link.arriving = answers ++ stream side'.link.arriving ∧
      side'.link.sent = side.link.sent ++ out ∧ side'.link.closes = side.link.closes := by
  induction left generalizing side with
  | zero =>
    obtain ⟨hended, rfl⟩ := Prod.mk.inj h
    exact ⟨0, [], [], .ended (Except.ok.inj hended), rfl, (List.append_nil _).symm, rfl⟩
  | succ left ih =>
    unfold converse at h
    rw [Eff.run_bind_ok (Eff.run_state side)] at h
    cases hended : ended side.client with
    | true =>
      rw [hended, if_pos rfl] at h
      obtain ⟨-, rfl⟩ := Prod.mk.inj h
      exact ⟨0, [], [], .ended hended, rfl, (List.append_nil _).symm, rfl⟩
    | false =>
      rw [hended, if_neg Bool.false_ne_true] at h
      obtain ⟨_, mid, hturn, hlater⟩ := Eff.run_bind_eq_ok h
      obtain ⟨answer, said, hturned, hstream, hsent, hclosed⟩ := turned_of_turn hread hturn
      obtain ⟨n, answers, out, hheld, hstream', hsent', hclosed'⟩ := ih hlater
      refine ⟨n + 1, answer ++ answers, said ++ out, .turn hended hturned hheld, ?_, ?_,
        hclosed'.trans hclosed⟩
      · rw [hstream, hstream', List.append_assoc]
      · rw [hsent', hsent, List.append_assoc]

/-- Where the answers are there, and no send fails, a conversation is held. -/
theorem converse_of_held (hread : TakesAnswers stream read A) {n left : ℕ} {t t' : τ}
    {answers out rest : List α} (h : Held ended A react n t answers out t') (hleft : n ≤ left)
    {link : Link σ ε α} (hfaults : link.faults = [])
    (hstream : stream link.arriving = answers ++ rest) :
    ∃ arriving, stream arriving = rest ∧ Eff.run (converse ended read react left) ⟨t, link⟩ =
      (.ok true, ⟨t', { link with arriving := arriving, sent := link.sent ++ out }⟩) := by
  induction h generalizing left link with
  | @ended t hended =>
    refine ⟨link.arriving, hstream, ?_⟩
    rw [List.append_nil]
    cases left with
    | zero =>
      unfold converse
      rw [Eff.run_bind_ok (Eff.run_state _), hended]
      rfl
    | succ left =>
      unfold converse
      rw [Eff.run_bind_ok (Eff.run_state _), hended]
      rfl
  | @turn n t t' t'' answer answers said out hended hturn hlater ih =>
    cases left with
    | zero => cases hleft
    | succ left =>
      rw [List.append_assoc] at hstream
      obtain ⟨mid, hmid, hrun⟩ := turn_of_turned hread hturn hfaults hstream
      obtain ⟨arriving, hrest, hlater⟩ := @ih left (Nat.le_of_succ_le_succ hleft)
        { link with arriving := mid, sent := link.sent ++ said } hfaults hmid
      refine ⟨arriving, hrest, ?_⟩
      unfold converse
      rw [Eff.run_bind_ok (Eff.run_state _), hended, if_neg Bool.false_ne_true,
        Eff.run_bind_ok hrun, hlater]
      dsimp only
      rw [List.append_assoc]

/-- What went out of a conversation, however it ended. -/
theorem overheard_of_converse (hread : TakesAnswers stream read A) (left : ℕ)
    (side : Side τ σ ε α) :
    ∃ out, Overheard ended A react side.client (stream side.link.arriving) out ∧
      (Eff.run (converse ended read react left) side).2.link.sent = side.link.sent ++ out := by
  induction left generalizing side with
  | zero => exact ⟨[], .here _ _, (List.append_nil _).symm⟩
  | succ left ih =>
    unfold converse
    rw [Eff.run_bind_ok (Eff.run_state side)]
    cases hended : ended side.client with
    | true => exact ⟨[], .here _ _, (List.append_nil _).symm⟩
    | false =>
      rw [if_neg Bool.false_ne_true]
      rcases hturn : Eff.run (turn read react) side with ⟨e | _, mid⟩
      · rw [Eff.run_bind_error hturn]
        obtain ⟨out, hsent, hout⟩ := turning_of_turn hread side
        rw [hturn] at hsent
        rcases hout with rfl | ⟨answer, rest, hstream, hturning⟩
        · exact ⟨[], .here _ _, hsent⟩
        · rw [hstream]
          exact ⟨out, .part rest hended hturning, hsent⟩
      · rw [Eff.run_bind_ok hturn]
        obtain ⟨answer, said, hturned, hstream, hsent, -⟩ := turned_of_turn hread hturn
        obtain ⟨out, hout, hsent'⟩ := ih mid
        rw [hstream]
        refine ⟨said ++ out, .turn hended hturned hout, hsent'.trans ?_⟩
        rw [hsent, List.append_assoc]

/-- Where every reaction brings the client nearer to its end, the turns suffice. -/
theorem converse_ends {rank : τ → ℕ} (hrank : ∀ t, ended t = false → 0 < rank t)
    (hreact : ∀ heard t messages t', ended t = false →
      Eff.run (react heard) t = (.ok messages, t') → rank t' < rank t)
    {left : ℕ} {side : Side τ σ ε α} (hleft : rank side.client ≤ left) :
    (Eff.run (converse ended read react left) side).1 ≠ .ok false := by
  induction left generalizing side with
  | zero =>
    intro h
    have hopen : ended side.client = false := Except.ok.inj h
    have hmore := hrank _ hopen
    omega
  | succ left ih =>
    unfold converse
    rw [Eff.run_bind_ok (Eff.run_state side)]
    cases hended : ended side.client with
    | true =>
      rw [if_pos rfl]
      intro h
      cases h
    | false =>
      rw [if_neg Bool.false_ne_true]
      rcases hturn : Eff.run (turn read react) side with ⟨e | _, mid⟩
      · rw [Eff.run_bind_error hturn]
        intro h
        cases h
      · rw [Eff.run_bind_ok hturn]
        refine ih ?_
        obtain ⟨heard, s₁, hheard, hrest⟩ := Eff.run_bind_eq_ok hturn
        obtain ⟨messages, s₂, hreacted, hspeak⟩ := Eff.run_bind_eq_ok hrest
        rw [run_onLink] at hheard hspeak
        rw [run_onClient] at hreacted
        obtain ⟨-, rfl⟩ := Prod.mk.inj hheard
        obtain ⟨hmessages, rfl⟩ := Prod.mk.inj hreacted
        obtain ⟨-, rfl⟩ := Prod.mk.inj hspeak
        have hless := hreact heard side.client messages _ hended (Prod.ext hmessages rfl)
        exact Nat.le_of_lt_succ (Nat.lt_of_lt_of_le hless hleft)

end Runs

end SapRfc.Library.Conversations
