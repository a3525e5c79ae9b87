import SapRfc.Library.Runs
import SapRfc.Program.Handshake

/-!
# The states of a session

Three laws of the session machine.  The handshake goes through its states in order, and a
frame that is refused leaves no trace.  `READY` is handed out for replies that prove no
logon.  A broken session is brought back by the four operations that do not look at the
state before they set it.
-/

set_option autoImplicit false

namespace SapRfc.Analysis

open SapRfc.Library
open SapRfc.Program

variable (u : Unicode)

/-! ## Feeding a session -/

/-- One feed of a session: where it stood, what it was given, and what came of it. -/
abbrev Feed : Type := Step Session Bytes (Except PyError Bytes)

/-- The feed was not refused. -/
def accepted (f : Feed) : Bool := f.output.toBool

/-- The frames fed one after another; a caller may go on after one that raised. -/
def feedAll (allow : Bool) : List Bytes → Session → List Feed :=
  Run.trace fun data s => Eff.run (feed u allow data) s

/-- One frame, fed. -/
def feedOnce (allow : Bool) : Bytes → Session → Feed :=
  Run.stepOf fun data s => Eff.run (feed u allow data) s

/-- A new session, started. -/
def started (local_ip : Option PyStr) : Session := (Eff.run (start u local_ip) Session.init).2

/-- The states of a handshake, in the order of the source's head comment. -/
def handshakeOrder : List SessionState := [.CONNECTED, .NI_VERSIONED, .GW_CONNECTED, .GW_DONE,
    .READY]

/-- A version answer that is taken: it reaches behind its code page, which is ASCII. -/
def VersionFrame (data : Bytes) : Prop := 24 ≤ data.length ∧ ∀ b ∈ slice data 20 24, b.toNat < 128

/-- A logon reply with these records that is taken: it tells of no error, but for a refused call on
a restricted logon, and of no code page but the Unicode one. -/
@[mk_iff]
structure LogonFrame (allow : Bool) (codepage : Option PyStr) (data : Bytes) (tags : Tags) :
    Prop where
  read : session_parse_tlv (logon_records data) = .ok tags
  passed : has_error tags = true → allow = true ∧ (tags.get 0x0420).isSome
  unicode : ¬ (is_live data = true ∧ codepage.getD [] ≠ [] ∧ codepage.getD [] ≠ CODEPAGE_UTF16LE)

/-- A frame that is right where the session stands. -/
def RightFrame (allow : Bool) (s : Session) (data : Bytes) : Prop :=
  match s.state with
  | .CONNECTED => VersionFrame data
  | .NI_VERSIONED => 48 ≤ data.length
  | .GW_CONNECTED => 73 ≤ data.length
  | .GW_DONE => ∃ tags, LogonFrame allow s.codepage data tags
  | _ => False

/-- What the session is behind such a frame: it has kept what the frame says and stands one
further. -/
def behindFrame (s : Session) (data : Bytes) : Session :=
  match s.state with
  | .CONNECTED =>
    { s with codepage := some ((slice data 20 24).map UInt8.toNat), state := .NI_VERSIONED }
  | .NI_VERSIONED => { s with handle := some (slice data 40 48), state := .GW_CONNECTED }
  | .GW_CONNECTED => { s with state := .GW_DONE }
  | .GW_DONE =>
    { s with
      attributes := some (logon_attributes (is_live data) (s.codepage.getD [])
        ((session_parse_tlv (logon_records data)).toOption.getD []))
      state := .READY }
  | _ => s

/-- What an accepted feed does to a session: one state on, and attributes at the end. -/
structure Advances (s s' : Session) : Prop where
  order : ∃ k, handshakeOrder[k]? = some s.state ∧ handshakeOrder[k + 1]? = some s'.state
  early : s'.state ≠ .READY → s'.attributes = s.attributes
  ready : s'.state = .READY → s'.attributes.isSome

/-- A right frame moves the session on. -/
theorem advances_behindFrame {allow : Bool} {s : Session} {data : Bytes}
    (h : RightFrame allow s data) : Advances s (behindFrame s data) := by
  unfold RightFrame at h
  unfold behindFrame
  cases hs : s.state with
  | CONNECTED => exact ⟨⟨0, by rw [hs]; rfl, rfl⟩, fun _ => rfl, nofun⟩
  | NI_VERSIONED => exact ⟨⟨1, by rw [hs]; rfl, rfl⟩, fun _ => rfl, nofun⟩
  | GW_CONNECTED => exact ⟨⟨2, by rw [hs]; rfl, rfl⟩, fun _ => rfl, nofun⟩
  | GW_DONE => exact ⟨⟨3, by rw [hs]; rfl, rfl⟩, fun hne => absurd rfl hne, fun _ => rfl⟩
  | _ =>
    rw [hs] at h
    exact h.elim

/-- INTERNAL: the ASCII bytes are read, and no others. -/
theorem decodeAscii_cases (b : Bytes) :
    ((∀ x ∈ b, x.toNat < 128) ∧ decodeAscii b = .ok (b.map UInt8.toNat)) ∨
      ((¬ ∀ x ∈ b, x.toNat < 128) ∧ ∃ e, decodeAscii b = .error e) := by
  unfold decodeAscii
  cases hfind : b.findIdx? fun x => decide (128 ≤ x.toNat) with
  | none =>
    refine .inl ⟨fun x hx => ?_, rfl⟩
    have hlow := List.findIdx?_eq_none_iff.mp hfind x hx
    exact Nat.lt_of_not_le (of_decide_eq_false hlow)
  | some i =>
    refine .inr ⟨fun hall => ?_, ⟨_, rfl⟩⟩
    obtain ⟨hi, hhigh, -⟩ := List.findIdx?_eq_some_iff_getElem.mp hfind
    exact absurd (hall _ (List.getElem_mem hi)) (Nat.not_lt_of_le (of_decide_eq_true hhigh))

/-- INTERNAL: the version handler. -/
theorem ni_version_cases (data : Bytes) (s : Session) :
    (VersionFrame data ∧ Eff.run (handle_ni_version_response data) s = (.ok [],
        { s with codepage := some ((slice data 20 24).map UInt8.toNat), state := .NI_VERSIONED })) ∨
      (¬ VersionFrame data ∧
        ∃ e, Eff.run (handle_ni_version_response data) s = (.error e, s)) := by
  unfold handle_ni_version_response
  by_cases hlen : data.length < 24
  · rw [if_pos hlen]
    exact .inr ⟨fun h => Nat.not_le_of_lt hlen h.1, _, rfl⟩
  · rw [if_neg hlen]
    rcases decodeAscii_cases (slice data 20 24) with ⟨hascii, hread⟩ | ⟨hascii, e, hread⟩
    · rw [hread]
      exact .inl ⟨⟨Nat.le_of_not_lt hlen, hascii⟩, rfl⟩
    · rw [hread]
      exact .inr ⟨fun h => hascii h.2, e, rfl⟩

/-- INTERNAL: the handlers that only look at the length of their frame. -/
theorem gw_connect_cases (data : Bytes) (s : Session) :
    (48 ≤ data.length ∧ Eff.run (handle_gw_connect_response data) s = (.ok [],
        { s with handle := some (slice data 40 48), state := .GW_CONNECTED })) ∨
      (¬ 48 ≤ data.length ∧
        ∃ e, Eff.run (handle_gw_connect_response data) s = (.error e, s)) := by
  unfold handle_gw_connect_response
  by_cases hlen : data.length < 48
  · rw [if_pos hlen]
    exact .inr ⟨Nat.not_le_of_lt hlen, _, rfl⟩
  · rw [if_neg hlen]
    exact .inl ⟨Nat.le_of_not_lt hlen, rfl⟩

theorem gw_done_cases (data : Bytes) (s : Session) :
    (73 ≤ data.length ∧ Eff.run (handle_gw_done data) s = (.ok [], { s with state := .GW_DONE })) ∨
      (¬ 73 ≤ data.length ∧ ∃ e, Eff.run (handle_gw_done data) s = (.error e, s)) := by
  unfold handle_gw_done
  by_cases hlen : data.length < 73
  · rw [if_pos hlen]
    exact .inr ⟨Nat.not_le_of_lt hlen, _, rfl⟩
  · rw [if_neg hlen]
    exact .inl ⟨Nat.le_of_not_lt hlen, rfl⟩

/-- What the logon handler decides before it sets a field. -/
def judgeLogon (allow : Bool) (codepage : Option PyStr) (data : Bytes) : Except PyError Tags := do
  let tags ← session_parse_tlv (logon_records data)
  check_logon_error u allow (logon_records data) tags
  check_codepage u (is_live data) (codepage.getD [])
  .ok tags

/-- INTERNAL: the replies that are accepted. -/
theorem judgeLogon_eq_ok {allow : Bool} {codepage : Option PyStr} {data : Bytes} {tags : Tags} :
    judgeLogon u allow codepage data = .ok tags ↔ LogonFrame allow codepage data tags := by
  rw [logonFrame_iff]
  unfold judgeLogon
  cases session_parse_tlv (logon_records data) with
  | error e => exact ⟨nofun, fun h => nomatch h.1⟩
  | ok parsed =>
    rw [Eff.except_ok_bind]
    have herr := @check_logon_error_eq_ok u allow (logon_records data) parsed
    have hcp := @check_codepage_eq_ok u (is_live data) (codepage.getD [])
    cases hce : check_logon_error u allow (logon_records data) parsed with
    | error e =>
      rw [hce] at herr
      refine ⟨nofun, ?_⟩
      rintro ⟨h, hpass, -⟩
      cases h
      cases herr.mpr hpass
    | ok _ =>
      rw [hce] at herr
      rw [Eff.except_ok_bind]
      cases hcc : check_codepage u (is_live data) (codepage.getD []) with
      | error e =>
        rw [hcc] at hcp
        refine ⟨nofun, ?_⟩
        rintro ⟨-, -, hpass⟩
        cases hcp.mpr hpass
      | ok _ =>
        rw [hcc] at hcp
        constructor
        · intro h
          cases h
          exact ⟨rfl, herr.mp rfl, hcp.mp rfl⟩
        · rintro ⟨h, -, -⟩
          exact h

/-- The logon handler sets its fields together, once nothing can raise any more. -/
theorem run_handle_logon_response (allow : Bool) (data : Bytes) (s : Session) :
    Eff.run (handle_logon_response u allow data) s =
      match judgeLogon u allow s.codepage data with
      | .ok tags => (.ok [], { s with
          attributes := some (logon_attributes (is_live data) (s.codepage.getD []) tags)
          state := .READY })
      | .error e => (.error e, s) := by
  unfold handle_logon_response judgeLogon
  rw [Eff.run_bind, Eff.run_lift]
  cases session_parse_tlv (logon_records data) with
  | error e => rfl
  | ok tags =>
    simp only [Eff.run_bind, Eff.run_lift, Eff.run_state, Eff.except_ok_bind]
    cases check_logon_error u allow (logon_records data) tags with
    | error e => rfl
    | ok _ =>
      simp only [Eff.except_ok_bind]
      cases check_codepage u (is_live data) (s.codepage.getD []) with
      | error e => rfl
      | ok _ => rfl

/-- INTERNAL: the logon handler. -/
theorem logon_cases (allow : Bool) (data : Bytes) (s : Session) :
    ((∃ tags, LogonFrame allow s.codepage data tags) ∧
        Eff.run (handle_logon_response u allow data) s = (.ok [],
          { s with
            attributes := some (logon_attributes (is_live data) (s.codepage.getD [])
              ((session_parse_tlv (logon_records data)).toOption.getD []))
            state := .READY })) ∨
      ((¬ ∃ tags, LogonFrame allow s.codepage data tags) ∧
        ∃ e, Eff.run (handle_logon_response u allow data) s = (.error e, s)) := by
  rw [run_handle_logon_response]
  cases hjudge : judgeLogon u allow s.codepage data with
  | error e =>
    refine .inr ⟨?_, e, rfl⟩
    rintro ⟨tags, hframe⟩
    rw [(judgeLogon_eq_ok u).mpr hframe] at hjudge
    cases hjudge
  | ok tags =>
    have hframe := (judgeLogon_eq_ok u).mp hjudge
    refine .inl ⟨⟨tags, hframe⟩, ?_⟩
    rw [hframe.read]
    rfl

/-- A right frame is accepted and kept; any other raises, and the session is as it was. -/
theorem run_feed_cases (allow : Bool) (data : Bytes) (s : Session) :
    (RightFrame allow s data ∧ Eff.run (feed u allow data) s = (.ok [], behindFrame s data)) ∨
      (¬ RightFrame allow s data ∧ ∃ e, Eff.run (feed u allow data) s = (.error e, s)) := by
  unfold feed RightFrame behindFrame
  simp only [Eff.run_bind, Eff.run_state]
  cases s.state with
  | CONNECTED => exact ni_version_cases data s
  | NI_VERSIONED => exact gw_connect_cases data s
  | GW_CONNECTED => exact gw_done_cases data s
  | GW_DONE => exact logon_cases u allow data s
  | _ => exact .inr ⟨not_false, _, rfl⟩

/-- A feed is one step of the order, or it raises and the session is as it was. -/
theorem feed_cases (allow : Bool) (data : Bytes) (s : Session) :
    (∃ s', Eff.run (feed u allow data) s = (.ok [], s') ∧ Advances s s') ∨
      ∃ e, Eff.run (feed u allow data) s = (.error e, s) := by
  rcases run_feed_cases u allow data s with ⟨hright, hrun⟩ | ⟨-, hrun⟩
  · exact .inl ⟨_, hrun, advances_behindFrame hright⟩
  · exact .inr hrun

/-! ## The handshake in order -/

/-- The feeds that were not refused. -/
def acceptedFeeds (run : List Feed) : List Feed := run.filter accepted

/-- A handshake as the source's head comment has it. -/
structure OrderlyHandshake (allow : Bool) (s₀ : Session) (run : List Feed) : Prop where
  begins : s₀.state = .CONNECTED ∧ s₀.attributes = none
  /-- after so many accepted feeds the session is so far in the order -/
  order : ∀ (i : ℕ) (f : Feed), run[i]? = some f →
    handshakeOrder[(acceptedFeeds (run.take i)).length]? = some f.before.state ∧
      handshakeOrder[(acceptedFeeds (run.take (i + 1))).length]? = some f.after.state
  /-- a frame that is right where the session stands is accepted, and no other -/
  accepts : ∀ f ∈ run, (accepted f = true ↔ RightFrame allow f.before f.input)
  /-- an accepted feed gives nothing to send, and the session keeps what its frame says -/
  kept : ∀ f ∈ run, accepted f = true → f.output = .ok [] ∧ f.after = behindFrame f.before f.input
  /-- attributes come with `READY` and not before -/
  attributes : ∀ f ∈ run, (f.before.attributes.isSome ↔ f.before.state = .READY) ∧
    (f.after.attributes.isSome ↔ f.after.state = .READY)
  /-- a feed that raises changes nothing -/
  atomic : ∀ f ∈ run, accepted f = false → f.after = f.before
  /-- without the frames that raised, every other feed is what it was -/
  resumes : feedAll u allow ((acceptedFeeds run).map Step.input) s₀ = acceptedFeeds run

/-- Four answers of a server that are right one behind the other. -/
structure RightAnswers (allow : Bool) (version connect done logon : Bytes) (tags : Tags) :
    Prop where
  versioned : VersionFrame version
  connected : 48 ≤ connect.length
  finished : 73 ≤ done.length
  judged : LogonFrame allow (some ((slice version 20 24).map UInt8.toNat)) logon tags

/-- The session that they make of a new one. -/
def readySession (version connect logon : Bytes) (tags : Tags) : Session where
  state := .READY
  broken_reason := []
  attributes := some (logon_attributes (is_live logon) ((slice version 20 24).map UInt8.toNat) tags)
  codepage := some ((slice version 20 24).map UInt8.toNat)
  handle := some (slice connect 40 48)

/-- A feed moved the session on, or it raised and changed nothing. -/
inductive Moves (allow : Bool) (f : Feed) : Prop
  | on (right : RightFrame allow f.before f.input) (output : f.output = .ok [])
      (after : f.after = behindFrame f.before f.input)
  | refused (wrong : ¬ RightFrame allow f.before f.input) (output : ∃ e, f.output = .error e)
      (after : f.after = f.before)

theorem moves_feedOnce (allow : Bool) (data : Bytes) (s : Session) :
    Moves allow (feedOnce u allow data s) := by
  rcases run_feed_cases u allow data s with ⟨hright, hrun⟩ | ⟨hwrong, e, hrun⟩
  · exact .on hright (congrArg Prod.fst hrun) (congrArg Prod.snd hrun)
  · exact .refused hwrong ⟨e, congrArg Prod.fst hrun⟩ (congrArg Prod.snd hrun)

theorem moves_of_mem (allow : Bool) {f : Feed} {frames : List Bytes} {s : Session}
    (h : f ∈ feedAll u allow frames s) : Moves allow f := by
  rw [Run.eq_stepOf_of_mem h]
  exact moves_feedOnce u allow f.input f.before

theorem accepted_of_ok {f : Feed} (h : f.output = .ok []) : accepted f = true := by
  rw [accepted, h]
  rfl

theorem not_accepted_of_error {f : Feed} (h : ∃ e, f.output = .error e) :
    ¬ accepted f = true := by
  obtain ⟨e, he⟩ := h
  rw [accepted, he]
  exact Bool.false_ne_true

/-- How far a session is in the handshake, and what it has of attributes there. -/
structure Stands (k : ℕ) (s : Session) : Prop where
  place : handshakeOrder[k]? = some s.state
  attributes : s.attributes.isSome ↔ s.state = .READY

/-- INTERNAL: no state stands in the order twice. -/
theorem place_unique {j k : ℕ} {st : SessionState} (hj : handshakeOrder[j]? = some st)
    (hk : handshakeOrder[k]? = some st) : j = k :=
  (List.getElem?_inj (List.getElem?_eq_some_iff.mp hj).1 (by decide)).mp (hj.trans hk.symm)

/-- A feed that is accepted stands one further. -/
theorem Stands.advance {k : ℕ} {s s' : Session} (h : Stands k s) (hadv : Advances s s') :
    Stands (k + 1) s' := by
  obtain ⟨j, hj, hj'⟩ := hadv.order
  obtain rfl : k = j := place_unique h.place hj
  refine ⟨hj', ?_, hadv.ready⟩
  intro hsome
  by_contra hready
  -- no handler but the last one sets the attributes
  rw [hadv.early hready, h.attributes] at hsome
  rw [hsome] at hj
  obtain rfl : 4 = k := place_unique rfl hj
  cases hj'

/-- INTERNAL: a session stands where the accepted feeds have led. -/
theorem stands_step (allow : Bool) (done : List Feed) (s : Session) (data : Bytes)
    (h : Stands (acceptedFeeds done).length s) :
    Stands (acceptedFeeds (done ++ [feedOnce u allow data s])).length
      (feedOnce u allow data s).after := by
  rw [acceptedFeeds, List.filter_append]
  cases moves_feedOnce u allow data s with
  | on hright hok hafter =>
    rw [List.filter_cons_of_pos (accepted_of_ok hok), List.length_append, hafter]
    exact h.advance (advances_behindFrame hright)
  | refused _ hbad hafter =>
    rw [List.filter_cons_of_neg (not_accepted_of_error hbad), List.filter_nil,
      List.append_nil, hafter]
    exact h

/-- INTERNAL: the frames that were accepted, fed alone. -/
theorem feedAll_accepted (allow : Bool) : ∀ (frames : List Bytes) (s : Session),
    feedAll u allow ((acceptedFeeds (feedAll u allow frames s)).map Step.input) s =
      acceptedFeeds (feedAll u allow frames s)
  | [], _ => rfl
  | data :: rest, s => by
    have ih := feedAll_accepted allow rest (feedOnce u allow data s).after
    have hrun : feedAll u allow (data :: rest) s =
      feedOnce u allow data s :: feedAll u allow rest (feedOnce u allow data s).after := rfl
    rw [hrun]
    cases moves_feedOnce u allow data s with
    | on _ hok _ =>
      rw [acceptedFeeds, List.filter_cons_of_pos (accepted_of_ok hok), List.map_cons]
      show feedOnce u allow data s :: feedAll u allow _ _ = _
      exact congrArg _ ih
    | refused _ hbad hafter =>
      rw [acceptedFeeds, List.filter_cons_of_neg (not_accepted_of_error hbad)]
      have hsame : (feedOnce u allow data s).after = s := hafter
      rw [hsame] at ih ⊢
      exact ih

/-- A new session stands at the start of the order. -/
theorem stands_started (local_ip : Option PyStr) : Stands 0 (started u local_ip) :=
  ⟨rfl, nofun, nofun⟩

/-- INTERNAL: a right frame is taken. -/
theorem after_feedOnce_right {allow : Bool} {data : Bytes} {s : Session}
    (h : RightFrame allow s data) : (feedOnce u allow data s).after = behindFrame s data := by
  cases moves_feedOnce u allow data s with
  | on _ _ hafter => exact hafter
  | refused hwrong _ _ => exact absurd h hwrong

/-- INTERNAL: four right answers, each behind the one before it. -/
theorem ready_of_rightAnswers {allow : Bool} {version connect done logon : Bytes} {tags : Tags}
    (h : RightAnswers allow version connect done logon tags) (local_ip : Option PyStr) :
    (feedAll u allow [version, connect, done, logon] (started u local_ip)).getLast?.map
      Step.after = some (readySession version connect logon tags) := by
  have hversion : RightFrame allow (started u local_ip) version := h.versioned
  have hconnect : RightFrame allow (behindFrame (started u local_ip) version) connect := h.connected
  have hdone : RightFrame allow
      (behindFrame (behindFrame (started u local_ip) version) connect) done := h.finished
  have hlogon : RightFrame allow
      (behindFrame (behindFrame (behindFrame (started u local_ip) version) connect) done)
      logon := ⟨tags, h.judged⟩
  show some (feedOnce u allow logon (feedOnce u allow done (feedOnce u allow connect
    (feedOnce u allow version (started u local_ip)).after).after).after).after = _
  rw [after_feedOnce_right u hversion, after_feedOnce_right u hconnect,
    after_feedOnce_right u hdone, after_feedOnce_right u hlogon]
  have hwaits : behindFrame (behindFrame (behindFrame (started u local_ip) version) connect) done =
      ⟨.GW_DONE, [], none, some ((slice version 20 24).map UInt8.toNat),
        some (slice connect 40 48)⟩ := rfl
  rw [hwaits]
  unfold behindFrame readySession
  dsimp only
  rw [h.judged.read]
  rfl

/-- The handshake of a new session goes through its states in order, one feed a step: the frames
that are right are accepted, four of them make the session ready, and a frame that is refused leaves
no trace. -/
theorem handshake_is_orderly (allow : Bool) (local_ip : Option PyStr) :
    (∀ frames : List Bytes, OrderlyHandshake u allow (started u local_ip)
      (feedAll u allow frames (started u local_ip))) ∧
    ∀ (version connect done logon : Bytes) (tags : Tags),
      RightAnswers allow version connect done logon tags →
        (feedAll u allow [version, connect, done, logon] (started u local_ip)).getLast?.map
          Step.after = some (readySession version connect logon tags) := by
  refine ⟨fun frames => ?_, fun _ _ _ _ _ h => ready_of_rightAnswers u h local_ip⟩
  have hstands : ∀ {i : ℕ} {f : Feed}, (feedAll u allow frames (started u local_ip))[i]? = some f →
      _ := fun h => Run.trace_invariant
    (I := fun done s => Stands (acceptedFeeds done).length s) (P := fun _ => True)
    (fun done s data hs _ => stands_step u allow done s data hs)
    (stands_started u local_ip) (fun _ _ => trivial) h
  refine ⟨⟨rfl, rfl⟩, ?_, ?_, ?_, ?_, ?_, feedAll_accepted u allow frames _⟩
  · intro i f h
    exact ⟨(hstands h).1.place, (hstands h).2.place⟩
  · intro f hf
    cases moves_of_mem u allow hf with
    | on hright hok _ => exact iff_of_true (accepted_of_ok hok) hright
    | refused hwrong hbad _ => exact iff_of_false (not_accepted_of_error hbad) hwrong
  · intro f hf hacc
    cases moves_of_mem u allow hf with
    | on _ hok hafter => exact ⟨hok, hafter⟩
    | refused _ hbad _ => exact absurd hacc (not_accepted_of_error hbad)
  · intro f hf
    obtain ⟨i, h⟩ := List.getElem?_of_mem hf
    exact ⟨(hstands h).1.attributes, (hstands h).2.attributes⟩
  · intro f hf hacc
    cases moves_of_mem u allow hf with
    | on _ hok _ =>
      rw [accepted_of_ok hok] at hacc
      cases hacc
    | refused _ _ hafter => exact hafter

/-- Three answers that are long enough, and a logon reply of no bytes. -/
def emptyLogonReply : List Bytes :=
  [List.replicate 20 0 ++ [0x34, 0x31, 0x30, 0x33], List.replicate 48 0, List.replicate 73 0, []]

/-- Fed behind a frame that is too short, they make a session ready all the same. -/
theorem handshake_is_orderly_refusedFirst :
    acceptedFeeds (feedAll asciiTables false ([] :: emptyLogonReply) (started asciiTables none)) =
        feedAll asciiTables false emptyLogonReply (started asciiTables none) ∧
      (feedAll asciiTables false emptyLogonReply (started asciiTables none)).getLast?.map
        Step.after = some (readySession (List.replicate 20 0 ++ [0x34, 0x31, 0x30, 0x33])
          (List.replicate 48 0) [] []) := by
  have horderly := handshake_is_orderly asciiTables false none
  refine ⟨(horderly.1 ([] :: emptyLogonReply)).resumes.symm, horderly.2 _ _ _ _ _ ?_⟩
  exact ⟨⟨by decide, by decide +kernel⟩, by decide, by decide, ⟨rfl, nofun, by decide⟩⟩

/-! ## Evidence of a logon -/

/-- The reply carries a return code, and it is zero. -/
def ReturnsZero (tags : Tags) : Prop :=
  ∃ rc, tags.get 0x0420 = some rc ∧ rc.length = 4 ∧ ofBE rc = 0

/-- What a reply must carry for `READY`. -/
def ProvesLogon (allow : Bool) (tags : Tags) : Prop :=
  (ReturnsZero tags ∧ has_error tags = false) ∨ (allow = true ∧ (tags.get 0x0420).isSome)

/-- What a reply must not be: without a return code, or with one that is not zero and
without an error to go with it. -/
def LacksProof (tags : Tags) : Prop :=
  (tags.get 0x0420).isSome = false ∨ (¬ ReturnsZero tags ∧ has_error tags = false)

/-- Whoever reached `READY` has shown a logon. -/
def ReadyIsProven (allow : Bool) (run : List Feed) : Prop :=
  ∀ f ∈ run, f.before.state ≠ .READY → f.after.state = .READY →
    ∃ tags, session_parse_tlv (logon_records f.input) = .ok tags ∧
      ProvesLogon allow tags ∧ ¬ LacksProof tags

/-- A reply the logon handler reads, that says neither that the logon failed nor, by a zero
return code, that it succeeded. -/
def SaysNothing (codepage : Option PyStr) (data : Bytes) : Prop :=
  ∃ tags, session_parse_tlv (logon_records data) = .ok tags ∧ has_error tags = false ∧
    ¬ ReturnsZero tags ∧
    ¬ (is_live data = true ∧ codepage.getD [] ≠ [] ∧ codepage.getD [] ≠ CODEPAGE_UTF16LE)

/-- INTERNAL: a feed in `GW_DONE` is judged as a logon reply. -/
theorem after_feedOnce (allow : Bool) (data : Bytes) {s : Session} (h : s.state = .GW_DONE) :
    (feedOnce u allow data s).after =
      match judgeLogon u allow s.codepage data with
      | .ok tags => { s with
          attributes := some (logon_attributes (is_live data) (s.codepage.getD []) tags)
          state := .READY }
      | .error _ => s := by
  unfold feedOnce Run.stepOf feed
  simp only [Eff.run_bind, Eff.run_state, h]
  rw [run_handle_logon_response]
  cases judgeLogon u allow s.codepage data <;> rfl

/-- A feed that reaches `READY` is a logon reply that was accepted. -/
theorem reaches_ready_iff (allow : Bool) (data : Bytes) (s : Session) :
    (s.state ≠ .READY ∧ (feedOnce u allow data s).after.state = .READY) ↔
      s.state = .GW_DONE ∧ ∃ tags, judgeLogon u allow s.codepage data = .ok tags := by
  constructor
  · rintro ⟨hne, hready⟩
    cases moves_feedOnce u allow data s with
    | refused _ _ hafter =>
      rw [hafter] at hready
      exact absurd hready hne
    | on hright _ hafter =>
      obtain ⟨j, hj, hj'⟩ := (advances_behindFrame hright).order
      rw [← hafter, hready] at hj'
      have hlast : j + 1 = 3 + 1 := place_unique hj' rfl
      obtain rfl : j = 3 := Nat.succ.inj hlast
      have hdone : s.state = .GW_DONE := (Option.some.inj hj).symm
      refine ⟨hdone, ?_⟩
      rw [after_feedOnce u allow data hdone] at hready
      cases hj : judgeLogon u allow s.codepage data with
      | ok tags => exact ⟨tags, rfl⟩
      | error e =>
        rw [hj] at hready
        exact absurd hready hne
  · rintro ⟨hdone, tags, htags⟩
    rw [after_feedOnce u allow data hdone, htags]
    exact ⟨by rw [hdone]; nofun, rfl⟩

/-- INTERNAL: of one feed, the replies that say nothing are what goes wrong. -/
theorem proven_iff (allow : Bool) (data : Bytes) (s : Session) :
    (s.state ≠ .READY → (feedOnce u allow data s).after.state = .READY →
      ∃ tags, session_parse_tlv (logon_records data) = .ok tags ∧
        ProvesLogon allow tags ∧ ¬ LacksProof tags) ↔
      (s.state = .GW_DONE → ¬ SaysNothing s.codepage data) := by
  constructor
  · intro hproven hdone hsilent
    obtain ⟨tags, hparse, hnoerr, hzero, hcp⟩ := hsilent
    have hjudge : judgeLogon u allow s.codepage data = .ok tags :=
      (judgeLogon_eq_ok u).mpr ⟨hparse, fun h => absurd (hnoerr ▸ h) Bool.false_ne_true, hcp⟩
    have hready := (reaches_ready_iff u allow data s).mpr ⟨hdone, tags, hjudge⟩
    obtain ⟨tags', hparse', -, hlacks⟩ := hproven hready.1 hready.2
    obtain rfl : tags = tags' := Except.ok.inj (hparse.symm.trans hparse')
    exact hlacks (.inr ⟨hzero, hnoerr⟩)
  · intro hspeaks hne hready
    obtain ⟨hdone, tags, hjudge⟩ := (reaches_ready_iff u allow data s).mp ⟨hne, hready⟩
    obtain ⟨hparse, hpass, hcp⟩ := (judgeLogon_eq_ok u).mp hjudge
    refine ⟨tags, hparse, ?_⟩
    cases herr : has_error tags with
    | true =>
      obtain ⟨hallow, hrc⟩ := hpass herr
      refine ⟨.inr ⟨hallow, hrc⟩, ?_⟩
      rintro (hnone | ⟨-, hno⟩)
      · rw [hrc] at hnone
        cases hnone
      · rw [herr] at hno
        cases hno
    | false =>
      have hzero : ReturnsZero tags := by
        by_contra hzero
        exact hspeaks hdone ⟨tags, hparse, herr, hzero, hcp⟩
      refine ⟨.inl ⟨hzero, herr⟩, ?_⟩
      rintro (hnone | ⟨hnot, -⟩)
      · obtain ⟨rc, hrc, -⟩ := hzero
        rw [hrc] at hnone
        cases hnone
      · exact hnot hzero

/-- In a handshake `READY` is reached by proof alone exactly when no reply that says nothing
is fed to a session that waits for its logon reply. -/
theorem ready_proven_iff (allow : Bool) (local_ip : Option PyStr) (frames : List Bytes) :
    ReadyIsProven allow (feedAll u allow frames (started u local_ip)) ↔
      ∀ f ∈ feedAll u allow frames (started u local_ip),
        f.before.state = .GW_DONE → ¬ SaysNothing f.before.codepage f.input := by
  generalize started u local_ip = s
  unfold ReadyIsProven
  refine forall₂_congr fun f hf => ?_
  rw [show f = feedOnce u allow f.input f.before from Run.eq_stepOf_of_mem hf]
  exact proven_iff u allow f.input f.before

/-- An empty logon reply makes a session `READY`. -/
theorem empty_reply_not_proven :
    ¬ ReadyIsProven false (feedAll asciiTables false emptyLogonReply
      (started asciiTables none)) := by
  intro h
  let s : Session :=
    { state := .GW_DONE, broken_reason := [], attributes := none, codepage := some (lit "4103"),
      handle := some (List.replicate 8 0) }
  have hmem : feedOnce asciiTables false [] s ∈
      feedAll asciiTables false emptyLogonReply (started asciiTables none) :=
    List.mem_of_getElem? (show _[3]? = _ from rfl)
  obtain ⟨tags, hparse, -, hlacks⟩ := h _ hmem nofun rfl
  obtain rfl : [] = tags := Except.ok.inj hparse
  exact hlacks (.inl rfl)

/-! ## A broken session -/

/-- A call of an operation of a session. -/
inductive SessionOp where
  | start (local_ip : Option PyStr)
  | feed (data : Bytes)
  | mark_in_call
  | mark_ready
  | mark_broken (reason : PyStr)
  | begin_ws_session
  | complete_ws_first_call (attributes : ConnectionAttributes) (codepage : PyStr)
  | complete_ws_handshake (attributes : ConnectionAttributes) (codepage : PyStr)

/-- The session a call leaves behind, whether it returned or raised. -/
def SessionOp.apply (allow : Bool) (s : Session) : SessionOp → Session
  | start local_ip => (Eff.run (Program.start u local_ip) s).2
  | feed data => (Eff.run (Program.feed u allow data) s).2
  | mark_in_call => (Eff.run (Program.mark_in_call u) s).2
  | mark_ready => (Eff.run (Program.mark_ready u) s).2
  | mark_broken reason => (Eff.run (Program.mark_broken reason) s).2
  | begin_ws_session => (Eff.run Program.begin_ws_session s).2
  | complete_ws_first_call attributes codepage =>
    (Eff.run (Program.complete_ws_first_call attributes codepage) s).2
  | complete_ws_handshake attributes codepage =>
    (Eff.run (Program.complete_ws_handshake attributes codepage) s).2

/-- The operations that set the state without looking at it. -/
def SessionOp.unguarded : SessionOp → Bool
  | start _ => true
  | begin_ws_session => true
  | complete_ws_first_call _ _ => true
  | complete_ws_handshake _ _ => true
  | _ => false

/-- The session after a sequence of calls. -/
def afterOps (allow : Bool) (ops : List SessionOp) (s : Session) : Session :=
  ops.foldl (SessionOp.apply u allow) s

/-- After any number of the calls the session is still broken. -/
def StaysBroken (allow : Bool) (ops : List SessionOp) (s : Session) : Prop :=
  ∀ k ≤ ops.length, (afterOps u allow (ops.take k) s).state = .BROKEN

/-- One call on a broken session: the guarded ones refuse, the others bring it back. -/
theorem apply_broken_iff (allow : Bool) {s : Session} (h : s.state = .BROKEN) (op : SessionOp) :
    (op.apply u allow s).state = .BROKEN ↔ op.unguarded = false := by
  cases op with
  | start local_ip => exact ⟨nofun, nofun⟩
  | feed data =>
    refine ⟨fun _ => rfl, fun _ => ?_⟩
    have hrun : Eff.run (feed u allow data) s =
        (.error (err .value (lit "unexpected feed in state SessionState." ++ s.state.value)),
          s) := by
      unfold feed
      simp only [Eff.run_bind, Eff.run_state, h]
      rfl
    show (Eff.run (feed u allow data) s).2.state = .BROKEN
    rw [hrun]
    exact h
  | mark_in_call =>
    refine ⟨fun _ => rfl, fun _ => ?_⟩
    show (Eff.run (mark_in_call u) s).2.state = .BROKEN
    obtain ⟨e, he⟩ := @run_require_refused u s [.READY] (by rw [h]; decide)
    rw [mark_in_call, Eff.run_bind_error he]
    exact h
  | mark_ready =>
    refine ⟨fun _ => rfl, fun _ => ?_⟩
    show (Eff.run (mark_ready u) s).2.state = .BROKEN
    obtain ⟨e, he⟩ := @run_require_refused u s [.IN_CALL] (by rw [h]; decide)
    rw [mark_ready, Eff.run_bind_error he]
    exact h
  | mark_broken reason => exact ⟨fun _ => rfl, fun _ => rfl⟩
  | begin_ws_session => exact ⟨nofun, nofun⟩
  | complete_ws_first_call attributes codepage => exact ⟨nofun, nofun⟩
  | complete_ws_handshake attributes codepage => exact ⟨nofun, nofun⟩

/-- A broken session stays broken through a sequence of calls exactly when none of them is one
of the four that set the state without looking at it. -/
theorem stays_broken_iff (allow : Bool) (ops : List SessionOp) (s : Session)
    (h : s.state = .BROKEN) :
    StaysBroken u allow ops s ↔ ∀ op ∈ ops, op.unguarded = false := by
  induction ops generalizing s with
  | nil =>
    refine ⟨fun _ _ hmem => (List.not_mem_nil hmem).elim, fun _ k _ => ?_⟩
    rw [List.take_nil]
    exact h
  | cons op rest ih =>
    have hstep := apply_broken_iff u allow h op
    constructor
    · intro hstays
      have hone : (op.apply u allow s).state = .BROKEN := hstays 1 (Nat.le_add_left 1 _)
      have hrest : StaysBroken u allow rest (op.apply u allow s) :=
        fun k hk => hstays (k + 1) (Nat.succ_le_succ hk)
      rw [List.forall_mem_cons]
      exact ⟨hstep.mp hone, (ih _ hone).mp hrest⟩
    · intro hguarded k hk
      rw [List.forall_mem_cons] at hguarded
      have hone := hstep.mpr hguarded.1
      cases k with
      | zero => exact h
      | succ k => exact (ih _ hone).mpr hguarded.2 k (Nat.le_of_succ_le_succ hk)

/-- A session broken in its handshake. -/
def brokenSession : Session :=
  afterOps asciiTables false [.start none, .mark_broken (lit "short read")] Session.init

theorem stays_broken_brokenSession :
    StaysBroken asciiTables false [.mark_ready, .feed []] brokenSession ↔
      ∀ op ∈ [SessionOp.mark_ready, .feed []], op.unguarded = false :=
  stays_broken_iff asciiTables false _ brokenSession rfl

/-- `start` makes a broken session one that a handshake can bring to `READY`. -/
theorem start_revives_broken :
    ¬ StaysBroken asciiTables false (.start none :: emptyLogonReply.map .feed) brokenSession := by
  intro h
  exact absurd (h 5 (by decide)) (show ¬ SessionState.READY = .BROKEN by decide)

end SapRfc.Analysis
