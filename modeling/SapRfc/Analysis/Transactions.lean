import SapRfc.Analysis.Residue

/-!
# tRFC transactions on a hosted server

How a shipped transaction ends: executed, rolled back, or left as received because
something raised on the way to its handler.  Over a run of frames the executed marks of
the store are the transactions whose handler has run to its end, so a resent one is
answered RFC_EXECUTED and its handler is not run again.
-/

set_option autoImplicit false

namespace SapRfc.Analysis.Transactions

open SapRfc.Library SapRfc.Program SapRfc.Analysis.Shipping SapRfc.Analysis.Residue

variable {α V : Type}

/-! ## How a transaction ends -/

section Ends

variable (p : Platform V) (a : App α V) (tlv : Bytes) (tid : PyStr)

/-- The process once the store has taken the TID. -/
def received (g : Process α) : Process α := { g with tids := putTid tid .received g.tids }

/-- Nothing raises between the store's `mark_received` and its last mark: the wrapped name can
be read and looked up, the request of its entry can be decoded, and the handler raises an
`Exception` at most. -/
inductive Settles (g : Process α) : Prop
  | unknown {name : PyStr} {g' : Process α}
      (named : extract_param_from_frame p tlv (lit "ARFCFNAM") = .ok name)
      (absent : Eff.run (a.server.lookup_wrapped p name) (received tid g) = (.ok none, g'))
  | handled {name : PyStr} {entry : Entry (Process α) V} {request : Values V} {g' : Process α}
      (named : extract_param_from_frame p tlv (lit "ARFCFNAM") = .ok name)
      (found : Eff.run (a.server.lookup_wrapped p name) (received tid g) = (.ok (some entry), g'))
      (decoded : deserialize_request p tlv entry.1 = .ok request)
      (ends : entry.2.coroutine = false → ∀ e, (Eff.run (entry.2.body request) g').1 = .error e →
        e.kind.isException = true)

/-- The ends of a transaction that the store has taken. -/
inductive ShipEnd (w : ServerWorld (Process α)) (r : Except PyError Bytes)
    (w' : ServerWorld (Process α)) : Prop
  | stuck (open_ended : ¬ Settles p a tlv tid w.user) (raised : ∃ e, r = .error e)
      (leaves : Leaves (putTid tid .received) id [] [] w w')
  | rolled_back (settles : Settles p a tlv tid w.user)
    (answer : r ≠ .ok build_rfc_executed_response)
      (leaves : Leaves (putTid tid .rolled_back ∘ putTid tid .received) id
        (told a.on_rollback_transaction (.rollback_transaction tid)) [] w w')
  | committed {h : Handler α V} (settles : Settles p a tlv tid w.user)
      (known : a.Synchronous → h.coroutine = false)
      (answer : r ≠ .ok build_rfc_executed_response)
      (leaves : Leaves (putTid tid .executed ∘ putTid tid .received) id
        (told a.on_commit_transaction (.commit_transaction tid)) (ranBy h) w w')

variable {p a tlv tid}

/-- INTERNAL: the callbacks of a hosted server, applied. -/
theorem rollback_callback (tid : PyStr) :
    a.server.on_rollback_transaction.map (fun f => f tid) =
      (a.on_rollback_transaction.map fun f => f tid).map (noted (.rollback_transaction tid)) := by
  unfold App.server
  cases a.on_rollback_transaction <;> rfl

theorem commit_callback (tid : PyStr) :
    a.server.on_commit_transaction.map (fun f => f tid) =
      (a.on_commit_transaction.map fun f => f tid).map (noted (.commit_transaction tid)) := by
  unfold App.server
  cases a.on_commit_transaction <;> rfl

theorem leaves_rollback_callback (tid : PyStr) :
    Eff.Keeps (Leaves id id (told a.on_rollback_transaction (.rollback_transaction tid)) [])
      (callback (a.server.on_rollback_transaction.map fun f => f tid)) := by
  rw [rollback_callback, ← told_map a.on_rollback_transaction fun f => f tid]
  exact leaves_callback _ _

theorem leaves_commit_callback (tid : PyStr) :
    Eff.Keeps (Leaves id id (told a.on_commit_transaction (.commit_transaction tid)) [])
      (callback (a.server.on_commit_transaction.map fun f => f tid)) := by
  rw [commit_callback, ← told_map a.on_commit_transaction fun f => f tid]
  exact leaves_callback _ _

variable (a tid) in
theorem leaves_rollback (message : PyStr) :
    Eff.Keeps (Leaves (putTid tid .rolled_back) id
      (told a.on_rollback_transaction (.rollback_transaction tid)) [])
      (rollback_transaction a.server tid message) := by
  intro w
  have hmark := leaves_mark tid .rolled_back w
  exact hmark.seq (leaves_then_nothing (leaves_rollback_callback tid) (fun _ => nothing_lift _) _)

variable (a tid) in
/-- What follows a call that went through. -/
def commitShipped : Eff PyError (ServerWorld (Process α)) Bytes := do
  note (.marked_executed tid)
  ext (a.server.tid_store.mark_executed tid)
  callback (a.server.on_commit_transaction.map (· tid))
  pure build_rfc_ok_response

variable (a tid) in
/-- The mark of an executed transaction, and the callback that is told. -/
theorem leaves_commit :
    Eff.Keeps (Leaves (putTid tid .executed) id
      (told a.on_commit_transaction (.commit_transaction tid)) []) (commitShipped a tid) := by
  intro w
  have hnote : Nothing w ⟨w.user, w.events ++ [.marked_executed tid]⟩ := nothing_note rfl w
  have hmark := leaves_mark tid .executed ⟨w.user, w.events ++ [.marked_executed tid]⟩
  exact hnote.afterNothing
    (hmark.seq (leaves_then_nothing (leaves_commit_callback tid) (fun _ => nothing_pure _) _))

/-- The answer does not say that the transaction was executed before. -/
def NotDone (out : Bytes) : Prop := out ≠ build_rfc_executed_response

theorem notDone_failure (message : PyStr) :
    Eff.Yields NotDone (Eff.lift (build_system_failure message) :
      Eff PyError (ServerWorld (Process α)) Bytes) :=
  .lift fun _ h hout => system_failure_ne_executed message (hout ▸ h)

theorem notDone_rollback (message : PyStr) :
    Eff.Yields NotDone (rollback_transaction a.server tid message) :=
  .bind fun _ => .bind fun _ => notDone_failure message

variable (a tid) in
theorem notDone_commit : Eff.Yields NotDone (commitShipped a tid) :=
  .bind fun _ => .bind fun _ => .bind fun _ => .pure fun h => executed_ne_ok h.symm

theorem ne_of_notDone {x : Eff PyError (ServerWorld (Process α)) Bytes}
    (hx : Eff.Yields NotDone x) (w : ServerWorld (Process α)) :
    (Eff.run x w).1 ≠ .ok build_rfc_executed_response :=
  fun h => hx w _ h rfl

variable (a tid) in
/-- Behind the checks: the call decides how the transaction ends. -/
theorem run_shipped_cases (h : Handler α V) (request : Values V) (w : ServerWorld (Process α)) :
    (∃ e, (Eff.run (call_handler h.hosted request) w).1 = .error e ∧ e.kind.isException = false ∧
      (Eff.run (run_shipped a.server tid h.hosted request) w).1 = .error e ∧
      Nothing w (Eff.run (run_shipped a.server tid h.hosted request) w).2) ∨
    ((∀ e, (Eff.run (call_handler h.hosted request) w).1 = .error e → e.kind.isException = true) ∧
      (Eff.run (run_shipped a.server tid h.hosted request) w).1 ≠
        .ok build_rfc_executed_response ∧
      (Leaves (putTid tid .rolled_back) id
          (told a.on_rollback_transaction (.rollback_transaction tid)) []
          w (Eff.run (run_shipped a.server tid h.hosted request) w).2 ∨
        Leaves (putTid tid .executed) id
          (told a.on_commit_transaction (.commit_transaction tid)) (ranBy h)
          w (Eff.run (run_shipped a.server tid h.hosted request) w).2)) := by
  have hcases := call_cases h request w
  unfold run_shipped
  cases hcall : Eff.run (call_handler h.hosted request) w with
  | mk r w₁ =>
    rw [hcall] at hcases
    cases r with
    | ok c =>
      have hleaves : Leaves id id [] (ranBy h) w w₁ := by
        cases hcases with
        | inl returned =>
          obtain ⟨_, -, hleaves⟩ := returned
          exact hleaves
        | inr raised =>
          obtain ⟨e, he, -⟩ := raised
          cases he
      rw [Eff.run_bind_ok (run_attempt_ok hcall)]
      refine .inr ⟨?_, ne_of_notDone (notDone_commit a tid) w₁, .inr ?_⟩
      · rintro e ⟨⟩
      have hboth := hleaves.seq (leaves_commit a tid w₁)
      rw [List.append_nil] at hboth
      exact hboth
    | error e =>
      have hnothing : Nothing w w₁ := by
        cases hcases with
        | inl returned =>
          obtain ⟨_, hc, -⟩ := returned
          cases hc
        | inr raised =>
          obtain ⟨_, -, hnothing⟩ := raised
          exact hnothing
      have hattempt := run_attempt_error hcall
      cases hkind : e.kind.isException with
      | false =>
        rw [hkind, if_neg Bool.false_ne_true] at hattempt
        rw [Eff.run_bind_error hattempt]
        exact .inl ⟨e, rfl, hkind, rfl, hnothing⟩
      | true =>
        rw [hkind, if_pos rfl] at hattempt
        rw [Eff.run_bind_ok hattempt]
        dsimp only
        refine .inr ⟨?_, ne_of_notDone (notDone_rollback e.text) w₁,
          .inl (hnothing.afterNothing (leaves_rollback a tid e.text w₁))⟩
        rintro e' ⟨⟩
        exact hkind

/-- INTERNAL: the wrapped name is looked up by the application. -/
theorem lookup_wrapped_cases (name : PyStr) (g : Process α) :
    Aside g (Eff.run (a.server.lookup_wrapped p name) g).2 ∧
      ∀ e, (Eff.run (a.server.lookup_wrapped p name) g).1 = .ok (some e) →
        ∃ e₀, e = hostedEntry e₀ ∧ (a.Synchronous → e₀.2.coroutine = false) := by
  unfold RfcServer.lookup_wrapped
  by_cases hname : name = []
  · rw [if_pos hname]
    exact ⟨Aside.refl g, by rintro e ⟨⟩⟩
  · rw [if_neg hname]
    exact lookup_cases p a name g

/-- INTERNAL: a handler raises what its call raises. -/
theorem call_error_iff (h : Handler α V) (request : Values V) (g : Process α)
    (l : List ServerEvent) (e : PyError) :
    (Eff.run (call_handler h.hosted request) ⟨g, l⟩).1 = .error e ↔
      h.hosted.coroutine = false ∧ (Eff.run (h.hosted.body request) g).1 = .error e := by
  unfold call_handler run_body
  rw [Eff.run_bind_ok (run_note _ _ _), Eff.run_ite]
  cases hco : h.hosted.coroutine with
  | true => exact ⟨by rintro ⟨⟩, by rintro ⟨⟨⟩, -⟩⟩
  | false =>
    rw [if_neg Bool.false_ne_true, Eff.run_bind, Eff.run_bind, Eff.run_tryCatch, run_ext]
    cases Eff.run (h.hosted.body request) g with
    | mk r g' =>
      cases r with
      | ok values => exact ⟨by rintro ⟨⟩, by rintro ⟨-, ⟨⟩⟩⟩
      | error e' =>
        constructor
        · rintro ⟨⟩
          exact ⟨rfl, rfl⟩
        · rintro ⟨-, ⟨⟩⟩
          rfl

/-- INTERNAL: the end of a transaction whose name has an entry. -/
theorem handled_end {w : ServerWorld (Process α)} {name : PyStr} {entry : Entry α V}
    {g' : Process α} (hname : extract_param_from_frame p tlv (lit "ARFCFNAM") = .ok name)
    (hfound : Eff.run (a.server.lookup_wrapped p name) (received tid w.user) =
      (.ok (some (hostedEntry entry)), g'))
    (hsync : a.Synchronous → entry.2.coroutine = false) :
    ShipEnd p a tlv tid w
      (Eff.run (do
        note (.selected entry.2.id)
        let request ← Eff.lift (deserialize_request p tlv entry.1)
        run_shipped a.server tid entry.2.hosted request) ⟨g', w.events⟩).1
      (Eff.run (do
        note (.selected entry.2.id)
        let request ← Eff.lift (deserialize_request p tlv entry.1)
        run_shipped a.server tid entry.2.hosted request) ⟨g', w.events⟩).2 := by
  have htaken := leaves_mark tid .received w
  have haside := (lookup_wrapped_cases (p := p) (a := a) name (received tid w.user)).1
  rw [hfound] at haside
  have hselected : Leaves (putTid tid .received) id [] [] w
      ⟨g', w.events ++ [.selected entry.2.id]⟩ :=
    htaken.andNothing ((nothing_of_aside haside w.events).afterNothing (nothing_note rfl _))
  have hsettles : ∀ request, deserialize_request p tlv entry.1 = .ok request →
      (Settles p a tlv tid w.user ↔
        ∀ e, (Eff.run (call_handler entry.2.hosted request)
          ⟨g', w.events ++ [.selected entry.2.id]⟩).1 = .error e → e.kind.isException = true) := by
    intro request hrequest
    constructor
    · rintro (⟨named, absent⟩ | ⟨named, found, decoded, ends⟩) e he
      · obtain rfl := Except.ok.inj (hname.symm.trans named)
        cases hfound.symm.trans absent
      · obtain rfl := Except.ok.inj (hname.symm.trans named)
        cases hfound.symm.trans found
        obtain rfl := Except.ok.inj (hrequest.symm.trans decoded)
        have hboth := (call_error_iff entry.2 request g' _ e).mp he
        exact ends hboth.1 e hboth.2
    · intro hends
      refine .handled hname hfound hrequest fun hco e he => ?_
      exact hends e ((call_error_iff entry.2 request g' _ e).mpr ⟨hco, he⟩)
  rw [Eff.run_bind_ok (run_note _ _ _)]
  cases hrequest : deserialize_request p tlv entry.1 with
  | error e =>
    refine .stuck ?_ ⟨e, rfl⟩ hselected
    rintro (⟨named, absent⟩ | ⟨named, found, decoded, -⟩)
    · obtain rfl := Except.ok.inj (hname.symm.trans named)
      cases hfound.symm.trans absent
    · obtain rfl := Except.ok.inj (hname.symm.trans named)
      cases hfound.symm.trans found
      cases hrequest.symm.trans decoded
  | ok request =>
    rw [Eff.run_bind_ok (Eff.run_lift _ _)]
    cases run_shipped_cases a tid entry.2 request
        ⟨g', w.events ++ [.selected entry.2.id]⟩ with
    | inl ended =>
      obtain ⟨e, hcall, hkind, hout, hnothing⟩ := ended
      refine .stuck ?_ ⟨e, hout⟩ (hselected.andNothing hnothing)
      intro hs
      rw [(hsettles request hrequest).mp hs e hcall] at hkind
      cases hkind
    | inr settled =>
      obtain ⟨hexc, hout, hleft⟩ := settled
      have hs := (hsettles request hrequest).mpr hexc
      cases hleft with
      | inl hrolled => exact .rolled_back hs hout (hselected.seq hrolled)
      | inr hcommitted => exact .committed hs hsync hout (hselected.seq hcommitted)

variable (p a tlv tid) in
/-- Once the store has taken a transaction, it ends in one of three ways. -/
theorem open_shipped_end (w : ServerWorld (Process α)) :
    ShipEnd p a tlv tid w (Eff.run (open_shipped p a.server tlv tid) w).1
      (Eff.run (open_shipped p a.server tlv tid) w).2 := by
  have htaken := leaves_mark tid .received w
  have hrun : Eff.run (ext (a.server.tid_store.mark_received tid)) w =
      (.ok (), ⟨received tid w.user, w.events⟩) := rfl
  unfold open_shipped
  rw [Eff.run_bind_ok hrun]
  cases hname : extract_param_from_frame p tlv (lit "ARFCFNAM") with
  | error e =>
    refine .stuck ?_ ⟨e, rfl⟩ htaken
    rintro (⟨named, -⟩ | ⟨named, -⟩) <;> rw [hname] at named <;> cases named
  | ok name =>
    rw [Eff.run_bind_ok (Eff.run_lift _ _)]
    obtain ⟨haside, hhosted⟩ := lookup_wrapped_cases (p := p) (a := a) name (received tid w.user)
    cases hlookup : Eff.run (a.server.lookup_wrapped p name) (received tid w.user) with
    | mk r g' =>
      rw [hlookup] at haside hhosted
      have hlooked := nothing_of_aside haside w.events
      cases r with
      | error e =>
        rw [Eff.run_bind_error (run_ext_of hlookup _)]
        refine .stuck ?_ ⟨e, rfl⟩ (htaken.andNothing hlooked)
        rintro (⟨named, absent⟩ | ⟨named, found, -, -⟩)
        · obtain rfl := Except.ok.inj (hname.symm.trans named)
          cases hlookup.symm.trans absent
        · obtain rfl := Except.ok.inj (hname.symm.trans named)
          cases hlookup.symm.trans found
      | ok entry =>
        rw [Eff.run_bind_ok (run_ext_of hlookup _)]
        cases entry with
        | none =>
          refine .rolled_back (.unknown hname hlookup) (ne_of_notDone (notDone_rollback _) _) ?_
          exact (htaken.andNothing hlooked).seq (leaves_rollback a tid _ _)
        | some entry =>
          obtain ⟨e₀, rfl, hsync⟩ := hhosted entry rfl
          exact handled_end hname hlookup hsync

/-- INTERNAL: the check is the application's or a look into the store. -/
theorem aside_check (tid : PyStr) : Eff.Keeps Aside (a.server.check_transaction tid) := by
  unfold RfcServer.check_transaction App.server
  cases a.on_check_transaction with
  | none => exact Aside.refl
  | some on_check =>
    exact Eff.Keeps.bind Aside.trans (aside_onApp _) fun _ => Eff.Keeps.pure Aside.refl _

/-- The store says how the transaction ended, and of the two callbacks the one of this end was
called, once, if it is installed. -/
def Concluded (a : App α V) (tid : PyStr) (w w' : ServerWorld (Process α)) : Prop :=
  (w'.user.tids.store tid = some .executed ∧
      w'.user.calls = w.user.calls ++
        told a.on_commit_transaction (.commit_transaction tid)) ∨
    (w'.user.tids.store tid = some .rolled_back ∧
      w'.user.calls = w.user.calls ++
        told a.on_rollback_transaction (.rollback_transaction tid))

variable (p a tlv tid) in
/-- The transaction gets to its end: the check passes and nothing raises behind it, or the
check itself raises and an earlier dispatch has left an end that nobody is told of. -/
inductive Concludes (g : Process α) : Prop
  | taken {g' : Process α} (fresh : Eff.run (a.server.check_transaction tid) g = (.ok false, g'))
      (settles : Settles p a tlv tid g')
  | unchecked {e : PyError} {g' : Process α}
      (raised : Eff.run (a.server.check_transaction tid) g = (.error e, g'))
      (ended : (g.tids.store tid = some .executed ∧ a.on_commit_transaction = none) ∨
        (g.tids.store tid = some .rolled_back ∧ a.on_rollback_transaction = none))

theorem store_putTid (tid : PyStr) (mark : TidMark) (t : TidTable) :
    (putTid tid mark t).store tid = some mark := if_pos rfl

/-- INTERNAL: an end that the store has taken is a conclusion unless it is none. -/
theorem concluded_iff_settles {w w' : ServerWorld (Process α)} {r : Except PyError Bytes}
    (h : ShipEnd p a tlv tid w r w') : Concluded a tid w w' ↔ Settles p a tlv tid w.user := by
  cases h with
  | stuck open_ended raised leaves =>
    have hstore : w'.user.tids.store tid = some .received := by
      rw [leaves.tids]
      exact store_putTid tid _ _
    refine ⟨?_, fun hs => absurd hs open_ended⟩
    rintro (⟨hm, -⟩ | ⟨hm, -⟩) <;> cases hstore.symm.trans hm
  | rolled_back settles answer leaves =>
    refine ⟨fun _ => settles, fun _ => .inr ⟨?_, leaves.calls⟩⟩
    rw [leaves.tids]
    exact store_putTid tid _ _
  | committed settles known answer leaves =>
    refine ⟨fun _ => settles, fun _ => .inl ⟨?_, leaves.calls⟩⟩
    rw [leaves.tids]
    exact store_putTid tid _ _

/-- INTERNAL: the run of a ship whose TID is valid, from its check on. -/
theorem run_dispatch_transactional_checked (hread : extract_tid_from_frame p tlv = .ok tid)
    (hvalid : tid_fault tid = none) (w : ServerWorld (Process α)) :
    Eff.run (dispatch_transactional p a.server tlv) w =
      match Eff.run (a.server.check_transaction tid) w.user with
      | (.ok true, g') => (.ok build_rfc_executed_response, ⟨g', w.events⟩)
      | (.ok false, g') => Eff.run (open_shipped p a.server tlv tid) ⟨g', w.events⟩
      | (.error e, g') => (.error e, ⟨g', w.events⟩) := by
  unfold dispatch_transactional
  rw [hread, Eff.run_bind_ok (Eff.run_lift _ _)]
  simp only [hvalid]
  rw [Eff.run_bind, run_ext]
  cases Eff.run (a.server.check_transaction tid) w.user with
  | mk r g' =>
    cases r with
    | error e => rfl
    | ok done =>
      cases done with
      | true => rfl
      | false => rfl

/-- INTERNAL: a ship without a TID that can be read, or with one that is not valid, is turned
away at the door. -/
theorem run_dispatch_transactional_turned (w : ServerWorld (Process α))
    (h : ∀ tid, extract_tid_from_frame p tlv = .ok tid → tid_fault tid ≠ none) :
    (Eff.run (dispatch_transactional p a.server tlv) w).2 = w ∧
      (Eff.run (dispatch_transactional p a.server tlv) w).1 ≠ .ok build_rfc_executed_response := by
  unfold dispatch_transactional
  cases hread : extract_tid_from_frame p tlv with
  | error e =>
    rw [Eff.run_bind_error (Eff.run_lift _ _)]
    exact ⟨rfl, by rintro ⟨⟩⟩
  | ok tid =>
    rw [Eff.run_bind_ok (Eff.run_lift _ _)]
    obtain ⟨message, hfault⟩ := Option.ne_none_iff_exists'.mp (h tid hread)
    simp only [hfault]
    exact ⟨rfl, system_failure_ne_executed message⟩

/-- The unit store is not touched. -/
theorem same_units_dispatch_transactional :
    Eff.Keeps (fun w w' : ServerWorld (Process α) => w'.user.units = w.user.units)
      (dispatch_transactional p a.server tlv) := by
  intro w
  by_cases h : ∀ tid, extract_tid_from_frame p tlv = .ok tid → tid_fault tid ≠ none
  · rw [(run_dispatch_transactional_turned w h).1]
  · push Not at h
    obtain ⟨tid, hread, hvalid⟩ := h
    rw [run_dispatch_transactional_checked hread hvalid w]
    have haside := aside_check (a := a) tid w.user
    cases hcheck : Eff.run (a.server.check_transaction tid) w.user with
    | mk r g' =>
      rw [hcheck] at haside
      obtain ⟨app, rfl⟩ : Aside w.user g' := haside
      cases r with
      | error e => rfl
      | ok done =>
        cases done with
        | true => rfl
        | false =>
          cases open_shipped_end p a tlv tid ⟨{ w.user with app := app }, w.events⟩ with
          | stuck open_ended raised leaves => exact leaves.units
          | rolled_back settles answer leaves => exact leaves.units
          | committed settles known answer leaves => exact leaves.units

/-- A valid and new transaction is concluded exactly when nothing raises on the way to the end
of its handler that the dispatch does not catch. -/
theorem transaction_concluded_iff (p : Platform V) (a : App α V) (tlv : Bytes) (tid : PyStr)
    (w : ServerWorld (Process α)) (hread : extract_tid_from_frame p tlv = .ok tid)
    (hvalid : tid_fault tid = none)
    (hnew : (Eff.run (a.server.check_transaction tid) w.user).1 ≠ .ok true) :
    Concluded a tid w (Eff.run (dispatch_transactional p a.server tlv) w).2 ↔
      Concludes p a tlv tid w.user := by
  rw [run_dispatch_transactional_checked hread hvalid w]
  have haside := aside_check (a := a) tid w.user
  cases hcheck : Eff.run (a.server.check_transaction tid) w.user with
  | mk r g' =>
    rw [hcheck] at haside hnew
    obtain ⟨app, rfl⟩ : Aside w.user g' := haside
    cases r with
    | error e =>
      constructor
      · rintro (⟨hm, hcalls⟩ | ⟨hm, hcalls⟩)
        · exact .unchecked hcheck (.inl ⟨hm, told_eq_nil.mp (List.self_eq_append_right.mp hcalls)⟩)
        · exact .unchecked hcheck (.inr ⟨hm, told_eq_nil.mp (List.self_eq_append_right.mp hcalls)⟩)
      · rintro (⟨fresh, -⟩ | ⟨raised, ⟨hm, hnone⟩ | ⟨hm, hnone⟩⟩)
        · cases hcheck.symm.trans fresh
        · exact .inl ⟨hm, by rw [told_eq_nil.mpr hnone, List.append_nil]⟩
        · exact .inr ⟨hm, by rw [told_eq_nil.mpr hnone, List.append_nil]⟩
    | ok done =>
      cases done with
      | true => exact absurd rfl hnew
      | false =>
        have hend := concluded_iff_settles (open_shipped_end p a tlv tid
          ⟨{ w.user with app := app }, w.events⟩)
        refine Iff.trans hend ⟨fun hs => .taken hcheck hs, ?_⟩
        rintro (⟨fresh, settles⟩ | ⟨raised, -⟩)
        · cases hcheck.symm.trans fresh
          exact settles
        · cases hcheck.symm.trans raised

end Ends

/-! ## A request that cannot be decoded -/

/-- The TID of `shippedFrame`. -/
def shippedTid : PyStr := lit "0A0B0C0D0E0F101112131415"

theorem transaction_concluded_plain :
    Concluded plainApp shippedTid (newWorld ())
        (Eff.run (dispatch_transactional plainPlatform plainApp.server shippedFrame)
          (newWorld ())).2 ↔
      Concludes plainPlatform plainApp shippedFrame shippedTid (newWorld ()).user :=
  transaction_concluded_iff plainPlatform plainApp shippedFrame shippedTid (newWorld ())
    (by decide +kernel) (by decide +kernel) (by decide +kernel)

/-- `decode` of an integer reads four bytes. -/
def intPlatform : Platform Bytes :=
  { plainPlatform with
    codec := { plainPlatform.codec with
      decode := fun rfctype raw _ _ =>
        if rfctype = 8 ∧ raw.length < 4 then
          .error (err .structError (lit "unpack requires a buffer of 4 bytes"))
        else .ok raw } }

/-- An application whose function `Z_FM` takes an integer `N`. -/
def intApp : App Unit Bytes :=
  .functions [(lit "Z_FM", (some
    { name := lit "Z_FM"
      parameters := [{ name := lit "N", rfctype := 8, nuc_length := 4, nuc_offset := 0,
                       uc_length := 4, uc_offset := 0, decimals := 0 }] },
    ⟨7, false, fun _ => pure none⟩))]

/-- `Z_FM` behind `ARFC_DEST_SHIP`, with two bytes for `N`. -/
def shortIntFrame : Bytes :=
  callFrame "ARFC_DEST_SHIP"
    [("ARFCTID", "0A0B0C0D0E0F101112131415"), ("ARFCFNAM", "Z_FM"), ("N", "1")]

/-- The transaction stays as received. -/
theorem short_int_not_concluded :
    ¬ Concluded intApp shippedTid (newWorld ())
      (Eff.run (dispatch_transactional intPlatform intApp.server shortIntFrame)
        (newWorld ())).2 := by
  have hstore : (Eff.run (dispatch_transactional intPlatform intApp.server shortIntFrame)
      (newWorld ())).2.user.tids.store shippedTid = some .received := by
    decide +kernel
  rintro (⟨hm, -⟩ | ⟨hm, -⟩) <;> cases hstore.symm.trans hm

end SapRfc.Analysis.Transactions
