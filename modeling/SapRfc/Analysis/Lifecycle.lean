import SapRfc.Analysis.Ledgers

/-!
# The life of a transaction id on the server

A TID is outstanding from the end of its handler to the confirm frame that names it.  The
dispatcher ships transactions and has nothing behind a confirm frame, so its store holds the
outstanding TIDs for executed exactly as long as no confirm frame names one.
-/

set_option autoImplicit false

namespace SapRfc.Analysis.Lifecycle

open SapRfc.Library SapRfc.Program SapRfc.Analysis.Shipping SapRfc.Analysis.Residue
open SapRfc.Analysis.Transactions SapRfc.Analysis.Ledgers

variable {α V : Type} (p : Platform V) (a : App α V)

/-- The TID that an `ARFC_DEST_CONFIRM` frame carries. -/
def confirmedTid? (frame : Bytes) : Option PyStr :=
  if calledName frame = some ARFC_DEST_CONFIRM then
    (extract_tid_from_frame p (strip_gw_header frame)).toOption
  else none

/-- The handler for the TID ran to its end. -/
def Executes (s : Served α) (tid : PyStr) : Prop :=
  shippedTid? p s.input = some tid ∧ newlyCompleted s ≠ []

/-- The TID was executed and not confirmed since. -/
def Outstanding (run : List (Served α)) (tid : PyStr) : Prop :=
  ∃ before s after, run = before ++ s :: after ∧ Executes p s tid ∧
    ∀ s' ∈ after, confirmedTid? p s'.input ≠ some tid

/-- The callbacks called while a frame was handled. -/
def newCalls (s : Served α) : List CallbackEvent :=
  s.after.user.calls.drop s.before.user.calls.length

/-- After each frame the store holds the outstanding TIDs for executed and no others, and a
confirm frame for one of them takes it out of the store and is told to the application. -/
structure TracksTids (run : List (Served α)) : Prop where
  holds : ∀ (i : ℕ) (s : Served α) (tid : PyStr), run[i]? = some s →
    (s.after.user.tids.store tid = some .executed ↔ Outstanding p (run.take (i + 1)) tid)
  confirms : ∀ (i : ℕ) (s : Served α) (tid : PyStr), run[i]? = some s →
    confirmedTid? p s.input = some tid → Outstanding p (run.take i) tid →
      s.after.user.tids.store tid = none ∧
        (a.on_confirm_transaction ≠ none → .confirm_transaction tid ∈ newCalls s)

/-- No confirm frame names a TID that is outstanding. -/
def NothingConfirmed (run : List (Served α)) : Prop :=
  ∀ (i : ℕ) (s : Served α) (tid : PyStr), run[i]? = some s →
    confirmedTid? p s.input = some tid → ¬ Outstanding p (run.take i) tid

/-- The check that the server makes, the application's or its own, knows the TIDs that the store
holds for executed. -/
def Recognises (s : Served α) : Prop :=
  ∀ tid, shippedTid? p s.input = some tid → tid_fault tid = none →
    s.before.user.tids.store tid = some .executed →
      (Eff.run (a.server.check_transaction tid) s.before.user).1 = .ok true

section Steps

variable {p a}

/-- A server that checks with its own store recognises what it holds. -/
theorem recognises_of_store (hcheck : a.on_check_transaction = none) (s : Served α) :
    Recognises p a s := by
  intro tid _ _ hstore
  unfold RfcServer.check_transaction App.server
  rw [hcheck]
  show Except.ok (decide (s.before.user.tids.store tid = some .executed)) = _
  rw [decide_eq_true hstore]

/-- What a ship of a TID leaves in the store: nothing, or a mark that says whether its handler
ran. -/
inductive Marks (tid : PyStr) (w w' : ServerWorld (Process α)) : Prop
  | kept (leaves : Nothing w w')
  | marked {ft : TidTable → TidTable} {mark : TidMark} {cs : List CallbackEvent} {ids : List ℕ}
      (fresh : w.user.tids.store tid ≠ some .executed)
      (puts : ∀ t, (ft t).store = dictPut t.store tid (some mark))
      (ended : mark = .executed ↔ ids ≠ []) (leaves : Leaves ft id cs ids w w')

/-- INTERNAL: a ship, whatever the check looks at. -/
theorem ship_marks (hsync : a.Synchronous) {tlv : Bytes} {tid : PyStr}
    (hread : extract_tid_from_frame p tlv = .ok tid) (w : ServerWorld (Process α))
    (hknown : tid_fault tid = none → w.user.tids.store tid = some .executed →
      (Eff.run (a.server.check_transaction tid) w.user).1 = .ok true) :
    Marks tid w (Eff.run (dispatch_transactional p a.server tlv) w).2 := by
  by_cases hvalid : tid_fault tid = none
  · rw [run_dispatch_transactional_checked hread hvalid w]
    have haside := aside_check (a := a) tid w.user
    have hfresh := fun hstore => hknown hvalid hstore
    cases hcheck : Eff.run (a.server.check_transaction tid) w.user with
    | mk r g' =>
      rw [hcheck] at haside hfresh
      have hchecked : Nothing w ⟨g', w.events⟩ := nothing_of_aside haside w.events
      cases r with
      | error e => exact .kept hchecked
      | ok done =>
        cases done with
        | true => exact .kept hchecked
        | false =>
          have hnew : w.user.tids.store tid ≠ some .executed := by
            intro hstore
            cases hfresh hstore
          dsimp only
          cases open_shipped_end p a tlv tid ⟨g', w.events⟩ with
          | stuck open_ended raised leaves =>
            refine .marked hnew (fun _ => rfl) ?_ (hchecked.seq leaves)
            exact ⟨by rintro ⟨⟩, fun h => absurd rfl h⟩
          | rolled_back settles answer leaves =>
            refine .marked hnew (store_putTid_putTid tid _ _) ?_ (hchecked.seq leaves)
            exact ⟨by rintro ⟨⟩, fun h => absurd rfl h⟩
          | @committed h settles known answer leaves =>
            have hran : ranBy h = [h.id] := by
              rw [ranBy, known hsync]
              rfl
            rw [hran] at leaves
            refine .marked hnew (store_putTid_putTid tid _ _) ?_ (hchecked.seq leaves)
            exact ⟨fun _ => List.cons_ne_nil _ _, fun _ => rfl⟩
  · rw [(run_dispatch_transactional_turned w fun tid' h => by
      obtain rfl := Except.ok.inj (hread.symm.trans h)
      exact hvalid).1]
    exact .kept (Leaves.refl w)

/-- The store holds the TIDs that were executed so far. -/
def ExecutedLedger (p : Platform V) (done : List (Served α)) (w : ServerWorld (Process α)) :
    Prop :=
  ∀ tid, w.user.tids.store tid = some .executed ↔ ∃ s ∈ done, Executes p s tid

theorem executedLedger_step (hsync : a.Synchronous) (done : List (Served α))
    (w : ServerWorld (Process α)) (frame : Bytes) (h : ExecutedLedger p done w)
    (hknown : Recognises p a (serveOnce p a frame w)) :
    ExecutedLedger p (done ++ [serveOnce p a frame w]) (serveOnce p a frame w).after := by
  intro tid
  have hlast : (∃ s ∈ done ++ [serveOnce p a frame w], Executes p s tid) ↔
      (∃ s ∈ done, Executes p s tid) ∨ Executes p (serveOnce p a frame w) tid := by
    simp only [List.mem_append, List.mem_singleton, or_and_right, exists_or, exists_eq_left]
  rw [hlast, ← h tid]
  cases hshipped : shippedTid? p frame with
  | none =>
    have hnot : ¬ Executes p (serveOnce p a frame w) tid := by
      rintro ⟨hinput, -⟩
      cases hshipped.symm.trans hinput
    rw [same_tids_of_no_ship hshipped, or_iff_left hnot]
  | some tid' =>
    obtain ⟨hread, -, hafter⟩ := serveOnce_ship (a := a) hshipped w
    have hmarks := ship_marks hsync hread w fun hvalid hstore => hknown tid' hshipped hvalid hstore
    rw [← hafter] at hmarks
    cases hmarks with
    | kept leaves =>
      have hnone : newlyCompleted (serveOnce p a frame w) = [] := newlyCompleted_of_leaves leaves
      have hnot : ¬ Executes p (serveOnce p a frame w) tid := fun hexec => hexec.2 hnone
      rw [leaves.tids, or_iff_left hnot]
      rfl
    | @marked _ mark _ ids fresh puts ended leaves =>
      have hids : newlyCompleted (serveOnce p a frame w) = ids := newlyCompleted_of_leaves leaves
      rw [leaves.tids, puts, dictPut]
      by_cases hsame : tid = tid'
      · subst hsame
        have hexec : Executes p (serveOnce p a frame w) tid ↔ ids ≠ [] := by
          rw [Executes, hids]
          exact and_iff_right hshipped
        rw [if_pos rfl, hexec, or_iff_right fresh, Option.some_inj]
        exact ended
      · have hnot : ¬ Executes p (serveOnce p a frame w) tid := by
          rintro ⟨hinput, -⟩
          exact hsame (Option.some.inj (hinput.symm.trans hshipped))
        rw [if_neg hsame, or_iff_left hnot]

end Steps

section Runs

variable {p a} {app : α} {frames : List Bytes}

/-- INTERNAL: the ledger before and behind each frame. -/
theorem executedLedger_run (hsync : a.Synchronous)
    (hknown : ∀ s ∈ serveAll p a frames (newWorld app), Recognises p a s) {i : ℕ} {s : Served α}
    (h : (serveAll p a frames (newWorld app))[i]? = some s) :
    ExecutedLedger p ((serveAll p a frames (newWorld app)).take i) s.before ∧
      ExecutedLedger p ((serveAll p a frames (newWorld app)).take (i + 1)) s.after := by
  have hnew : ExecutedLedger p [] (newWorld app) := by
    intro tid
    refine ⟨by rintro ⟨⟩, ?_⟩
    rintro ⟨s, hmem, -⟩
    cases hmem
  exact Run.trace_invariant (I := ExecutedLedger p) (P := Recognises p a)
    (fun done w frame hI hP => executedLedger_step hsync done w frame hI hP) hnew hknown h

/-- What is outstanding was executed. -/
theorem Outstanding.executed {run : List (Served α)} {tid : PyStr} (h : Outstanding p run tid) :
    ∃ s ∈ run, Executes p s tid := by
  obtain ⟨before, s, after, rfl, hexec, -⟩ := h
  exact ⟨s, List.mem_append_right _ List.mem_cons_self, hexec⟩

/-- INTERNAL: if no confirm named an outstanding TID, what was executed is outstanding. -/
theorem outstanding_of_executed {run : List (Served α)} {tid : PyStr} :
    (∀ (i : ℕ) (s : Served α), run[i]? = some s → confirmedTid? p s.input = some tid →
      ¬ Outstanding p (run.take i) tid) →
    (∃ s ∈ run, Executes p s tid) → Outstanding p run tid := by
  -- along the run: a frame behind the execution is no confirm, by the first part
  induction run using List.reverseRecOn with
  | nil =>
    rintro - ⟨s, hmem, -⟩
    cases hmem
  | append_singleton run last ih =>
    intro hnone hexec
    have hbefore : ∀ (i : ℕ) (s : Served α), run[i]? = some s →
        confirmedTid? p s.input = some tid → ¬ Outstanding p (run.take i) tid := by
      intro i s hs hconf
      have hlt : i < run.length := (List.getElem?_eq_some_iff.mp hs).1
      have hat : (run ++ [last])[i]? = some s := by
        rw [List.getElem?_append_left hlt]
        exact hs
      have hno := hnone i s hat hconf
      rw [List.take_append_of_le_length (Nat.le_of_lt hlt)] at hno
      exact hno
    by_cases hlast : Executes p last tid
    · exact ⟨run, last, [], rfl, hlast, fun _ hmem => absurd hmem List.not_mem_nil⟩
    · obtain ⟨s, hmem, hs⟩ := hexec
      have hin : s ∈ run := by
        cases List.mem_append.mp hmem with
        | inl hin => exact hin
        | inr heq =>
          rw [List.mem_singleton.mp heq] at hs
          exact absurd hs hlast
      have hout := ih hbefore ⟨s, hin, hs⟩
      have hlastno : confirmedTid? p last.input ≠ some tid := by
        intro hconf
        have hat : (run ++ [last])[run.length]? = some last := by simp
        have hno := hnone run.length last hat hconf
        rw [List.take_left] at hno
        exact hno hout
      obtain ⟨before, s', after, rfl, hexec', hafter⟩ := hout
      refine ⟨before, s', after ++ [last], by simp, hexec', ?_⟩
      intro s'' hmem''
      cases List.mem_append.mp hmem'' with
      | inl hin' => exact hafter s'' hin'
      | inr heq =>
        rw [List.mem_singleton.mp heq]
        exact hlastno

/-- INTERNAL: a confirm frame ships nothing. -/
theorem no_ship_of_confirm {frame : Bytes} {tid : PyStr}
    (h : confirmedTid? p frame = some tid) : shippedTid? p frame = none := by
  unfold confirmedTid? at h
  unfold shippedTid?
  by_cases hconf : calledName frame = some ARFC_DEST_CONFIRM
  · rw [hconf, if_neg (by decide)]
  · rw [if_neg hconf] at h
    cases h

end Runs

/-- SOURCE: server.py:773-848 and server.py:933-948.  The store holds the executed TIDs up to their
confirm, and the confirm takes them out, exactly when no confirm frame names one. -/
theorem tracks_tids_iff_nothing_confirmed (p : Platform V) (a : App α V) (app : α)
    (frames : List Bytes) (hsync : a.Synchronous)
    (hknown : ∀ s ∈ serveAll p a frames (newWorld app), Recognises p a s) :
    TracksTids p a (serveAll p a frames (newWorld app)) ↔
      NothingConfirmed p (serveAll p a frames (newWorld app)) := by
  have hledger : ∀ {i : ℕ} {s : Served α}, (serveAll p a frames (newWorld app))[i]? = some s →
      ExecutedLedger p ((serveAll p a frames (newWorld app)).take i) s.before ∧
        ExecutedLedger p ((serveAll p a frames (newWorld app)).take (i + 1)) s.after := fun h =>
    executedLedger_run hsync hknown h
  constructor
  · intro htracks i s tid hs hconf hout
    have hheld : s.before.user.tids.store tid = some .executed :=
      ((hledger hs).1 tid).mpr hout.executed
    have hstep : s = serveOnce p a s.input s.before :=
      Run.eq_stepOf_of_mem (List.mem_of_getElem? hs)
    have hsame : s.after.user.tids = s.before.user.tids := by
      rw [hstep]
      exact same_tids_of_no_ship (no_ship_of_confirm hconf) s.before
    have hgone := (htracks.confirms i s tid hs hconf hout).1
    rw [hsame, hheld] at hgone
    cases hgone
  · intro hnone
    constructor
    · intro i s tid hs
      rw [(hledger hs).2 tid]
      refine ⟨outstanding_of_executed ?_, Outstanding.executed⟩
      intro j s' hs' hconf
      have hlt : j < i + 1 := by
        have hlen := (List.getElem?_eq_some_iff.mp hs').1
        rw [List.length_take] at hlen
        omega
      rw [List.getElem?_take_of_lt hlt] at hs'
      rw [List.take_take, Nat.min_eq_left (Nat.le_of_lt hlt)]
      exact hnone j s' tid hs' hconf
    · intro i s tid hs hconf hout
      exact absurd hout (hnone i s tid hs hconf)

/-- A frame and its resend. -/
theorem plainApp_tracks_tids :
    TracksTids plainPlatform plainApp (serveAll plainPlatform plainApp [shippedFrame, shippedFrame]
      (newWorld ())) := by
  refine (tracks_tids_iff_nothing_confirmed plainPlatform plainApp () _ plainApp_synchronous
    fun s _ => recognises_of_store rfl s).mpr ?_
  have hname : confirmedTid? plainPlatform shippedFrame = none := by decide +kernel
  rintro (_ | _ | i) s tid hs hconf
  · obtain rfl := Option.some.inj hs
    cases hname.symm.trans hconf
  · obtain rfl := Option.some.inj hs
    cases hname.symm.trans hconf
  · cases hs

/-- The confirm of what `shippedFrame` shipped. -/
def confirmTidFrame : Bytes :=
  callFrame "ARFC_DEST_CONFIRM" [("ARFCTID", "0A0B0C0D0E0F101112131415")]

/-- The confirm frame is answered RFC_OK, and the TID stays in the store. -/
theorem confirm_frame_leaves_tid_executed :
    (serveAll plainPlatform plainApp [shippedFrame, confirmTidFrame] (newWorld ())).map
        (fun s => s.after.user.tids.store (lit "0A0B0C0D0E0F101112131415")) =
      [some .executed, some .executed] ∧
    (serveAll plainPlatform plainApp [shippedFrame, confirmTidFrame] (newWorld ())).map
        (fun s => s.output.toOption) = [some build_rfc_ok_response, some build_rfc_ok_response] ∧
    ¬ TracksTids plainPlatform plainApp (serveAll plainPlatform plainApp
      [shippedFrame, confirmTidFrame] (newWorld ())) := by
  have hstores : (serveAll plainPlatform plainApp [shippedFrame, confirmTidFrame] (newWorld ())).map
      (fun s => s.after.user.tids.store (lit "0A0B0C0D0E0F101112131415")) =
        [some .executed, some .executed] := by decide +kernel
  refine ⟨hstores, by decide +kernel, fun htracks => ?_⟩
  have hshipped : shippedTid? plainPlatform shippedFrame =
      some (lit "0A0B0C0D0E0F101112131415") := by decide +kernel
  have hconfirmed : confirmedTid? plainPlatform confirmTidFrame =
      some (lit "0A0B0C0D0E0F101112131415") := by decide +kernel
  have hran :
      newlyCompleted (serveOnce plainPlatform plainApp shippedFrame (newWorld ())) ≠ [] := by
    decide +kernel
  have hgone := (htracks.confirms 1 _ (lit "0A0B0C0D0E0F101112131415") rfl hconfirmed
    ⟨[], _, [], rfl, ⟨hshipped, hran⟩,
      fun _ hmem => absurd hmem List.not_mem_nil⟩).1
  have hlast := congrArg (fun l => l[1]?) hstores
  cases (Option.some.inj hlast).symm.trans hgone

end SapRfc.Analysis.Lifecycle
