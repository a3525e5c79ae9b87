import SapRfc.Analysis.Shipping

/-!
# The asynchronous server and shipped calls

The asynchronous server awaits an `async def` handler on the ordinary branch only.  A
ship goes through the synchronous dispatch, where the call of such a handler makes a
coroutine and goes through at once.  `async_dispatch_executes_first_iff` says exactly
when a dispatch has run what it shipped before it touches a store or answers RFC_OK.
-/

set_option autoImplicit false

namespace SapRfc.Analysis.AsyncDispatch

open SapRfc.Library SapRfc.Program SapRfc.Analysis.Shipping

variable {χ V : Type} {p : Platform V} {srv : RfcServer χ V}

/-! ## The property -/

/-- The store marks a TID executed or confirms a unit. -/
def IsCommit (e : ServerEvent) : Prop :=
  (∃ tid, e = .marked_executed tid) ∨ ∃ unit_id unit_type, e = .confirmed unit_id unit_type

/-- Is the event the choice of an entry? -/
def isSelected : ServerEvent → Bool
  | .selected _ => true
  | _ => false

/-- The log shows `n` calls with an entry, and for every handler as many bodies that
ran to their end as calls that chose it. -/
def AllRan (n : ℕ) (events : List ServerEvent) : Prop :=
  events.countP isSelected = n ∧
    ∀ id, events.count (.selected id) ≤ events.count (.completed id)

/-- Every commit comes after all `n` shipped calls ran, and so does an RFC_OK that
answers a ship. -/
def ExecutesFirst (n : ℕ) (ship : Prop) (r : Except PyError Bytes)
    (events : List ServerEvent) : Prop :=
  (∀ before e after, events = before ++ e :: after → IsCommit e → AllRan n before) ∧
    (ship → r = .ok build_rfc_ok_response → AllRan n events)

/-- The number of calls that a frame with this name ships. -/
def shipped_calls (p : Platform V) (tlv : Bytes) (fname : PyStr) : ℕ :=
  if fname = ARFC_DEST_SHIP then 1
  else if fname = BGRFC_DEST_SHIP then
    match extract_param_from_frame p tlv (lit "BGRFC_CALL_COUNT") with
    | .ok count_str =>
      match parse_call_count p count_str with
      | .ok n => n
      | .error _ => 0
    | .error _ => 0
  else 0

/-- The name is that of a ship. -/
def IsShip (fname : PyStr) : Prop := fname = ARFC_DEST_SHIP ∨ fname = BGRFC_DEST_SHIP

/-- What the dispatch of a frame does comes in the right order. -/
def DispatchExecutesFirst (p : Platform V) (srv : RfcServer χ V) (frame : Bytes) (g : χ) : Prop :=
  ∀ fname, read_func_name (strip_gw_header frame) = .ok fname →
    ExecutesFirst (shipped_calls p (strip_gw_header frame) fname) (IsShip fname)
      (Eff.run (async_dispatch p srv frame) ⟨g, []⟩).1
      (Eff.run (async_dispatch p srv frame) ⟨g, []⟩).2.events

/-- The frame ships calls that all go through, and one of their handlers is an
`async def`. -/
def ShipsCoroutine (p : Platform V) (srv : RfcServer χ V) (frame : Bytes) (g : χ) : Prop :=
  (read_func_name (strip_gw_header frame) = .ok ARFC_DEST_SHIP ∧
      ∃ tid entry request g',
        TrfcReaches p srv (strip_gw_header frame) g tid entry request g' ∧
          entry.2.coroutine = true) ∨
    (read_func_name (strip_gw_header frame) = .ok BGRFC_DEST_SHIP ∧
      ∃ unit_id unit_type n g' hs g'',
        UnitOpens p srv (strip_gw_header frame) g unit_id unit_type n g' ∧
          CallsPass p srv (strip_gw_header frame) 0 n g' hs g'' ∧
          CommitReturns srv unit_id unit_type g'' ∧ ∃ h ∈ hs, h.coroutine = true)

/-! ## The log of calls that went through -/

theorem countP_isSelected_shipTrace (h : Handler χ V) :
    (shipTrace h).countP isSelected = 1 := by
  unfold shipTrace callTrace
  split <;> rfl

theorem countP_isSelected_flatMap (hs : List (Handler χ V)) :
    (hs.flatMap shipTrace).countP isSelected = hs.length := by
  induction hs with
  | nil => rfl
  | cons h hs ih =>
    rw [List.flatMap_cons, List.countP_append, countP_isSelected_shipTrace, ih, List.length_cons,
      Nat.add_comm]

/-- INTERNAL: one call that went through; an `async def` is chosen and not completed. -/
theorem count_shipTrace (h : Handler χ V) (id : ℕ) :
    (shipTrace h).count (.selected id) =
      (shipTrace h).count (.completed id) + if h.coroutine ∧ h.id = id then 1 else 0 := by
  unfold shipTrace callTrace
  cases hco : h.coroutine <;> by_cases hid : h.id = id <;> simp [hid]

/-- The calls that were chosen and not completed are those of `async def` handlers. -/
theorem count_flatMap_shipTrace (hs : List (Handler χ V)) (id : ℕ) :
    (hs.flatMap shipTrace).count (.selected id) =
      (hs.flatMap shipTrace).count (.completed id) +
        hs.countP fun h => decide (h.coroutine ∧ h.id = id) := by
  induction hs with
  | nil => rfl
  | cons h hs ih =>
    rw [List.flatMap_cons, List.count_append, List.count_append, List.countP_cons, ih,
      count_shipTrace]
    simp only [decide_eq_true_eq]
    omega

/-- All bodies ran exactly when none of the handlers is an `async def`. -/
theorem allRan_flatMap_iff (hs : List (Handler χ V)) :
    AllRan hs.length (hs.flatMap shipTrace) ↔ ¬ ∃ h ∈ hs, h.coroutine = true := by
  unfold AllRan
  rw [countP_isSelected_flatMap]
  constructor
  · rintro ⟨-, hcount⟩ ⟨h, hmem, hco⟩
    have hpos : 0 < hs.countP fun k => decide (k.coroutine ∧ k.id = h.id) :=
      List.countP_pos_iff.mpr ⟨h, hmem, by simp [hco]⟩
    have hle := hcount h.id
    rw [count_flatMap_shipTrace] at hle
    omega
  · intro hnone
    refine ⟨rfl, fun id => ?_⟩
    have hzero : (hs.countP fun k => decide (k.coroutine ∧ k.id = id)) = 0 := by
      refine List.countP_eq_zero.mpr fun h hmem => ?_
      simp only [decide_eq_true_eq]
      exact fun hh => hnone ⟨h, hmem, hh.1⟩
    rw [count_flatMap_shipTrace, hzero]
    omega

theorem not_isCommit_of_mem_flatMap {hs : List (Handler χ V)} {e : ServerEvent}
    (h : e ∈ hs.flatMap shipTrace) : ¬ IsCommit e := by
  obtain ⟨k, -, hmem⟩ := List.mem_flatMap.mp h
  unfold shipTrace callTrace at hmem
  rintro (⟨tid, rfl⟩ | ⟨unit_id, unit_type, rfl⟩)
  · split at hmem <;> simp at hmem
  · split at hmem <;> simp at hmem

/-! ## Logs in order -/

theorem not_isCommit_of_ofHandler {e : ServerEvent} (h : OfHandler e) : ¬ IsCommit e := by
  obtain ⟨id, rfl | rfl | rfl | rfl⟩ := h
  all_goals
    rintro (⟨tid, hcommit⟩ | ⟨unit_id, unit_type, hcommit⟩)
    · cases hcommit
    · cases hcommit

/-- A run that commits nothing and does not answer RFC_OK is in order. -/
theorem executesFirst_of_no_commit {n : ℕ} {ship : Prop} {r : Except PyError Bytes}
    {events : List ServerEvent} (h : ∀ e ∈ events, ¬ IsCommit e)
    (hr : ship → r ≠ .ok build_rfc_ok_response) : ExecutesFirst n ship r events := by
  refine ⟨fun before e after hsplit hcommit => ?_, fun hship hok => absurd hok (hr hship)⟩
  exact absurd hcommit (h e (by rw [hsplit]; simp))

theorem executesFirst_of_declines {n : ℕ} {ship : Prop} {P : ServerEvent → Prop} {g : χ}
    {x : Eff PyError (ServerWorld χ) Bytes} (h : Declines P x ⟨g, []⟩)
    (hP : ∀ e, P e → ¬ IsCommit e) :
    ExecutesFirst n ship (Eff.run x ⟨g, []⟩).1 (Eff.run x ⟨g, []⟩).2.events := by
  obtain ⟨⟨d, hd, hall⟩, hr⟩ := h
  refine executesFirst_of_no_commit (fun e he => hP e (hall e ?_)) fun _ => hr
  rwa [hd, List.nil_append] at he

/-- The last element is the only one with the property. -/
theorem eq_of_append_last {α : Type} {C : α → Prop} {t before after : List α} {last e : α}
    (ht : ∀ x ∈ t, ¬ C x) (hsplit : t ++ [last] = before ++ e :: after) (he : C e) :
    before = t := by
  rcases List.eq_nil_or_concat after with rfl | ⟨after, x, rfl⟩
  · exact (List.append_inj_left' hsplit rfl).symm
  · rw [List.concat_eq_append, ← List.cons_append, ← List.append_assoc] at hsplit
    refine absurd he (ht e ?_)
    rw [List.append_inj_left' hsplit rfl]
    simp

/-- A log of calls that went through with a commit behind them is in order exactly when
none of the handlers is an `async def`. -/
theorem executesFirst_commit_iff (hs : List (Handler χ V)) (ship : Prop)
    (r : Except PyError Bytes) {commit : ServerEvent} (hcommit : IsCommit commit) :
    ExecutesFirst hs.length ship r (hs.flatMap shipTrace ++ [commit]) ↔
      ¬ ∃ h ∈ hs, h.coroutine = true := by
  rw [← allRan_flatMap_iff]
  constructor
  · intro h
    exact h.1 _ commit [] rfl hcommit
  · intro hran
    refine ⟨fun before e after hsplit he => ?_, fun _ _ => ?_⟩
    · rw [eq_of_append_last (fun x hx => not_isCommit_of_mem_flatMap hx) hsplit he]
      exact hran
    · obtain ⟨hn, hcount⟩ := hran
      have hplain : isSelected commit = false ∧ ∀ id, commit ≠ .selected id := by
        rcases hcommit with ⟨tid, rfl⟩ | ⟨unit_id, unit_type, rfl⟩
        · exact ⟨rfl, nofun⟩
        · exact ⟨rfl, nofun⟩
      refine ⟨?_, fun id => ?_⟩
      · simp only [List.countP_append, hn, List.countP_singleton, hplain.1]
        rfl
      · have hnone : [commit].count (.selected id) = 0 :=
          List.count_eq_zero.mpr (by simpa using (hplain.2 id).symm)
        have hle := hcount id
        rw [List.count_append, List.count_append, hnone]
        omega

/-! ## The branches -/

/-- An `async def` handler always goes through. -/
theorem not_coroutine_of_not_passes {h : Handler χ V} {request : Values V} {g : χ}
    (hpass : ¬ ∃ g', Passes h request g g') : ¬ h.coroutine = true := by
  intro hco
  refine hpass ⟨g, ?_⟩
  unfold Passes
  rw [if_pos hco]

/-- INTERNAL: a tRFC ship that reaches its handler. -/
theorem executesFirst_of_reaches {tlv : Bytes} {g g' : χ} {tid : PyStr} {entry : Entry χ V}
    {request : Values V} (hreach : TrfcReaches p srv tlv g tid entry request g') (ship : Prop) :
    ExecutesFirst 1 ship (Eff.run (dispatch_transactional p srv tlv) ⟨g, []⟩).1
        (Eff.run (dispatch_transactional p srv tlv) ⟨g, []⟩).2.events ↔
      ¬ entry.2.coroutine = true := by
  rw [run_dispatch_transactional_of_reaches hreach]
  by_cases hpass : ∃ g'', Passes entry.2 request g' g''
  · obtain ⟨g'', hpass⟩ := hpass
    have htrace : [] ++ [.selected entry.2.id] ++ callTrace entry.2 =
        [entry.2].flatMap shipTrace := by
      simp [shipTrace]
    rw [run_run_shipped_of_passes hpass, htrace]
    have hiff := executesFirst_commit_iff [entry.2] ship
      (Eff.run (run_shipped srv tid entry.2 request) ⟨g', [] ++ [.selected entry.2.id]⟩).1
      (.inl ⟨tid, rfl⟩ : IsCommit (.marked_executed tid))
    simpa using hiff
  · refine iff_of_true ?_ (not_coroutine_of_not_passes hpass)
    obtain ⟨hevents, hr⟩ := run_run_shipped_of_not_passes srv tid hpass
      ([] ++ [.selected entry.2.id])
    rw [hevents]
    refine executesFirst_of_no_commit (fun e he => not_isCommit_of_ofHandler ?_) fun _ => hr
    simp only [List.nil_append, List.cons_append, List.mem_cons, List.not_mem_nil, or_false] at he
    rcases he with rfl | rfl | rfl
    · exact ⟨_, .inl rfl⟩
    · exact ⟨_, .inr (.inl rfl)⟩
    · exact ⟨_, .inr (.inr (.inr rfl))⟩

/-- The tRFC branch. -/
theorem dispatch_transactional_executesFirst_iff (tlv : Bytes) (g : χ) (ship : Prop) :
    ExecutesFirst 1 ship (Eff.run (dispatch_transactional p srv tlv) ⟨g, []⟩).1
        (Eff.run (dispatch_transactional p srv tlv) ⟨g, []⟩).2.events ↔
      ¬ ∃ tid entry request g', TrfcReaches p srv tlv g tid entry request g' ∧
        entry.2.coroutine = true := by
  constructor
  · rintro horder ⟨tid, entry, request, g', hreach, hco⟩
    exact (executesFirst_of_reaches hreach ship).mp horder hco
  · intro hnone
    by_cases hreach : ∃ tid entry request g', TrfcReaches p srv tlv g tid entry request g'
    · obtain ⟨tid, entry, request, g', hreach⟩ := hreach
      exact (executesFirst_of_reaches hreach ship).mpr fun hco =>
        hnone ⟨tid, entry, request, g', hreach, hco⟩
    · refine executesFirst_of_declines (declines_dispatch_transactional hreach []) ?_
      rintro e ⟨id, rfl⟩
      exact not_isCommit_of_ofHandler ⟨id, .inl rfl⟩

/-- INTERNAL: a unit whose calls all go through. -/
theorem executesFirst_of_pass {tlv : Bytes} {g g' g'' : χ} {unit_id unit_type : PyStr} {n : ℕ}
    {hs : List (Handler χ V)} (hopen : UnitOpens p srv tlv g unit_id unit_type n g')
    (hpass : CallsPass p srv tlv 0 n g' hs g'') (ship : Prop) :
    ExecutesFirst n ship (Eff.run (dispatch_bgrfc_unit p srv tlv) ⟨g, []⟩).1
        (Eff.run (dispatch_bgrfc_unit p srv tlv) ⟨g, []⟩).2.events ↔
      ¬ (CommitReturns srv unit_id unit_type g'' ∧ ∃ h ∈ hs, h.coroutine = true) := by
  rw [run_dispatch_bgrfc_unit_of_opens hopen, Eff.run_bind_ok (run_run_calls_of_pass hpass []),
    List.nil_append]
  by_cases hcommit : CommitReturns srv unit_id unit_type g''
  · rw [run_finish_unit_of_commit hcommit, ← hpass.length_eq,
      executesFirst_commit_iff _ _ _ (.inr ⟨unit_id, unit_type, rfl⟩)]
    simp only [hcommit, true_and]
  · refine iff_of_true ?_ (fun h => hcommit h.1)
    obtain ⟨hadds, hr⟩ := declines_finish_unit_of_not_commit hcommit (hs.flatMap shipTrace)
    rw [hadds.events_eq]
    exact executesFirst_of_no_commit (fun e he => not_isCommit_of_mem_flatMap he) fun _ => hr

/-- INTERNAL: a unit of which a call does not go through. -/
theorem executesFirst_of_not_pass {tlv : Bytes} {g g' : χ} {unit_id unit_type : PyStr} {n : ℕ}
    (hopen : UnitOpens p srv tlv g unit_id unit_type n g')
    (hpass : ¬ ∃ hs g'', CallsPass p srv tlv 0 n g' hs g'') (ship : Prop) :
    ExecutesFirst n ship (Eff.run (dispatch_bgrfc_unit p srv tlv) ⟨g, []⟩).1
      (Eff.run (dispatch_bgrfc_unit p srv tlv) ⟨g, []⟩).2.events := by
  have hdecl : Declines OfHandler (dispatch_bgrfc_unit p srv tlv) ⟨g, []⟩ := by
    unfold Declines Eff.Sat
    rw [run_dispatch_bgrfc_unit_of_opens hopen, Eff.run_bind]
    have hadds := keeps_run_calls p srv tlv n 0 n ⟨g', []⟩
    have hne := run_run_calls_of_not_pass (n := n) hpass []
    rcases hrun : Eff.run (run_calls p srv tlv n 0 n) ⟨g', []⟩ with ⟨e | _ | message, w⟩
    · rw [hrun] at hadds
      exact ⟨hadds, nofun⟩
    · exact absurd (by rw [hrun]) hne
    · rw [hrun] at hadds
      have hfinish := declines_finish_unit_error srv unit_id unit_type message w
      exact ⟨Adds.trans _ _ _ hadds (hfinish.1.mono fun _ => False.elim), hfinish.2⟩
  exact executesFirst_of_declines hdecl fun e => not_isCommit_of_ofHandler

/-- INTERNAL: the number of calls that a unit opens with is the number it ships. -/
theorem shipped_calls_of_opens {tlv : Bytes} {g g' : χ} {unit_id unit_type : PyStr} {n : ℕ}
    (hopen : UnitOpens p srv tlv g unit_id unit_type n g') :
    shipped_calls p tlv BGRFC_DEST_SHIP = n := by
  have hne : BGRFC_DEST_SHIP ≠ ARFC_DEST_SHIP := by decide
  cases hopen with
  | intro id_read valid type_read fresh persisted count_read counted =>
    unfold shipped_calls
    rw [if_neg hne, if_pos rfl]
    simp only [count_read, counted]

/-- The bgRFC branch. -/
theorem dispatch_bgrfc_unit_executesFirst_iff (tlv : Bytes) (g : χ) (ship : Prop) :
    ExecutesFirst (shipped_calls p tlv BGRFC_DEST_SHIP) ship
        (Eff.run (dispatch_bgrfc_unit p srv tlv) ⟨g, []⟩).1
        (Eff.run (dispatch_bgrfc_unit p srv tlv) ⟨g, []⟩).2.events ↔
      ¬ ∃ unit_id unit_type n g' hs g'', UnitOpens p srv tlv g unit_id unit_type n g' ∧
        CallsPass p srv tlv 0 n g' hs g'' ∧ CommitReturns srv unit_id unit_type g'' ∧
          ∃ h ∈ hs, h.coroutine = true := by
  constructor
  · rintro horder ⟨unit_id, unit_type, n, g', hs, g'', hopen, hpass, hcommit, hco⟩
    rw [shipped_calls_of_opens hopen] at horder
    exact (executesFirst_of_pass hopen hpass ship).mp horder ⟨hcommit, hco⟩
  · intro hnone
    by_cases hopen : ∃ unit_id unit_type n g', UnitOpens p srv tlv g unit_id unit_type n g'
    · obtain ⟨unit_id, unit_type, n, g', hopen⟩ := hopen
      rw [shipped_calls_of_opens hopen]
      by_cases hpass : ∃ hs g'', CallsPass p srv tlv 0 n g' hs g''
      · obtain ⟨hs, g'', hpass⟩ := hpass
        exact (executesFirst_of_pass hopen hpass ship).mpr fun h =>
          hnone ⟨unit_id, unit_type, n, g', hs, g'', hopen, hpass, h⟩
      · exact executesFirst_of_not_pass hopen hpass ship
    · exact executesFirst_of_declines (declines_dispatch_bgrfc_unit hopen []) fun _ => False.elim

/-- The ordinary branch touches no store. -/
theorem keeps_async_dispatch_call (tlv : Bytes) (fname : PyStr) :
    Eff.Keeps (Adds OfHandler) (async_dispatch_call p srv tlv fname) := by
  refine keeps_bind (keeps_ext _) fun entry => ?_
  cases entry with
  | none => exact keeps_lift _
  | some entry =>
    refine keeps_bind (keeps_note ⟨_, .inl rfl⟩) fun _ => keeps_bind (keeps_ext _) fun allowed => ?_
    refine Eff.Keeps.ite _ (keeps_lift _) (keeps_bind (keeps_lift _) fun request => ?_)
    refine keeps_bind (keeps_attempt ?_) ?_
    · refine keeps_bind (keeps_note ⟨_, .inr (.inl rfl)⟩) fun _ => ?_
      exact keeps_run_body _ _ ⟨_, .inr (.inr (.inr rfl))⟩ ⟨_, .inr (.inr (.inl rfl))⟩
    · rintro (e | values)
      · exact keeps_lift _
      · exact keeps_lift _

/-- The confirm branch runs no handler, and none is shipped with it. -/
theorem dispatch_bgrfc_confirm_executesFirst (tlv : Bytes) (g : χ) :
    ExecutesFirst 0 False (Eff.run (dispatch_bgrfc_confirm p srv tlv) ⟨g, []⟩).1
      (Eff.run (dispatch_bgrfc_confirm p srv tlv) ⟨g, []⟩).2.events := by
  obtain ⟨d, hd, hcommit⟩ := keeps_dispatch_bgrfc_confirm p srv (P := IsCommit)
    (fun _ _ => .inr ⟨_, _, rfl⟩) tlv ⟨g, []⟩
  refine ⟨fun before e after hsplit _ => ?_, fun h => h.elim⟩
  rw [hd, List.nil_append] at hsplit
  subst hsplit
  have hplain : ∀ x ∈ before, IsCommit x := fun x hx => hcommit x (by simp [hx])
  refine ⟨List.countP_eq_zero.mpr fun x hx => ?_, fun id => ?_⟩
  · rcases hplain x hx with ⟨tid, rfl⟩ | ⟨unit_id, unit_type, rfl⟩
    · exact Bool.false_ne_true
    · exact Bool.false_ne_true
  · rw [List.count_eq_zero.mpr]
    · exact Nat.zero_le _
    · intro hx
      rcases hplain _ hx with ⟨tid, h⟩ | ⟨unit_id, unit_type, h⟩
      · cases h
      · cases h

/-! ## The dispatcher -/

theorem run_async_dispatch {frame : Bytes} {fname : PyStr}
    (h : read_func_name (strip_gw_header frame) = .ok fname) (w : ServerWorld χ) :
    Eff.run (async_dispatch p srv frame) w =
      if fname ∈ systemNames then
        Eff.run (dispatch_named p srv (strip_gw_header frame) fname) w
      else Eff.run (async_dispatch_call p srv (strip_gw_header frame) fname) w := by
  unfold async_dispatch
  simp only [h]
  rw [Eff.run_bind_ok (Eff.run_lift _ _), Eff.run_ite, run_dispatch_inbound_ok h]

/-- A dispatch runs what it shipped before it touches a store or answers RFC_OK exactly
when it does not ship an `async def` handler in calls that go through. -/
theorem async_dispatch_executes_first_iff (p : Platform V) (srv : RfcServer χ V)
    (frame : Bytes) (g : χ) :
    DispatchExecutesFirst p srv frame g ↔ ¬ ShipsCoroutine p srv frame g := by
  unfold DispatchExecutesFirst ShipsCoroutine
  cases hname : read_func_name (strip_gw_header frame) with
  | error e => simp
  | ok fname =>
    simp only [Except.ok.injEq, forall_eq']
    rw [run_async_dispatch hname]
    by_cases htrfc : fname = ARFC_DEST_SHIP
    · subst htrfc
      have hne : ARFC_DEST_SHIP ≠ BGRFC_DEST_SHIP := by decide
      have hship : shipped_calls p (strip_gw_header frame) ARFC_DEST_SHIP = 1 := rfl
      have hsys : ARFC_DEST_SHIP ∈ systemNames := by decide
      rw [if_pos hsys, hship]
      simp only [dispatch_named, if_true, true_and, hne, false_and, or_false]
      exact dispatch_transactional_executesFirst_iff _ g _
    by_cases hunit : fname = BGRFC_DEST_SHIP
    · subst hunit
      have hne : BGRFC_DEST_SHIP ≠ ARFC_DEST_SHIP := by decide
      have hne' : BGRFC_DEST_SHIP ≠ ARFC_DEST_CONFIRM := by decide
      have hsys : BGRFC_DEST_SHIP ∈ systemNames := by decide
      rw [if_pos hsys]
      simp only [dispatch_named, if_true, if_neg hne', true_and, hne, if_false, false_and, false_or]
      exact dispatch_bgrfc_unit_executesFirst_iff _ g _
    have hship : ¬ IsShip fname := by
      rintro (h | h)
      · exact htrfc h
      · exact hunit h
    have hzero : shipped_calls p (strip_gw_header frame) fname = 0 := by
      unfold shipped_calls
      rw [if_neg htrfc, if_neg hunit]
    rw [hzero]
    simp only [htrfc, hunit, false_and, or_false, not_false_eq_true, iff_true, hship]
    have hplain : ∀ {x : Eff PyError (ServerWorld χ) Bytes} {P : ServerEvent → Prop},
        Eff.Keeps (Adds P) x → (∀ e, P e → ¬ IsCommit e) →
          ExecutesFirst 0 False (Eff.run x ⟨g, []⟩).1 (Eff.run x ⟨g, []⟩).2.events := by
      intro x P hx hP
      obtain ⟨d, hd, hall⟩ := hx ⟨g, []⟩
      rw [hd, List.nil_append]
      exact executesFirst_of_no_commit (fun e he => hP e (hall e he)) False.elim
    split
    · unfold dispatch_named
      simp only [if_neg htrfc, if_neg hunit]
      split
      · exact hplain (P := fun _ => False) (keeps_pure _) fun _ => False.elim
      split
      · exact dispatch_bgrfc_confirm_executesFirst _ g
      split
      · exact hplain (P := fun _ => False) (keeps_dispatch_bgrfc_state_query _) fun _ => False.elim
      · rename_i hsys hconfirm hbconfirm hquery
        simp [systemNames, htrfc, hunit, hconfirm, hbconfirm, hquery] at hsys
    · exact hplain (keeps_async_dispatch_call _ fname) fun e => not_isCommit_of_ofHandler

/-! ## A ship of an `async def` handler -/

/-- A server whose handler `Z_FM` is an `async def`. -/
def asyncServer : RfcServer Tables Bytes :=
  { RfcServer.init tablesTidStore tablesUnitStore with
    registry := [(lit "Z_FM", (none, ⟨7, true, fun _ => pure none⟩))] }

/-- Its ship is marked executed and answered RFC_OK, and the handler's body never ran. -/
theorem async_ship_not_executed_first :
    ¬ DispatchExecutesFirst plainPlatform asyncServer shippedFrame Tables.empty := by
  intro h
  have hname : read_func_name (strip_gw_header shippedFrame) = .ok ARFC_DEST_SHIP := by
    decide +kernel
  have hanswer : (Eff.run (async_dispatch plainPlatform asyncServer shippedFrame)
      ⟨Tables.empty, []⟩).1 = .ok build_rfc_ok_response := by
    decide +kernel
  have hevents : (Eff.run (async_dispatch plainPlatform asyncServer shippedFrame)
      ⟨Tables.empty, []⟩).2.events =
        [.selected 7, .called 7, .marked_executed (lit "0A0B0C0D0E0F101112131415")] := by
    decide +kernel
  have hran := (h _ hname).2 (.inl rfl) hanswer
  rw [hevents] at hran
  exact absurd (hran.2 7) (by decide)

end SapRfc.Analysis.AsyncDispatch
