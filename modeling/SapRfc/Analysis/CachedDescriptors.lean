import SapRfc.Analysis.Bootstrap
import SapRfc.Analysis.Dicts
import SapRfc.Program.SharedCache

/-!
# Descriptors that are filed incomplete

A structure lookup that fails is swallowed: the parameter stays without a layout, and what
called for the descriptor files it all the same.  The types that were not found are left out of
the cache of structures, so that a later lookup may find them, but the descriptor in the cache
of functions keeps that lookup from being made.  Where every structure lookup of a step
succeeds, what the step files is complete, and so is what any later step obtains.
-/

set_option autoImplicit false

namespace SapRfc.Analysis.CachedDescriptors

open SapRfc.Library SapRfc.Program SapRfc.Analysis.Bootstrap

variable {ι ω χ V : Type}

/-! ## Complete descriptors -/

/-- Every lookup that the parameters call for finds its type. -/
def fetches (layout : PyStr → Op ω χ TypeDesc) : List (FieldDesc × PyStr) → Conn ω χ → Bool
  | [], _ => true
  | (_, tabname) :: rest, c =>
    if tabname = [] then fetches layout rest c
    else ((assocGet c.struct_cache tabname).isSome || (Eff.run (layout tabname) c).1.isOk) &&
      fetches layout rest (Eff.run (fetch_layout layout tabname) c).2

/-- A parameter, with its layout where it has a type to look up. -/
def Resolved (param : FieldDesc × PyStr) (fd : FieldDesc) : Prop :=
  fd = { param.1 with type_desc := fd.type_desc } ∧ (param.2 ≠ [] → fd.type_desc.isSome)

/-- The descriptor of an interface, with all its layouts. -/
def CompleteFor (k : Client ω χ V) (func_name : PyStr) (rows : List ParamsRow)
    (desc : FunctionDesc) : Prop :=
  desc.name = k.p.u.upper func_name ∧
    List.Forall₂ Resolved (parse_parameters k rows) desc.parameters

/-- There is no parameter that could want a layout. -/
def Unstructured (desc : FunctionDesc) : Prop :=
  ∀ fd ∈ desc.parameters, fd.rfctype ∉ [RFCTYPE_STRUCTURE, RFCTYPE_TABLE]

instance (desc : FunctionDesc) : Decidable (Unstructured desc) :=
  inferInstanceAs (Decidable (∀ _ ∈ _, _))

/-- INTERNAL: a type that is found is known behind its lookup. -/
theorem fetch_layout_known {layout : PyStr → Op ω χ TypeDesc} {tabname : PyStr} {c c' : Conn ω χ}
    (hrun : Eff.run (fetch_layout layout tabname) c = (.ok (), c'))
    (h : (assocGet c.struct_cache tabname).isSome ∨ (Eff.run (layout tabname) c).1.isOk) :
    (assocGet c'.struct_cache tabname).isSome := by
  unfold fetch_layout at hrun
  rw [Eff.run_bind_ok (Eff.run_state c), Eff.run_ite] at hrun
  by_cases hknown : (assocGet c.struct_cache tabname).isSome
  · rw [if_pos hknown] at hrun
    cases hrun
    exact hknown
  · rw [if_neg hknown] at hrun
    have hok := h.resolve_left hknown
    unfold attempt at hrun
    rw [Eff.run_bind, Eff.run_tryCatch, Eff.run_bind] at hrun
    cases hl : Eff.run (layout tabname) c with
    | mk r c₁ =>
      rw [hl] at hrun hok
      cases r with
      | error e => cases hok
      | ok td =>
        cases hrun
        show (assocGet (assocSet c₁.struct_cache tabname td) tabname).isSome
        rw [Dicts.assocGet_assocSet, if_pos rfl]
        rfl

/-- Where every lookup succeeds, every parameter gets its layout. -/
theorem resolve_layouts_resolved {layout : PyStr → Op ω χ TypeDesc}
    {params : List (FieldDesc × PyStr)} {c c' : Conn ω χ} {fds : List FieldDesc}
    (hrun : Eff.run (resolve_layouts layout params) c = (.ok fds, c'))
    (h : fetches layout params c = true) : List.Forall₂ Resolved params fds := by
  induction params generalizing c c' fds with
  | nil =>
    cases hrun
    exact .nil
  | cons param rest ih =>
    obtain ⟨fd, tabname⟩ := param
    unfold resolve_layouts at hrun
    unfold fetches at h
    by_cases htab : tabname = []
    · subst htab
      simp only [ne_eq, not_true, if_false, if_true] at hrun h
      obtain ⟨c₁, c₂, hstate, hrun⟩ := Eff.run_bind_eq_ok hrun
      cases hstate
      obtain ⟨fds', c₂, hrest, hrun⟩ := Eff.run_bind_eq_ok hrun
      cases hrun
      exact .cons ⟨rfl, fun hne => absurd rfl hne⟩ (ih hrest h)
    · simp only [ne_eq, htab, not_false_eq_true, if_true, if_false] at hrun h
      obtain ⟨⟨⟩, c₁, hfetch, hrun⟩ := Eff.run_bind_eq_ok hrun
      obtain ⟨c₂, c₃, hstate, hrun⟩ := Eff.run_bind_eq_ok hrun
      cases hstate
      obtain ⟨fds', c₃, hrest, hrun⟩ := Eff.run_bind_eq_ok hrun
      cases hrun
      rw [Bool.and_eq_true, Bool.or_eq_true, hfetch] at h
      exact .cons ⟨rfl, fun _ => fetch_layout_known hfetch h.1⟩ (ih hrest h.2)

/-! ## What a program files -/

/-- The descriptor is in the cache. -/
def Holds (cache : Descriptors) (desc : FunctionDesc) : Prop := ∃ key, (key, desc) ∈ cache

theorem holds_of_get {cache : Descriptors} {key : PyStr × PyStr} {desc : FunctionDesc}
    (h : assocGet cache key = some desc) : Holds cache desc := by
  unfold assocGet at h
  obtain ⟨e, he, rfl⟩ := Option.map_eq_some_iff.mp h
  exact ⟨e.1, List.mem_of_find?_eq_some he⟩

theorem holds_assocSet {cache : Descriptors} {key : PyStr × PyStr} {value desc : FunctionDesc}
    (h : Holds (assocSet cache key value) desc) : Holds cache desc ∨ desc = value := by
  obtain ⟨key', h⟩ := h
  unfold assocSet at h
  split at h
  · obtain ⟨e, he, heq⟩ := List.mem_map.mp h
    split at heq
    · cases heq
      exact .inr rfl
    · exact .inl ⟨key', heq ▸ he⟩
  · rcases List.mem_append.mp h with h | h
    · exact .inl ⟨key', h⟩
    · cases List.mem_singleton.mp h
      exact .inr rfl

/-- The cache is as before. -/
def Same (c c' : Conn ω χ) : Prop := c'.cache = c.cache

/-- What is in the cache was there before, or is one of these. -/
def Files (P : FunctionDesc → Prop) (c c' : Conn ω χ) : Prop :=
  ∀ desc, Holds c'.cache desc → Holds c.cache desc ∨ P desc

variable {P : FunctionDesc → Prop}

theorem Same.refl (c : Conn ω χ) : Same c c := rfl

theorem Same.trans (a b c : Conn ω χ) (h : Same a b) (h' : Same b c) : Same a c := Eq.trans h' h

theorem Same.files {c c' : Conn ω χ} (h : Same c c') : Files P c c' :=
  fun _ hd => .inl (h ▸ hd)

theorem Files.trans {a b c : Conn ω χ} (h : Files P a b) (h' : Files P b c) : Files P a c :=
  fun desc hd => (h' desc hd).elim (h desc) .inr

theorem Files.mono {Q : FunctionDesc → Prop} {c c' : Conn ω χ} (h : Files P c c')
    (hPQ : ∀ desc, P desc → Q desc) : Files Q c c' :=
  fun desc hd => (h desc hd).imp_right (hPQ desc)

theorem files_bind {α β : Type} {x : Op ω χ α} {f : α → Op ω χ β} {c : Conn ω χ}
    (hx : Files P c (Eff.run x c).2) (hf : ∀ a, Eff.Keeps (Files P) (f a)) :
    Files P c (Eff.run (x >>= f) c).2 := by
  rw [Eff.run_bind]
  cases hrun : Eff.run x c with
  | mk r c' =>
    rw [hrun] at hx
    cases r with
    | ok a => exact hx.trans (hf a c')
    | error e => exact hx

theorem files_of_same {α : Type} {x : Op ω χ α} (h : Eff.Keeps Same x) : Eff.Keeps (Files P) x :=
  fun c => (h c).files

theorem same_onSession {α : Type} (x : Eff PyError Session α) :
    Eff.Keeps Same (onSession x : Op ω χ α) := fun _ => rfl

theorem same_onWire {α : Type} (x : Eff PyError ω α) :
    Eff.Keeps Same (onWire x : Op ω χ α) := fun _ => rfl

theorem same_bootstraps (k : Client ω χ V) : Bootstraps k (Same (ω := ω) (χ := χ)) where
  refl := Same.refl
  trans := Same.trans
  quiet _ _ _ _ _ h := h
  trip purpose reader request _ c := by
    rw [run_exchange]
    rfl
  logon attrs := same_onSession _
  drain := same_onWire _

theorem same_exchange (k : Client ω χ V) (purpose : Purpose) (reader : Reader) (request : Bytes) :
    Eff.Keeps Same (exchange k purpose reader request) := by
  intro c
  rw [run_exchange]
  rfl

theorem same_fail_closed (k : Client ω χ V) {α : Type} (func_name : PyStr) {body : Op ω χ α}
    (h : Eff.Keeps Same body) : Eff.Keeps Same (fail_closed k func_name body) := by
  intro c
  have hbody := h c
  obtain ⟨a, -, hrun⟩ | ⟨e, -, -, hrun⟩ | ⟨e, reason, -, -, hrun⟩ :=
      run_fail_closed k func_name body c
  · rw [hrun]
    exact hbody
  · rw [hrun]
    exact hbody
  · rw [hrun]
    exact hbody

/-! ## From the cache or from the server -/

section Seek

variable (k : Client ω χ V)

/-- A descriptor is looked for under a key, fetched where it is missing, and filed. -/
def seek (key : Op ω χ (Option PyStr)) (bootstrap : Op ω χ FunctionDesc) (func_name : PyStr) :
    Op ω χ FunctionDesc := do
  let cache_key ← key
  let hit ← cache_hit k cache_key func_name
  match hit with
  | some desc => pure desc
  | none => do
    let desc ← bootstrap
    cache_fill k cache_key desc
    pure desc

/-- The same up to the rows of the interface; none are asked for where the cache answers. -/
def seek_rows (key : Op ω χ (Option PyStr)) (interface : Op ω χ (List ParamsRow))
    (func_name : PyStr) : Op ω χ (Option (List ParamsRow)) := do
  let cache_key ← key
  let hit ← cache_hit k cache_key func_name
  match hit with
  | some _ => pure none
  | none => do
    let rows ← interface
    pure (some rows)

/-- Behind the rows, every structure lookup succeeds. -/
def lookups_succeed (layout : PyStr → Op ω χ TypeDesc) (rows : Op ω χ (Option (List ParamsRow)))
    (c : Conn ω χ) : Bool :=
  match Eff.run rows c with
  | (.ok (some rows), c') => fetches layout (parse_parameters k rows) c'
  | _ => true

/-- The descriptor is the complete one of the interface that is asked for here. -/
def Described (rows : Op ω χ (Option (List ParamsRow))) (func_name : PyStr) (c : Conn ω χ)
    (desc : FunctionDesc) : Prop :=
  ∃ interface c', Eff.run rows c = (.ok (some interface), c') ∧
    CompleteFor k func_name interface desc

/-- A bootstrap returns what the rows of an interface describe. -/
structure Describes (interface : Op ω χ (List ParamsRow)) (layout : PyStr → Op ω χ TypeDesc)
    (func_name : PyStr) (bootstrap : Op ω χ FunctionDesc) : Prop where
  same : Eff.Keeps Same bootstrap
  rows : ∀ c desc c', Eff.run bootstrap c = (.ok desc, c') → ∃ rows c₁,
    Eff.run interface c = (.ok rows, c₁) ∧
      Eff.run (describe k layout func_name rows) c₁ = (.ok desc, c')

variable {k}

/-- The cache answers with what it holds. -/
theorem run_cache_hit (cache_key : Option PyStr) (func_name : PyStr) (c : Conn ω χ) :
    ∃ hit, Eff.run (cache_hit k cache_key func_name) c = (.ok hit, c) ∧
      ∀ desc, hit = some desc → Holds c.cache desc := by
  cases cache_key with
  | none => exact ⟨none, rfl, nofun⟩
  | some key => exact ⟨_, rfl, fun desc h => holds_of_get h⟩

/-- INTERNAL: one descriptor is filed, or none. -/
theorem run_cache_fill (cache_key : Option PyStr) (desc : FunctionDesc) (c : Conn ω χ) :
    ∃ c', Eff.run (cache_fill k cache_key desc) c = (.ok (), c') ∧
      Files (· = desc) c c' := by
  cases cache_key with
  | none => exact ⟨c, rfl, fun _ h => .inl h⟩
  | some key => exact ⟨_, rfl, fun _ h => holds_assocSet h⟩

theorem Describes.wrap {interface : Op ω χ (List ParamsRow)} {layout : PyStr → Op ω χ TypeDesc}
    {func_name : PyStr} {bootstrap : Op ω χ FunctionDesc}
    (h : Describes k interface layout func_name bootstrap) :
    Describes k interface layout func_name (wrapTransportError bootstrap) where
  same := (same_bootstraps k).wrapTransportError h.same
  rows c desc c' hrun := by
    rw [run_wrapTransportError] at hrun
    cases hb : Eff.run bootstrap c with
    | mk r c₁ =>
      rw [hb] at hrun
      cases r with
      | error e => cases hrun
      | ok desc' =>
        cases hrun
        exact h.rows c desc c' hb

/-- Where the structure lookups succeed, what is filed and what is returned was in the cache or
is complete. -/
theorem seek_spec {key : Op ω χ (Option PyStr)} {interface : Op ω χ (List ParamsRow)}
    {layout : PyStr → Op ω χ TypeDesc} {func_name : PyStr} {bootstrap : Op ω χ FunctionDesc}
    (hkey : Eff.Keeps Same key) (h : Describes k interface layout func_name bootstrap)
    {c : Conn ω χ}
    (hfetch : lookups_succeed k layout (seek_rows k key interface func_name) c = true) :
    Files (Described k (seek_rows k key interface func_name) func_name c) c
        (Eff.run (seek k key bootstrap func_name) c).2 ∧
      ∀ desc, (Eff.run (seek k key bootstrap func_name) c).1 = .ok desc →
        Holds c.cache desc ∨
          Described k (seek_rows k key interface func_name) func_name c desc := by
  unfold lookups_succeed at hfetch
  unfold seek
  rw [Eff.run_bind]
  have hsame := hkey c
  cases hk : Eff.run key c with
  | mk r c₁ =>
    rw [hk] at hsame
    cases r with
    | error e => exact ⟨hsame.files, nofun⟩
    | ok cache_key =>
      obtain ⟨hit, hhit, hheld⟩ := run_cache_hit (k := k) cache_key func_name c₁
      have hrows : Eff.run (seek_rows k key interface func_name) c =
          Eff.run (match hit with
            | some _ => pure none
            | none => do
              let rows ← interface
              pure (some rows)) c₁ := by
        unfold seek_rows
        rw [Eff.run_bind_ok hk, Eff.run_bind_ok hhit]
      dsimp only
      rw [Eff.run_bind_ok hhit]
      cases hit with
      | some desc =>
        refine ⟨hsame.files, fun desc' hdesc => ?_⟩
        cases hdesc
        have hheld := hheld desc rfl
        rw [hsame] at hheld
        exact .inl hheld
      | none =>
        dsimp only
        rw [Eff.run_bind]
        have hsame₂ := h.same c₁
        cases hb : Eff.run bootstrap c₁ with
        | mk r c₂ =>
          rw [hb] at hsame₂
          cases r with
          | error e => exact ⟨(Same.trans _ _ _ hsame hsame₂).files, nofun⟩
          | ok desc =>
            obtain ⟨rows, c₃, hinterface, hdescribe⟩ := h.rows c₁ desc c₂ hb
            have hrun : Eff.run (seek_rows k key interface func_name) c =
                (.ok (some rows), c₃) := by
              rw [hrows]
              dsimp only
              rw [Eff.run_bind_ok hinterface]
              rfl
            have hdesc : Described k (seek_rows k key interface func_name) func_name c desc := by
              refine ⟨rows, c₃, hrun, ?_⟩
              rw [hrun] at hfetch
              unfold describe at hdescribe
              obtain ⟨fds, c₄, hresolve, hdone⟩ := Eff.run_bind_eq_ok hdescribe
              cases hdone
              exact ⟨rfl, resolve_layouts_resolved hresolve hfetch⟩
            obtain ⟨c₅, hfill, hfiles⟩ := run_cache_fill (k := k) cache_key desc c₂
            dsimp only
            rw [Eff.run_bind_ok hfill]
            refine ⟨(Same.trans _ _ _ hsame hsame₂).files.trans (hfiles.mono ?_), fun d hd => ?_⟩
            · rintro d rfl
              exact hdesc
            · cases hd
              exact .inr hdesc

end Seek

/-! ## The steps -/

section Steps

variable (k : Client ω χ V)

/-- `RFC_GET_FUNCTION_INTERFACE` of the asynchronous connection. -/
def async_interface (func_name : PyStr) : Op ω χ (List ParamsRow) := do
  let mode ← unicode_mode
  let response ← async_round_trip k .interface GET_FUNCTION_INTERFACE (bootstrap_desc mode)
    [(lit "FUNCNAME", k.p.codec.ofStr func_name)]
  Eff.lift (interface_rows k response mode)

/-- `RFC_GET_FUNCTION_INTERFACE` of the synchronous connection, and the logon before it. -/
def sync_interface (func_name : PyStr) : Op ω χ (List ParamsRow) := do
  let mode ← unicode_mode
  let c ← Eff.state
  if c.is_ws ∧ c.session.state = .WS_PENDING then do
    ws_first_logon k
    let response ← pending_interface k func_name mode
    let rows ← Eff.lift (interface_rows k response mode)
    Eff.lift (pending_rows_check response rows)
    pure rows
  else do
    let response ← sync_round_trip k .interface GET_FUNCTION_INTERFACE (bootstrap_desc mode)
      [(lit "FUNCNAME", k.p.codec.ofStr func_name)]
    Eff.lift (interface_rows k response mode)

/-- The key of the wrapper. -/
def wrapper_key : Op ω χ (Option PyStr) := do
  let c ← Eff.state
  pure ((c.session.attributes.map (·.sys_id)).filter (· ≠ []))

/-- What a bootstrap looks up. -/
def layout_of (delegated : Bool) : PyStr → Op ω χ TypeDesc :=
  if delegated then async_call_struct_bootstrap k else call_struct_bootstrap k

/-- `get_function_desc` up to the rows of the interface. -/
def public_rows (delegated : Bool) (func_name : PyStr) : Op ω χ (Option (List ParamsRow)) :=
  if delegated then seek_rows k wrapper_key (async_interface k func_name) func_name
  else seek_rows k (metadata_cache_key k) (sync_interface k func_name) func_name

/-- `call` up to the rows of the interface. -/
def call_rows (delegated : Bool) (func_name : PyStr) : Op ω χ (Option (List ParamsRow)) := do
  let c ← Eff.state
  if ¬ delegated ∧ c.is_ws ∧ c.session.state = .WS_PENDING then
    match assocGet WRFC_BUILTIN_DESCS (k.p.u.upper func_name) with
    | some _ => pure none
    | none => seek_rows k (metadata_cache_key k) (sync_interface k func_name) func_name
  else do
    onSession (require_state k.p.u [.READY])
    onSession (mark_in_call k.p.u)
    if delegated then
      seek_rows k (metadata_cache_key k) (async_interface k func_name) func_name
    else seek_rows k (metadata_cache_key k) (sync_interface k func_name) func_name

variable {k}

/-- INTERNAL: a return behind a sequence is a return of both. -/
theorem run_bind_assoc {α β γ : Type} (x : Op ω χ α) (f : α → Op ω χ β) (g : β → Op ω χ γ)
    (c : Conn ω χ) : Eff.run (x >>= f >>= g) c = Eff.run (x >>= fun a => f a >>= g) c := by
  rw [Eff.run_bind, Eff.run_bind, Eff.run_bind]
  cases Eff.run x c with
  | mk r c' => cases r <;> rfl

theorem describes_async (func_name : PyStr) :
    Describes k (async_interface k func_name) (async_call_struct_bootstrap k) func_name
      (async_call_bootstrap k func_name) where
  same := (same_bootstraps k).async_call_bootstrap func_name
  rows c desc c' hrun := by
    unfold async_call_bootstrap at hrun
    obtain ⟨mode, c₁, hmode, hrun⟩ := Eff.run_bind_eq_ok hrun
    obtain ⟨response, c₂, htrip, hrun⟩ := Eff.run_bind_eq_ok hrun
    obtain ⟨rows, c₃, hrows, hrun⟩ := Eff.run_bind_eq_ok hrun
    refine ⟨rows, c₃, ?_, hrun⟩
    unfold async_interface
    rw [Eff.run_bind_ok hmode, Eff.run_bind_ok htrip, hrows]

theorem describes_sync (func_name : PyStr) :
    Describes k (sync_interface k func_name) (call_struct_bootstrap k) func_name
      (call_bootstrap k func_name) where
  same := (same_bootstraps k).call_bootstrap func_name
  rows c desc c' hrun := by
    unfold call_bootstrap at hrun
    unfold sync_interface
    obtain ⟨mode, c₁, hmode, hrun⟩ := Eff.run_bind_eq_ok hrun
    rw [Eff.run_bind_ok hmode]
    rw [Eff.run_bind_ok (Eff.run_state c₁), Eff.run_ite] at hrun ⊢
    by_cases hpending : c₁.is_ws ∧ c₁.session.state = .WS_PENDING
    · rw [if_pos hpending] at hrun ⊢
      obtain ⟨_, c₂, hlogon, hrun⟩ := Eff.run_bind_eq_ok hrun
      obtain ⟨response, c₃, hreply, hrun⟩ := Eff.run_bind_eq_ok hrun
      obtain ⟨rows, c₄, hrows, hrun⟩ := Eff.run_bind_eq_ok hrun
      obtain ⟨_, c₅, hcheck, hrun⟩ := Eff.run_bind_eq_ok hrun
      refine ⟨rows, c₅, ?_, hrun⟩
      rw [Eff.run_bind_ok hlogon, Eff.run_bind_ok hreply, Eff.run_bind_ok hrows,
        Eff.run_bind_ok hcheck]
      rfl
    · rw [if_neg hpending] at hrun ⊢
      obtain ⟨response, c₂, htrip, hrun⟩ := Eff.run_bind_eq_ok hrun
      obtain ⟨rows, c₃, hrows, hrun⟩ := Eff.run_bind_eq_ok hrun
      refine ⟨rows, c₃, ?_, hrun⟩
      rw [Eff.run_bind_ok htrip, hrows]

theorem get_function_desc_eq (func_name : PyStr) :
    get_function_desc k func_name =
      seek k (metadata_cache_key k) (call_bootstrap k func_name) func_name := rfl

theorem delegated_function_desc_eq (func_name : PyStr) :
    delegated_function_desc k func_name =
      seek k wrapper_key (async_call_bootstrap k func_name) func_name := by
  funext c
  unfold delegated_function_desc seek wrapper_key
  show Eff.run (_ >>= _) c = Eff.run (_ >>= _) c
  rw [run_bind_assoc]
  rfl

theorem public_function_desc_spec (delegated : Bool) (func_name : PyStr) {c : Conn ω χ}
    (hfetch : lookups_succeed k (layout_of k delegated) (public_rows k delegated func_name) c
      = true) :
    Files (Described k (public_rows k delegated func_name) func_name c) c
        (Eff.run (public_function_desc k delegated func_name) c).2 ∧
      ∀ desc, (Eff.run (public_function_desc k delegated func_name) c).1 = .ok desc →
        Holds c.cache desc ∨ Described k (public_rows k delegated func_name) func_name c desc := by
  unfold public_function_desc
  unfold public_rows layout_of at *
  cases delegated with
  | true =>
    simp only [if_true] at hfetch ⊢
    rw [delegated_function_desc_eq]
    have hkey : Eff.Keeps Same (wrapper_key : Op ω χ (Option PyStr)) := fun c => rfl
    exact seek_spec hkey (describes_async func_name) hfetch
  | false =>
    simp only [Bool.false_eq_true, if_false] at hfetch ⊢
    rw [get_function_desc_eq]
    exact seek_spec (same_bootstraps k).metadata_cache_key (describes_sync func_name) hfetch

end Steps

/-! ## The rest of a call -/

section Calls

variable {k : Client ω χ V} {P : FunctionDesc → Prop}

theorem same_guarded_invoke (func_name : PyStr) (request : Bytes) (desc : FunctionDesc)
    (dm_names : List (ℕ × PyStr)) :
    Eff.Keeps Same (guarded_invoke k func_name request desc dm_names) := by
  have h := same_bootstraps k
  refine h.bind (same_fail_closed k _ ?_) fun result => h.pure _
  exact h.bind (same_exchange k _ _ _) fun response => h.lift _

theorem same_async_invoke (func_name : PyStr) (desc : FunctionDesc) (params : Values V) :
    Eff.Keeps Same (async_invoke k func_name desc params) := by
  have h := same_bootstraps k
  refine h.bind (h.lift _) fun request_tlv => h.bind (h.invoke_frame _) fun request => ?_
  exact same_guarded_invoke _ _ _ _

theorem same_invoke_described (func_name : PyStr) (desc : FunctionDesc) (params : Values V) :
    Eff.Keeps Same (invoke_described k func_name desc params) := by
  have h := same_bootstraps k
  refine h.bind h.state fun c => Eff.Keeps.ite _ ?_ ?_
  · exact h.bind (h.lift _) fun frame => same_guarded_invoke _ _ _ _
  · refine h.bind (h.lift _) fun request_tlv => h.bind (h.invoke_frame _) fun request => ?_
    exact same_guarded_invoke _ _ _ _

/-- The connection inside a call. -/
def begun (c : Conn ω χ) : Conn ω χ :=
  { c with session := { c.session with state := .IN_CALL } }

/-- From `READY` a call begins. -/
theorem run_begin {α : Type} (x : Op ω χ α) {c : Conn ω χ} (h : c.session.state = .READY) :
    Eff.run (do
      onSession (require_state k.p.u [.READY])
      onSession (mark_in_call k.p.u)
      x) c = Eff.run x (begun c) := by
  unfold onSession
  rw [Eff.run_bind, Eff.run_zoom, run_require_ready k.p.u h]
  simp only [Eff.run_bind, Eff.run_zoom, run_mark_in_call k.p.u h]
  rfl

/-- The end of a call files nothing. -/
theorem files_restored {α : Type} {x : Op ω χ α} {c : Conn ω χ} (h : Files P c (Eff.run x c).2) :
    Files P c (Eff.run (Eff.andFinally x (onSession restore_ready)) c).2 := by
  rw [Eff.run_andFinally]
  cases hrun : Eff.run x c with
  | mk r c' =>
    rw [hrun] at h
    exact h

/-- Nor do its guards. -/
theorem files_in_call {α : Type} {body : Op ω χ α} {c : Conn ω χ}
    (h : c.session.state = .READY → Files P (begun c) (Eff.run body (begun c)).2) :
    Files P c (Eff.run (in_call k body) c).2 := by
  by_cases hready : c.session.state = .READY
  · rw [run_in_call k body hready]
    exact files_restored (c := begun c) (h hready)
  · obtain ⟨e, he⟩ := run_in_call_refused k body hready
    rw [he]
    exact (Same.refl c).files

theorem files_wrapTransportError {α : Type} {x : Op ω χ α} {c : Conn ω χ}
    (h : Files P c (Eff.run x c).2) : Files P c (Eff.run (wrapTransportError x) c).2 := by
  rw [run_wrapTransportError]
  cases hrun : Eff.run x c with
  | mk r c' =>
    rw [hrun] at h
    cases r with
    | ok a => exact h
    | error e => exact h

/-! ## The connection of a fallback -/

/-- INTERNAL: once a key is made it is the same again. -/
theorem run_metadata_cache_key_again {key : Option PyStr} {c c' c'' : Conn ω χ}
    (h : Eff.run (metadata_cache_key k) c = (.ok key, c'))
    (hattributes : c''.session.attributes = c'.session.attributes)
    (hanon : c''.anon_cache_key = c'.anon_cache_key) :
    Eff.run (metadata_cache_key k) c'' = (.ok key, c'') := by
  unfold metadata_cache_key at h ⊢
  rw [Eff.run_bind_ok (Eff.run_state _)] at h ⊢
  cases hattrs : c.session.attributes with
  | none =>
    rw [hattrs] at h
    cases h
    rw [hattributes, hattrs]
    rfl
  | some attrs =>
    rw [hattrs] at h
    by_cases hsys : attrs.sys_id ≠ []
    · simp only [if_pos hsys] at h
      cases h
      rw [hattributes, hattrs]
      simp only [if_pos hsys]
      rfl
    · simp only [if_neg hsys] at h
      cases hkey : c.anon_cache_key with
      | some anon =>
        rw [hkey] at h
        cases h
        rw [hattributes, hattrs, hanon, hkey]
        simp only [if_neg hsys]
        rfl
      | none =>
        rw [hkey] at h
        cases h
        rw [hattributes, hanon]
        simp only [hattrs, if_neg hsys]
        rfl

/-- A function whose descriptor is there is not looked up, and nothing is filed where there is
no key. -/
theorem established_call_of_known (func_name : PyStr) (params : Values V) {key : Option PyStr}
    {c : Conn ω χ}
    (hkey : ∀ c', c'.session.attributes = c.session.attributes →
      c'.anon_cache_key = c.anon_cache_key →
        Eff.run (metadata_cache_key k) c' = (.ok key, c'))
    (hknown : ∀ sys_id, key = some sys_id →
      (assocGet c.cache (sys_id, k.p.u.upper func_name)).isSome) :
    Files P c (Eff.run (established_call k func_name params) c).2 := by
  refine files_in_call fun _ => files_wrapTransportError ?_
  refine files_bind ?_ fun desc => files_of_same (same_invoke_described _ _ _)
  unfold get_function_desc
  rw [Eff.run_bind_ok (hkey (begun c) rfl rfl)]
  cases key with
  | none =>
    rw [Eff.run_bind_ok (show Eff.run (cache_hit k none func_name) (begun c) =
      (.ok none, begun c) from rfl)]
    refine files_bind ((same_bootstraps k).call_bootstrap _ _).files fun desc => ?_
    exact fun c' => (Same.refl c').files
  | some sys_id =>
    obtain ⟨desc, hdesc⟩ := Option.isSome_iff_exists.mp (hknown sys_id rfl)
    have hhit : Eff.run (cache_hit k (some sys_id) func_name) (begun c) =
        (.ok (some desc), begun c) :=
      congrArg (fun hit => (Except.ok hit, begun c)) hdesc
    rw [Eff.run_bind_ok hhit]
    exact (Same.refl c).files

/-- What a fallback leaves in the cache is the one descriptor it was given. -/
theorem files_fallback {func_name : PyStr} {desc : FunctionDesc} {params : Values V}
    {session : Session} {c c' : Conn ω χ} {result : Values V}
    (hname : k.p.u.upper func_name = k.p.u.upper desc.name)
    (hrun : Eff.run (do
        let classic_key ← metadata_cache_key k
        cache_fill k classic_key desc
        established_call k func_name params) (fallback_conn c session) = (.ok result, c'))
    {d : FunctionDesc} (h : Holds c'.cache d) : d = desc := by
  obtain ⟨key, c₁, hkey, hrun⟩ := Eff.run_bind_eq_ok hrun
  obtain ⟨_, c₂, hfill, hrun⟩ := Eff.run_bind_eq_ok hrun
  have hsame : Same (fallback_conn c session) c₁ := by
    have hsame := (same_bootstraps k).metadata_cache_key (fallback_conn c session)
    rw [hkey] at hsame
    exact hsame
  have hfilled : Files (· = desc) c₁ c₂ ∧ c₂.session = c₁.session ∧
      c₂.anon_cache_key = c₁.anon_cache_key ∧ ∀ sys_id, key = some sys_id →
        (assocGet c₂.cache (sys_id, k.p.u.upper func_name)).isSome := by
    cases key with
    | none =>
      cases hfill
      exact ⟨(Same.refl c₁).files, rfl, rfl, nofun⟩
    | some sys_id =>
      cases hfill
      refine ⟨fun _ => holds_assocSet, rfl, rfl, fun sys_id' heq => ?_⟩
      cases heq
      show (assocGet (assocSet c₁.cache (sys_id, k.p.u.upper desc.name) desc)
        (sys_id, k.p.u.upper func_name)).isSome
      rw [Dicts.assocGet_assocSet, hname, if_pos rfl]
      rfl
  obtain ⟨hfiles, hsession, hanon, hknown⟩ := hfilled
  have hcall := established_call_of_known (k := k) (P := (· = desc)) func_name params (c := c₂)
    (fun c₃ hattributes hanon' => run_metadata_cache_key_again hkey
      (hattributes.trans (congrArg Session.attributes hsession)) (hanon'.trans hanon)) hknown
  rw [hrun] at hcall
  have hempty : ¬ Holds (fallback_conn c session).cache d := fun ⟨key, hmem⟩ => by cases hmem
  exact ((hsame.files.trans (hfiles.trans hcall)) d h).resolve_left hempty

/-- A fallback whose function is built in leaves nothing else. -/
theorem files_ws_classic_fallback {func_name : PyStr} {desc : FunctionDesc} (params : Values V)
    (attrs : ConnectionAttributes) (hname : k.p.u.upper func_name = k.p.u.upper desc.name)
    (hdesc : P desc) : Eff.Keeps (Files P) (ws_classic_fallback k func_name desc params attrs) := by
  have h := same_bootstraps k
  have hrefl : ∀ c : Conn ω χ, Files P c c := fun c => (Same.refl c).files
  have htrans : ∀ a b c : Conn ω χ, Files P a b → Files P b c → Files P a c :=
    fun _ _ _ => Files.trans
  unfold ws_classic_fallback
  refine Eff.Keeps.bind htrans (files_of_same h.require_auth) fun auth => ?_
  refine Eff.Keeps.bind htrans (files_of_same (h.attempt (same_onWire _))) fun _ => ?_
  refine Eff.Keeps.bind htrans (files_of_same (same_onWire _)) fun session c => ?_
  unfold take_over
  rw [Eff.run_mk]
  cases hrun : Eff.run _ (fallback_conn c session) with
  | mk r c' =>
    cases r with
    | error e => exact (Same.refl c).files
    | ok result =>
      intro d hd
      have heq := files_fallback (by exact hname) hrun hd
      exact .inr (heq ▸ hdesc)

/-- INTERNAL: the built-in functions have no structures. -/
theorem unstructured_builtin {func_name : PyStr} {builtin : FunctionDesc}
    (h : assocGet WRFC_BUILTIN_DESCS func_name = some builtin) :
    builtin.name = func_name ∧ Unstructured builtin := by
  unfold WRFC_BUILTIN_DESCS at h
  rw [Dicts.assocGet_cons] at h
  split at h
  next hname =>
    cases h
    exact ⟨hname, by decide⟩
  next => cases h

/-- The first call of a built-in function over a WebSocket files its descriptor at most. -/
theorem files_ws_direct_logon_call {func_name : PyStr} {desc : FunctionDesc} (params : Values V)
    (hname : desc.name = func_name) (hdesc : P desc) :
    Eff.Keeps (Files P) (ws_direct_logon_call k func_name desc params) := by
  have h := same_bootstraps k
  have htrans : ∀ a b c : Conn ω χ, Files P a b → Files P b c → Files P a c :=
    fun _ _ _ => Files.trans
  have hfallback : ∀ attrs, Eff.Keeps (Files P)
      (ws_classic_fallback k func_name desc params attrs) :=
    fun attrs => files_ws_classic_fallback params attrs (by rw [hname]) hdesc
  have hfill : ∀ cache_key, Eff.Keeps (Files P) (cache_fill k cache_key desc) := by
    intro cache_key c
    obtain ⟨c', hrun, hfiles⟩ := run_cache_fill (k := k) cache_key desc c
    rw [hrun]
    exact hfiles.mono fun d hd => hd ▸ hdesc
  unfold ws_direct_logon_call
  refine Eff.Keeps.bind htrans (files_of_same (h.wrapTransportError h.ws_logon_trip)) fun resp => ?_
  refine Eff.Keeps.bind htrans (files_of_same (h.lift _)) fun attrs_ws => ?_
  refine Eff.Keeps.bind htrans (files_of_same (h.lift _)) fun failure => ?_
  refine Eff.Keeps.ite _ (hfallback _) ?_
  refine Eff.Keeps.bind htrans (files_of_same h.drain) fun closed => ?_
  refine Eff.Keeps.ite _ (hfallback _) ?_
  refine Eff.Keeps.bind htrans (files_of_same (h.logon _)) fun _ => ?_
  refine Eff.Keeps.bind htrans (files_of_same h.metadata_cache_key) fun ws_key => ?_
  refine Eff.Keeps.bind htrans (hfill ws_key) fun _ => ?_
  unfold ws_direct_invoke
  refine Eff.Keeps.bind htrans (files_of_same (h.lift _)) fun invoke_msg => ?_
  refine Eff.Keeps.bind htrans ?_ fun reply => ?_
  · refine files_of_same (Eff.Keeps.tryCatch Same.trans ?_ fun exc => ?_)
    · exact h.bind (same_exchange k _ _ _) fun resp => h.pure _
    · exact Eff.Keeps.ite _ (h.throw _) (Eff.Keeps.ite _ (h.pure _) (h.throw _))
  · cases reply with
    | none => exact hfallback _
    | some resp => exact files_of_same (h.bind (h.lift _) fun result => h.pure _)

/-- What a call of the established session files. -/
theorem files_established {interface : Op ω χ (List ParamsRow)} {layout : PyStr → Op ω χ TypeDesc}
    {bootstrap : Op ω χ FunctionDesc} {rest : FunctionDesc → Op ω χ (Values V)} {func_name : PyStr}
    {c : Conn ω χ} (h : Describes k interface layout func_name bootstrap)
    (hrest : ∀ desc, Eff.Keeps Same (rest desc))
    (hfetch : lookups_succeed k layout (seek_rows k (metadata_cache_key k) interface func_name)
      (begun c) = true) :
    Files (Described k (seek_rows k (metadata_cache_key k) interface func_name) func_name (begun c))
      (begun c) (Eff.run (do
        let desc ← seek k (metadata_cache_key k) bootstrap func_name
        rest desc) (begun c)).2 :=
  files_bind (seek_spec (same_bootstraps k).metadata_cache_key h hfetch).1
    fun desc => files_of_same (hrest desc)

theorem lookups_succeed_congr {layout : PyStr → Op ω χ TypeDesc}
    {rows rows' : Op ω χ (Option (List ParamsRow))} {c c' : Conn ω χ}
    (h : Eff.run rows c = Eff.run rows' c') :
    lookups_succeed k layout rows c = lookups_succeed k layout rows' c' := by
  unfold lookups_succeed
  rw [h]

theorem described_congr {rows rows' : Op ω χ (Option (List ParamsRow))} {func_name : PyStr}
    {c c' : Conn ω χ} (h : Eff.run rows c = Eff.run rows' c') (desc : FunctionDesc) :
    Described k rows func_name c desc ↔ Described k rows' func_name c' desc := by
  unfold Described
  rw [h]

/-- INTERNAL: the rows of a call behind its guards. -/
theorem run_call_rows_begun (delegated : Bool) (func_name : PyStr) {c : Conn ω χ}
    (hpending : ¬ (¬ delegated ∧ c.is_ws ∧ c.session.state = .WS_PENDING))
    (hready : c.session.state = .READY) :
    Eff.run (call_rows k delegated func_name) c =
      Eff.run (if delegated then
          seek_rows k (metadata_cache_key k) (async_interface k func_name) func_name
        else seek_rows k (metadata_cache_key k) (sync_interface k func_name) func_name)
        (begun c) := by
  unfold call_rows
  rw [Eff.run_bind_ok (Eff.run_state c), if_neg hpending]
  exact run_begin _ hready

/-- INTERNAL: the rows of a first call over a WebSocket. -/
theorem run_call_rows_pending (func_name : PyStr) {c : Conn ω χ}
    (hpending : c.is_ws ∧ c.session.state = .WS_PENDING) :
    Eff.run (call_rows k false func_name) c =
      Eff.run (match assocGet WRFC_BUILTIN_DESCS (k.p.u.upper func_name) with
        | some _ => pure none
        | none => seek_rows k (metadata_cache_key k) (sync_interface k func_name) func_name) c := by
  unfold call_rows
  rw [Eff.run_bind_ok (Eff.run_state c), if_pos ⟨nofun, hpending⟩]

/-- Where the structure lookups succeed, a call files complete descriptors only. -/
theorem call_spec (delegated : Bool) (func_name : PyStr) (params : Values V) {c : Conn ω χ}
    (hfetch : lookups_succeed k (layout_of k delegated) (call_rows k delegated func_name) c
      = true) :
    Files (fun d => Unstructured d ∨ Described k (call_rows k delegated func_name) func_name c d) c
      (Eff.run (call k delegated func_name params) c).2 := by
  unfold call
  cases delegated with
  | true =>
    simp only [if_true]
    refine files_in_call fun hready => ?_
    have hrun := run_call_rows_begun (k := k) true func_name
      (by simp) hready
    simp only [if_true] at hrun
    rw [lookups_succeed_congr hrun] at hfetch
    refine (files_established (describes_async func_name).wrap
      (fun desc => same_async_invoke func_name desc params) hfetch).mono fun desc h => ?_
    exact .inr ((described_congr hrun desc).mpr h)
  | false =>
    simp only [Bool.false_eq_true, if_false]
    unfold sync_call
    rw [Eff.run_bind_ok (Eff.run_state c), Eff.run_ite]
    by_cases hpending : c.is_ws ∧ c.session.state = .WS_PENDING
    · rw [if_pos hpending]
      refine files_restored (files_wrapTransportError ?_)
      have hrows := run_call_rows_pending (k := k) func_name hpending
      cases hbuiltin : assocGet WRFC_BUILTIN_DESCS (k.p.u.upper func_name) with
      | some builtin =>
        obtain ⟨hname, hdesc⟩ := unstructured_builtin hbuiltin
        exact files_ws_direct_logon_call params hname (.inl hdesc) c
      | none =>
        rw [hbuiltin] at hrows
        rw [lookups_succeed_congr hrows] at hfetch
        have hseek := (seek_spec (same_bootstraps k).metadata_cache_key
          (describes_sync func_name) hfetch).1
        refine (files_bind hseek fun desc => files_of_same ?_).mono fun desc h =>
          .inr ((described_congr hrows desc).mpr h)
        exact (same_bootstraps k).bind (same_onSession _) fun _ =>
          same_invoke_described func_name desc params
    · rw [if_neg hpending]
      refine files_in_call fun hready => files_wrapTransportError ?_
      have hrun := run_call_rows_begun (k := k) false func_name
        (fun h => hpending h.2) hready
      simp only [Bool.false_eq_true, if_false] at hrun
      rw [lookups_succeed_congr hrun] at hfetch
      refine (files_established (describes_sync func_name)
        (fun desc => same_invoke_described func_name desc params) hfetch).mono fun desc h => ?_
      exact .inr ((described_congr hrun desc).mpr h)

/-- And the descriptor that it works with is complete. -/
theorem call_desc_spec (delegated : Bool) (func_name : PyStr) {c : Conn ω χ}
    (hfetch : lookups_succeed k (layout_of k delegated) (call_rows k delegated func_name) c
      = true) {desc : FunctionDesc}
    (hdesc : (Eff.run (call_desc k delegated func_name) c).1 = .ok desc) :
    Holds c.cache desc ∨ Unstructured desc ∨
      Described k (call_rows k delegated func_name) func_name c desc := by
  unfold call_desc at hdesc
  rw [Eff.run_bind_ok (Eff.run_state c), Eff.run_ite] at hdesc
  by_cases hpending : ¬ delegated ∧ c.is_ws ∧ c.session.state = .WS_PENDING
  · rw [if_pos hpending] at hdesc
    have hsync : delegated = false := by simpa using hpending.1
    subst hsync
    have hrows := run_call_rows_pending (k := k) func_name hpending.2
    cases hbuiltin : assocGet WRFC_BUILTIN_DESCS (k.p.u.upper func_name) with
    | some builtin =>
      rw [hbuiltin] at hdesc
      cases hdesc
      exact .inr (.inl (unstructured_builtin hbuiltin).2)
    | none =>
      rw [hbuiltin] at hdesc hrows
      rw [lookups_succeed_congr hrows] at hfetch
      refine ((seek_spec (same_bootstraps k).metadata_cache_key (describes_sync func_name)
        hfetch).2 desc hdesc).imp id fun h => .inr ((described_congr hrows desc).mpr h)
  · rw [if_neg hpending] at hdesc
    by_cases hready : c.session.state = .READY
    · have hrun := run_call_rows_begun (k := k) delegated func_name
        hpending hready
      rw [lookups_succeed_congr hrun] at hfetch
      rw [run_begin _ hready] at hdesc
      cases delegated with
      | true =>
        simp only [if_true] at hfetch hdesc hrun
        refine ((seek_spec (same_bootstraps k).metadata_cache_key
          (describes_async func_name).wrap hfetch).2 desc hdesc).imp id fun h => ?_
        exact .inr ((described_congr hrun desc).mpr h)
      | false =>
        simp only [Bool.false_eq_true, if_false] at hfetch hdesc hrun
        have hseek : (Eff.run (get_function_desc k func_name) (begun c)).1 = .ok desc := by
          rw [run_wrapTransportError] at hdesc
          cases hget : Eff.run (get_function_desc k func_name) (begun c) with
          | mk r c' =>
            rw [hget] at hdesc
            cases r with
            | ok desc' => exact hdesc
            | error e => cases hdesc
        refine ((seek_spec (same_bootstraps k).metadata_cache_key (describes_sync func_name)
          hfetch).2 desc hseek).imp id fun h => ?_
        exact .inr ((described_congr hrun desc).mpr h)
    · obtain ⟨e, he⟩ := run_require_ready_refused k.p.u hready
      unfold onSession at hdesc
      rw [Eff.run_bind, Eff.run_zoom, he] at hdesc
      cases hdesc

end Calls

/-! ## Runs -/

section Runs

variable (k : ι → Client ω χ V) (delegated : ι → Bool)

/-- On which connection and for which function a step may ask for an interface, and how. -/
def asks : TeamCall ι ω χ V → Option (ι × PyStr × Op ω χ (Option (List ParamsRow)))
  | .get_function_desc i func_name => some (i, func_name, public_rows (k i) (delegated i) func_name)
  | .call i func_name _ => some (i, func_name, call_rows (k i) (delegated i) func_name)
  | .opened _ _ => none
  | .moved _ _ => none

/-- A step on the connections of a pool. -/
abbrev TeamStep (ι ω χ V : Type) : Type :=
  Step (Team ι ω χ) (TeamCall ι ω χ V) (Option FunctionDesc)

/-- Every structure lookup of the step succeeds. -/
def LookupsSucceed (x : TeamStep ι ω χ V) : Prop :=
  ∀ asked ∈ asks k delegated x.input, lookups_succeed (k asked.1)
    (layout_of (k asked.1) (delegated asked.1)) asked.2.2 (x.before.conn asked.1) = true

/-- The descriptor is the complete one of the interface that the step was told. -/
def DescribedAt (x : TeamStep ι ω χ V) (desc : FunctionDesc) : Prop :=
  ∃ asked ∈ asks k delegated x.input,
    Described (k asked.1) asked.2.2 asked.2.1 (x.before.conn asked.1) desc

/-- A descriptor without structures, or one with all the layouts of its interface. -/
def Complete (done : List (TeamStep ι ω χ V)) (desc : FunctionDesc) : Prop :=
  Unstructured desc ∨ ∃ x ∈ done, DescribedAt k delegated x desc

/-- No cache holds any other. -/
structure CachesComplete (done : List (TeamStep ι ω χ V)) (w : Team ι ω χ) : Prop where
  shared : ∀ desc, Holds w.shared desc → Complete k delegated done desc
  own : ∀ i, w.apart i = true → ∀ desc, Holds (w.conns i).cache desc →
    Complete k delegated done desc

variable {k delegated}

theorem Complete.mono {done : List (TeamStep ι ω χ V)} {desc : FunctionDesc}
    (h : Complete k delegated done desc) (x : TeamStep ι ω χ V) :
    Complete k delegated (done ++ [x]) desc :=
  h.imp id fun ⟨y, hy, hdesc⟩ => ⟨y, List.mem_append_left _ hy, hdesc⟩

/-- A connection sees complete descriptors only. -/
theorem CachesComplete.conn {done : List (TeamStep ι ω χ V)} {w : Team ι ω χ}
    (h : CachesComplete k delegated done w) (i : ι) {desc : FunctionDesc}
    (hdesc : Holds (w.conn i).cache desc) : Complete k delegated done desc := by
  unfold Team.conn at hdesc
  split at hdesc
  next hown => exact h.own i hown desc hdesc
  next => exact h.shared desc hdesc

variable [DecidableEq ι]

/-- A method that files complete descriptors only, with and without its fallback. -/
theorem CachesComplete.perform {done : List (TeamStep ι ω χ V)} {w : Team ι ω χ}
    (h : CachesComplete k delegated done w) (x : TeamStep ι ω χ V) {i : ι} {α : Type}
    {method : Client ω χ V → Op ω χ α}
    (hfiles : ∀ client, client = k i ∨ client = (k i).undialled →
      Files (fun d => Unstructured d ∨ DescribedAt k delegated x d) (w.conn i)
        (Eff.run (method client) (w.conn i)).2) :
    CachesComplete k delegated (done ++ [x]) (w.perform k i method) := by
  have hnew : ∀ client, client = k i ∨ client = (k i).undialled → ∀ desc,
      Holds (Eff.run (method client) (w.conn i)).2.cache desc →
        Complete k delegated (done ++ [x]) desc := by
    intro client hclient desc hdesc
    rcases hfiles client hclient desc hdesc with hold | hunstructured | hdescribed
    · exact (h.conn i hold).mono x
    · exact .inl hunstructured
    · exact .inr ⟨x, List.mem_append_right _ (List.mem_singleton.mpr rfl), hdescribed⟩
  constructor
  · intro desc hdesc
    unfold Team.perform at hdesc
    dsimp only at hdesc
    split at hdesc
    next => exact (h.shared desc hdesc).mono x
    next => exact hnew _ (.inr rfl) desc hdesc
  · intro j hj desc hdesc
    unfold Team.perform at hj hdesc
    dsimp only at hj hdesc
    by_cases hji : j = i
    · subst hji
      rw [Function.update_self] at hdesc
      exact hnew _ (.inl rfl) desc hdesc
    · rw [Function.update_of_ne hji] at hj hdesc
      exact (h.own j hj desc hdesc).mono x

/-- INTERNAL: what a step files and obtains, whether or not its fallback can be dialled. -/
theorem CachesComplete.of_specs {done : List (TeamStep ι ω χ V)} {w : Team ι ω χ}
    (h : CachesComplete k delegated done w) {x : TeamStep ι ω χ V} {i : ι} {α : Type}
    (method : Client ω χ V → Op ω χ α) {desc_of : Op ω χ FunctionDesc}
    (hfiles : ∀ client, client = k i ∨ client = (k i).undialled →
      Files (fun d => Unstructured d ∨ DescribedAt k delegated x d) (w.conn i)
        (Eff.run (method client) (w.conn i)).2)
    (hobtains : ∀ desc, (Eff.run desc_of (w.conn i)).1 = .ok desc →
      Holds (w.conn i).cache desc ∨ Unstructured desc ∨ DescribedAt k delegated x desc)
    (hafter : x.after = w.perform k i method)
    (houtput : x.output = (Eff.run desc_of (w.conn i)).1.toOption) :
    CachesComplete k delegated (done ++ [x]) x.after ∧
      ∀ desc, x.output = some desc → Complete k delegated (done ++ [x]) desc := by
  constructor
  · rw [hafter]
    exact h.perform x hfiles
  · intro desc hdesc
    rw [houtput] at hdesc
    have hdesc : (Eff.run desc_of (w.conn i)).1 = .ok desc := by
      cases hrun : (Eff.run desc_of (w.conn i)).1 with
      | error e =>
        rw [hrun] at hdesc
        cases hdesc
      | ok d =>
        rw [hrun] at hdesc
        cases hdesc
        rfl
    rcases hobtains desc hdesc with hold | hunstructured | hdescribed
    · exact (h.conn i hold).mono x
    · exact .inl hunstructured
    · exact .inr ⟨x, List.mem_append_right _ (List.mem_singleton.mpr rfl), hdescribed⟩

/-- One step. -/
theorem CachesComplete.step {done : List (TeamStep ι ω χ V)} {w : Team ι ω χ}
    (h : CachesComplete k delegated done w) (i : TeamCall ι ω χ V)
    (hlookups : LookupsSucceed k delegated (Run.stepOf (teamStep k delegated) i w)) :
    CachesComplete k delegated (done ++ [Run.stepOf (teamStep k delegated) i w])
        (Run.stepOf (teamStep k delegated) i w).after ∧
      ∀ desc, (Run.stepOf (teamStep k delegated) i w).output = some desc →
        Complete k delegated (done ++ [Run.stepOf (teamStep k delegated) i w]) desc := by
  cases i with
  | get_function_desc i func_name =>
    have hfetch := hlookups _ rfl
    refine h.of_specs (fun k => public_function_desc k (delegated i) func_name)
      (fun client hclient => ?_) (fun desc hdesc => ?_) rfl rfl
    · rcases hclient with rfl | rfl
      · exact (public_function_desc_spec (delegated i) func_name hfetch).1.mono
          fun desc hd => .inr ⟨_, rfl, hd⟩
      · exact (public_function_desc_spec (k := (k i).undialled) (delegated i) func_name
          hfetch).1.mono fun desc hd => .inr ⟨_, rfl, hd⟩
    · exact ((public_function_desc_spec (delegated i) func_name hfetch).2 desc hdesc).imp id
        fun hd => .inr ⟨_, rfl, hd⟩
  | call i func_name params =>
    have hfetch := hlookups _ rfl
    refine h.of_specs (fun k => call k (delegated i) func_name params)
      (fun client hclient => ?_) (fun desc hdesc => ?_) rfl rfl
    · rcases hclient with rfl | rfl
      · exact (call_spec (delegated i) func_name params hfetch).mono
          fun desc hd => hd.imp id fun hd => ⟨_, rfl, hd⟩
      · exact (call_spec (k := (k i).undialled) (delegated i) func_name params hfetch).mono
          fun desc hd => hd.imp id fun hd => ⟨_, rfl, hd⟩
    · exact (call_desc_spec (delegated i) func_name hfetch hdesc).imp id
        fun hd => hd.imp id fun hd => ⟨_, rfl, hd⟩
  | opened i c =>
    refine ⟨⟨fun desc hdesc => (h.shared desc hdesc).mono _, fun j hj desc hdesc => ?_⟩, nofun⟩
    have hne : j ≠ i := by
      rintro rfl
      exact absurd (show Function.update w.apart j false j = true from hj) (by simp)
    have hj : Function.update w.apart i false j = true := hj
    have hdesc : Holds (Function.update w.conns i c j).cache desc := hdesc
    rw [Function.update_of_ne hne] at hj hdesc
    exact (h.own j hj desc hdesc).mono _
  | moved i c =>
    refine ⟨⟨fun desc hdesc => (h.shared desc hdesc).mono _, fun j hj desc hdesc => ?_⟩, nofun⟩
    have hj : w.apart j = true := hj
    have hcache : (Function.update w.conns i { c with cache := (w.conns i).cache } j).cache =
        (w.conns j).cache := by
      by_cases hji : j = i
      · subst hji
        rw [Function.update_self]
      · rw [Function.update_of_ne hji]
    have hdesc : Holds (Function.update w.conns i { c with cache := (w.conns i).cache } j).cache
        desc := hdesc
    rw [hcache] at hdesc
    exact (h.own j hj desc hdesc).mono _

/-- In every run whose structure lookups succeed, the caches hold complete descriptors only, and
every step that obtains a descriptor obtains a complete one. -/
theorem cached_descriptors_complete {w : Team ι ω χ} (hempty : w.shared = [])
    (hshared : ∀ i, w.apart i = false) {inputs : List (TeamCall ι ω χ V)}
    (hlookups : ∀ x ∈ Run.trace (teamStep k delegated) inputs w, LookupsSucceed k delegated x)
    {n : ℕ} {x : TeamStep ι ω χ V} (h : (Run.trace (teamStep k delegated) inputs w)[n]? = some x) :
    CachesComplete k delegated ((Run.trace (teamStep k delegated) inputs w).take (n + 1)) x.after ∧
      ∀ desc, x.output = some desc →
        Complete k delegated ((Run.trace (teamStep k delegated) inputs w).take (n + 1)) desc := by
  have hinit : CachesComplete k delegated [] w := by
    refine ⟨fun desc hdesc => ?_, fun i hi => ?_⟩
    · rw [hempty] at hdesc
      obtain ⟨key, hmem⟩ := hdesc
      cases hmem
    · rw [hshared i] at hi
      cases hi
  have hstep : ∀ done s i, CachesComplete k delegated done s →
      LookupsSucceed k delegated (Run.stepOf (teamStep k delegated) i s) →
        CachesComplete k delegated (done ++ [Run.stepOf (teamStep k delegated) i s])
          (Run.stepOf (teamStep k delegated) i s).after :=
    fun done s i hI hP => (hI.step i hP).1
  obtain ⟨hbefore, hafter⟩ := Run.trace_invariant hstep hinit hlookups h
  refine ⟨hafter, fun desc hdesc => ?_⟩
  have hmem := List.mem_of_getElem? h
  have hx := Run.eq_stepOf_of_mem hmem
  have hlook := hlookups x hmem
  have htake : (Run.trace (teamStep k delegated) inputs w).take (n + 1) =
      (Run.trace (teamStep k delegated) inputs w).take n ++ [x] := by
    rw [List.take_add_one, h]
    rfl
  rw [htake]
  rw [hx] at hlook hdesc ⊢
  exact (hbefore.step x.input hlook).2 desc hdesc

end Runs

/-! ## Two connections of a pool -/

/-- The row of a field of one character in the reply of a structure lookup. -/
def fieldRow : Bytes :=
  column "ZWHAT" 30 ++ column "FLAG" 30 ++ [1, 0, 0, 0, 0, 0, 0, 0, 2, 0, 0, 0, 0, 0, 0, 0] ++
    column "C" 1

/-- A connection to a system that has a name, with the replies that its peer has for it. -/
def named (replies : List Bytes) (plans : List Plan) :
    Conn (Wire (List Bytes)) Tables :=
  { readyConn (Wire.connect replies plans) Tables.empty with
    session := ⟨.READY, [], some ⟨lit "PRD", [], [], [], [], [], [], [], [], true⟩, none, none⟩ }

/-- What a peer answers that knows the function and its structure. -/
def fullReplies : List Bytes :=
  [oneRecord Tag.TABLE_CONTENT structureRow, oneRecord Tag.RETURN_CODE [0, 0, 0, 0],
    oneRecord Tag.TABLE_CONTENT fieldRow, oneRecord Tag.RETURN_CODE [0, 0, 0, 0],
    oneRecord Tag.RETURN_CODE [0, 0, 0, 0]]

/-- On the first connection the structure lookup times out; on the second it is answered. -/
def mixedPool : Team Bool (Wire (List Bytes)) Tables where
  conns i := match i with
    | false => named [oneRecord Tag.TABLE_CONTENT structureRow,
        oneRecord Tag.RETURN_CODE [0, 0, 0, 0], oneRecord Tag.RETURN_CODE [0, 0, 0, 0]]
        [[], [.proceed, .refuse (err .timeout [])]]
    | true => named fullReplies []
  apart _ := false
  shared := []

/-- Two connections without an asynchronous core. -/
def poolClient (_ : Bool) : Client (Wire (List Bytes)) Tables Bytes :=
  (plainClient (scriptLink id) 0).toClient

def poolTrace (inputs : List (TeamCall Bool (Wire (List Bytes)) Tables Bytes)) :
    List (TeamStep Bool (Wire (List Bytes)) Tables Bytes) :=
  Run.trace (teamStep poolClient fun _ => false) inputs mixedPool

/-- The types of the parameters, and whether their layouts are there. -/
def layouts (desc : FunctionDesc) : List (ℕ × Bool) :=
  desc.parameters.map fun fd => (fd.rfctype, fd.type_desc.isSome)

/-- The second connection goes first, and the first finds what it filed. -/
theorem complete_descriptor_shared :
    ∃ x, (poolTrace [.call true (lit "Z_READ") [], .call false (lit "Z_READ") []])[1]? = some x ∧
      x.output.map layouts = some [(RFCTYPE_STRUCTURE, true)] ∧
      CachesComplete poolClient (fun _ => false)
        ((poolTrace [.call true (lit "Z_READ") [], .call false (lit "Z_READ") []]).take 2)
        x.after := by
  have hlookups : ∀ x ∈ poolTrace [.call true (lit "Z_READ") [], .call false (lit "Z_READ") []],
      LookupsSucceed poolClient (fun _ => false) x := by
    intro x hx asked hasked
    rcases List.mem_cons.mp hx with rfl | hx
    · cases hasked
      decide +kernel
    · obtain rfl := List.mem_singleton.mp hx
      cases hasked
      decide +kernel
  refine ⟨_, rfl, by decide +kernel, ?_⟩
  exact (cached_descriptors_complete (w := mixedPool) rfl (fun _ => rfl) hlookups rfl).1

/-- The first connection goes first: its lookup fails, and the second connection, whose lookup
would succeed, finds the descriptor without its layout. -/
theorem incomplete_descriptor_shared :
    lookups_succeed (poolClient false) (layout_of (poolClient false) false)
        (call_rows (poolClient false) false (lit "Z_READ")) (mixedPool.conn false) = false ∧
      (poolTrace [.call false (lit "Z_READ") [], .call true (lit "Z_READ") []]).map
        (fun x => (x.after.shared.map fun entry => layouts entry.2, x.output.map layouts)) =
        [([[(RFCTYPE_STRUCTURE, false)]], some [(RFCTYPE_STRUCTURE, false)]),
          ([[(RFCTYPE_STRUCTURE, false)]], some [(RFCTYPE_STRUCTURE, false)])] ∧
      (poolTrace [.call true (lit "Z_READ") []]).map (fun x => x.output.map layouts) =
        [some [(RFCTYPE_STRUCTURE, true)]] := by
  decide +kernel

end SapRfc.Analysis.CachedDescriptors
