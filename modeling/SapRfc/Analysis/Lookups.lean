import SapRfc.Program.SyncConnection

/-!
# Relations that the metadata lookups keep

A call looks up what it does not know before it sends its own request.  The lookups of
both connections change the stream and the log by their exchanges only, so a relation
that each such exchange keeps is kept by all of them (`Lookups`).  What a proof about a
call has to say of the lookups is said once, of one exchange.  What comes before a descriptor
is filed also leaves the cache alone, and keeps what speaks of that as well (`Bootstraps`).
-/

set_option autoImplicit false

namespace SapRfc.Analysis

open SapRfc.Library SapRfc.Program

/-- The requests that come before the request of a call. -/
def IsLookup (purpose : Purpose) : Prop :=
  purpose = .logon ∨ purpose = .interface ∨ purpose = .struct

instance (purpose : Purpose) : Decidable (IsLookup purpose) :=
  inferInstanceAs (Decidable (_ ∨ _ ∨ _))

variable {ω χ V : Type}

/-- What a relation has to satisfy to be kept by the lookups. -/
structure Lookups (k : Client ω χ V) (R : Conn ω χ → Conn ω χ → Prop) : Prop where
  refl : ∀ c, R c c
  trans : ∀ a b c, R a b → R b c → R a c
  /-- the stream, the session and the log are as before -/
  quiet : ∀ c c', c'.wire = c.wire → c'.session = c.session → c'.trips = c.trips → R c c'
  trip : ∀ purpose reader request, IsLookup purpose →
    Eff.Keeps R (exchange k purpose reader request)
  logon : ∀ attrs, Eff.Keeps R (complete_logon attrs)
  drain : Eff.Keeps R (onWire k.seam.drain_queued_close)

/-- The same of a relation that may see the descriptors: it is kept until one is filed. -/
structure Bootstraps (k : Client ω χ V) (R : Conn ω χ → Conn ω χ → Prop) : Prop where
  refl : ∀ c, R c c
  trans : ∀ a b c, R a b → R b c → R a c
  /-- the stream, the session, the log and the descriptors are as before -/
  quiet : ∀ c c', c'.wire = c.wire → c'.session = c.session → c'.trips = c.trips →
    c'.cache = c.cache → R c c'
  trip : ∀ purpose reader request, IsLookup purpose →
    Eff.Keeps R (exchange k purpose reader request)
  logon : ∀ attrs, Eff.Keeps R (complete_logon attrs)
  drain : Eff.Keeps R (onWire k.seam.drain_queued_close)

namespace Bootstraps

variable {k : Client ω χ V} {R : Conn ω χ → Conn ω χ → Prop} (h : Bootstraps k R)

include h

theorem lift {α : Type} (r : Except PyError α) :
    Eff.Keeps R (Eff.lift r : Op ω χ α) :=
  Eff.Keeps.lift h.refl r

theorem bind {α β : Type} {x : Op ω χ α} {f : α → Op ω χ β} (hx : Eff.Keeps R x)
    (hf : ∀ a, Eff.Keeps R (f a)) : Eff.Keeps R (x >>= f) :=
  Eff.Keeps.bind h.trans hx hf

theorem pure {α : Type} (a : α) : Eff.Keeps R (Pure.pure a : Op ω χ α) :=
  Eff.Keeps.pure h.refl a

theorem throw {α : Type} (e : PyError) :
    Eff.Keeps R (MonadExcept.throw e : Op ω χ α) :=
  Eff.Keeps.throw h.refl e

theorem state : Eff.Keeps R (Eff.state : Op ω χ (Conn ω χ)) :=
  Eff.Keeps.state h.refl

theorem attempt {α : Type} {x : Op ω χ α} (hx : Eff.Keeps R x) :
    Eff.Keeps R (Program.attempt x) := by
  unfold Program.attempt
  refine Eff.Keeps.tryCatch h.trans (h.bind hx fun a => h.pure _) fun e => ?_
  exact Eff.Keeps.ite _ (h.pure _) (h.throw _)

theorem wrapTransportError {α : Type} {x : Op ω χ α} (hx : Eff.Keeps R x) :
    Eff.Keeps R (Program.wrapTransportError x) := by
  unfold Program.wrapTransportError
  refine Eff.Keeps.tryCatch h.trans hx fun e => ?_
  exact Eff.Keeps.ite _ (h.throw _) (h.throw _)

theorem unicode_mode : Eff.Keeps R (Program.unicode_mode : Op ω χ Bool) :=
  h.bind h.state fun _ => h.pure _

theorem invoke_frame (request_tlv : Bytes) :
    Eff.Keeps R (Program.invoke_frame request_tlv : Op ω χ Bytes) :=
  h.bind h.state fun _ => h.lift _

theorem metadata_cache_key : Eff.Keeps R (Program.metadata_cache_key k) := by
  unfold Program.metadata_cache_key
  refine h.bind h.state fun c => ?_
  cases c.session.attributes with
  | none => exact h.pure _
  | some attrs =>
    refine Eff.Keeps.ite _ (h.pure _) ?_
    cases c.anon_cache_key with
    | some key => exact h.pure _
    | none =>
      refine h.bind (Eff.Keeps.update fun c => ?_) fun _ => h.pure _
      exact h.quiet _ _ rfl rfl rfl rfl

theorem cache_hit (cache_key : Option PyStr) (func_name : PyStr) :
    Eff.Keeps R (Program.cache_hit k cache_key func_name) := by
  cases cache_key with
  | some key => exact h.bind h.state fun _ => h.pure _
  | none => exact h.pure _

/-! ## The lookups over any way to make a request -/

section RoundTrips

variable {trip : RoundTrip ω χ V}
  (htrip : ∀ purpose name desc params, IsLookup purpose →
    Eff.Keeps R (trip purpose name desc params))

include htrip

theorem struct_bootstrap (is_ws : Bool) (tabname : PyStr) :
    Eff.Keeps R (Program.struct_bootstrap k trip is_ws tabname) := by
  have hddif : ∀ mode, Eff.Keeps R (struct_via_ddif k trip tabname mode) := by
    intro mode
    unfold struct_via_ddif
    refine h.bind (htrip _ _ _ _ (.inr (.inr rfl))) fun response => ?_
    refine h.bind (h.lift _) fun _ => h.bind (h.lift _) fun rows => ?_
    exact Eff.Keeps.ite _ (h.pure _) (h.bind (h.lift _) fun _ => h.pure _)
  have hrsd : ∀ mode, Eff.Keeps R (struct_via_rsd k trip tabname mode) := by
    intro mode
    unfold struct_via_rsd
    refine h.bind (htrip _ _ _ _ (.inr (.inr rfl))) fun response => ?_
    exact h.bind (h.lift _) fun _ => h.bind (h.lift _) fun rows => h.lift _
  unfold Program.struct_bootstrap
  refine h.bind h.unicode_mode fun mode => Eff.Keeps.ite _ (hrsd mode) ?_
  refine h.bind (Eff.Keeps.tryCatch h.trans (hddif mode) fun e => ?_) fun td => ?_
  · exact Eff.Keeps.ite _ (h.pure _) (h.throw _)
  · cases td with
    | some td => exact h.pure _
    | none => exact hrsd mode

end RoundTrips

theorem describe {bootstrap : PyStr → Op ω χ TypeDesc}
    (hboot : ∀ tabname, Eff.Keeps R (bootstrap tabname)) (func_name : PyStr)
    (rows : List ParamsRow) : Eff.Keeps R (Program.describe k bootstrap func_name rows) := by
  have hfetch : ∀ tabname, Eff.Keeps R (fetch_layout bootstrap tabname) := by
    intro tabname
    unfold fetch_layout
    refine h.bind h.state fun c => Eff.Keeps.ite _ (h.pure _) ?_
    refine h.bind (h.attempt (hboot tabname)) fun td => ?_
    cases td with
    | ok td => exact Eff.Keeps.update fun c => h.quiet _ _ rfl rfl rfl rfl
    | error e => exact h.pure _
  have hresolve : ∀ params, Eff.Keeps R (resolve_layouts bootstrap params) := by
    intro params
    induction params with
    | nil => exact h.pure _
    | cons param rest ih =>
      unfold resolve_layouts
      by_cases htab : param.2 = []
      · simp only [htab, ne_eq, not_true, if_false]
        exact h.bind h.state fun c => h.bind ih fun fds => h.pure _
      · simp only [ne_eq, htab, not_false_eq_true, if_true]
        refine h.bind (hfetch _) fun _ => ?_
        exact h.bind h.state fun c => h.bind ih fun fds => h.pure _
  exact h.bind (hresolve _) fun _ => h.pure _

/-! ## The asynchronous connection -/

theorem async_round_trip (purpose : Purpose) (name : PyStr) (desc : FunctionDesc)
    (params : Values V) (hp : IsLookup purpose) :
    Eff.Keeps R (Program.async_round_trip k purpose name desc params) :=
  h.bind (h.lift _) fun _ => h.bind (h.invoke_frame _) fun _ => h.trip _ _ _ hp

theorem async_call_bootstrap (func_name : PyStr) :
    Eff.Keeps R (Program.async_call_bootstrap k func_name) := by
  unfold Program.async_call_bootstrap
  refine h.bind h.unicode_mode fun mode => ?_
  refine h.bind (h.async_round_trip _ _ _ _ (.inr (.inl rfl))) fun response => ?_
  refine h.bind (h.lift _) fun rows => h.describe (fun tabname => ?_) _ _
  exact h.struct_bootstrap h.async_round_trip _ _

/-! ## The synchronous connection -/

theorem sync_round_trip (purpose : Purpose) (name : PyStr) (desc : FunctionDesc)
    (params : Values V) (hp : IsLookup purpose) :
    Eff.Keeps R (Program.sync_round_trip k purpose name desc params) := by
  unfold Program.sync_round_trip
  refine h.bind (h.lift _) fun _ => h.bind h.state fun c => ?_
  exact Eff.Keeps.ite _ (h.trip _ _ _ hp) (h.bind (h.invoke_frame _) fun _ => h.trip _ _ _ hp)

theorem call_struct_bootstrap (tabname : PyStr) :
    Eff.Keeps R (Program.call_struct_bootstrap k tabname) :=
  h.bind h.state fun _ => h.struct_bootstrap h.sync_round_trip _ _

theorem require_auth : Eff.Keeps R (Program.require_auth : Op ω χ WsAuth) := by
  unfold Program.require_auth
  refine h.bind h.state fun c => ?_
  cases c.ws_auth with
  | some auth => exact h.pure _
  | none => exact h.throw _

theorem ws_logon_trip : Eff.Keeps R (Program.ws_logon_trip k) :=
  h.bind h.require_auth fun _ => h.bind (h.lift _) fun _ => h.trip _ _ _ (.inl rfl)

theorem ws_first_logon : Eff.Keeps R (Program.ws_first_logon k) := by
  unfold Program.ws_first_logon
  refine h.bind h.ws_logon_trip fun resp => h.bind (h.lift _) fun attrs => ?_
  refine h.bind (h.lift _) fun failure => ?_
  cases failure with
  | some e => exact h.bind (h.logon _) fun _ => h.throw _
  | none =>
    refine h.bind h.drain fun closed => ?_
    cases closed with
    | some e => exact h.bind (h.logon _) fun _ => h.throw _
    | none => exact h.logon _

/-- The handler raises another exception for a read that raised, and nothing else. -/
theorem pending_interface (func_name : PyStr) (mode : Bool) :
    Eff.Keeps R (Program.pending_interface k func_name mode) := by
  unfold Program.pending_interface
  refine h.bind (h.lift _) fun frame c => ?_
  have htrip := h.trip .interface (.frames GET_FUNCTION_INTERFACE) frame (.inr (.inl rfl)) c
  unfold exchange at htrip
  rw [Eff.run_bind] at htrip ⊢
  cases hs : Eff.run (send_request k .interface (.frames GET_FUNCTION_INTERFACE) frame) c with
  | mk r c' =>
    rw [hs] at htrip
    cases r with
    | error e => exact htrip
    | ok _ =>
      simp only [Eff.run_tryCatch] at htrip ⊢
      cases hr : Eff.run (read_reply k (.frames GET_FUNCTION_INTERFACE)) c' with
      | mk r c'' =>
        rw [hr] at htrip
        cases r with
        | ok response => exact htrip
        | error e =>
          simp only [Eff.run_ite, Eff.run_throw]
          split <;> exact htrip

theorem call_bootstrap (func_name : PyStr) :
    Eff.Keeps R (Program.call_bootstrap k func_name) := by
  unfold Program.call_bootstrap
  refine h.bind h.unicode_mode fun mode => h.bind h.state fun c => Eff.Keeps.ite _ ?_ ?_
  · refine h.bind h.ws_first_logon fun _ => h.bind (h.pending_interface _ _) fun response => ?_
    refine h.bind (h.lift _) fun rows => h.bind (h.lift _) fun _ => ?_
    exact h.describe h.call_struct_bootstrap _ _
  · refine h.bind (h.sync_round_trip _ _ _ _ (.inr (.inl rfl))) fun response => ?_
    exact h.bind (h.lift _) fun rows => h.describe h.call_struct_bootstrap _ _

end Bootstraps

namespace Lookups

variable {k : Client ω χ V} {R : Conn ω χ → Conn ω χ → Prop} (h : Lookups k R)

include h

theorem toBootstraps : Bootstraps k R where
  refl := h.refl
  trans := h.trans
  quiet c c' hwire hsession htrips _ := h.quiet c c' hwire hsession htrips
  trip := h.trip
  logon := h.logon
  drain := h.drain

theorem lift {α : Type} (r : Except PyError α) :
    Eff.Keeps R (Eff.lift r : Op ω χ α) :=
  Eff.Keeps.lift h.refl r

theorem bind {α β : Type} {x : Op ω χ α} {f : α → Op ω χ β} (hx : Eff.Keeps R x)
    (hf : ∀ a, Eff.Keeps R (f a)) : Eff.Keeps R (x >>= f) :=
  Eff.Keeps.bind h.trans hx hf

theorem pure {α : Type} (a : α) : Eff.Keeps R (Pure.pure a : Op ω χ α) :=
  Eff.Keeps.pure h.refl a

theorem throw {α : Type} (e : PyError) :
    Eff.Keeps R (MonadExcept.throw e : Op ω χ α) :=
  Eff.Keeps.throw h.refl e

theorem state : Eff.Keeps R (Eff.state : Op ω χ (Conn ω χ)) :=
  Eff.Keeps.state h.refl

theorem wrapTransportError {α : Type} {x : Op ω χ α} (hx : Eff.Keeps R x) :
    Eff.Keeps R (Program.wrapTransportError x) :=
  h.toBootstraps.wrapTransportError hx

theorem invoke_frame (request_tlv : Bytes) :
    Eff.Keeps R (Program.invoke_frame request_tlv : Op ω χ Bytes) :=
  h.toBootstraps.invoke_frame request_tlv

theorem metadata_cache_key : Eff.Keeps R (Program.metadata_cache_key k) :=
  h.toBootstraps.metadata_cache_key

theorem ws_logon_trip : Eff.Keeps R (Program.ws_logon_trip k) :=
  h.toBootstraps.ws_logon_trip

theorem cache_fill (cache_key : Option PyStr) (desc : FunctionDesc) :
    Eff.Keeps R (Program.cache_fill k cache_key desc) := by
  cases cache_key with
  | some key => exact Eff.Keeps.update fun c => h.quiet _ _ rfl rfl rfl
  | none => exact h.pure _

theorem async_function_desc (func_name : PyStr) :
    Eff.Keeps R (Program.async_function_desc k func_name) := by
  unfold Program.async_function_desc
  refine h.bind h.metadata_cache_key fun cache_key => ?_
  refine h.bind (h.toBootstraps.cache_hit _ _) fun hit => ?_
  cases hit with
  | some desc => exact h.pure _
  | none =>
    refine h.bind (h.wrapTransportError (h.toBootstraps.async_call_bootstrap _)) fun desc => ?_
    exact h.bind (h.cache_fill _ _) fun _ => h.pure _

theorem get_function_desc (func_name : PyStr) :
    Eff.Keeps R (Program.get_function_desc k func_name) := by
  unfold Program.get_function_desc
  refine h.bind h.metadata_cache_key fun cache_key => ?_
  refine h.bind (h.toBootstraps.cache_hit _ _) fun hit => ?_
  cases hit with
  | some desc => exact h.pure _
  | none =>
    refine h.bind (h.toBootstraps.call_bootstrap _) fun desc => ?_
    exact h.bind (h.cache_fill _ _) fun _ => h.pure _

end Lookups

end SapRfc.Analysis
