import SapRfc.Program.Dispatch

/-!
# A server with the stores it is born with

What an application installs on a server, over a state of its own, and the server it
becomes when the two stores are the ones that live in the process.  The stores are out
of the application's reach, so what a dispatch leaves in them is the dispatch's doing,
and a list notes which callbacks it called.
-/

set_option autoImplicit false

namespace SapRfc.Program

open SapRfc.Library

/-- A call of a callback that is told how a transaction or a unit ended. -/
inductive CallbackEvent where
  | commit_transaction (tid : PyStr)
  | rollback_transaction (tid : PyStr)
  | confirm_transaction (tid : PyStr)
  | commit_unit (unit_id unit_type : PyStr)
  | rollback_unit (unit_id unit_type : PyStr)
  | confirm_unit (unit_id unit_type : PyStr)
  deriving DecidableEq, Repr

/-- The process: both stores, the callbacks called so far, and the application's state. -/
structure Process (α : Type) where
  tids : TidTable
  units : UnitTable
  calls : List CallbackEvent
  app : α

/-- What an application installs on a server. -/
structure App (α V : Type) where
  registry : List (PyStr × Entry α V)
  generic : Option (PyStr → Eff PyError α (Option (Entry α V)))
  auth_check : Option (AuthCheck α)
  on_check_transaction : Option (PyStr → Eff PyError α ℤ)
  on_commit_transaction : Option (PyStr → Eff PyError α Unit)
  on_rollback_transaction : Option (PyStr → Eff PyError α Unit)
  on_confirm_transaction : Option (PyStr → Eff PyError α Unit) := none
  on_check_unit : Option (PyStr → PyStr → Eff PyError α ℤ)
  on_commit_unit : Option (PyStr → PyStr → Eff PyError α Unit)
  on_rollback_unit : Option (PyStr → PyStr → Eff PyError α Unit)
  on_confirm_unit : Option (PyStr → PyStr → Eff PyError α Unit)
  on_get_unit_state : Option (PyStr → PyStr → Eff PyError α UnitState)

section Hosting

variable {α β V : Type}

/-- Application code, on its part of the process. -/
def onApp (x : Eff PyError α β) : Eff PyError (Process α) β :=
  Eff.zoom Process.app (fun a g => { g with app := a }) x

/-- A callback, noted when it is called. -/
def noted (e : CallbackEvent) (x : Eff PyError α Unit) : Eff PyError (Process α) Unit := do
  Eff.update fun g => { g with calls := g.calls ++ [e] }
  onApp x

def Handler.hosted (h : Handler α V) : Handler (Process α) V where
  id := h.id
  coroutine := h.coroutine
  body := fun request => onApp (h.body request)

def hostedEntry (e : Entry α V) : Entry (Process α) V := (e.1, e.2.hosted)

def hostedGeneric (f : PyStr → Eff PyError α (Option (Entry α V))) (name : PyStr) :
    Eff PyError (Process α) (Option (Entry (Process α) V)) := do
  let entry ← onApp (f name)
  pure (entry.map hostedEntry)

/-- The server of an application: its stores are `InMemoryTidStore()` and
`InMemoryUnitStore()`. -/
def App.server (a : App α V) : RfcServer (Process α) V where
  registry := a.registry.map fun e => (e.1, hostedEntry e.2)
  generic := a.generic.map hostedGeneric
  auth_check := a.auth_check.map fun c =>
    ⟨fun user password => onApp (c.keyword user password), fun user => onApp (c.positional user)⟩
  tid_store := InMemoryTidStore Process.tids fun t g => { g with tids := t }
  on_check_transaction := a.on_check_transaction.map fun f tid => onApp (f tid)
  on_commit_transaction := a.on_commit_transaction.map fun f tid =>
    noted (.commit_transaction tid) (f tid)
  on_rollback_transaction := a.on_rollback_transaction.map fun f tid =>
    noted (.rollback_transaction tid) (f tid)
  on_confirm_transaction := a.on_confirm_transaction.map fun f tid =>
    noted (.confirm_transaction tid) (f tid)
  unit_store := InMemoryUnitStore Process.units fun t g => { g with units := t }
  on_check_unit := a.on_check_unit.map fun f unit_id unit_type => onApp (f unit_id unit_type)
  on_commit_unit := a.on_commit_unit.map fun f unit_id unit_type =>
    noted (.commit_unit unit_id unit_type) (f unit_id unit_type)
  on_rollback_unit := a.on_rollback_unit.map fun f unit_id unit_type =>
    noted (.rollback_unit unit_id unit_type) (f unit_id unit_type)
  on_confirm_unit := a.on_confirm_unit.map fun f unit_id unit_type =>
    noted (.confirm_unit unit_id unit_type) (f unit_id unit_type)
  on_get_unit_state := a.on_get_unit_state.map fun f unit_id unit_type =>
    onApp (f unit_id unit_type)

/-- An application that installs nothing but functions. -/
def App.functions (registry : List (PyStr × Entry α V)) : App α V where
  registry := registry
  generic := none
  auth_check := none
  on_check_transaction := none
  on_commit_transaction := none
  on_rollback_transaction := none
  on_check_unit := none
  on_commit_unit := none
  on_rollback_unit := none
  on_confirm_unit := none
  on_get_unit_state := none

/-- The world of a new server. -/
def newWorld (app : α) : ServerWorld (Process α) :=
  ⟨⟨⟨fun _ => none, fun _ => none⟩, ⟨fun _ => none, fun _ => none⟩, [], app⟩, []⟩

/-- Every handler the application can give is a plain function. -/
structure App.Synchronous (a : App α V) : Prop where
  registry : ∀ e ∈ a.registry, e.2.2.coroutine = false
  generic : ∀ f name s e, a.generic = some f → (Eff.run (f name) s).1 = .ok (some e) →
    e.2.coroutine = false

end Hosting

end SapRfc.Program
