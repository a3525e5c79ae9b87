import SapRfc.Library.Effect
import SapRfc.Program.Params

/-!
# TID and unit stores

The two protocols a durable backend implements, as programs over its state, and the
stores that live in the process.
-/

set_option autoImplicit false

namespace SapRfc.Program

open SapRfc.Library

/-- SOURCE: stores.py:84-113. -/
inductive UnitState where
  | NOT_FOUND | IN_PROCESS | COMMITTED | ROLLED_BACK | CONFIRMED
  deriving DecidableEq, Repr

/-- `UnitState.name` -/
def UnitState.label : UnitState → PyStr
  | NOT_FOUND => lit "NOT_FOUND"
  | IN_PROCESS => lit "IN_PROCESS"
  | COMMITTED => lit "COMMITTED"
  | ROLLED_BACK => lit "ROLLED_BACK"
  | CONFIRMED => lit "CONFIRMED"

/-- SOURCE: stores.py:122-188, over the state of the backend. -/
structure TidStore (χ : Type) where
  is_executed : PyStr → Eff PyError χ Bool
  mark_received : PyStr → Eff PyError χ Unit
  mark_executed : PyStr → Eff PyError χ Unit
  mark_rolled_back : PyStr → Eff PyError χ Unit
  confirm : PyStr → Eff PyError χ Unit
  park : PyStr → Bytes → Eff PyError χ Unit
  get_parked : PyStr → Eff PyError χ (Option Bytes)
  delete_parked : PyStr → Eff PyError χ Unit

/-- SOURCE: stores.py:197-258. -/
structure UnitStore (χ : Type) where
  get_unit_state : PyStr → PyStr → Eff PyError χ UnitState
  persist : PyStr → PyStr → Eff PyError χ Unit
  confirm : PyStr → PyStr → Eff PyError χ Unit
  park : PyStr → PyStr → Bytes → Eff PyError χ Unit
  get_parked : PyStr → PyStr → Eff PyError χ (Option Bytes)
  delete_parked : PyStr → PyStr → Eff PyError χ Unit

/-- `_TID_RECEIVED`, `_TID_EXECUTED`, `_TID_ROLLED_BACK` -/
inductive TidMark where
  | received | executed | rolled_back
  deriving DecidableEq, Repr

/-- The two dicts of an in-memory TID store. -/
structure TidTable where
  store : PyStr → Option TidMark
  parked : PyStr → Option Bytes

/-- The two dicts of an in-memory unit store. -/
structure UnitTable where
  store : PyStr × PyStr → Option UnitState
  parked : PyStr × PyStr → Option Bytes

/-- `d[key] = value`, or `d.pop(key, None)` -/
def dictPut {α β : Type} [DecidableEq α] (d : α → Option β) (key : α) (value : Option β) :
    α → Option β :=
  fun k => if k = key then value else d k

/-- SOURCE: stores.py:271-347, inside a larger state. -/
def InMemoryTidStore {χ : Type} (get : χ → TidTable) (put : TidTable → χ → χ) : TidStore χ where
  is_executed tid := Eff.mk fun g => (.ok ((get g).store tid = some .executed), g)
  mark_received tid := Eff.update fun g =>
    put { get g with store := dictPut (get g).store tid (some .received) } g
  mark_executed tid := Eff.update fun g =>
    put { get g with store := dictPut (get g).store tid (some .executed) } g
  mark_rolled_back tid := Eff.update fun g =>
    put { get g with store := dictPut (get g).store tid (some .rolled_back) } g
  confirm tid := Eff.update fun g => put { get g with store := dictPut (get g).store tid none } g
  park tid payload := Eff.update fun g =>
    put { get g with parked := dictPut (get g).parked tid (some payload) } g
  get_parked tid := Eff.mk fun g => (.ok ((get g).parked tid), g)
  delete_parked tid := Eff.update fun g =>
    put { get g with parked := dictPut (get g).parked tid none } g

/-- SOURCE: stores.py:355-422, inside a larger state. -/
def InMemoryUnitStore {χ : Type} (get : χ → UnitTable) (put : UnitTable → χ → χ) :
    UnitStore χ where
  get_unit_state unit_id unit_type := Eff.mk fun g =>
    (.ok (((get g).store (unit_id, unit_type)).getD .NOT_FOUND), g)
  persist unit_id unit_type := Eff.update fun g =>
    put { get g with store := dictPut (get g).store (unit_id, unit_type) (some .IN_PROCESS) } g
  confirm unit_id unit_type := Eff.update fun g =>
    put { get g with store := dictPut (get g).store (unit_id, unit_type) (some .CONFIRMED) } g
  park unit_id unit_type payload := Eff.update fun g =>
    put { get g with parked := dictPut (get g).parked (unit_id, unit_type) (some payload) } g
  get_parked unit_id unit_type := Eff.mk fun g => (.ok ((get g).parked (unit_id, unit_type)), g)
  delete_parked unit_id unit_type := Eff.update fun g =>
    put { get g with parked := dictPut (get g).parked (unit_id, unit_type) none } g

/-- The dicts of a process that keeps both stores in memory. -/
abbrev Tables : Type := TidTable × UnitTable

def Tables.empty : Tables := (⟨fun _ => none, fun _ => none⟩, ⟨fun _ => none, fun _ => none⟩)

def tablesTidStore : TidStore Tables := InMemoryTidStore Prod.fst fun t g => (t, g.2)

def tablesUnitStore : UnitStore Tables := InMemoryUnitStore Prod.snd fun t g => (g.1, t)

end SapRfc.Program
