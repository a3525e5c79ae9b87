import SapRfc.Program.Stores
import Mathlib.Data.Set.Basic

/-!
# The durable stores

`SqliteTidStore` and `SqliteUnitStore` over a table with a primary key, one definition for
each SQL statement, beside the methods that list what is parked.  A store's operations are a
type, so that a history of them can be played to any implementation of the protocol.
-/

set_option autoImplicit false

namespace SapRfc.Program

open SapRfc.Library

/-! ## Listing what is parked -/

/-- SOURCE: stores.py:122-188.  `list_parked`, up to the order. -/
structure ListedTidStore (χ : Type) extends TidStore χ where
  list_parked : Eff PyError χ (Set PyStr)

/-- SOURCE: stores.py:197-258.  `list_parked`, up to the order. -/
structure ListedUnitStore (χ : Type) extends UnitStore χ where
  list_parked : Eff PyError χ (Set (PyStr × PyStr))

/-- SOURCE: stores.py:271-347. -/
def listedTidStore : ListedTidStore TidTable where
  toTidStore := InMemoryTidStore id fun t _ => t
  list_parked := Eff.mk fun g => (.ok { tid | g.parked tid ≠ none }, g)

/-- SOURCE: stores.py:355-422. -/
def listedUnitStore : ListedUnitStore UnitTable where
  toUnitStore := InMemoryUnitStore id fun t _ => t
  list_parked := Eff.mk fun g => (.ok { key | g.parked key ≠ none }, g)

/-! ## SQL -/

/-- The columns of a row that a statement reads. -/
structure SqlRow (σ : Type) where
  state : σ
  payload : Option Bytes

/-- A table by its primary key. -/
abbrev SqlTable (κ σ : Type) : Type := κ → Option (SqlRow σ)

namespace SqlTable

variable {κ σ : Type} [DecidableEq κ]

/-- `INSERT INTO t VALUES(..) ON CONFLICT(key) DO UPDATE SET ..` -/
def upsert (key : κ) (row : SqlRow σ) (update : SqlRow σ → SqlRow σ) (t : SqlTable κ σ) :
    SqlTable κ σ :=
  dictPut t key (some (match t key with
    | none => row
    | some old => update old))

/-- `UPDATE t SET .. WHERE key = ?` -/
def update (key : κ) (f : SqlRow σ → SqlRow σ) (t : SqlTable κ σ) : SqlTable κ σ :=
  dictPut t key ((t key).map f)

/-- `DELETE FROM t WHERE key = ?` -/
def delete (key : κ) (t : SqlTable κ σ) : SqlTable κ σ := dictPut t key none

/-- `INSERT INTO t(key, state) VALUES(?, ?) ON CONFLICT(key) DO UPDATE SET state =
excluded.state` -/
def put_state (key : κ) (state : σ) (t : SqlTable κ σ) : SqlTable κ σ :=
  upsert key ⟨state, none⟩ (fun old => { old with state := state }) t

/-- `INSERT INTO t(key, state, payload) VALUES(?, ?, ?) ON CONFLICT(key) DO UPDATE SET payload =
excluded.payload` -/
def put_payload (key : κ) (state : σ) (payload : Bytes) (t : SqlTable κ σ) : SqlTable κ σ :=
  upsert key ⟨state, some payload⟩ (fun old => { old with payload := some payload }) t

/-- `SELECT payload FROM t WHERE key = ?` -/
def payload (key : κ) (t : SqlTable κ σ) : Option Bytes := (t key).bind SqlRow.payload

/-- `SELECT key FROM t WHERE payload IS NOT NULL` -/
def with_payload (t : SqlTable κ σ) : Set κ := { key | t.payload key ≠ none }

end SqlTable

/-- A text argument of a statement is passed as UTF-8. -/
def bind_text (s : PyStr) : Except PyError Unit :=
  if s.any isSurrogate then
    .error (err .unicodeEncode (lit "'utf-8' codec can't encode: surrogates not allowed"))
  else .ok ()

section Statements

variable {κ σ : Type}

/-- A statement that changes the table. -/
def execute (keys : List PyStr) (f : SqlTable κ σ → SqlTable κ σ) :
    Eff PyError (SqlTable κ σ) Unit := do
  Eff.lift (keys.forM bind_text)
  Eff.update f

/-- A statement that reads from the table. -/
def select {β : Type} (keys : List PyStr) (f : SqlTable κ σ → β) :
    Eff PyError (SqlTable κ σ) β := do
  Eff.lift (keys.forM bind_text)
  let t ← Eff.state
  pure (f t)

end Statements

/-- SOURCE: stores.py:430-623. -/
def SqliteTidStore : ListedTidStore (SqlTable PyStr TidMark) where
  is_executed tid := select [tid] fun t => decide ((t tid).map SqlRow.state = some .executed)
  mark_received tid := execute [tid] (SqlTable.put_state tid .received)
  mark_executed tid := execute [tid] (SqlTable.put_state tid .executed)
  mark_rolled_back tid := execute [tid] (SqlTable.put_state tid .rolled_back)
  confirm tid := execute [tid] (SqlTable.delete tid)
  park tid payload := execute [tid] (SqlTable.put_payload tid .received payload)
  get_parked tid := select [tid] (SqlTable.payload tid)
  delete_parked tid := execute [tid] (SqlTable.update tid fun row => { row with payload := none })
  list_parked := select [] SqlTable.with_payload

/-- SOURCE: stores.py:631-804. -/
def SqliteUnitStore : ListedUnitStore (SqlTable (PyStr × PyStr) UnitState) where
  get_unit_state unit_id unit_type := select [unit_id, unit_type] fun t =>
    ((t (unit_id, unit_type)).map SqlRow.state).getD .NOT_FOUND
  persist unit_id unit_type :=
    execute [unit_id, unit_type] (SqlTable.put_state (unit_id, unit_type) .IN_PROCESS)
  confirm unit_id unit_type :=
    execute [unit_id, unit_type] (SqlTable.put_state (unit_id, unit_type) .CONFIRMED)
  park unit_id unit_type payload :=
    execute [unit_id, unit_type] (SqlTable.put_payload (unit_id, unit_type) .IN_PROCESS payload)
  get_parked unit_id unit_type :=
    select [unit_id, unit_type] (SqlTable.payload (unit_id, unit_type))
  delete_parked unit_id unit_type :=
    execute [unit_id, unit_type]
      (SqlTable.update (unit_id, unit_type) fun row => { row with payload := none })
  list_parked := select [] SqlTable.with_payload

/-! ## Operations -/

/-- An operation of a TID store. -/
inductive TidOp where
  | mark_received (tid : PyStr)
  | mark_executed (tid : PyStr)
  | mark_rolled_back (tid : PyStr)
  | confirm (tid : PyStr)
  | park (tid : PyStr) (payload : Bytes)
  | delete_parked (tid : PyStr)
  | is_executed (tid : PyStr)
  | get_parked (tid : PyStr)
  | list_parked
  deriving DecidableEq

/-- An operation of a unit store. -/
inductive UnitOp where
  | persist (unit_id unit_type : PyStr)
  | confirm (unit_id unit_type : PyStr)
  | park (unit_id unit_type : PyStr) (payload : Bytes)
  | delete_parked (unit_id unit_type : PyStr)
  | get_unit_state (unit_id unit_type : PyStr)
  | get_parked (unit_id unit_type : PyStr)
  | list_parked
  deriving DecidableEq

/-- What an operation returns. -/
inductive StoreAnswer (κ : Type) where
  | none
  | flag (answer : Bool)
  | state (answer : UnitState)
  | payload (answer : Option Bytes)
  | keys (answer : Set κ)

section Play

variable {χ : Type}

def TidOp.program (store : ListedTidStore χ) : TidOp → Eff PyError χ (StoreAnswer PyStr)
  | mark_received tid => do store.mark_received tid; pure .none
  | mark_executed tid => do store.mark_executed tid; pure .none
  | mark_rolled_back tid => do store.mark_rolled_back tid; pure .none
  | confirm tid => do store.confirm tid; pure .none
  | park tid payload => do store.park tid payload; pure .none
  | delete_parked tid => do store.delete_parked tid; pure .none
  | is_executed tid => do let answer ← store.is_executed tid; pure (.flag answer)
  | get_parked tid => do let answer ← store.get_parked tid; pure (.payload answer)
  | list_parked => do let answer ← store.list_parked; pure (.keys answer)

def UnitOp.program (store : ListedUnitStore χ) :
    UnitOp → Eff PyError χ (StoreAnswer (PyStr × PyStr))
  | persist unit_id unit_type => do store.persist unit_id unit_type; pure .none
  | confirm unit_id unit_type => do store.confirm unit_id unit_type; pure .none
  | park unit_id unit_type payload => do store.park unit_id unit_type payload; pure .none
  | delete_parked unit_id unit_type => do store.delete_parked unit_id unit_type; pure .none
  | get_unit_state unit_id unit_type => do
    let answer ← store.get_unit_state unit_id unit_type
    pure (.state answer)
  | get_parked unit_id unit_type => do
    let answer ← store.get_parked unit_id unit_type
    pure (.payload answer)
  | list_parked => do let answer ← store.list_parked; pure (.keys answer)

end Play

end SapRfc.Program
