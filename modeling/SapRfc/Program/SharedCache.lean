import SapRfc.Library.Runs
import SapRfc.Program.SyncConnection

/-!
# Connections that share a cache of descriptors

A pool hands one `MetadataCache` to all its connections.  A step asks for a descriptor or makes
a call on one of them.  A connection over a WebSocket that has fallen back to a classic one goes
on with the cache of that one, which it shares with nobody.
-/

set_option autoImplicit false

namespace SapRfc.Program

open SapRfc.Library

/-- The descriptors of a `MetadataCache`. -/
abbrev Descriptors : Type := List ((PyStr × PyStr) × FunctionDesc)

section SharedCache

variable {ι ω χ V : Type}

section Client

variable (k : Client ω χ V)

/-- SOURCE: metadata.py:441-495, on the wrapper of an asynchronous core.  The wrapper has no
name of its own for a system that sends none, and its descriptors go uncached. -/
def delegated_function_desc (func_name : PyStr) : Op ω χ FunctionDesc := do
  let c ← Eff.state
  let cache_key := (c.session.attributes.map (·.sys_id)).filter (· ≠ [])
  let hit ← cache_hit k cache_key func_name
  match hit with
  | some desc => pure desc
  | none => do
    let desc ← async_call_bootstrap k func_name
    cache_fill k cache_key desc
    pure desc

/-- SOURCE: metadata.py:441-495. -/
def public_function_desc (delegated : Bool) (func_name : PyStr) : Op ω χ FunctionDesc :=
  if delegated then delegated_function_desc k func_name else get_function_desc k func_name

/-- A call up to the descriptor that it works with. -/
def call_desc (delegated : Bool) (func_name : PyStr) : Op ω χ FunctionDesc := do
  let c ← Eff.state
  if ¬ delegated ∧ c.is_ws ∧ c.session.state = .WS_PENDING then
    match assocGet WRFC_BUILTIN_DESCS (k.p.u.upper func_name) with
    | some builtin => pure builtin
    | none => get_function_desc k func_name
  else do
    onSession (require_state k.p.u [.READY])
    onSession (mark_in_call k.p.u)
    if delegated then async_function_desc k func_name
    else wrapTransportError (get_function_desc k func_name)

/-- The client that never gets to the second connection of a fallback. -/
def Client.undialled : Client ω χ V :=
  { k with redial := fun _ _ _ => throw (err .os []) }

end Client

/-- The connections, those that have a cache of their own, and the cache of the others. -/
structure Team (ι ω χ : Type) where
  conns : ι → Conn ω χ
  apart : ι → Bool
  shared : Descriptors

/-- What happens on one of the connections. -/
inductive TeamCall (ι ω χ V : Type) where
  | get_function_desc (i : ι) (func_name : PyStr)
  | call (i : ι) (func_name : PyStr) (params : Values V)
  | opened (i : ι) (c : Conn ω χ)
  /-- the connection has gone through other methods, none of which files a descriptor -/
  | moved (i : ι) (c : Conn ω χ)

/-- A connection with the descriptors that it sees. -/
def Team.conn (w : Team ι ω χ) (i : ι) : Conn ω χ :=
  if w.apart i then w.conns i else { w.conns i with cache := w.shared }

variable [DecidableEq ι] (k : ι → Client ω χ V) (delegated : ι → Bool)

/-- Run a method of one connection.  What a call files before its fallback is dialled goes to
the cache it shares, and what it files behind that goes to the fallback's. -/
def Team.perform {α : Type} (i : ι) (x : Client ω χ V → Op ω χ α) (w : Team ι ω χ) : Team ι ω χ :=
  let c := w.conn i
  let out := Eff.run (x (k i)) c
  { conns := Function.update w.conns i out.2
    apart := Function.update w.apart i (w.apart i || (c.is_ws && !out.2.is_ws))
    shared := if w.apart i then w.shared else (Eff.run (x (k i).undialled) c).2.cache }

/-- One step, and the descriptor that it obtains. -/
def teamStep : TeamCall ι ω χ V → Team ι ω χ → Option FunctionDesc × Team ι ω χ
  | .get_function_desc i func_name, w =>
    ((Eff.run (public_function_desc (k i) (delegated i) func_name) (w.conn i)).1.toOption,
      w.perform k i fun k => public_function_desc k (delegated i) func_name)
  | .call i func_name params, w =>
    ((Eff.run (call_desc (k i) (delegated i) func_name) (w.conn i)).1.toOption,
      w.perform k i fun k => call k (delegated i) func_name params)
  | .opened i c, w =>
    (none, { w with
      conns := Function.update w.conns i c
      apart := Function.update w.apart i false })
  | .moved i c, w =>
    (none, { w with conns := Function.update w.conns i { c with cache := (w.conns i).cache } })

end SharedCache

end SapRfc.Program
