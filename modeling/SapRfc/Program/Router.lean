import Mathlib.Data.List.ModifyLast
import SapRfc.Program.Params

/-!
# Routes through SAProuters

A route string names the hops of a route, each with a host and, where there are any, a service
and a password.  The route request names them again, in a buffer with counts and lengths.
-/

set_option autoImplicit false

namespace SapRfc.Program

open SapRfc.Library

/-! ## Route strings -/

/-- `_HOST_MARKER` -/
def HOST_MARKER : PyStr := lit "H"

/-- `_SERVICE_MARKER` -/
def SERVICE_MARKER : PyStr := lit "S"

/-- `_PASSWORD_MARKER` -/
def PASSWORD_MARKER : PyStr := lit "P"

/-- SOURCE: router.py:115-126. -/
structure RouteHop where
  host : PyStr
  service : PyStr := []
  password : PyStr := []
  talk_mode : ℤ := 0
  deriving DecidableEq, Repr

/-- The error of a route string. -/
def malformedRoute (what : PyStr) : PyError :=
  err .value (lit "malformed route string: " ++ what)

/-- SOURCE: router.py:152-176.  A host begins a hop; a service or a password goes to the last
hop there is. -/
def read_route_tokens (u : Unicode) :
    List PyStr → List RouteHop → Except PyError (List RouteHop)
  | [], hops => .ok hops
  | [marker], hops =>
    if marker = HOST_MARKER then .error (malformedRoute (lit "/H/ without a host value"))
    else if marker = SERVICE_MARKER then
      if hops = [] then .error (malformedRoute (lit "/S/ before any /H/ host"))
      else .error (malformedRoute (lit "/S/ without a service value"))
    else if marker = PASSWORD_MARKER then
      if hops = [] then .error (malformedRoute (lit "/P/ before any /H/ host"))
      else .error (malformedRoute (lit "/P/ without a password value"))
    else .error (malformedRoute (lit "unknown marker " ++ u.repr marker ++
      lit " (expected one of H/S/P)"))
  | marker :: value :: rest, hops =>
    if marker = HOST_MARKER then read_route_tokens u rest (hops ++ [{ host := value }])
    else if marker = SERVICE_MARKER then
      if hops = [] then .error (malformedRoute (lit "/S/ before any /H/ host"))
      else read_route_tokens u rest (hops.modifyLast fun hop => { hop with service := value })
    else if marker = PASSWORD_MARKER then
      if hops = [] then .error (malformedRoute (lit "/P/ before any /H/ host"))
      else read_route_tokens u rest (hops.modifyLast fun hop => { hop with password := value })
    else .error (malformedRoute (lit "unknown marker " ++ u.repr marker ++
      lit " (expected one of H/S/P)"))

/-- SOURCE: router.py:129-180.  The string is empty or begins with a slash, so the first token is
empty and one more follows. -/
def parse_route_string (u : Unicode) (route : PyStr) : Except PyError (List RouteHop) :=
  if route.head? ≠ some 47 then
    .error (malformedRoute (lit "must be a non-empty '/H/host/S/service/...' chain"))
  else do
    let tokens := splitOn 47 route
    let tokens := if tokens.head? = some [] then tokens.tail else tokens
    if tokens = [] then .error (malformedRoute (lit "no hops found"))
    else do
      let hops ← read_route_tokens u tokens []
      if hops = [] then .error (malformedRoute (lit "no /H/ host hops found")) else .ok hops

/-! ## Route requests -/

/-- `_NI_ROUTE_MARKER + b"\x00"` and the three fixed bytes behind it. -/
def NI_ROUTE_START : Bytes :=
  [0x4E, 0x49, 0x5F, 0x52, 0x4F, 0x55, 0x54, 0x45, 0x00, 0x02, 0x28, 0x02]

/-- SOURCE: router.py:212-213. -/
def null_term (s : PyStr) : Except PyError Bytes := do
  let b ← encodeAscii s
  .ok (b ++ [0])

/-- SOURCE: router.py:230-231. -/
def route_entry (host service password : PyStr) : Except PyError Bytes := do
  let h ← null_term host
  let s ← null_term service
  let p ← null_term password
  .ok (h ++ s ++ p)

/-- SOURCE: router.py:183-250.  `build_ni_route`. -/
def build_ni_route (hops : List RouteHop) (dest_host dest_service : PyStr) :
    Except PyError Bytes :=
  if hops = [] then .error (err .value (lit "build_ni_route: at least one hop is required"))
  else do
    let hop_entries ← hops.mapM fun h => route_entry h.host h.service h.password
    let dest_data ← route_entry dest_host dest_service []
    let total_data := (hop_entries.map List.length).sum + dest_data.length
    let hop_count ← pack_u32 hops.length
    let total ← pack_u32 total_data
    let entries ← hop_entries.mapM fun entry => do
      let length ← pack_u32 entry.length
      .ok (length ++ entry)
    .ok (NI_ROUTE_START ++ hop_count ++ total ++ entries.flatten ++ dest_data)

end SapRfc.Program
