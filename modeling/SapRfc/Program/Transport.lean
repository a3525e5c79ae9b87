import SapRfc.Library.ChunkedReads
import SapRfc.Program.Python

/-!
# NI messages

A message is its length in four bytes and then the payload.  The reader is written
over `recv_exactly`, the only thing it asks of a socket; the writer is the frame it
hands to the socket.
-/

set_option autoImplicit false

namespace SapRfc.Program

open SapRfc.Library

/-- The seam between a connection and its transport, over the state of the transport. -/
structure InnerTransport (ι : Type) where
  send_message : Bytes → Eff PyError ι Unit
  recv_message : Eff PyError ι Bytes

/-- `_MAX_FRAME_BYTES`: no message above 128 MiB is read. -/
def MAX_FRAME_BYTES : ℕ := 128 * 1024 * 1024

/-- `b"NI_RTERR"` -/
def NI_RTERR : Bytes := [0x4E, 0x49, 0x5F, 0x52, 0x54, 0x45, 0x52, 0x52]

/-- `_NI_ERROR_FALLBACK` -/
def NI_ERROR_FALLBACK : PyStr :=
  lit ("the SAProuter refused the route. Common causes: the route is not permitted " ++
    "by the router's permission table, a hop password is wrong or missing, or the " ++
    "target host/port is unreachable from the router")

/-- `payload[payload.find(marker):]`, or nothing where the marker is missing. -/
def findFrom (marker : Bytes) : Bytes → Option Bytes
  | [] => if marker = [] then some [] else none
  | b :: rest =>
    if marker <+: (b :: rest) then some (b :: rest) else findFrom marker rest

/-- ASCII white space, as `bytes.strip` sees it. -/
def isAsciiSpace (b : UInt8) : Bool :=
  b = 0x20 || (decide (0x09 ≤ b.toNat) && decide (b.toNat ≤ 0x0D))

/-- SOURCE: transport.py:127-149. -/
def ni_error_text (u : Unicode) (payload : Bytes) : PyStr :=
  match findFrom [0x2A, 0x45, 0x52, 0x52, 0x2A] payload with
  | none => NI_ERROR_FALLBACK
  | some record =>
    let fields := (splitOn 0 record).filter fun f => f.any fun b => !isAsciiSpace b
    match fields with
    | _ :: _ :: field :: _ =>
      let message := strip u (decodeLatin1 field)
      if message = [] then NI_ERROR_FALLBACK else message
    | _ => NI_ERROR_FALLBACK

/-- SOURCE: transport.py:152-159. -/
def raise_for_ni_error (u : Unicode) (payload : Bytes) : Except PyError Unit :=
  if payload.take 8 = NI_RTERR then
    .error (err .sapRfc (lit "SAProuter refused the route: " ++ ni_error_text u payload))
  else .ok ()

/-- SOURCE: transport.py:172-174. -/
def build_ni_frame (payload : Bytes) : Except PyError Bytes :=
  if 256 ^ 4 ≤ payload.length then
    .error (err .structError (lit "'I' format requires 0 <= number <= 4294967295"))
  else .ok (toBE 4 payload.length ++ payload)

/-- SOURCE: transport.py:233-250.  The check for a router's refusal comes after the
payload was read. -/
def recv_message {σ : Type} (u : Unicode) (recv_exactly : ℕ → Eff PyError σ Bytes) :
    Eff PyError σ Bytes := do
  let header ← recv_exactly 4
  let length := ofBE header
  if MAX_FRAME_BYTES < length then
    throw (err .value (lit "NI frame length " ++ dec length ++ lit " exceeds cap " ++
      dec MAX_FRAME_BYTES ++ lit " (DoS guard)"))
  else do
    let payload ← recv_exactly length
    Eff.lift (raise_for_ni_error u payload)
    pure payload

section Rules

variable {σ : Type} {u : Unicode} {recv_exactly : ℕ → Eff PyError σ Bytes}

theorem keeps_recv_message {R : σ → σ → Prop} (refl : ∀ s, R s s)
    (trans : ∀ a b c, R a b → R b c → R a c) (h : ∀ n, Eff.Keeps R (recv_exactly n)) :
    Eff.Keeps R (recv_message u recv_exactly) := by
  unfold recv_message
  refine Eff.Keeps.bind trans (h 4) fun header => ?_
  refine Eff.Keeps.ite _ (Eff.Keeps.throw refl _) ?_
  refine Eff.Keeps.bind trans (h _) fun payload => ?_
  exact Eff.Keeps.bind trans (Eff.Keeps.lift refl _) fun _ => Eff.Keeps.pure refl _

theorem tracks_recv_message {τ : Type} {R : σ → τ → Prop} {E : PyError → Prop}
    {recv_exactly' : ℕ → Eff PyError τ Bytes}
    (h : ∀ n, Eff.Tracks R E (recv_exactly n) (recv_exactly' n)) :
    Eff.Tracks R E (recv_message u recv_exactly) (recv_message u recv_exactly') := by
  unfold recv_message
  refine Eff.Tracks.bind (h 4) fun header => ?_
  refine Eff.Tracks.ite _ (Eff.Tracks.throw _) ?_
  refine Eff.Tracks.bind (h _) fun payload => ?_
  exact Eff.Tracks.bind (Eff.Tracks.lift _) fun _ => Eff.Tracks.pure _

end Rules

/-- SOURCE: transport.py:200-201. -/
def short_read (received n : ℕ) : PyError :=
  err .eof (lit "connection closed after " ++ dec received ++ lit "/" ++ dec n ++ lit " bytes")

/-- `asyncio.IncompleteReadError` -/
def incomplete_read (received n : ℕ) : PyError :=
  err .eof (dec received ++ lit " bytes read on a total of " ++ dec n ++ lit " expected bytes")

theorem incomplete_read_kind (received n : ℕ) : (incomplete_read received n).kind = .eof := rfl

/-- SOURCE: transport.py:187-203, and `StreamReader.readexactly`.  A socket whose peer has
sent these bytes and then closed. -/
def recv_exactly_closed (short : ℕ → ℕ → PyError) (n : ℕ) : Eff PyError Bytes Bytes :=
  ChunkedReads.exactly short n

end SapRfc.Program
