import SapRfc.Program.Transport

/-!
# One stream and its peer

A connection's stream with the peer at its other end.  The peer takes a request and
answers with bytes; a byte that was not read yet remembers which request it answers.
What goes wrong is decided by a schedule: one plan for every exchange and for every
pause, and in a plan one choice for every step.  An empty plan lets everything through.

The log `taken` is read by the results only: for every byte that was read, the request
that was outstanding and the request the byte answers.
-/

set_option autoImplicit false

namespace SapRfc.Program

open SapRfc.Library

/-- What happens to one step. -/
inductive Choice where
  | proceed
  /-- the step raises and nothing else happens -/
  | refuse (e : PyError)
  /-- the request is written, or `lost` bytes are read and lost; then the step raises -/
  | fail (lost : ℕ) (e : PyError)
  /-- the request is written and its answer never comes -/
  | drop
  deriving DecidableEq, Repr

/-- The choices for one exchange: the send, then each read. -/
abbrev Plan : Type := List Choice

/-- The peer's answer to a request, and the error of a read the stream ends before. -/
structure Link (π : Type) where
  serve : π → Bytes → Bytes × π
  short : ℕ → ℕ → PyError
  short_eof : ∀ received n, (short received n).kind = .eof

/-- The state of a stream. -/
structure Wire (π : Type) where
  peer : π
  /-- bytes to be read, each with the request it answers -/
  unread : List (UInt8 × ℕ)
  /-- requests the peer has taken -/
  sent : ℕ
  plans : List Plan
  /-- what is left of the plan of the present exchange -/
  now : Plan
  taken : List (ℕ × ℕ)
  deriving DecidableEq

/-- A peer that answers one request after another from a list, and then none. -/
def scriptLink {ρ : Type} (render : ρ → Bytes) : Link (List ρ) where
  serve := fun replies _ => ((replies.head?.map render).getD [], replies.tail)
  short := incomplete_read
  short_eof := incomplete_read_kind

namespace Wire

variable {π : Type}

/-- A fresh stream to a peer. -/
def connect (peer : π) (plans : List Plan) : Wire π := ⟨peer, [], 0, plans, [], []⟩

/-- The first `k` bytes are read. -/
def took (w : Wire π) (k : ℕ) : Wire π :=
  { w with
    unread := w.unread.drop k
    taken := w.taken ++ (w.unread.take k).map fun b => (w.sent, b.2) }

variable (l : Link π)

/-- The peer takes a request and its answer is on its way. -/
def answered (w : Wire π) (request : Bytes) : Wire π :=
  { w with
    peer := (l.serve w.peer request).2
    unread := w.unread ++ (l.serve w.peer request).1.map fun b => (b, w.sent + 1)
    sent := w.sent + 1 }

/-- The peer takes a request and its answer is lost. -/
def unanswered (w : Wire π) (request : Bytes) : Wire π :=
  { w with
    peer := (l.serve w.peer request).2
    sent := w.sent + 1 }

/-- The next plan is the present one; its first choice is taken off. -/
def nextPlan (w : Wire π) : Wire π :=
  { w with
    plans := w.plans.tail
    now := (w.plans.headD []).tail }

/-- The choice for the next send or pause. -/
def firstChoice (w : Wire π) : Choice := (w.plans.headD []).headD .proceed

/-- SOURCE: transport.py:225-231, and 363-373 of the asynchronous transport. -/
def send_message (payload : Bytes) : Eff PyError (Wire π) Unit := Eff.mk fun w =>
  match build_ni_frame payload with
  | .error e => (.error e, w)
  | .ok _ =>
    match w.firstChoice with
    | .proceed => (.ok (), w.nextPlan.answered l payload)
    | .refuse e => (.error e, w.nextPlan)
    | .fail _ e => (.error e, w.nextPlan.answered l payload)
    | .drop => (.ok (), w.nextPlan.unanswered l payload)

/-- The bytes of one read: all of them, or the stream ends before. -/
def readBytes (n : ℕ) (w : Wire π) : Except PyError Bytes × Wire π :=
  if w.unread.length < n then (.error (l.short w.unread.length n), w.took w.unread.length)
  else (.ok ((w.unread.take n).map Prod.fst), w.took n)

/-- SOURCE: transport.py:187-203, and `StreamReader.readexactly`.  A read of no bytes
asks the socket nothing. -/
def recv_exactly (n : ℕ) : Eff PyError (Wire π) Bytes :=
  if n = 0 then pure []
  else Eff.mk fun w =>
    let w' := { w with now := w.now.tail }
    match w.now.headD .proceed with
    | .refuse e => (.error e, w')
    | .fail lost e => (.error e, w'.took (min lost (n - 1)))
    | .proceed => readBytes l n w'
    | .drop => readBytes l n w'

/-- SOURCE: transport.py:233-250, and 375-395 of the asynchronous transport. -/
def recv_message (u : Unicode) : Eff PyError (Wire π) Bytes :=
  Program.recv_message u (recv_exactly l)

/-- SOURCE: connection.py:5234, `await asyncio.sleep(delay)`. -/
def sleep : Eff PyError (Wire π) Unit := Eff.mk fun w =>
  match w.firstChoice with
  | .refuse e => (.error e, w.nextPlan)
  | .fail _ e => (.error e, w.nextPlan)
  | .proceed => (.ok (), w.nextPlan)
  | .drop => (.ok (), w.nextPlan)

end Wire

end SapRfc.Program
