import SapRfc.Program.Connection

/-!
# Retries of a submission

A submission sends its request once, and once more after each failure of the connection, up to
the number of retries.  Whatever else an attempt raises leaves at once.  When the last attempt
fails as well, the request is parked, and that is the only use that is made of a store.
-/

set_option autoImplicit false

namespace SapRfc.Analysis.Retries

open SapRfc.Library SapRfc.Program

variable {ω χ V : Type} {k : Client ω χ V} {key : ParkKey} {request : Bytes} {send : Op ω χ Unit}

/-- The store that a key belongs to parks the payload, and answers so. -/
def Parks (k : Client ω χ V) (payload : Bytes) (g : χ) : ParkKey → Except PyError Unit × χ → Prop
  | .tid tid, out => ∃ store, k.tid_store = some store ∧ Eff.run (store.park tid payload) g = out
  | .unit unit_id unit_type, out =>
    ∃ store, k.unit_store = some store ∧ Eff.run (store.park unit_id unit_type payload) g = out

/-- There is no store for the key. -/
def Storeless (k : Client ω χ V) : ParkKey → Prop
  | .tid _ => k.tid_store = none
  | .unit _ _ => k.unit_store = none

/-- How a submission ends after its attempts, which have left the connection as `c`. -/
inductive Ending (k : Client ω χ V) (key : ParkKey) (request : Bytes) (max_retries : ℕ)
    (outcomes : List (Except PyError Unit)) (c : Conn ω χ) :
    Except PyError Unit × Conn ω χ → Prop
  /-- the last attempt went through -/
  | returned (last : outcomes.getLast? = some (.ok ())) :
      Ending k key request max_retries outcomes c (.ok (), c)
  /-- the last attempt raised something else -/
  | propagated {exc : PyError} (last : outcomes.getLast? = some (.error exc))
      (other : exc.kind ≠ .communication) :
      Ending k key request max_retries outcomes c (.error exc, c)
  /-- all attempts failed, and the store has taken the request -/
  | parked {exc : PyError} {g : χ} (all : outcomes.length = max_retries + 1)
      (last : outcomes.getLast? = some (.error exc)) (fails : exc.kind = .communication)
      (parks : Parks k request c.user key (.ok (), g)) :
      Ending k key request max_retries outcomes c
        (.error (RetryExhausted key exc), { c with user := g })
  /-- all attempts failed, and there is no store -/
  | dropped {exc : PyError} (all : outcomes.length = max_retries + 1)
      (last : outcomes.getLast? = some (.error exc)) (fails : exc.kind = .communication)
      (storeless : Storeless k key) :
      Ending k key request max_retries outcomes c (.error (RetryExhausted key exc), c)
  /-- all attempts failed, and the store does not take the request -/
  | refused {exc exc' : PyError} {g : χ} (all : outcomes.length = max_retries + 1)
      (last : outcomes.getLast? = some (.error exc)) (fails : exc.kind = .communication)
      (refuses : Parks k request c.user key (.error exc', g)) :
      Ending k key request max_retries outcomes c (.error exc', { c with user := g })
  /-- the pause after a failure was cut short -/
  | interrupted {exc exc' : PyError} {w : ω} (some_left : outcomes.length ≤ max_retries)
      (last : outcomes.getLast? = some (.error exc)) (fails : exc.kind = .communication)
      (pause : Eff.run k.seam.sleep c.wire = (.error exc', w)) :
      Ending k key request max_retries outcomes c (.error exc', { c with wire := w })

/-- INTERNAL: one more attempt in front. -/
theorem Ending.again {max_retries : ℕ} {r : Except PyError Unit}
    {outcomes : List (Except PyError Unit)} {c : Conn ω χ} {out : Except PyError Unit × Conn ω χ}
    (h : Ending k key request max_retries outcomes c out) :
    Ending k key request (max_retries + 1) (r :: outcomes) c out := by
  have hlast : ∀ {x : Except PyError Unit}, outcomes.getLast? = some x →
      (r :: outcomes).getLast? = some x := by
    intro x hx
    rw [List.getLast?_cons, hx]
    rfl
  cases h with
  | returned last => exact .returned (hlast last)
  | propagated last other => exact .propagated (hlast last) other
  | parked all last fails parks => exact .parked (congrArg (· + 1) all) (hlast last) fails parks
  | dropped all last fails storeless =>
    exact .dropped (congrArg (· + 1) all) (hlast last) fails storeless
  | refused all last fails refuses =>
    exact .refused (congrArg (· + 1) all) (hlast last) fails refuses
  | interrupted some_left last fails pause =>
    exact .interrupted (Nat.succ_le_succ some_left) (hlast last) fails pause

end SapRfc.Analysis.Retries
