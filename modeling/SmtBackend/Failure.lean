/-!
# Failures reported to the harness

A request either succeeds or fails with one of five failures. A
configuration failure says that the backend cannot realize a request; a
contract failure says that the harness broke an invariant of the backend.
When the solver itself refuses a request, the backend reports a
configuration failure caused by the solver (`rejected`); the solver's
own text is not part of the message. A few solver refusals reach the
harness unwrapped (`native`). The binding is dynamically typed: an operand
or a handle that has no operation of the name asked for raises the
binding's own error, which nothing in the backend catches (`unchecked`).
-/

namespace SmtBackend

/-- Why a request failed. -/
inductive Failure where
  /-- The request is not realizable by this backend. -/
  | config (message : String)
  /-- An invariant between harness and backend is broken. -/
  | contract (message : String)
  /-- The solver refused the request; the message names what was refused. -/
  | rejected (message : String)
  /-- The solver refused the request and nothing wrapped its refusal. -/
  | native (message : String)
  /-- An operand or a handle has no operation of the name asked for: the
  binding's error, a type or an attribute error by its class name, reaches
  the harness as it was raised. -/
  | unchecked (className message : String)
  deriving DecidableEq, Repr

/-- The class name under which the harness sees a failure. -/
def Failure.className : Failure → String
  | .config _ | .rejected _ => "MurxlaConfigError"
  | .contract _ => "MurxlaContractError"
  | .native _ => "Z3Exception"
  | .unchecked c _ => c

/-- The text of a failure. -/
def Failure.message : Failure → String
  | .config m | .contract m | .rejected m | .native m | .unchecked _ m => m

/-- The class name of the solver refusal behind a failure, if any. -/
def Failure.cause? : Failure → Option String
  | .rejected _ => some "Z3Exception"
  | _ => none

/-- Fail with a configuration failure unless the condition holds. -/
def checkConfig (cond : Bool) (message : String) : Except Failure Unit :=
  if cond then .ok () else .error (.config message)

theorem checkConfig_bind_ok {α : Type} {cond : Bool} {message : String}
    {f : Unit → Except Failure α} {a : α} :
    (checkConfig cond message >>= f) = .ok a ↔ cond = true ∧ f () = .ok a := by
  cases cond <;> simp [checkConfig, bind, Except.bind]

/-- Fail with a contract failure unless the condition holds. -/
def checkContract (cond : Bool) (message : String) : Except Failure Unit :=
  if cond then .ok () else .error (.contract message)

end SmtBackend
