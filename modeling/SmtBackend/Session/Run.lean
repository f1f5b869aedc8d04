import SmtBackend.Session

/-!
# Runs of a session

The harness drives a session by a sequence of operations, each of which
answers. A failure does not end the run: the next operation starts from
whatever the failing one left behind. Checks answer their verdict, every
other operation answers nothing here; what construction and queries return
leaves no trace in the session.

A run starts from a fresh session, which holds no solver yet and knows the
options text of its environment.
-/

namespace SmtBackend

open Solver

/-- A session computation started from a session: its result, and the
session it leaves behind. -/
def SessionM.runOn {α : Type} (x : SessionM α) (s : Session) : Except Failure α × Session :=
  x.run.run s

namespace Session

/-- The operations of a session. Term constructors that read nothing of
the session but whether a solver exists (functions, values, special
values, applications) are one operation, given by what they build. -/
inductive Op where
  | newSolver
  | deleteSolver
  | exit
  | setOpt (opt value : String)
  | mkSort (kind : KindArg SortKind) (sizes : List Int)
  | mkUninterpretedSort (name : String)
  | mkCompositeSort (kind : KindArg SortKind) (sorts : List Handle)
  | getSort (term : TermHandle) (hint : KindArg SortKind)
  | mkConst (sort : Handle) (name : String)
  | construct (built : Except Failure TermHandle)
  | assertFormula (t : Handle)
  | checkSat
  | checkSatAssuming (assumptions : List Handle)
  | getUnsatAssumptions
  | isUnsatAssumption (t : Handle)
  | getUnsatCore
  | getValue (terms : List Handle)
  | printModel
  | push (n : Int)
  | pop (n : Int)
  | reset
  | resetAssertions
  /-- Dropping the cached model: the model is the solver's own, so nothing
  is dropped. -/
  | resetSat

/-- Run an operation with a given check; a check answers its verdict. -/
def Op.run (check : Checker) : Op → SessionM (Option Verdict)
  | .newSolver => do Session.newSolver; pure none
  | .deleteSolver => do Session.deleteSolver; pure none
  | .exit => do Session.exit; pure none
  | .setOpt opt value => do Session.setOpt opt value; pure none
  | .mkSort kind sizes => do discard (Session.mkSort kind sizes); pure none
  | .mkUninterpretedSort name => do discard (Session.mkUninterpretedSort name); pure none
  | .mkCompositeSort kind sorts => do discard (Session.mkCompositeSort kind sorts); pure none
  | .getSort term hint => do discard (Session.getSort term hint); pure none
  | .mkConst sort name => do discard (Session.mkConst sort name); pure none
  | .construct built => do discard (Session.construct built); pure none
  | .assertFormula t => do Session.assertFormula t; pure none
  | .checkSat => some <$> Session.checkSat check
  | .checkSatAssuming assumptions => some <$> Session.checkSatAssuming check assumptions
  | .getUnsatAssumptions => do discard Session.getUnsatAssumptions; pure none
  | .isUnsatAssumption t => do discard (Session.isUnsatAssumption t); pure none
  | .getUnsatCore => do discard Session.getUnsatCore; pure none
  | .getValue terms => do discard (Session.getValue terms); pure none
  | .printModel => do discard Session.printModel; pure none
  | .push n => do Session.push n; pure none
  | .pop n => do Session.pop n; pure none
  | .reset => do Session.reset; pure none
  | .resetAssertions => do Session.resetAssertions; pure none
  | .resetSat => pure none

/-- What an operation answers. -/
abbrev Answer := Except Failure (Option Verdict)

/-- One operation on a session: its answer and the session after it. -/
def step (check : Checker) (s : Session) (op : Op) : Answer × Session :=
  (op.run check).runOn s

/-- Operations in order, each from the session the one before left: the
answers, and the session at the end. -/
def exec (check : Checker) : List Op → Session → List Answer × Session
  | [], s => ([], s)
  | op :: ops, s =>
    let first := step check s op
    let rest := exec check ops first.2
    (first.1 :: rest.1, rest.2)

/-- A fresh session, given the options text of its environment. -/
def fresh (environment : Option String) : Session := { environment := environment }

/-- A fresh session on a solver library that describes the parameters
`params`, given the options text of its environment. -/
def freshOn (params : List ParamInfo) (environment : Option String) : Session :=
  { environment := environment, params := params }

end Session

end SmtBackend
