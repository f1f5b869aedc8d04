import SmtBackend.Solver.Propositional
import SmtBackend.Solver.Residual
import SmtBackend.Handle
import SmtBackend.Kinds

/-!
# Solving sessions

A session owns at most one solver at a time. Between creating and deleting
it, the harness builds sorts and terms, asserts formulas in nested scopes,
checks satisfiability, possibly under assumptions, and asks for models and
unsat cores. Options given before the solver exists are queued and take
effect when it is created; options in the environment follow them. Every
change of the assertions forgets the last check's result, so a model or core
is only read right after the check that produced it.

The solver solves each check from scratch until, for good, the first scope,
check with assumptions or tracked assertions, or assertion after a check
makes it incremental; a reset returns it to the first mode. Propositional
problems, clauses over Boolean constants, go to the propositional engine:
afresh for each check in the first mode, and in the second to one engine
that follows every assertion, scope and check until a formula or assumption
outside its reach comes along. A failure leaves behind every change the
operation made before failing.
-/

namespace SmtBackend

open Solver

/-- A formula on the solver's assertion stack, with the literal that tracks
it when unsat cores are produced. -/
structure Assertion where
  formula : Term
  tracker : Option Term := none
  deriving Repr

/-- The formula an assertion puts on the stack: with a tracking literal,
the literal implies the formula. -/
def Assertion.stated (a : Assertion) : Term :=
  match a.tracker with
  | some t => Term.app .implies [t, a.formula]
  | none => a.formula

/-- The state of the solver. -/
structure SolverState where
  /-- Parameter settings in force. -/
  settings : Settings := []
  /-- The assertion stack, innermost scope first; never empty. -/
  scopes : List (List Assertion) := [[]]
  /-- Whether the solver has switched to incremental solving. -/
  incremental : Bool := false
  /-- Whether a check has run since the solver was created or reset. -/
  checked : Bool := false
  /-- What the last check found. -/
  outcome : Option Outcome := none
  /-- The incremental propositional engine, while every formula so far is
  a clause. -/
  engine : Option Sat.Context := some (Sat.Context.empty false)

namespace SolverState

/-- Every assertion, outermost scope first, in the order of assertion. -/
def assertions (st : SolverState) : List Assertion := st.scopes.reverse.flatten

/-- Add an assertion to the innermost scope. An assertion after a check
switches the solver to incremental solving. -/
def assert (st : SolverState) (a : Assertion) : SolverState :=
  let scopes := match st.scopes with
    | inner :: outer => (inner ++ [a]) :: outer
    | [] => [[a]]
  { st with scopes := scopes, incremental := st.incremental || st.checked,
            engine := st.engine.bind fun e => (factOf? a.stated).map e.assertFact }

/-- Open a scope. -/
def push (st : SolverState) : SolverState :=
  { st with scopes := [] :: st.scopes, incremental := true,
            engine := st.engine.map (·.userPush (seedOf st.settings)) }

/-- Close the innermost scope. -/
def pop (st : SolverState) : SolverState :=
  { st with scopes := (match st.scopes with
      | _ :: outer@(_ :: _) => outer
      | _ => [[]]), incremental := true,
            engine := st.engine.map (·.userPop) }

/-- The solver after a reset of its assertions: settings are kept. -/
def cleared (st : SolverState) : SolverState := { settings := st.settings }

/-- Run a check under assumptions. Tracking literals are assumed before
the given assumptions, and a check with any assumption is incremental. An
incremental check starts from the values of the last check's model, if
that check found one. -/
def check (st : SolverState) (assumptions : List Term) : SolverState × Verdict :=
  let all := st.assertions
  let assumed := all.filterMap (·.tracker) ++ assumptions
  let formulas := all.map (·.stated)
  let prior := match st.outcome with
    | some o => if o.verdict == .sat then o.model.bindings else []
    | none => []
  let general := fun (_ : Unit) => Solver.check st.settings prior formulas assumed
  let incremental := st.incremental || !assumed.isEmpty
  let (outcome, engine) :=
    if exhausts st.settings (formulas ++ assumed) then ({ verdict := .unknown }, st.engine)
    else if incremental then
      match st.engine, assumed.mapM assumptionOf? with
      | some e, some pairs =>
        let (e, answer) := e.check (seedOf st.settings) pairs
        match outcomeOf st.settings e answer with
        | some o => (o, some e)
        | none => (general (), none)
      | _, _ => (general (), none)
    else
      let o := match checkOnce st.settings formulas with
        | some o => { o with model := o.model.inTableOrder }
        | none => checkResidual st.settings formulas
      (o, st.engine)
  ({ st with outcome := some outcome, checked := true, incremental := incremental,
             engine := engine }, outcome.verdict)

end SolverState

/-- How a solver checks its assertions under native assumptions: the
solver afterwards, and the verdict. `SolverState.check` is the solver's own
check; the session works with any. -/
abbrev Checker := SolverState → List Term → SolverState × Verdict

/-- A session. -/
structure Session where
  /-- The options text of the environment, if the variable is set. -/
  environment : Option String := none
  /-- Options set so far, in the order first set, each with its last value. -/
  options : List (String × String) := []
  solver : Option SolverState := none
  depth : Nat := 0
  lastResult : Option Verdict := none
  lastAssumptions : List Handle := []
  /-- Tracking literals with the formulas they track. -/
  tracked : List (Term × TermHandle) := []
  /-- Tracking literals made so far; never reset, so names stay fresh. -/
  trackers : Nat := 0
  /-- Formulas asserted since the solver was created or reset. -/
  asserted : Nat := 0
  /-- The parameters the solver library describes: those an option can set. -/
  params : List ParamInfo := catalogue
  deriving Inhabited

/-- Operations on a session: they may fail, and keep their changes when
they do. -/
abbrev SessionM := ExceptT Failure (StateM Session)

namespace Session

/-- Lift a computation that may fail. -/
def lift {α : Type} (r : Except Failure α) : SessionM α :=
  match r with
  | .ok a => pure a
  | .error e => throw e

/-- Whether a solver exists. -/
def isInitialized : SessionM Bool := do return (← get).solver.isSome

/-- Fail unless a solver exists. -/
def checkInitialized : SessionM Unit := do
  lift (checkContract (← isInitialized) "Solver is not initialized")

/-- Change the solver, if there is one. -/
def modifySolver (f : SolverState → SolverState) : SessionM Unit :=
  modify fun s => { s with solver := s.solver.map f }

/-- Forget the last check's result. -/
def stateChanged : SessionM Unit := modify fun s => { s with lastResult := none }

/-- Forget the assertions' bookkeeping. -/
def clearAssertionState : SessionM Unit := do
  modify fun s => { s with depth := 0, tracked := [], asserted := 0 }
  stateChanged

/-- The literal that tracks the assertion made when `k` literals have been
made before. -/
def trackerOf (k : Nat) : Term := Term.const s!"_murxla_track_{k}" .bool

/-- Whether models are produced. -/
def modelGenEnabled (s : Session) : Bool :=
  (s.options.find? (·.1 == Options.produceModels)).map (·.2) != some "false"

/-- Whether unsat cores are produced. -/
def unsatCoresEnabled (s : Session) : Bool :=
  (s.options.find? (·.1 == Options.produceUnsatCores)).map (·.2) == some "true"

/-! ## Options -/

/-- Hand an option to the solver. Options that name no parameter are
accepted silently; a setting the solver refuses is a configuration
failure that names the option. -/
def applyOption (opt value : String) : SessionM Unit := do
  match Options.paramKey opt with
  | none => pure ()
  | some key =>
    let v := Options.paramValue value
    match accept? (← get).params key v with
    | some name => modifySolver fun st => { st with settings := st.settings.put name v }
    | none => throw (.rejected s!"Z3 rejected option '{opt}={value}': ")

/-- Set an option: applied at once to an existing solver, and recorded.
Unsat cores cannot be enabled once formulas have been asserted. -/
def setOpt (opt value : String) : SessionM Unit := do
  if ← isInitialized then
    let n := (← get).asserted
    lift (checkConfig (!(opt == Options.produceUnsatCores && value == "true" && n > 0))
      s!"Cannot enable '{opt}' after {n} formulas have been asserted")
    applyOption opt value
  modify fun s => { s with options := Options.setKey s.options opt value }

/-- Hand options to the solver in order, up to the first it refuses. -/
def applyAll (options : List (String × String)) : SessionM Unit := do
  for (opt, value) in options do
    applyOption opt value

/-- Set options in order, up to the first that fails. -/
def setAll (options : List (String × String)) : SessionM Unit := do
  for (opt, value) in options do
    setOpt opt value

/-- The options of the environment, read from its options text. -/
def environmentOptions (s : Session) : Except Failure (List (String × String)) :=
  let env := match s.environment with
    | some text => [(Options.environmentVariable, text)]
    | none => []
  Options.fromEnvironment env

/-- Apply the recorded options, then set those of the environment. -/
def applyOptions : SessionM Unit := do
  applyAll (← get).options
  setAll (← lift (environmentOptions (← get)))

/-! ## Life cycle -/

/-- Delete the solver. -/
def deleteSolver : SessionM Unit := do
  lift (checkContract (← isInitialized) "Solver is not initialized")
  modify fun s => { s with solver := none }
  clearAssertionState

/-- Create the solver and apply the options; if an option is refused the
solver is deleted again. -/
def newSolver : SessionM Unit := do
  lift (checkContract (!(← isInitialized)) "Solver is already initialized")
  modify fun s => { s with solver := some {}, depth := 0 }
  tryCatch applyOptions fun e => match e with
    | .config _ | .rejected _ => do deleteSolver; throw e
    | _ => throw e

/-- Leave a session scope: delete the solver if there is one. -/
def exit : SessionM Unit := do
  if ← isInitialized then deleteSolver

/-- Drop assertions and options; the options of the environment are set
again. -/
def reset : SessionM Unit := do
  checkInitialized
  modify fun s => { s with options := [], solver := some {} }
  clearAssertionState
  applyOptions

/-- Drop assertions; options stay in force. -/
def resetAssertions : SessionM Unit := do
  checkInitialized
  modifySolver SolverState.cleared
  clearAssertionState

/-! ## Sorts -/

/-- A sort of a kind without parameters, or a bit-vector or floating-point
sort of the given sizes. -/
def mkSort (kind : KindArg SortKind) (sizes : List Int) : SessionM SortHandle := do
  checkInitialized
  let name := kind.text SortKind.name
  match sizes with
  | [] =>
    match kind with
    | .known .bool => pure ⟨.bool, none⟩
    | .known .int => pure ⟨.int, none⟩
    | .known .real => pure ⟨.real, none⟩
    | .known .rm => pure ⟨.roundingMode, none⟩
    | .known .string => pure ⟨.string, none⟩
    | _ => throw (.config s!"Unsupported sort kind '{name}' as argument to mk_sort")
  | [w] =>
    lift (checkConfig (kind == .known .bv)
      s!"Unsupported sort kind '{name}' with one size argument, expected SORT_BV")
    lift (checkConfig (w > 0) s!"Invalid bit-width {w} for {name}")
    pure ⟨.bitVec w.toNat, none⟩
  | [e, s] =>
    lift (checkConfig (kind == .known .fp)
      s!"Unsupported sort kind '{name}' with two size arguments, expected SORT_FP")
    lift (checkConfig (e > 1 && s > 1) s!"Invalid floating-point format ({e}, {s}) for {name}")
    if s < 3 then throw (.native "ebits should be at least 2, sbits at least 3")
    if e > 63 then throw (.native "maximum number of exponent bits is 63")
    pure ⟨.float e.toNat s.toNat, none⟩
  | _ => throw (.config s!"Unsupported sort kind '{name}' with {sizes.length} size arguments")

/-- An uninterpreted sort. -/
def mkUninterpretedSort (name : String) : SessionM SortHandle := do
  checkInitialized
  pure ⟨.named (keptName name), none⟩

/-- An array sort of an index and an element sort, or a function sort of
domain sorts and a codomain sort (an array sort that remembers its
domain). -/
def mkCompositeSort (kind : KindArg SortKind) (sorts : List Handle) : SessionM SortHandle := do
  checkInitialized
  let ss ← lift (sorts.mapM Handle.asSort)
  let name := kind.text SortKind.name
  match kind with
  | .known .array =>
    match ss with
    | [i, e] => pure ⟨.array [i.native] e.native, none⟩
    | _ => throw (.config s!"Expected 2 sorts for {name}, got {ss.length}")
  | .known .fun =>
    lift (checkConfig (ss.length ≥ 2) s!"Expected at least 2 sorts for {name}, got {ss.length}")
    let domain := ss.take (ss.length - 1)
    let codomain := (ss.getLast?.map (·.native)).getD .bool
    pure ⟨.array (domain.map (·.native)) codomain, some domain⟩
  | _ => throw (.config s!"Unsupported sort kind '{name}' as argument to mk_sort with sorts")

/-- The sort of a term; with the function kind as hint, an array sort is
read as a function sort over its index sorts. -/
def getSort (term : TermHandle) (hint : KindArg SortKind) : SessionM SortHandle := do
  checkInitialized
  let s := term.sort
  if hint == .known .fun && s.isArray then
    pure ⟨s.native, some (s.native.domain.map fun d => ⟨d, none⟩)⟩
  else pure s

/-! ## Terms -/

/-- A free constant; a function sort stays attached to it. -/
def mkConst (sort : Handle) (name : String) : SessionM TermHandle := do
  checkInitialized
  let s ← lift sort.asSort
  pure ⟨Term.const (keptName name) s.native, if s.isFun then some s else none⟩

/-- Run a term constructor on an existing solver. -/
def construct {α : Type} (r : Except Failure α) : SessionM α := do
  checkInitialized
  lift r

/-! ## Assertions and checks -/

/-- Assert a Boolean formula in the innermost scope; it is tracked by a
fresh literal when unsat cores are produced. -/
def assertFormula (t : Handle) : SessionM Unit := do
  checkInitialized
  let isBool := t.sortView.isBool
  -- the check's message is built before the check, and it reads the term's sort
  let sort ← lift t.termSort
  lift (checkConfig isBool s!"Expected Boolean term to assert, got sort kind '{sort.kind.name}'")
  let th ← lift t.asTerm
  let s ← get
  if unsatCoresEnabled s then
    let tracker := trackerOf s.trackers
    modifySolver (·.assert ⟨th.native, some tracker⟩)
    modify fun s => { s with trackers := s.trackers + 1, tracked := s.tracked ++ [(tracker, th)] }
  else
    modifySolver (·.assert ⟨th.native, none⟩)
  modify fun s => { s with asserted := s.asserted + 1 }
  stateChanged

/-- Run a check of the solver under native assumptions. -/
def runCheck (check : Checker) (assumptions : List Term) : SessionM Verdict := do
  let some st := (← get).solver | throw (.contract "Solver is not initialized")
  let (st', verdict) := check st assumptions
  modify fun s => { s with solver := some st', lastResult := some verdict }
  return verdict

/-- Check the assertions. -/
def checkSat (check : Checker) : SessionM Verdict := do
  checkInitialized
  stateChanged
  modify fun s => { s with lastAssumptions := [] }
  runCheck check []

/-- Check the assertions under Boolean assumptions. -/
def checkSatAssuming (check : Checker) (assumptions : List Handle) : SessionM Verdict := do
  checkInitialized
  for a in assumptions do
    let isBool := a.sortView.isBool
    let sort ← lift a.termSort
    lift (checkConfig isBool s!"Expected Boolean assumption, got sort kind '{sort.kind.name}'")
  stateChanged
  modify fun s => { s with lastAssumptions := assumptions }
  let natives ← lift (assumptions.mapM Handle.asTerm)
  runCheck check (natives.map (·.native))

/-- The solver's core of the last check, which must have been unsat. -/
def nativeCore : SessionM (List Term) := do
  let s ← get
  lift (checkContract (s.lastResult == some .unsat)
    "Unsat core requested without preceding UNSAT result")
  return ((s.solver.bind (·.outcome)).map (·.core)).getD []

/-- Whether a handle is a term among the core's terms. -/
def inCore (core : List Term) : Handle → Bool
  | .term t => core.contains t.native
  | .sort _ => false

/-- The assumptions of the last check that are in its core, in order. -/
def getUnsatAssumptions : SessionM (List Handle) := do
  let core ← nativeCore
  return (← get).lastAssumptions.filter (inCore core)

/-- Whether a term is in the core of the last check. -/
def isUnsatAssumption (t : Handle) : SessionM Bool := do
  let core ← nativeCore
  return inCore core t

/-- The asserted formulas whose tracking literals are in the core, in the
core's order. -/
def getUnsatCore : SessionM (List TermHandle) := do
  lift (checkContract (unsatCoresEnabled (← get))
    s!"Unsat core requested without '{Options.produceUnsatCores}' enabled")
  let core ← nativeCore
  let tracked := (← get).tracked
  return core.filterMap (tracked.lookup ·)

/-- The model of the last check, which must have been sat. -/
def model : SessionM Model := do
  checkInitialized
  let s ← get
  lift (checkContract (s.lastResult == some .sat) "Model requested without preceding SAT result")
  return ((s.solver.bind (·.outcome)).map (·.model)).getD {}

/-- The values of terms in the model of the last check. Evaluation
completes the model: constants it did not define stay defined by the
values they were given. -/
def getValue (terms : List Handle) : SessionM (List TermHandle) := do
  let m ← model
  let ths ← lift (terms.mapM Handle.asTerm)
  let m := ths.foldl (fun m th => m.completeWith th.native) m
  modify fun s => { s with solver := s.solver.map fun st =>
    { st with outcome := st.outcome.map fun o => { o with model := m } } }
  return ths.map fun th => ⟨m.eval th.native, th.trackedFun⟩

/-- The text of the model of the last check, as printed. -/
def printModel : SessionM String := do
  let m ← model
  return m.text ++ "\n"

/-! ## Scopes -/

/-- Open `n` scopes. -/
def push (n : Int) : SessionM Unit := do
  checkInitialized
  for _ in List.range n.toNat do
    modifySolver SolverState.push
    modify fun s => { s with depth := s.depth + 1 }
  stateChanged

/-- Close `n` scopes, at most as many as are open. -/
def pop (n : Int) : SessionM Unit := do
  checkInitialized
  let d := (← get).depth
  lift (checkContract (n ≤ d) s!"Cannot pop {n} levels at depth {d}")
  for _ in List.range n.toNat do
    modifySolver SolverState.pop
    modify fun s => { s with depth := s.depth - 1 }
  stateChanged

end Session

end SmtBackend
