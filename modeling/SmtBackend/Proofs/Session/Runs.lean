import SmtBackend.Proofs.Session.Effects
import SmtBackend.Session.Run

/-!
# Runs of a session

A run is `exec`: operations in order from a session, each answering and
leaving a session for the next. This module says once what a single
operation can do to the session, and gives the induction that carries a
property of sessions along a whole run.

* Construction and the queries other than reading values leave the session
  as it was (`step_of_readOnly`).
* A session without a solver has nothing asserted, no scope open and no
  result of a check (`ClearWhenIdle`), on every run from a fresh session
  (`exec_clearWhenIdle`). The operations that create a solver rely on it:
  they never clear what a deleted solver left.
-/

namespace SmtBackend

open Solver SessionM

namespace Session

variable {α β : Type} {check : Checker} {s : Session}

/-! ## One operation -/

/-- Operations that leave every session as it was: construction, the
queries other than reading values, and dropping the cached model. -/
def Op.isReadOnly : Op → Bool
  | .mkSort .. | .mkUninterpretedSort _ | .mkCompositeSort .. | .getSort .. | .mkConst ..
  | .construct _ | .getUnsatAssumptions | .isUnsatAssumption _ | .getUnsatCore | .printModel
  | .resetSat => true
  | _ => false

theorem Op.run_readOnly (check : Checker) : ∀ {op : Op}, op.isReadOnly → ReadOnly (op.run check)
  | .mkSort kind sizes, _ => (mkSort_readOnly kind sizes).discard.bind fun _ => .of_pure _
  | .mkUninterpretedSort name, _ =>
    (mkUninterpretedSort_readOnly name).discard.bind fun _ => .of_pure _
  | .mkCompositeSort kind sorts, _ =>
    (mkCompositeSort_readOnly kind sorts).discard.bind fun _ => .of_pure _
  | .getSort term hint, _ => (getSort_readOnly term hint).discard.bind fun _ => .of_pure _
  | .mkConst sort name, _ => (mkConst_readOnly sort name).discard.bind fun _ => .of_pure _
  | .construct built, _ => (construct_readOnly built).discard.bind fun _ => .of_pure _
  | .getUnsatAssumptions, _ => getUnsatAssumptions_readOnly.discard.bind fun _ => .of_pure _
  | .isUnsatAssumption t, _ => (isUnsatAssumption_readOnly t).discard.bind fun _ => .of_pure _
  | .getUnsatCore, _ => getUnsatCore_readOnly.discard.bind fun _ => .of_pure _
  | .printModel, _ => printModel_readOnly.discard.bind fun _ => .of_pure _
  | .resetSat, _ => .of_pure _

/-- The checks, which answer a verdict. -/
def Op.isCheck : Op → Bool
  | .checkSat | .checkSatAssuming _ => true
  | _ => false

theorem step_of_readOnly {op : Op} (h : op.isReadOnly) : (step check s op).2 = s :=
  Op.run_readOnly check h s

/-- Asserting a formula either fails and leaves the session as it was, or
asserts a term handle on the solver. -/
theorem step_assertFormula_cases (t : Handle) :
    (∃ e, step check s (.assertFormula t) = (.error e, s)) ∨
      ∃ th, t = .term th ∧ step check s (.assertFormula t) = (.ok none, s.withAssertion th) := by
  simp only [step, Op.run, runOn_then_pure, assertFormula_runOn]
  by_cases hs : s.solver.isSome
  · cases t with
    | sort so => exact .inl ⟨_, by simp only [if_pos hs]; rfl⟩
    | term th =>
      by_cases hb : th.sort.isBool
      · exact .inr ⟨th, rfl, by simp only [if_pos hs, if_pos hb]; rfl⟩
      · exact .inl ⟨_, by simp only [if_pos hs, if_neg hb]; rfl⟩
  · exact .inl ⟨_, by simp only [if_neg hs]; rfl⟩

/-- Handing options to a solver keeps what the session was started with. -/
theorem applyOptions_origin (hs : s.solver.isSome) :
    (applyOptions.runOn s).2.environment = s.environment ∧
      (applyOptions.runOn s).2.params = s.params := by
  obtain ⟨l, hframe⟩ := applyOptions_frame hs
  rw [hframe]
  exact ⟨rfl, rfl⟩

/-- No operation changes what the session was started with: the options text
of its environment and the parameters its solver library describes. -/
theorem step_origin (op : Op) :
    (step check s op).2.environment = s.environment ∧ (step check s op).2.params = s.params := by
  by_cases hr : op.isReadOnly
  · rw [step_of_readOnly hr]
    exact ⟨rfl, rfl⟩
  cases op with
  | newSolver =>
    simp only [step, Op.run, runOn_then_pure, newSolver_runOn]
    split
    · exact ⟨rfl, rfl⟩
    · have hs₀ : ({ s with solver := some {}, depth := 0 } : Session).solver.isSome := rfl
      have horigin := applyOptions_origin hs₀
      rcases hrun : applyOptions.runOn { s with solver := some {}, depth := 0 } with ⟨_ | _, s'⟩ <;>
        rw [hrun] at horigin <;> exact horigin
  | reset =>
    simp only [step, Op.run, runOn_then_pure, reset_runOn]
    split
    · exact applyOptions_origin rfl
    · exact ⟨rfl, rfl⟩
  | setOpt opt value =>
    simp only [step, Op.run, runOn_then_pure, setOpt_runOn]
    repeat' split
    all_goals exact ⟨rfl, rfl⟩
  | assertFormula t =>
    obtain ⟨e, hstep⟩ | ⟨th, -, hstep⟩ := @step_assertFormula_cases check s t
    · rw [hstep]
      exact ⟨rfl, rfl⟩
    · rw [hstep]
      unfold withAssertion
      split <;> exact ⟨rfl, rfl⟩
  | checkSat =>
    simp only [step, Op.run, runOn_map, checkSat_runOn]
    split <;> exact ⟨rfl, rfl⟩
  | checkSatAssuming hs =>
    simp only [step, Op.run, runOn_map, checkSatAssuming_runOn]
    repeat' split
    all_goals exact ⟨rfl, rfl⟩
  | getValue terms =>
    simp only [step, Op.run, runOn_then_pure, runOn_discard, getValue_runOn]
    repeat' split
    all_goals exact ⟨rfl, rfl⟩
  | deleteSolver =>
    simp only [step, Op.run, runOn_then_pure, deleteSolver_runOn]
    split <;> exact ⟨rfl, rfl⟩
  | exit =>
    simp only [step, Op.run, runOn_then_pure, exit_runOn]
    split <;> exact ⟨rfl, rfl⟩
  | push n =>
    simp only [step, Op.run, runOn_then_pure, push_runOn, openScope_iterate]
    split <;> exact ⟨rfl, rfl⟩
  | pop n =>
    simp only [step, Op.run, runOn_then_pure, pop_runOn, closeScope_iterate]
    repeat' split
    all_goals exact ⟨rfl, rfl⟩
  | resetAssertions =>
    simp only [step, Op.run, runOn_then_pure, resetAssertions_runOn]
    split <;> exact ⟨rfl, rfl⟩
  | _ => simp [Op.isReadOnly] at hr

/-! ## Checks -/

/-- What the session relies on of a check: it leaves the assertion stack as
it is, and keeps an outcome of the verdict it answers, for the queries to
read. -/
structure Faithful (check : Checker) : Prop where
  keeps_scopes : ∀ st assumptions, (check st assumptions).1.scopes = st.scopes
  keeps_outcome : ∀ st assumptions,
    (check st assumptions).1.outcome.map (·.verdict) = some (check st assumptions).2

theorem Faithful.keeps_assertions (hc : Faithful check) (st : SolverState)
    (assumptions : List Term) : (check st assumptions).1.assertions = st.assertions := by
  unfold SolverState.assertions
  rw [hc.keeps_scopes]

/-- The solver's own check is faithful. -/
theorem faithful_check : Faithful SolverState.check where
  keeps_scopes _ _ := by
    unfold SolverState.check
    simp only
  keeps_outcome _ _ := by
    unfold SolverState.check
    simp only
    split <;> rfl

/-! ## Runs -/

@[simp] theorem exec_nil (s : Session) : exec check [] s = ([], s) := rfl

theorem exec_cons (op : Op) (ops : List Op) (s : Session) :
    exec check (op :: ops) s =
      ((step check s op).1 :: (exec check ops (step check s op).2).1,
       (exec check ops (step check s op).2).2) := rfl

@[simp] theorem exec_length (ops : List Op) (s : Session) :
    (exec check ops s).1.length = ops.length := by
  induction ops generalizing s with
  | nil => rfl
  | cons op ops ih => simp [exec_cons, ih]

/-- A run of two parts is the second run from where the first ends. -/
theorem exec_append (ops₁ ops₂ : List Op) (s : Session) :
    exec check (ops₁ ++ ops₂) s =
      ((exec check ops₁ s).1 ++ (exec check ops₂ (exec check ops₁ s).2).1,
       (exec check ops₂ (exec check ops₁ s).2).2) := by
  induction ops₁ generalizing s with
  | nil => rfl
  | cons op ops₁ ih => simp [exec_cons, ih]

theorem exec_snoc (ops : List Op) (op : Op) (s : Session) :
    exec check (ops ++ [op]) s =
      ((exec check ops s).1 ++ [(step check (exec check ops s).2 op).1],
       (step check (exec check ops s).2 op).2) := by
  rw [exec_append]
  rfl

/-- The operations of a run, each with its answer. -/
def trace (check : Checker) (ops : List Op) (s : Session) : List (Op × Answer) :=
  ops.zip (exec check ops s).1

theorem trace_snoc (ops : List Op) (op : Op) (s : Session) :
    trace check (ops ++ [op]) s =
      trace check ops s ++ [(op, (step check (exec check ops s).2 op).1)] := by
  rw [trace, trace, exec_snoc, List.zip_append (by simp)]
  rfl

/-- What every operation keeps holds at the end of every run. -/
theorem exec_invariant (P : Session → Prop) (hstep : ∀ s op, P s → P (step check s op).2)
    (ops : List Op) (hs : P s) : P (exec check ops s).2 := by
  induction ops generalizing s with
  | nil => exact hs
  | cons op ops ih => exact ih (hstep s op hs)

/-! ## Sessions without a solver -/

/-- A session without a solver has no scope open, nothing asserted or
tracked, and no result of a check. -/
def ClearWhenIdle (s : Session) : Prop :=
  s.solver = none → s.depth = 0 ∧ s.tracked = [] ∧ s.asserted = 0 ∧ s.lastResult = none

theorem clearWhenIdle_forget (s : Session) : ClearWhenIdle s.forget :=
  fun _ => ⟨rfl, rfl, rfl, rfl⟩

theorem clearWhenIdle_of_isSome (h : s.solver.isSome) : ClearWhenIdle s := by
  intro hnone
  simp [hnone] at h

theorem clearWhenIdle_fresh (environment : Option String) :
    ClearWhenIdle (fresh environment) :=
  fun _ => ⟨rfl, rfl, rfl, rfl⟩

theorem ClearWhenIdle.setOptions (h : ClearWhenIdle s) (options : List (String × String)) :
    ClearWhenIdle { s with options := options } := h

/-- A new solver on a session without one either takes every option, or is
deleted again; either way only the solver and the recorded options change. -/
theorem newSolver_of_idle (hclear : ClearWhenIdle s) (hs : s.solver = none) :
    ∃ l o, (newSolver.runOn s).2 = { s with options := o } ∨
      (newSolver.runOn s).2 =
        { s with solver := some (({} : SolverState).takeOptions s.params l), options := o } := by
  have hs' : ¬ s.solver.isSome := by simp [hs]
  have hs₀ : ({ s with solver := some {}, depth := 0 } : Session).solver.isSome := rfl
  obtain ⟨l, hframe⟩ := applyOptions_frame hs₀
  obtain ⟨hdepth, htracked, hasserted, hlast⟩ := hclear hs
  rw [newSolver_runOn, if_neg hs']
  rcases hrun : applyOptions.runOn { s with solver := some {}, depth := 0 } with ⟨_ | _, s'⟩ <;>
    rw [hrun] at hframe <;> simp only at hframe ⊢ <;> refine ⟨l, s'.options, ?_⟩
  -- refused: the solver is deleted again
  · left
    rw [hframe]
    clear hframe hrun
    rcases s with ⟨⟩
    simp_all [forget]
  · right
    rw [hframe]
    clear hframe hrun
    rcases s with ⟨⟩
    simp_all

/-- The operations that do something without a solver: creating one and
recording an option. -/
def Op.worksWithoutSolver : Op → Bool
  | .newSolver | .setOpt .. => true
  | _ => false

/-- Without a solver, every other operation leaves the session as it was. -/
theorem step_without_solver (hs : s.solver = none) {op : Op}
    (hop : op.worksWithoutSolver = false) : (step check s op).2 = s := by
  have hs' : s.solver.isSome = false := by simp [hs]
  cases op with
  | deleteSolver => simp [step, Op.run, runOn_map, deleteSolver_runOn, hs']
  | exit => simp [step, Op.run, runOn_map, exit_runOn, hs']
  | assertFormula t => simp [step, Op.run, runOn_map, assertFormula_runOn, hs']
  | checkSat => simp [step, Op.run, runOn_map, checkSat_runOn, hs]
  | checkSatAssuming hs₁ => simp [step, Op.run, runOn_map, checkSatAssuming_runOn, hs]
  | getValue terms => simp [step, Op.run, runOn_map, runOn_discard, getValue_runOn, model_runOn, hs']
  | push n => simp [step, Op.run, runOn_map, push_runOn, hs']
  | pop n => simp [step, Op.run, runOn_map, pop_runOn, hs']
  | reset => simp [step, Op.run, runOn_map, reset_runOn, hs']
  | resetAssertions => simp [step, Op.run, runOn_map, resetAssertions_runOn, hs']
  | newSolver | setOpt _ _ => simp [Op.worksWithoutSolver] at hop
  | _ => exact step_of_readOnly rfl

/-- Every operation keeps sessions without a solver clear: a solver is
only ever removed together with everything asserted to it. -/
theorem step_clearWhenIdle (h : ClearWhenIdle s) (op : Op) :
    ClearWhenIdle (step check s op).2 := by
  by_cases hr : op.isReadOnly
  · rw [step_of_readOnly hr]
    exact h
  by_cases hs : s.solver.isSome
  -- with a solver, every operation keeps one or removes it by `forget`
  · cases op with
    | newSolver =>
      simp only [step, Op.run, runOn_then_pure, newSolver_runOn, if_pos hs]
      exact clearWhenIdle_of_isSome hs
    | deleteSolver =>
      simp only [step, Op.run, runOn_then_pure, deleteSolver_runOn, if_pos hs]
      exact clearWhenIdle_forget _
    | exit =>
      simp only [step, Op.run, runOn_then_pure, exit_runOn, if_pos hs]
      exact clearWhenIdle_forget _
    | setOpt opt value =>
      simp only [step, Op.run, runOn_then_pure, setOpt_runOn, if_pos hs]
      split
      · exact h
      · exact clearWhenIdle_of_isSome (by simpa [takeOption] using hs)
    | assertFormula t =>
      obtain ⟨e, hstep⟩ | ⟨th, -, hstep⟩ := @step_assertFormula_cases check s t
      · rw [hstep]
        exact h
      · rw [hstep]
        exact clearWhenIdle_of_isSome (by unfold withAssertion; split <;> simpa using hs)
    | checkSat =>
      obtain ⟨st, hst⟩ := Option.isSome_iff_exists.mp hs
      simp only [step, Op.run, runOn_map, checkSat_runOn, hst]
      exact clearWhenIdle_of_isSome rfl
    | checkSatAssuming hs' =>
      obtain ⟨st, hst⟩ := Option.isSome_iff_exists.mp hs
      simp only [step, Op.run, runOn_map, checkSatAssuming_runOn, hst]
      repeat' split
      all_goals first | exact h | exact clearWhenIdle_of_isSome rfl
    | getValue terms =>
      simp only [step, Op.run, runOn_then_pure, runOn_discard, getValue_runOn]
      repeat' split
      all_goals first | exact h | exact clearWhenIdle_of_isSome (by simpa [withModel] using hs)
    | push n =>
      simp only [step, Op.run, runOn_then_pure, push_runOn, if_pos hs]
      exact clearWhenIdle_of_isSome (by simpa [openScope_iterate] using hs)
    | pop n =>
      simp only [step, Op.run, runOn_then_pure, pop_runOn, if_pos hs]
      split
      · exact clearWhenIdle_of_isSome (by simpa [closeScope_iterate] using hs)
      · exact h
    | reset =>
      simp only [step, Op.run, runOn_then_pure, reset_runOn, if_pos hs]
      exact clearWhenIdle_of_isSome (applyOptions_solver rfl)
    | resetAssertions =>
      simp only [step, Op.run, runOn_then_pure, resetAssertions_runOn, if_pos hs]
      exact clearWhenIdle_forget _
    | _ => simp [Op.isReadOnly] at hr
  -- without a solver, only creating one or recording an option changes anything
  · have hnone : s.solver = none := by simpa using hs
    cases op with
    | newSolver =>
      simp only [step, Op.run, runOn_then_pure]
      obtain ⟨l, o, hnew | hnew⟩ := newSolver_of_idle h hnone <;> rw [hnew]
      · exact h.setOptions o
      · exact clearWhenIdle_of_isSome rfl
    | setOpt opt value =>
      simp only [step, Op.run, runOn_then_pure, setOpt_runOn, if_neg hs]
      exact h.setOptions _
    | _ => rw [step_without_solver hnone rfl]; exact h

theorem exec_clearWhenIdle (environment : Option String) (ops : List Op) :
    ClearWhenIdle (exec check ops (fresh environment)).2 :=
  exec_invariant ClearWhenIdle (fun _ op h => step_clearWhenIdle h op) ops
    (clearWhenIdle_fresh environment)

end Session

end SmtBackend
