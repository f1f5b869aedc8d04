import SmtBackend.Proofs.Session.Runs
import SmtBackend.Proofs.Solver.Completion

/-!
# The result of the last check

A session keeps the verdict of its last check, the assumptions it was made
under, and the solver's outcome with its model and core. They stand only
while nothing changes what is asserted: every operation either drops the
result or leaves all three alone (`step_lastResult`), so a result that
stands at the end of a run is the answer of the run's last completed check,
and every operation since that could have changed the assertions failed
(`lastResult_of_faithful_run`). Nothing here depends on how the solver
decides: any check that keeps the assertions and records its verdict will
do (`Faithful`).

The queries read the outcome through the result: values and the model need
a satisfiable one, cores an unsatisfiable one. Reading values completes
the model with the constants read, so a second reading gives the same
values (`getValue_twice`).
-/

namespace SmtBackend

open Solver SessionM

namespace Session

variable {check : Checker} {s : Session} {op : Op} {v : Verdict}

/-- Operations that, when they complete, change what is asserted or the
solver itself. -/
def Op.changesAssertions : Op → Bool
  | .assertFormula _ | .push _ | .pop _ | .reset | .resetAssertions | .newSolver
  | .deleteSolver | .exit => true
  | _ => false

/-- The assumptions a check is made under. -/
def Op.assumptions : Op → List Handle
  | .checkSatAssuming assumptions => assumptions
  | _ => []

/-- The verdict of the outcome the solver keeps, whose model and core the
queries read. -/
def outcomeVerdict (s : Session) : Option Verdict := (s.solver.bind (·.outcome)).map (·.verdict)

@[simp] theorem withModel_solver_isSome (s : Session) (m : Model) :
    (s.withModel m).solver.isSome = s.solver.isSome := by
  simp [withModel]

@[simp] theorem withModel_lastResult (s : Session) (m : Model) :
    (s.withModel m).lastResult = s.lastResult := rfl

@[simp] theorem outcomeVerdict_withModel (s : Session) (m : Model) :
    outcomeVerdict (s.withModel m) = outcomeVerdict s := by
  rcases s with ⟨_, _, _ | ⟨_, _, _, _, _ | _, _⟩, _⟩ <;> rfl

theorem applyOptions_lastResult (h : s.solver.isSome) :
    (applyOptions.runOn s).2.lastResult = s.lastResult := by
  obtain ⟨l, hframe⟩ := applyOptions_frame h
  rw [hframe]

/-! ## One operation -/

/-- A check that completed with verdict `v` on session `s`, leaving session
`s'`: the solver of `s` checked under the terms of the assumptions. -/
structure SetsResult (check : Checker) (op : Op) (a : Answer) (s s' : Session) (v : Verdict) :
    Prop where
  isCheck : op.isCheck = true
  answer : a = .ok (some v)
  lastAssumptions : s'.lastAssumptions = op.assumptions
  solver : s'.solver.isSome = true
  outcome : outcomeVerdict s' = some v
  checked : ∃ st ths, s.solver = some st ∧ op.assumptions.mapM Handle.asTerm = .ok ths ∧
    s'.solver = some (check st (ths.map (·.native))).1

/-- An operation that leaves the last result of `s` standing in `s'`: one
that would change the assertions, or check again, failed. -/
structure KeepsResult (op : Op) (a : Answer) (s s' : Session) : Prop where
  failed : (op.changesAssertions || op.isCheck) = true → ∃ e, a = .error e
  lastResult : s'.lastResult = s.lastResult
  lastAssumptions : s'.lastAssumptions = s.lastAssumptions
  solver : s'.solver.isSome = s.solver.isSome
  outcome : outcomeVerdict s' = outcomeVerdict s
  /-- The assertion stack and the core the queries read are those of `s`. -/
  kept : ∀ st', s'.solver = some st' → ∃ st, s.solver = some st ∧ st'.scopes = st.scopes ∧
    st'.outcome.map (·.core) = st.outcome.map (·.core)

theorem KeepsResult.same {a : Answer}
    (hfail : (op.changesAssertions || op.isCheck) = true → ∃ e, a = .error e) :
    KeepsResult op a s s :=
  ⟨hfail, rfl, rfl, rfl, rfl, fun st' h => ⟨st', h, rfl, rfl⟩⟩

theorem KeepsResult.failure {e : Failure} : KeepsResult op (.error e) s s :=
  .same fun _ => ⟨e, rfl⟩

/-- Every operation either completes a check, or drops the last result, or
leaves it standing with its assumptions and outcome. -/
theorem step_lastResult (hc : Faithful check) (hclear : ClearWhenIdle s) (op : Op)
    (h : (step check s op).2.lastResult = some v) :
    SetsResult check op (step check s op).1 s (step check s op).2 v ∨
      KeepsResult op (step check s op).1 s (step check s op).2 := by
  by_cases hr : op.isReadOnly
  · right
    rw [step_of_readOnly hr]
    exact .same fun hop => by cases op <;> simp_all [Op.isReadOnly, Op.changesAssertions, Op.isCheck]
  -- without a solver there is no result to keep or drop
  have hsolver : s.solver.isSome := by
    by_contra hs
    have hnone : s.solver = none := by simpa using hs
    have hidle := (hclear hnone).2.2.2
    cases hw : op.worksWithoutSolver
    · rw [step_without_solver hnone hw, hidle] at h
      cases h
    · cases op with
      | newSolver =>
        simp only [step, Op.run, runOn_then_pure] at h
        obtain ⟨l, o, hnew | hnew⟩ := newSolver_of_idle hclear hnone <;>
          simp [hnew, hidle] at h
      | setOpt opt value =>
        simp only [step, Op.run, runOn_then_pure, setOpt_runOn, if_neg hs, hidle] at h
        cases h
      | _ => simp [Op.worksWithoutSolver] at hw
  cases op with
  | newSolver =>
    right
    simp only [step, Op.run, runOn_then_pure, newSolver_runOn, if_pos hsolver]
    exact .failure
  | deleteSolver =>
    simp [step, Op.run, runOn_map, deleteSolver_runOn, hsolver] at h
  | exit =>
    simp [step, Op.run, runOn_map, exit_runOn, hsolver] at h
  | setOpt opt value =>
    right
    simp only [step, Op.run, runOn_then_pure, setOpt_runOn, if_pos hsolver]
    split
    · exact .failure
    -- an option taken by a live solver touches its settings only
    · refine ⟨fun hop => by simp [Op.changesAssertions, Op.isCheck] at hop, rfl, rfl, ?_, ?_, ?_⟩
      · simp [takeOption]
      · simp [takeOption, outcomeVerdict, Option.bind_map]
      · intro st' hst'
        obtain ⟨st, hst, rfl⟩ := Option.map_eq_some_iff.mp hst'
        exact ⟨st, hst, by simp, by simp⟩
  | assertFormula t =>
    obtain ⟨e, hstep⟩ | ⟨th, -, hstep⟩ := @step_assertFormula_cases check s t
    · right
      rw [hstep]
      exact .failure
    -- a completed assertion drops the result
    · rw [hstep] at h
      by_cases hcores : s.unsatCoresEnabled <;> simp [withAssertion, hcores] at h
  | checkSat =>
    obtain ⟨st, hst⟩ := Option.isSome_iff_exists.mp hsolver
    simp only [step, Op.run, runOn_map, checkSat_runOn, hst] at h ⊢
    left
    obtain rfl : (check st []).2 = v := Option.some.inj h
    exact ⟨rfl, rfl, rfl, rfl, by simp [outcomeVerdict, hc.keeps_outcome],
      ⟨st, [], hst, rfl, rfl⟩⟩
  | checkSatAssuming assumptions =>
    obtain ⟨st, hst⟩ := Option.isSome_iff_exists.mp hsolver
    simp only [step, Op.run, runOn_map, checkSatAssuming_runOn, hst] at h ⊢
    cases hbool : firstFailure nonBoolean? assumptions with
    | error e =>
      right
      exact .failure
    | ok u =>
      -- past the Boolean check the result is dropped before the handles are read
      cases hmap : assumptions.mapM Handle.asTerm with
      | error e => simp [hbool, hmap] at h
      | ok ths =>
        simp only [hbool, hmap] at h ⊢
        left
        obtain rfl := Option.some.inj h
        exact ⟨rfl, rfl, rfl, rfl, by simp [outcomeVerdict, hc.keeps_outcome],
          ⟨st, ths, hst, hmap, rfl⟩⟩
  | getValue terms =>
    right
    simp only [step, Op.run, runOn_then_pure, runOn_discard, getValue_runOn]
    split
    · exact .failure
    · split
      · exact .failure
      -- reading values completes the model and nothing else
      · refine ⟨fun hop => by simp [Op.changesAssertions, Op.isCheck] at hop, rfl, rfl,
          by simp [withModel], outcomeVerdict_withModel _ _, fun st' hst' => ?_⟩
        obtain ⟨st, hst, rfl⟩ := Option.map_eq_some_iff.mp hst'
        refine ⟨st, hst, rfl, ?_⟩
        cases st.outcome <;> rfl
  | push n =>
    simp [step, Op.run, runOn_map, push_runOn, hsolver] at h
  | pop n =>
    simp only [step, Op.run, runOn_then_pure, pop_runOn, if_pos hsolver] at h ⊢
    split
    · simp [*] at h
    · right
      exact .failure
  | reset =>
    simp only [step, Op.run, runOn_then_pure, reset_runOn, if_pos hsolver] at h
    rw [applyOptions_lastResult rfl] at h
    cases h
  | resetAssertions =>
    simp [step, Op.run, runOn_map, resetAssertions_runOn, hsolver] at h
  | _ => simp [Op.isReadOnly] at hr

/-! ## Whole runs -/

/-- Verdict `v` stands in session `s` at the end of a run with trace `t`:
it is the session's result, from a solver whose outcome has that verdict,
and it is the answer of a check of the run under the session's last
assumptions, after which every operation that would change the assertions
or check again failed. -/
def ResultStands (t : List (Op × Answer)) (s : Session) (v : Verdict) : Prop :=
  s.lastResult = some v ∧ s.solver.isSome ∧ outcomeVerdict s = some v ∧
    ∃ pre c post, t = pre ++ (c, .ok (some v)) :: post ∧ c.isCheck ∧
      (∀ p ∈ post, (p.1.changesAssertions || p.1.isCheck) = true → ∃ e, p.2 = .error e) ∧
      s.lastAssumptions = c.assumptions

/-- A result at the end of a run stands from the run's last completed check,
whatever faithful check the session uses. -/
theorem lastResult_of_faithful_run (hc : Faithful check) (environment : Option String)
    (ops : List Op) (v : Verdict) (h : (exec check ops (fresh environment)).2.lastResult = some v) :
    ResultStands (trace check ops (fresh environment)) (exec check ops (fresh environment)).2 v := by
  induction ops using List.reverseRecOn generalizing v with
  | nil => cases h
  | append_singleton ops op ih =>
    rw [exec_snoc] at h ⊢
    rw [trace_snoc]
    rcases step_lastResult hc (exec_clearWhenIdle environment ops) op h with hsets | hkeeps
    -- the last operation is the check itself
    · exact ⟨h, hsets.solver, hsets.outcome, trace check ops (fresh environment), op, [],
        by rw [hsets.answer], hsets.isCheck, by simp, hsets.lastAssumptions⟩
    -- the result stood before the last operation, which kept it
    · obtain ⟨-, hsolver, houtcome, pre, c, post, htrace, hcheck, hpost, hassume⟩ :=
        ih v (hkeeps.lastResult ▸ h)
      refine ⟨h, hkeeps.solver ▸ hsolver, hkeeps.outcome ▸ houtcome, pre, c,
        post ++ [(op, (step check (exec check ops (fresh environment)).2 op).1)],
        by simp [htrace], hcheck, ?_, hkeeps.lastAssumptions ▸ hassume⟩
      intro p hp
      rcases List.mem_append.mp hp with hp | hp
      · exact hpost p hp
      · rw [List.mem_singleton.mp hp]
        exact hkeeps.failed

/-! ## Queries -/

theorem getValue_ok {terms : List Handle} {r : List TermHandle}
    (h : ((getValue terms).runOn s).1 = .ok r) : s.solver.isSome ∧ s.lastResult = some .sat := by
  rw [getValue_runOn] at h
  split at h
  · cases h
  · exact model_ok (by assumption)

/-- What reading values sees of a session: whether there is a solver, the
last result, and the model of the outcome the solver keeps. -/
def modelView (s : Session) : Bool × Option Verdict × Option Model :=
  (s.solver.isSome, s.lastResult, (s.solver.bind (·.outcome)).map (·.model))

theorem model_congr {s s' : Session} (h : modelView s = modelView s') :
    (model.runOn s).1 = (model.runOn s').1 := by
  simp only [modelView, Prod.mk.injEq] at h
  obtain ⟨hsolver, hlast, hmodel⟩ := h
  rw [model_runOn, model_runOn, hsolver, hlast, hmodel]
  split_ifs <;> rfl

theorem getValue_congr {s s' : Session} (h : modelView s = modelView s') (terms : List Handle) :
    ((getValue terms).runOn s).1 = ((getValue terms).runOn s').1 := by
  rw [getValue_runOn, getValue_runOn, model_congr h]
  split
  · rfl
  · split <;> rfl

/-- Construction, the other queries and setting an option leave what
reading values sees as it was. -/
theorem step_modelView {check : Checker} (hop : op.isReadOnly ∨ ∃ o x, op = .setOpt o x) :
    modelView (step check s op).2 = modelView s := by
  rcases hop with hr | ⟨o, x, rfl⟩
  · rw [step_of_readOnly hr]
  · simp only [step, Op.run, runOn_then_pure, setOpt_runOn]
    split
    · split
      · rfl
      · simp [modelView, takeOption, Option.bind_map]
    · rfl

theorem exec_modelView {check : Checker} (mid : List Op)
    (hmid : ∀ op ∈ mid, op.isReadOnly ∨ ∃ o x, op = .setOpt o x) :
    modelView (exec check mid s).2 = modelView s := by
  induction mid generalizing s with
  | nil => rfl
  | cons op mid ih =>
    rw [exec_cons, ih fun op' h' => hmid op' (by simp [h']), step_modelView (hmid op (by simp))]

theorem model_withModel (s : Session) (m : Model) :
    ((s.withModel m).solver.bind (·.outcome)).map (·.model) =
      ((s.solver.bind (·.outcome)).map fun _ => m) := by
  rcases s with ⟨_, _, _ | ⟨_, _, _, _, _ | _, _⟩, _⟩ <;> rfl

/-- Reading the same values again gives the same answer: the first reading
defined every constant of the terms, so the second completes nothing. -/
theorem getValue_getValue (terms : List Handle) (s : Session) :
    ((getValue terms).runOn ((getValue terms).runOn s).2).1 = ((getValue terms).runOn s).1 := by
  rcases hm : (model.runOn s).1 with e | m₀
  -- a failed reading leaves the session as it was
  · have hsame : ((getValue terms).runOn s).2 = s := by rw [getValue_runOn, hm]
    rw [hsame]
  · cases hths : terms.mapM Handle.asTerm with
    | error e =>
      have hsame : ((getValue terms).runOn s).2 = s := by rw [getValue_runOn, hm]; simp only [hths]
      rw [hsame]
    | ok ths =>
      obtain ⟨hsolver, hsat⟩ := model_ok hm
      have hm₀ : ((s.solver.bind (·.outcome)).map (·.model)).getD {} = m₀ := by
        rw [model_runOn, if_pos hsolver, if_pos hsat] at hm
        exact Except.ok.inj hm
      rw [getValue_runOn terms s, hm]
      simp only [hths]
      rw [getValue_runOn, model_runOn]
      simp only [withModel_solver_isSome, withModel_lastResult, hsolver, hsat, if_true,
        model_withModel, hths]
      -- the model read again is the completed one, unless no outcome is kept
      generalize s.solver.bind (·.outcome) = o at hm₀ ⊢
      cases o with
      | none => rw [← hm₀]; rfl
      | some o => rw [Option.map_some, Option.getD_some, Solver.Model.foldl_completeWith_idem]

/-- Two readings of the same values, with only construction, the other
queries and options set between them, answer alike. -/
theorem getValue_twice (check : Checker) (terms : List Handle) (mid : List Op)
    (hmid : ∀ op ∈ mid, op.isReadOnly ∨ ∃ o x, op = .setOpt o x) (s : Session) :
    ((getValue terms).runOn (exec check mid ((getValue terms).runOn s).2).2).1 =
      ((getValue terms).runOn s).1 :=
  (getValue_congr (exec_modelView mid hmid) terms).trans (getValue_getValue terms s)

/-! ## The result at the end of a run -/

/-- At the end of every run, under any check that keeps the assertions and
records its verdict, a result stands only from the run's last completed
check, and the queries that read it succeed only on the verdict
they need: values and the model on a satisfiable one, assumptions and cores
on an unsatisfiable one. Values read twice, with only construction, the
other queries and options set in between, are the same. -/
theorem result_stands_from_last_check (check : Checker) (hc : Faithful check)
    (environment : Option String) (ops : List Op) :
    let s := (exec check ops (fresh environment)).2
    let t := trace check ops (fresh environment)
    (∀ v, s.lastResult = some v → ResultStands t s v) ∧
    (∀ terms r, ((getValue terms).runOn s).1 = .ok r → ResultStands t s .sat) ∧
    (∀ r, (printModel.runOn s).1 = .ok r → ResultStands t s .sat) ∧
    (∀ r, (getUnsatAssumptions.runOn s).1 = .ok r → ResultStands t s .unsat) ∧
    (∀ a r, ((isUnsatAssumption a).runOn s).1 = .ok r → ResultStands t s .unsat) ∧
    (∀ r, (getUnsatCore.runOn s).1 = .ok r → ResultStands t s .unsat) ∧
    (∀ terms mid, (∀ op ∈ mid, op.isReadOnly ∨ ∃ o x, op = .setOpt o x) →
      ((getValue terms).runOn (exec check mid ((getValue terms).runOn s).2).2).1 =
        ((getValue terms).runOn s).1) := by
  intro s t
  have hstands : ∀ v, s.lastResult = some v → ResultStands t s v :=
    lastResult_of_faithful_run hc environment ops
  refine ⟨hstands, ?_, ?_, ?_, ?_, ?_, ?_⟩
  · intro terms r h
    exact hstands _ (getValue_ok h).2
  · intro r h
    exact hstands _ (printModel_ok h).2
  · intro r h
    exact hstands _ (getUnsatAssumptions_ok h)
  · intro a r h
    exact hstands _ (isUnsatAssumption_ok h)
  · intro r h
    exact hstands _ (getUnsatCore_ok h).2
  · intro terms mid hmid
    exact getValue_twice check terms mid hmid s

/-- The solver's own check of nothing asserted: the satisfiable verdict it
answers stands. -/
theorem first_check_result_stands :
    Faithful SolverState.check ∧
      (exec SolverState.check [.newSolver, .checkSat] (fresh none)).2.lastResult = some .sat ∧
      ResultStands (trace SolverState.check [.newSolver, .checkSat] (fresh none))
        (exec SolverState.check [.newSolver, .checkSat] (fresh none)).2 .sat := by
  have hsat : (exec SolverState.check [.newSolver, .checkSat] (fresh none)).2.lastResult = some .sat :=
    rfl
  exact ⟨faithful_check, hsat,
    (result_stands_from_last_check SolverState.check faithful_check none _).1 .sat hsat⟩

end Session

end SmtBackend
