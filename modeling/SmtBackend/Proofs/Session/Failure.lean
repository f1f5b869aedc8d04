import SmtBackend.Proofs.Session.Runs
import SmtBackend.Proofs.Options.Reading

/-!
# What a failed operation leaves behind

Every operation but one checks everything before it changes anything, so
when it fails the session is as it found it (`FailureLeaves`). A check
under assumptions fails on a sort handle before it drops the last result,
since its Boolean check asks each assumption for its sort. The exception is
a new solver: it sets the environment's options one by one, recording each;
when one is refused the solver is deleted again, but the options taken
before it stay recorded.

A reset also sets the environment's options, but never fails on a session
reached by a run: the solver exists only because the same options were
taken when it was created (`EnvAccepted`).
-/

namespace SmtBackend

open Solver SessionM

namespace Session

variable {α : Type} {check : Checker} {s : Session} {e : Failure}

theorem Except.map_error {β : Type} {r : Except Failure α} {f : α → β}
    (h : r.map f = .error e) : r = .error e := by
  cases r <;> simp_all [Except.map]

/-! ## The environment's options -/

theorem environmentOptions_congr {s s' : Session} (h : s.environment = s'.environment) :
    environmentOptions s = environmentOptions s' := by
  unfold environmentOptions
  rw [h]

/-- The environment's options can be given to a solver with nothing
asserted: its text reads, and no option of it is refused. -/
def envAccepts (s : Session) : Prop :=
  ∃ pairs, environmentOptions s = .ok pairs ∧
    firstFailure (fun p => refusal? s.params 0 p.1 p.2) pairs = .ok ()

/-- A session with a solver has an environment whose options a solver
takes. -/
def EnvAccepted (s : Session) : Prop := s.solver.isSome → envAccepts s

theorem envAccepts_congr {s s' : Session} (h : s.environment = s'.environment)
    (hp : s.params = s'.params) : envAccepts s ↔ envAccepts s' := by
  rw [envAccepts, envAccepts, environmentOptions_congr h, hp]

/-- Options that a solver took in full include the environment's, taken
with as many formulas asserted as the session had. -/
theorem applyOptions_ok (hs : s.solver.isSome) (h : (applyOptions.runOn s).1 = .ok ()) :
    ∃ pairs, environmentOptions s = .ok pairs ∧
      firstFailure (fun p => refusal? s.params s.asserted p.1 p.2) pairs = .ok () := by
  rw [applyOptions_runOn s hs] at h
  simp only at h
  split at h
  · cases h
  · split at h
    · cases h
    · exact ⟨_, by assumption, h⟩

/-- A reset succeeds whenever the environment's options are taken. -/
theorem reset_ok (hs : s.solver.isSome) (henv : envAccepts s) : (reset.runOn s).1 = .ok () := by
  obtain ⟨pairs, hpairs, hok⟩ := henv
  rw [reset_runOn, if_pos hs, applyOptions_runOn _ rfl]
  -- the reset session has no recorded options and the same environment
  have henv' : environmentOptions ({ s with options := [], solver := some {} } : Session).forget =
      .ok pairs := (environmentOptions_congr rfl).trans hpairs
  simp only [firstFailure, henv', forget_asserted]
  exact hok

theorem step_envAccepted (hclear : ClearWhenIdle s) (h : EnvAccepted s) (op : Op) :
    EnvAccepted (step check s op).2 := by
  intro hs'
  by_cases hs : s.solver.isSome
  · exact (envAccepts_congr (step_origin op).1 (step_origin op).2).mpr (h hs)
  -- without a solver, only a new solver that took every option makes one
  have hnone : s.solver = none := by simpa using hs
  cases op with
  | newSolver =>
    simp only [step, Op.run, runOn_then_pure, newSolver_runOn, if_neg hs] at hs' ⊢
    have hs₀ : ({ s with solver := some {}, depth := 0 } : Session).solver.isSome := rfl
    obtain ⟨henv, hparams⟩ := applyOptions_origin hs₀
    have hok := applyOptions_ok hs₀
    rcases hrun : applyOptions.runOn { s with solver := some {}, depth := 0 } with ⟨_ | _, s'⟩ <;>
      simp only [hrun] at hs' hok henv hparams
    · simp at hs'
    · obtain ⟨pairs, hpairs, hfirst⟩ := hok (by simp)
      have hasserted : ({ s with solver := some {}, depth := 0 } : Session).asserted = 0 :=
        (hclear hnone).2.2.1
      rw [hasserted] at hfirst
      refine ⟨pairs, (environmentOptions_congr henv).trans hpairs, ?_⟩
      rw [hparams]
      exact hfirst
  | setOpt opt value =>
    simp only [step, Op.run, runOn_then_pure, setOpt_runOn, if_neg hs] at hs'
    simp [hnone] at hs'
  | _ =>
    rw [step_without_solver hnone rfl] at hs' ⊢
    exact h hs'

theorem exec_envAccepted (environment : Option String) (ops : List Op) :
    EnvAccepted (exec check ops (fresh environment)).2 := by
  have hboth : ClearWhenIdle (exec check ops (fresh environment)).2 ∧
      EnvAccepted (exec check ops (fresh environment)).2 :=
    exec_invariant (fun s => ClearWhenIdle s ∧ EnvAccepted s)
      (fun _ op h => ⟨step_clearWhenIdle h.1 op, step_envAccepted h.1 h.2 op⟩) ops
      ⟨clearWhenIdle_fresh environment, fun h => by simp [fresh] at h⟩
  exact hboth.2

/-! ## Failures -/

/-- What a failed operation leaves of the session `s` it was given. -/
inductive FailureLeaves (s : Session) : Op → Session → Prop
  /-- The session as it was. -/
  | unchanged (op : Op) : FailureLeaves s op s
  /-- A new solver refused an option of the environment: there is still
  no solver, and the environment's options taken before the refused one
  are recorded. -/
  | environmentRecorded (pairs : List (String × String)) (hs : s.solver = none)
      (henv : environmentOptions s = .ok pairs) :
      FailureLeaves s .newSolver
        { s with options := (takenBefore (fun p => refusal? s.params 0 p.1 p.2) pairs).foldl
                                (fun o p => Options.setKey o p.1 p.2) s.options }

/-- Options refused part way leave the solver with those taken before, and
the record of options with the environment's taken before. -/
theorem applyOptions_failure (hs : s.solver.isSome) (_ : (applyOptions.runOn s).1 = .error e) :
    (applyOptions.runOn s).2 = { s with solver := (applyOptions.runOn s).2.solver } ∨
      ∃ pairs, environmentOptions s = .ok pairs ∧
        (applyOptions.runOn s).2 =
          { s with
            solver := (applyOptions.runOn s).2.solver
            options := (takenBefore (fun p => refusal? s.params s.asserted p.1 p.2) pairs).foldl
              (fun o p => Options.setKey o p.1 p.2) s.options } := by
  rw [applyOptions_runOn s hs]
  simp only
  cases hq : firstFailure (fun p => rejection? s.params p.1 p.2) s.options with
  | error e' =>
    left
    rfl
  | ok u =>
    cases u
    cases henv : environmentOptions s with
    | error e' =>
      left
      rfl
    | ok pairs =>
      right
      refine ⟨pairs, rfl, ?_⟩
      dsimp only
      rw [takeOptions_eq]
      rfl

/-- Deleting the solver a session without one was given puts it back as it
was, but for the options. -/
theorem deleted_again (hclear : ClearWhenIdle s) (hs : s.solver = none) {s' : Session}
    (henv : s'.environment = s.environment) (hassume : s'.lastAssumptions = s.lastAssumptions)
    (htrackers : s'.trackers = s.trackers) (hparams : s'.params = s.params) :
    ({ s' with solver := none } : Session).forget = { s with options := s'.options } := by
  obtain ⟨hdepth, htracked, hasserted, hlast⟩ := hclear hs
  rcases s with ⟨⟩
  rcases s' with ⟨⟩
  simp_all [forget]

theorem newSolver_failure (hclear : ClearWhenIdle s) (h : (newSolver.runOn s).1 = .error e) :
    FailureLeaves s .newSolver (newSolver.runOn s).2 := by
  rw [newSolver_runOn] at h ⊢
  by_cases hs : s.solver.isSome
  · simp only [if_pos hs]
    exact .unchanged _
  simp only [if_neg hs] at h ⊢
  have hnone : s.solver = none := by simpa using hs
  have hs₀ : ({ s with solver := some {}, depth := 0 } : Session).solver.isSome := rfl
  split
  · rename_i s' hrun
    rw [hrun] at h
    cases h
  · rename_i e' s' hrun
    -- either way the new solver's session differs from `s` in its solver and options only
    rcases applyOptions_failure hs₀ (by rw [hrun]) with hsame | ⟨pairs, henv, hoptions⟩
    · rw [hrun] at hsame
      have hfields := congrArg (fun t : Session =>
        (t.environment, t.lastAssumptions, t.trackers, t.params, t.options)) hsame
      simp only [Prod.mk.injEq] at hfields
      obtain ⟨henv, hassume, htrackers, hparams, hoptions⟩ := hfields
      rw [deleted_again hclear hnone henv hassume htrackers hparams, hoptions]
      exact .unchanged _
    · rw [hrun] at hoptions
      have hfields := congrArg (fun t : Session =>
        (t.environment, t.lastAssumptions, t.trackers, t.params, t.options)) hoptions
      simp only [Prod.mk.injEq] at hfields
      obtain ⟨henv', hassume, htrackers, hparams, hoptions'⟩ := hfields
      -- nothing is asserted without a solver, so the environment's options are
      -- refused as they would be at creation
      have hrefusal : (fun p : String × String => refusal? s.params s.asserted p.1 p.2) =
          fun p => refusal? s.params 0 p.1 p.2 := by
        rw [(hclear hnone).2.2.1]
      rw [deleted_again hclear hnone henv' hassume htrackers hparams, hoptions']
      simp only [hrefusal]
      exact .environmentRecorded pairs hnone ((environmentOptions_congr rfl).trans henv)

/-- Assumptions that pass the Boolean check are Boolean terms. -/
theorem nonBoolean?_ok {assumptions : List Handle}
    (h : firstFailure nonBoolean? assumptions = .ok ()) :
    ∀ a ∈ assumptions, ∃ t, a = .term t ∧ t.sort.isBool = true := by
  intro a ha
  have hnone := firstFailure_eq_ok.mp h a ha
  cases a with
  | sort so => cases hnone
  | term t =>
    refine ⟨t, rfl, ?_⟩
    by_cases hb : t.sort.isBool = true
    · exact hb
    · simp [nonBoolean?, hb] at hnone

/-- Handles that are all terms read as terms. -/
theorem asTerm_mapM_ok {assumptions : List Handle}
    (h : ∀ a ∈ assumptions, ∃ t, a = .term t ∧ t.sort.isBool = true) :
    ∃ ths, assumptions.mapM Handle.asTerm = .ok ths := by
  induction assumptions with
  | nil => exact ⟨[], rfl⟩
  | cons a rest ih =>
    obtain ⟨t, rfl, -⟩ := h a (by simp)
    obtain ⟨ths, hths⟩ := ih fun a ha => h a (by simp [ha])
    exact ⟨t :: ths, by simp [List.mapM_cons, hths, bind, Except.bind, pure, Except.pure]⟩

/-- A computation that fails only before it changes the session. -/
def Atomic (x : SessionM α) : Prop := ∀ s e, (x.runOn s).1 = .error e → (x.runOn s).2 = s

theorem Atomic.then_pure {β : Type} {x : SessionM α} (hx : Atomic x) (b : β) :
    Atomic (x >>= fun _ => pure b) := fun s e h => by
  rw [runOn_then_pure] at h ⊢
  exact hx s e (Except.map_error h)

theorem Atomic.discard {x : SessionM α} (hx : Atomic x) : Atomic (discard x) := fun s e h => by
  rw [runOn_discard] at h ⊢
  exact hx s e (Except.map_error h)

theorem deleteSolver_atomic : Atomic deleteSolver := fun s e h => by
  by_cases hs : s.solver.isSome <;> simp_all [deleteSolver_runOn]

theorem exit_atomic : Atomic exit := fun s e h => by
  by_cases hs : s.solver.isSome <;> simp_all [exit_runOn]

theorem setOpt_atomic (opt value : String) : Atomic (setOpt opt value) := fun s e h => by
  rw [setOpt_runOn] at h ⊢
  by_cases hs : s.solver.isSome
  · simp only [if_pos hs] at h ⊢
    cases hr : refusal? s.params s.asserted opt value <;> simp_all
  · simp [hs] at h

theorem assertFormula_atomic (t : Handle) : Atomic (assertFormula t) := fun s e h => by
  rw [assertFormula_runOn] at h ⊢
  by_cases hs : s.solver.isSome
  · cases t with
    | sort so => simp [hs]
    | term th =>
      -- a Boolean term is asserted, and then nothing fails
      by_cases hb : th.sort.isBool = true
      · simp [hs, hb] at h
      · simp [hs, hb]
  · simp_all

theorem checkSat_atomic : Atomic (checkSat check) := fun s e h => by
  rw [checkSat_runOn] at h ⊢
  cases hs : s.solver <;> simp_all

/-- Past the Boolean check every assumption is a term, so the check runs. -/
theorem checkSatAssuming_atomic (assumptions : List Handle) :
    Atomic (checkSatAssuming check assumptions) := fun s e h => by
  rw [checkSatAssuming_runOn] at h ⊢
  split
  · rfl
  · rename_i st hsolver
    simp only [hsolver] at h
    cases hbool : firstFailure nonBoolean? assumptions with
    | error e' => rfl
    | ok u =>
      obtain ⟨ths, hths⟩ := asTerm_mapM_ok (nonBoolean?_ok hbool)
      simp [hbool, hths] at h

theorem getValue_atomic (terms : List Handle) : Atomic (getValue terms) := fun s e h => by
  rw [getValue_runOn] at h ⊢
  cases hm : (model.runOn s).1 with
  | error e' => rfl
  | ok m₀ =>
    cases hths : terms.mapM Handle.asTerm with
    | error e' => rfl
    | ok ths => simp [hm, hths] at h

theorem push_atomic (n : Int) : Atomic (push n) := fun s e h => by
  by_cases hs : s.solver.isSome <;> simp_all [push_runOn]

theorem pop_atomic (n : Int) : Atomic (pop n) := fun s e h => by
  rw [pop_runOn] at h ⊢
  by_cases hs : s.solver.isSome
  · by_cases hn : n ≤ s.depth
    · simp only [if_pos hs, if_pos hn] at h
      cases h
    · simp only [if_pos hs, if_neg hn]
  · simp only [if_neg hs]

theorem resetAssertions_atomic : Atomic resetAssertions := fun s e h => by
  by_cases hs : s.solver.isSome <;> simp_all [resetAssertions_runOn]

theorem FailureLeaves.of_atomic {op : Op} (hx : Atomic (op.run check))
    (h : (step check s op).1 = .error e) : FailureLeaves s op (step check s op).2 := by
  rw [step, hx s e h]
  exact .unchanged op

/-- On a session reached by a run, a failed operation leaves it as it was,
but for a new solver refused an option of the environment. -/
theorem step_failure (hclear : ClearWhenIdle s) (henv : EnvAccepted s) (op : Op)
    (h : (step check s op).1 = .error e) : FailureLeaves s op (step check s op).2 := by
  by_cases hr : op.isReadOnly
  · rw [step_of_readOnly hr]
    exact .unchanged op
  cases op with
  | newSolver =>
    simp only [step, Op.run, runOn_then_pure] at h ⊢
    exact newSolver_failure hclear (Except.map_error h)
  | checkSatAssuming assumptions =>
    refine .of_atomic (fun s' e' h' => ?_) h
    simp only [Op.run, runOn_map] at h' ⊢
    exact checkSatAssuming_atomic assumptions s' e' (Except.map_error h')
  | reset =>
    -- a reset needs a solver, and a solver takes the environment's options again
    by_cases hs : s.solver.isSome
    · simp only [step, Op.run, runOn_then_pure, reset_ok hs (henv hs)] at h
      cases h
    · simp only [step, Op.run, runOn_then_pure, reset_runOn, if_neg hs]
      exact .unchanged _
  | deleteSolver => exact .of_atomic (deleteSolver_atomic.then_pure _) h
  | exit => exact .of_atomic (exit_atomic.then_pure _) h
  | setOpt opt value => exact .of_atomic ((setOpt_atomic opt value).then_pure _) h
  | assertFormula t => exact .of_atomic ((assertFormula_atomic t).then_pure _) h
  | checkSat =>
    refine .of_atomic (fun s' e' h' => ?_) h
    simp only [Op.run, runOn_map] at h' ⊢
    exact checkSat_atomic s' e' (Except.map_error h')
  | getValue terms => exact .of_atomic ((getValue_atomic terms).discard.then_pure _) h
  | push n => exact .of_atomic ((push_atomic n).then_pure _) h
  | pop n => exact .of_atomic ((pop_atomic n).then_pure _) h
  | resetAssertions => exact .of_atomic (resetAssertions_atomic.then_pure _) h
  | _ => simp [Op.isReadOnly] at hr

/-! ## Failures along a run -/

/-- A session whose environment turns unsat cores on and then sets an
option that names no parameter reads both options. -/
theorem environmentOptions_cores_then_unknown {s : Session}
    (h : s.environment = some "produce-unsat-cores=true;nope=1") :
    environmentOptions s = .ok [("produce-unsat-cores", "true"), ("nope", "1")] := by
  have hrender : Options.render [("produce-unsat-cores", "true"), ("nope", "1")] =
      "produce-unsat-cores=true;nope=1" := by decide
  have hreads : Options.Renderable [("produce-unsat-cores", "true"), ("nope", "1")] := by
    constructor <;> simp [Options.Unpadded]
    -- what is left is that no end of a key or value is blank
    decide
  unfold environmentOptions
  rw [h, Options.fromEnvironment_eq_read]
  simpa [hrender] using Options.parseOptionString_render hreads

end Session

end SmtBackend
