import SmtBackend.Proofs.Session.Runs

/-!
# Scope depth

A session counts the scopes it opens on its solver. On every run the count
is the solver's own: a solver holds one frame of assertions more than the
session's depth, the outermost frame, which no pop removes (`ScopeInv`,
`exec_scopeInv`). The depth is the number of scopes that pushes opened and
pops closed since the solver was last created, deleted or cleared
(`scopesSinceReset`, `depth_eq_scopesSinceReset`). A pop is checked
against the depth before the solver is touched, so every scope it closes
is open (`pop_iterate_scopes`).
-/

namespace SmtBackend

open Solver SessionM

/-! ## The solver's frames -/

namespace SolverState

@[simp] theorem push_scopes (st : SolverState) : st.push.scopes = [] :: st.scopes := rfl

@[simp] theorem cleared_scopes (st : SolverState) : st.cleared.scopes = [[]] := rfl

theorem push_iterate_scopes (k : Nat) (st : SolverState) :
    (push^[k] st).scopes = List.replicate k [] ++ st.scopes := by
  induction k with
  | zero => rfl
  | succ k ih => rw [Function.iterate_succ_apply', push_scopes, ih, List.replicate_succ, List.cons_append]

/-- Closing a scope of a stack with an inner frame drops that frame. -/
theorem pop_scopes {st : SolverState} (h : 1 < st.scopes.length) : st.pop.scopes = st.scopes.tail := by
  obtain ⟨inner, outer, rest, hs⟩ : ∃ inner outer rest, st.scopes = inner :: outer :: rest := by
    match hs : st.scopes, h with
    | inner :: outer :: rest, _ => exact ⟨inner, outer, rest, rfl⟩
  simp [pop, hs]

/-- Closing `k` scopes of a stack with more than `k` frames drops the `k`
innermost frames: each pop on the way finds an inner frame to close. -/
theorem pop_iterate_scopes {k : Nat} {st : SolverState} (hk : k < st.scopes.length) :
    (pop^[k] st).scopes = st.scopes.drop k := by
  induction k with
  | zero => rfl
  | succ k ih =>
    have hprev : (pop^[k] st).scopes = st.scopes.drop k := ih (by omega)
    have hinner : 1 < (pop^[k] st).scopes.length := by
      rw [hprev, List.length_drop]
      omega
    rw [Function.iterate_succ_apply', pop_scopes hinner, hprev, List.tail_drop]

/-- An assertion goes into the innermost frame and opens none. -/
theorem assert_scopes_length {st : SolverState} (h : st.scopes ≠ []) (a : Assertion) :
    (st.assert a).scopes.length = st.scopes.length := by
  obtain ⟨inner, outer, hs⟩ := List.exists_cons_of_ne_nil h
  simp [assert, hs]

end SolverState

namespace Session

variable {check : Checker} {s s' : Session}

/-! ## The invariant -/

/-- A solver's assertion stack has one frame more than the session's depth. -/
def ScopeInv (s : Session) : Prop :=
  ∀ st, s.solver = some st → st.scopes.length = s.depth + 1

theorem scopeInv_of_none (h : s.solver = none) : ScopeInv s := by
  intro st hst
  rw [h] at hst
  cases hst

/-- A session at depth zero whose solver, if any, holds one frame. -/
theorem scopeInv_of_single (hdepth : s.depth = 0)
    (hsolver : ∀ st, s.solver = some st → st.scopes = [[]]) : ScopeInv s := by
  intro st hst
  rw [hsolver st hst, hdepth]
  rfl

/-- An operation that keeps the depth and the number of frames of the
solver keeps the invariant. -/
theorem ScopeInv.of_frames (h : ScopeInv s) (hdepth : s'.depth = s.depth)
    (hsolver : ∀ st', s'.solver = some st' →
      ∃ st, s.solver = some st ∧ st'.scopes.length = st.scopes.length) : ScopeInv s' := by
  intro st' hst'
  obtain ⟨st, hst, hlen⟩ := hsolver st' hst'
  rw [hlen, h st hst, hdepth]

/-- A solver mapped by a function that keeps its frames. -/
theorem solver_map_frames {f : SolverState → SolverState} (hf : ∀ st, (f st).scopes = st.scopes) :
    ∀ st', (s.solver.map f) = some st' → ∃ st, s.solver = some st ∧ st'.scopes.length = st.scopes.length := by
  intro st' hst'
  obtain ⟨st, hst, rfl⟩ := Option.map_eq_some_iff.mp hst'
  exact ⟨st, hst, by rw [hf]⟩

theorem solver_same_frames : ∀ st', s.solver = some st' →
    ∃ st, s.solver = some st ∧ st'.scopes.length = st.scopes.length :=
  fun st' hst' => ⟨st', hst', rfl⟩

/-- Handing options to a solver keeps the depth and the frames. -/
theorem applyOptions_scopes (hs : s.solver.isSome) :
    (applyOptions.runOn s).2.depth = s.depth ∧
      ∀ st', (applyOptions.runOn s).2.solver = some st' →
        ∃ st, s.solver = some st ∧ st'.scopes = st.scopes := by
  obtain ⟨l, hframe⟩ := applyOptions_frame hs
  rw [hframe]
  refine ⟨rfl, fun st' hst' => ?_⟩
  obtain ⟨st, hst, rfl⟩ := Option.map_eq_some_iff.mp hst'
  exact ⟨st, hst, st.takeOptions_scopes _ l⟩

/-- Every operation keeps the invariant on a session that is clear when it
has no solver, whatever check keeps the assertion stack. -/
theorem step_scopeInv (hc : Faithful check) (hclear : ClearWhenIdle s) (h : ScopeInv s) (op : Op) :
    ScopeInv (step check s op).2 := by
  by_cases hr : op.isReadOnly
  · rw [step_of_readOnly hr]
    exact h
  cases op with
  | newSolver =>
    simp only [step, Op.run, runOn_then_pure]
    by_cases hs : s.solver.isSome
    · rw [newSolver_runOn, if_pos hs]
      exact h
    have hnone : s.solver = none := by simpa using hs
    have hdepth : s.depth = 0 := (hclear hnone).1
    -- the new solver, if it stays, holds the one frame it starts with
    obtain ⟨l, o, hnew | hnew⟩ := newSolver_of_idle hclear hnone <;> rw [hnew]
    · exact scopeInv_of_none hnone
    · refine scopeInv_of_single hdepth fun st hst => ?_
      cases hst
      exact SolverState.takeOptions_scopes _ _ l
  | deleteSolver =>
    simp only [step, Op.run, runOn_then_pure, deleteSolver_runOn]
    split
    · exact scopeInv_of_none rfl
    · exact h
  | exit =>
    simp only [step, Op.run, runOn_then_pure, exit_runOn]
    split
    · exact scopeInv_of_none rfl
    · exact h
  | resetAssertions =>
    simp only [step, Op.run, runOn_then_pure, resetAssertions_runOn]
    split
    · refine scopeInv_of_single rfl fun st' hst' => ?_
      obtain ⟨st, -, rfl⟩ := Option.map_eq_some_iff.mp hst'
      exact st.cleared_scopes
    · exact h
  | reset =>
    simp only [step, Op.run, runOn_then_pure, reset_runOn]
    split
    · have hs₀ : ({ s with options := [], solver := some {} } : Session).forget.solver.isSome := rfl
      obtain ⟨hdepth, hsolver⟩ := applyOptions_scopes hs₀
      refine scopeInv_of_single hdepth fun st' hst' => ?_
      obtain ⟨st, hst, hscopes⟩ := hsolver st' hst'
      cases hst
      exact hscopes
    · exact h
  | setOpt opt value =>
    simp only [step, Op.run, runOn_then_pure, setOpt_runOn]
    split
    · split
      · exact h
      · exact h.of_frames rfl (solver_map_frames fun st => st.takeOption_scopes _ opt value)
    · exact h.of_frames rfl solver_same_frames
  | assertFormula t =>
    obtain ⟨e, hstep⟩ | ⟨th, -, hstep⟩ := @step_assertFormula_cases check s t
    · rw [hstep]
      exact h
    -- the assertion goes into the innermost of the frames the invariant counts
    · rw [hstep]
      refine h.of_frames (by unfold withAssertion; split <;> rfl) fun st' hst' => ?_
      unfold withAssertion at hst'
      split at hst' <;>
      · obtain ⟨st, hst, rfl⟩ := Option.map_eq_some_iff.mp hst'
        have hne : st.scopes ≠ [] := List.ne_nil_of_length_pos (by rw [h st hst]; omega)
        exact ⟨st, hst, SolverState.assert_scopes_length hne _⟩
  | checkSat =>
    simp only [step, Op.run, runOn_map, checkSat_runOn]
    split
    · rename_i st hst
      refine h.of_frames rfl fun st' hst' => ⟨st, hst, ?_⟩
      cases hst'
      rw [hc.keeps_scopes]
    · exact h
  | checkSatAssuming assumptions =>
    simp only [step, Op.run, runOn_map, checkSatAssuming_runOn]
    split
    · exact h
    · rename_i st hst
      repeat' split
      all_goals first
        | exact h
        | exact h.of_frames rfl solver_same_frames
        | refine h.of_frames rfl fun st' hst' => ⟨st, hst, ?_⟩
          cases hst'
          rw [hc.keeps_scopes]
  | getValue terms =>
    simp only [step, Op.run, runOn_then_pure, runOn_discard, getValue_runOn]
    split
    · exact h
    · split
      · exact h
      -- reading values completes the model and leaves the stack alone
      · exact h.of_frames rfl (solver_map_frames fun _ => rfl)
  | push n =>
    simp only [step, Op.run, runOn_then_pure, push_runOn]
    split
    · simp only [openScope_iterate]
      intro st' hst'
      obtain ⟨st, hst, rfl⟩ := Option.map_eq_some_iff.mp hst'
      simp only [SolverState.push_iterate_scopes, List.length_append, List.length_replicate, h st hst]
      omega
    · exact h
  | pop n =>
    simp only [step, Op.run, runOn_then_pure, pop_runOn]
    split
    · split
      · rename_i hn
        simp only [closeScope_iterate]
        intro st' hst'
        obtain ⟨st, hst, rfl⟩ := Option.map_eq_some_iff.mp hst'
        have hlen := h st hst
        show (SolverState.pop^[n.toNat] st).scopes.length = s.depth - n.toNat + 1
        rw [SolverState.pop_iterate_scopes (by omega), List.length_drop, hlen]
        omega
      · exact h
    · exact h
  | _ => simp [Op.isReadOnly] at hr

/-- The invariant holds at the end of every run, whatever faithful check
the session uses. -/
theorem exec_scopeInv (hc : Faithful check) (environment : Option String) (ops : List Op) :
    ScopeInv (exec check ops (fresh environment)).2 := by
  have hboth : ClearWhenIdle (exec check ops (fresh environment)).2 ∧
      ScopeInv (exec check ops (fresh environment)).2 :=
    exec_invariant (fun s => ClearWhenIdle s ∧ ScopeInv s)
      (fun _ op h => ⟨step_clearWhenIdle h.1 op, step_scopeInv hc h.1 h.2 op⟩) ops
      ⟨clearWhenIdle_fresh environment, scopeInv_of_none rfl⟩
  exact hboth.2

/-! ## Pushing and popping -/

/-- A push goes through exactly when there is a solver; it then opens its
count of scopes, each a new empty frame. -/
theorem step_push_ok_iff (n : Int) : (step check s (.push n)).1 = .ok none ↔ s.solver.isSome := by
  simp only [step, Op.run, runOn_then_pure, push_runOn]
  split <;> simp_all [Except.map]

theorem step_push_opens {st : SolverState} (hst : s.solver = some st) (n : Int) :
    (step check s (.push n)).2.depth = s.depth + n.toNat ∧
      (step check s (.push n)).2.solver = some (SolverState.push^[n.toNat] st) := by
  have hrun : (step check s (.push n)).2 = { openScope^[n.toNat] s with lastResult := none } := by
    simp only [step, Op.run, runOn_then_pure, push_runOn, hst, Option.isSome_some, if_true]
  rw [hrun, openScope_iterate, hst]
  exact ⟨rfl, rfl⟩

/-- A pop goes through exactly when there is a solver and its count is at
most the depth: it is checked before the solver is touched. -/
theorem step_pop_ok_iff (n : Int) :
    (step check s (.pop n)).1 = .ok none ↔ s.solver.isSome ∧ n ≤ s.depth := by
  simp only [step, Op.run, runOn_then_pure, pop_runOn]
  split
  · split <;> simp_all [Except.map]
  · simp_all [Except.map]

/-- A pop that goes through closes its count of scopes, and each of the
pops it hands the solver finds an inner frame to close. -/
theorem step_pop_closes (h : ScopeInv s) {st : SolverState} (hst : s.solver = some st) {n : Int}
    (hn : n ≤ s.depth) :
    (step check s (.pop n)).2.depth = s.depth - n.toNat ∧
      (step check s (.pop n)).2.solver = some (SolverState.pop^[n.toNat] st) ∧
      ∀ i < n.toNat, 1 < (SolverState.pop^[i] st).scopes.length := by
  have hlen := h st hst
  have hrun : (step check s (.pop n)).2 = { closeScope^[n.toNat] s with lastResult := none } := by
    simp only [step, Op.run, runOn_then_pure, pop_runOn, hst, Option.isSome_some, if_true, if_pos hn]
  refine ⟨?_, ?_, fun i hi => ?_⟩
  · rw [hrun, closeScope_iterate]
  · rw [hrun, closeScope_iterate, hst]
    rfl
  · rw [SolverState.pop_iterate_scopes (by omega), List.length_drop]
    omega

/-! ## The depth along a run -/

/-- How an operation moves the count of open scopes, given its answer: a
push or pop that went through opens or closes its count of scopes, and
creating, deleting or clearing the solver starts the count again, unless
creating is refused because a solver exists. -/
def Op.scopeStep : Op → Answer → Nat → Nat
  | .push n, .ok _, d => d + n.toNat
  | .pop n, .ok _, d => d - n.toNat
  | .newSolver, .error (.contract _), d => d
  | .newSolver, _, _ => 0
  | .deleteSolver, _, _ | .exit, _, _ | .reset, _, _ | .resetAssertions, _, _ => 0
  | _, _, d => d

/-- The scopes left open by the operations of a trace: those pushes opened
and pops closed since the solver was last created, deleted or cleared. -/
def scopesSinceReset (t : List (Op × Answer)) : Nat :=
  t.foldl (fun d p => p.1.scopeStep p.2 d) 0

theorem scopeStep_newSolver_zero (a : Answer) : Op.newSolver.scopeStep a 0 = 0 := by
  rcases a with (_ | _ | _ | _) | _ <;> rfl

/-- One operation moves the depth as its answer says. -/
theorem step_depth (hclear : ClearWhenIdle s) (op : Op) :
    (step check s op).2.depth = op.scopeStep (step check s op).1 s.depth := by
  by_cases hr : op.isReadOnly
  · rw [step_of_readOnly hr]
    cases op <;> simp_all [Op.isReadOnly, Op.scopeStep]
  -- without a solver the depth is zero, and only creating one changes the session
  by_cases hs : s.solver.isSome
  case neg =>
    have hnone : s.solver = none := by simpa using hs
    have hdepth : s.depth = 0 := (hclear hnone).1
    cases op with
    | newSolver =>
      rw [hdepth, scopeStep_newSolver_zero]
      simp only [step, Op.run, runOn_then_pure]
      obtain ⟨l, o, hnew | hnew⟩ := newSolver_of_idle hclear hnone <;> rw [hnew] <;> exact hdepth
    | setOpt opt value =>
      simp only [step, Op.run, runOn_then_pure, setOpt_runOn, if_neg hs]
      rfl
    | push n =>
      simp only [step, Op.run, runOn_then_pure, push_runOn, if_neg hs]
      rfl
    | pop n =>
      simp only [step, Op.run, runOn_then_pure, pop_runOn, if_neg hs]
      rfl
    | _ =>
      rw [step_without_solver hnone rfl, hdepth]
      cases (step check s _).1 <;> rfl
  cases op with
  | newSolver =>
    simp only [step, Op.run, runOn_then_pure, newSolver_runOn, if_pos hs]
    rfl
  | deleteSolver =>
    simp only [step, Op.run, runOn_then_pure, deleteSolver_runOn, if_pos hs]
    rfl
  | exit =>
    simp only [step, Op.run, runOn_then_pure, exit_runOn, if_pos hs]
    rfl
  | resetAssertions =>
    simp only [step, Op.run, runOn_then_pure, resetAssertions_runOn, if_pos hs]
    rfl
  | reset =>
    have hs₀ : ({ s with options := [], solver := some {} } : Session).forget.solver.isSome := rfl
    simp only [step, Op.run, runOn_then_pure, reset_runOn, if_pos hs, (applyOptions_scopes hs₀).1]
    rfl
  | setOpt opt value =>
    simp only [step, Op.run, runOn_then_pure, setOpt_runOn, if_pos hs]
    split <;> rfl
  | assertFormula t =>
    simp only [step, Op.run, runOn_then_pure, assertFormula_runOn, if_pos hs]
    repeat' split
    all_goals first | rfl | (unfold withAssertion; split <;> rfl)
  | checkSat =>
    obtain ⟨st, hst⟩ := Option.isSome_iff_exists.mp hs
    simp only [step, Op.run, runOn_map, checkSat_runOn, hst]
    rfl
  | checkSatAssuming hs' =>
    obtain ⟨st, hst⟩ := Option.isSome_iff_exists.mp hs
    simp only [step, Op.run, runOn_map, checkSatAssuming_runOn, hst]
    repeat' split
    all_goals rfl
  | getValue terms =>
    simp only [step, Op.run, runOn_then_pure, runOn_discard, getValue_runOn]
    repeat' split
    all_goals rfl
  | push n =>
    simp only [step, Op.run, runOn_then_pure, push_runOn, if_pos hs, openScope_iterate]
    rfl
  | pop n =>
    simp only [step, Op.run, runOn_then_pure, pop_runOn, if_pos hs]
    split
    · simp only [closeScope_iterate]
      rfl
    · rfl
  | _ => simp [Op.isReadOnly] at hr

/-- On every run, the depth is the number of scopes that pushes opened and
pops closed since the solver was last created, deleted or cleared. -/
theorem depth_eq_scopesSinceReset (environment : Option String) (ops : List Op) :
    (exec check ops (fresh environment)).2.depth = scopesSinceReset (trace check ops (fresh environment)) := by
  induction ops using List.reverseRecOn with
  | nil => rfl
  | append_singleton ops op ih =>
    rw [exec_snoc, trace_snoc, scopesSinceReset, List.foldl_append, ← scopesSinceReset, ← ih]
    exact step_depth (exec_clearWhenIdle environment ops) op

/-- Three scopes opened, one closed, and a pop of five refused. -/
example : (exec SolverState.check [.newSolver, .push 3, .pop 1, .pop 5] (fresh none)).2.depth = 2 := rfl

/-- Creating, deleting and clearing the solver leave the depth at zero,
except a creation refused because a solver exists, which changes nothing. -/
theorem step_restart_depth (hclear : ClearWhenIdle s) :
    ∀ op ∈ [Op.newSolver, .deleteSolver, .reset, .resetAssertions],
      (step check s op).2.depth = 0 ∨ (op = .newSolver ∧ s.solver.isSome ∧ (step check s op).2 = s) := by
  intro op hop
  by_cases hrefused : op = .newSolver ∧ s.solver.isSome
  · obtain ⟨rfl, hs⟩ := hrefused
    refine .inr ⟨rfl, hs, ?_⟩
    simp only [step, Op.run, runOn_then_pure, newSolver_runOn, if_pos hs]
  · refine .inl ?_
    rw [step_depth hclear op]
    simp only [List.mem_cons, List.not_mem_nil, or_false] at hop
    rcases hop with rfl | rfl | rfl | rfl
    -- a solver is created where there was none, at depth zero
    · have hnone : s.solver = none := by simpa using hrefused
      rw [(hclear hnone).1, scopeStep_newSolver_zero]
    all_goals rfl

/-! ## Depth and scopes -/

/-- On every run, under any check that keeps the assertions and records its
verdict, the depth counts the scopes open on the solver: it is the
number of scopes that pushes opened and pops closed since the solver was
last created, deleted or cleared, and a solver holds one frame of
assertions more. From the session a run leaves, a push goes through
exactly when there is a solver and opens its count of scopes; a pop goes
through exactly when there is a solver and its count is at most the
depth, and then closes that many scopes, each of the pops it hands the
solver finding an inner frame to close; creating, deleting and clearing
the solver leave the depth at zero, except a creation refused because a
solver exists, which changes nothing. -/
theorem depth_counts_open_scopes (check : Checker) (hc : Faithful check)
    (environment : Option String) (ops : List Op) :
    let s := (exec check ops (fresh environment)).2
    let after := step check s
    s.depth = scopesSinceReset (trace check ops (fresh environment)) ∧
    (∀ st, s.solver = some st → st.scopes.length = s.depth + 1) ∧
    (∀ n : Int, ((after (.push n)).1 = .ok none ↔ s.solver.isSome) ∧
      ∀ st, s.solver = some st → (after (.push n)).2.depth = s.depth + n.toNat ∧
        (after (.push n)).2.solver = some (SolverState.push^[n.toNat] st)) ∧
    (∀ n : Int, ((after (.pop n)).1 = .ok none ↔ s.solver.isSome ∧ n ≤ s.depth) ∧
      ∀ st, s.solver = some st → n ≤ s.depth →
        (after (.pop n)).2.depth = s.depth - n.toNat ∧
        (after (.pop n)).2.solver = some (SolverState.pop^[n.toNat] st) ∧
        ∀ i < n.toNat, 1 < (SolverState.pop^[i] st).scopes.length) ∧
    (∀ op ∈ [Op.newSolver, .deleteSolver, .reset, .resetAssertions],
      (after op).2.depth = 0 ∨ (op = .newSolver ∧ s.solver.isSome ∧ (after op).2 = s)) := by
  intro s after
  have hinv : ScopeInv s := exec_scopeInv hc environment ops
  have hclear : ClearWhenIdle s := exec_clearWhenIdle environment ops
  refine ⟨depth_eq_scopesSinceReset environment ops, hinv, fun n => ?_, fun n => ?_,
    step_restart_depth hclear⟩
  · exact ⟨step_push_ok_iff n, fun st hst => step_push_opens hst n⟩
  · exact ⟨step_pop_ok_iff n, fun st hst hn => step_pop_closes hinv hst hn⟩

/-- Three scopes opened under the solver's own check: a pop of two goes
through. -/
theorem pop_within_three_scopes :
    Faithful SolverState.check ∧
      (exec SolverState.check [.newSolver, .push 3] (fresh none)).2.solver.isSome ∧
      (2 : Int) ≤ (exec SolverState.check [.newSolver, .push 3] (fresh none)).2.depth ∧
      (step SolverState.check (exec SolverState.check [.newSolver, .push 3] (fresh none)).2
        (.pop 2)).1 = .ok none := by
  have hs : (exec SolverState.check [.newSolver, .push 3] (fresh none)).2.solver.isSome := rfl
  have hdepth : (2 : Int) ≤ (exec SolverState.check [.newSolver, .push 3] (fresh none)).2.depth := by
    decide
  exact ⟨faithful_check, hs, hdepth,
    ((depth_counts_open_scopes SolverState.check faithful_check none _).2.2.2.1 2).1.mpr ⟨hs, hdepth⟩⟩

end Session

end SmtBackend
