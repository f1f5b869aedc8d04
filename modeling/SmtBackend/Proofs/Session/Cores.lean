import SmtBackend.Proofs.Session.LastResult
import SmtBackend.Proofs.Session.Tracking
import SmtBackend.Proofs.Session.Transparency

/-!
# Unsat cores

After an unsatisfiable check the session answers three queries from the
core the solver kept: the assumptions in the core, whether a term lies in
it, and the recorded formulas of the tracking literals in it. The solver is
a parameter; the queries rely on `CoreWithin`: a core holds only tracking
literals of the assertions on the stack and assumptions of the check. The
core stands with the result, so at the end of every run it holds only such
literals and the last assumptions (`CoreInv`, `exec_coreInv`), and the
answers follow (`core_queries_read_last_check`): a term in the core is an
assumption or a literal on the stack, and a formula reported for a literal
is on the stack under it, unless the literal was assumed as well.

Both exceptions are real: a constant named like a tracking literal is that
literal, and the record of tracked formulas is not scoped, so assumed it
brings back a formula whose scope was closed, and it lies in the core of a
check that assumed nothing (`tracking_literal_collisions_in_cores`, under
`coreCheck`, which decides by truth tables and keeps all it was given).
-/

namespace SmtBackend

open Solver

/-- The term behind a handle, for a term handle. -/
def Handle.native? : Handle → Option Term
  | .term th => some th.native
  | .sort _ => none

/-- The core of a solver's outcome, as the queries read it. -/
def SolverState.keptCore (st : SolverState) : List Term :=
  (st.outcome.map (·.core)).getD []

/-! ## A check that computes

The propositional reading decides by truth tables: a term holds under a
valuation as soon as the valuation agrees on its atoms, and the valuations
of finitely many atoms are finitely many. -/

/-- The atoms of a term under the propositional reading: the subterms that
are not implications, negations or Boolean literals. -/
def Term.atoms : Term → List Term
  | .app .implies [a, b] => a.atoms ++ b.atoms
  | .app .not [a] => a.atoms
  | .app (.boolLit _) [] => []
  | t => [t]

theorem holds_congr {v w : Term → Bool} (t : Term) (h : ∀ a ∈ t.atoms, v a = w a) :
    t.holds v = t.holds w := by
  fun_induction Term.holds v t with
  | case1 a b iha ihb =>
    simp only [Term.atoms, List.mem_append] at h
    simp [Term.holds, iha fun c hc => h c (.inl hc), ihb fun c hc => h c (.inr hc)]
  | case2 a iha =>
    simp only [Term.atoms] at h
    simp [Term.holds, iha h]
  | case3 b => simp [Term.holds]
  | case4 t h₁ h₂ h₃ =>
    rw [Term.holds.eq_4 w t h₁ h₂ h₃]
    exact h t (by rw [Term.atoms.eq_4 t h₁ h₂ h₃]; exact List.mem_singleton_self t)

/-- The valuations false outside the given atoms, one for each way of
deciding the atoms. -/
def valuations : List Term → List (Term → Bool)
  | [] => [fun _ => false]
  | a :: as => (valuations as).flatMap fun v =>
    [fun u => if u == a then true else v u, fun u => if u == a then false else v u]

theorem exists_valuation_agreeing (v : Term → Bool) (as : List Term) :
    ∃ w ∈ valuations as, ∀ a ∈ as, w a = v a := by
  induction as with
  | nil => exact ⟨_, List.mem_singleton_self _, by simp⟩
  | cons a as ih =>
    obtain ⟨w, hw, hagree⟩ := ih
    refine ⟨fun u => if u == a then v a else w u, ?_, ?_⟩
    · simp only [valuations, List.mem_flatMap]
      refine ⟨w, hw, ?_⟩
      rcases Bool.eq_false_or_eq_true (v a) with h | h <;> simp [h]
    · intro b hb
      by_cases hba : b = a
      · simp [hba]
      · simp [hba, hagree b (List.mem_of_ne_of_mem hba hb)]

/-- Satisfiability under the propositional reading, by truth tables over
the atoms. -/
def truthTableSat (l : List Term) : Bool :=
  (valuations (l.flatMap Term.atoms)).any fun v => l.all (·.holds v)

theorem truthTableSat_eq_propSat (l : List Term) : truthTableSat l = propSat l := by
  rw [Bool.eq_iff_iff, propSat_eq_true]
  constructor
  · intro h
    obtain ⟨v, -, hv⟩ := List.any_eq_true.mp h
    exact ⟨v, fun t ht => List.all_eq_true.mp hv t ht⟩
  -- a valuation agreeing on the atoms makes the same formulas hold
  · rintro ⟨v, hv⟩
    obtain ⟨w, hw, hagree⟩ := exists_valuation_agreeing v (l.flatMap Term.atoms)
    refine List.any_eq_true.mpr ⟨w, hw, List.all_eq_true.mpr fun t ht => ?_⟩
    rw [holds_congr t fun a ha => hagree a (List.mem_flatMap.mpr ⟨t, ht, ha⟩)]
    exact hv t ht

namespace Session

open SessionM

variable {check : Checker} {s : Session} {st : SolverState}

/-! ## What a core may hold -/

/-- The terms among the assumptions of the last check. -/
def assumedTerms (s : Session) : List Term :=
  s.lastAssumptions.filterMap Handle.native?

/-- What the session relies on of a check for its cores: it is faithful,
and the core of an unsatisfiable outcome holds only tracking literals of the
assertions on the stack and assumptions of the check. -/
structure CoreWithin (check : Checker) : Prop extends Faithful check where
  core_within : ∀ st assumptions o, (check st assumptions).1.outcome = some o →
    o.verdict = .unsat → ∀ c ∈ o.core, c ∈ st.assertions.filterMap (·.tracker) ++ assumptions

/-- A check deciding by `sat` what `propCheck` decides, that keeps its
outcome with every literal and assumption it was given as the core. -/
def coreCheck (sat : List Term → Bool) : Checker := fun st assumptions =>
  let verdict := if sat (st.assertions.map (·.stated) ++
    (st.assertions.filterMap (·.tracker) ++ assumptions)) then Verdict.sat else .unsat
  ({ st with outcome := some { verdict, core := st.assertions.filterMap (·.tracker) ++ assumptions } },
    verdict)

theorem coreWithin_coreCheck (sat : List Term → Bool) : CoreWithin (coreCheck sat) where
  keeps_scopes _ _ := rfl
  keeps_outcome _ _ := rfl
  core_within _ _ _ ho _ _ hc := by
    cases Option.some.inj ho
    exact hc

/-- After an unsatisfiable check, the core the solver keeps holds only
tracking literals of the assertions on its stack and terms among the last
assumptions. -/
def CoreInv (s : Session) : Prop :=
  s.lastResult = some .unsat → ∀ st, s.solver = some st →
    ∀ c ∈ st.keptCore, c ∈ st.assertions.filterMap (·.tracker) ++ assumedTerms s

theorem filterMap_native?_of_mapM {hs : List Handle} {ths : List TermHandle}
    (h : hs.mapM Handle.asTerm = .ok ths) : hs.filterMap Handle.native? = ths.map (·.native) := by
  induction hs generalizing ths with
  | nil =>
    simp only [List.mapM_nil] at h
    cases h
    rfl
  | cons x hs ih =>
    cases x with
    | sort so => simp [List.mapM_cons, bind, Except.bind] at h
    | term th =>
      cases hrest : hs.mapM Handle.asTerm with
      | error e => simp [List.mapM_cons, hrest, bind, Except.bind] at h
      | ok rest =>
        simp only [List.mapM_cons, Handle.asTerm_term, hrest] at h
        cases h
        simp [Handle.native?, ih hrest]

/-- An unsatisfiable verdict of the session is the verdict of an outcome
its solver keeps. -/
theorem outcome_of_outcomeVerdict {v : Verdict} (h : outcomeVerdict s = some v)
    (hst : s.solver = some st) : ∃ o, st.outcome = some o ∧ o.verdict = v := by
  simp only [outcomeVerdict, hst, Option.bind_some] at h
  exact Option.map_eq_some_iff.mp h

theorem step_coreInv (hc : CoreWithin check) (hclear : ClearWhenIdle s) (h : CoreInv s)
    (op : Op) : CoreInv (step check s op).2 := by
  intro hunsat st' hst' c hcore
  rcases step_lastResult hc.toFaithful hclear op hunsat with hsets | hkeeps
  -- the step is the check: its core lies within what it was given
  · obtain ⟨st, ths, -, hmap, hsolver⟩ := hsets.checked
    rw [hsolver] at hst'
    cases hst'
    have hassumed : assumedTerms (step check s op).2 = ths.map (·.native) := by
      rw [assumedTerms, hsets.lastAssumptions]
      exact filterMap_native?_of_mapM hmap
    obtain ⟨o, ho, hv⟩ := outcome_of_outcomeVerdict hsets.outcome hsolver
    rw [SolverState.keptCore, ho] at hcore
    rw [hc.keeps_assertions, hassumed]
    exact hc.core_within st _ o ho hv c hcore
  -- the step keeps the result: stack, core and assumptions are as they were
  · obtain ⟨st, hst, hscopes, hcores⟩ := hkeeps.kept st' hst'
    have hassertions : st'.assertions = st.assertions := by
      unfold SolverState.assertions
      rw [hscopes]
    have hkept : st'.keptCore = st.keptCore := by
      unfold SolverState.keptCore
      rw [hcores]
    have hassumed : assumedTerms (step check s op).2 = assumedTerms s := by
      unfold assumedTerms
      rw [hkeeps.lastAssumptions]
    rw [hassertions, hassumed]
    exact h (hkeeps.lastResult ▸ hunsat) st hst c (hkept ▸ hcore)

theorem exec_coreInv (hc : CoreWithin check) (environment : Option String) (ops : List Op) :
    CoreInv (exec check ops (fresh environment)).2 := by
  have hboth := exec_invariant (fun s => ClearWhenIdle s ∧ CoreInv s)
    (fun _ op h => ⟨step_clearWhenIdle h.1 op, step_coreInv hc h.1 h.2 op⟩) ops
    ⟨clearWhenIdle_fresh environment, fun h => nomatch h⟩
  exact hboth.2

/-! ## The queries -/

section Queries

variable (hunsat : s.lastResult = some .unsat) (hst : s.solver = some st)
include hunsat hst

theorem nativeCore_of_unsat : nativeCore.runOn s = (.ok st.keptCore, s) := by
  rw [nativeCore_runOn, if_pos hunsat, hst]
  rfl

theorem getUnsatAssumptions_of_unsat :
    (getUnsatAssumptions.runOn s).1 = .ok (s.lastAssumptions.filter (inCore st.keptCore)) := by
  simp [getUnsatAssumptions, runOn_bind, runOn_map, Except.map, nativeCore_of_unsat hunsat hst]

theorem isUnsatAssumption_of_unsat (t : Handle) :
    ((isUnsatAssumption t).runOn s).1 = .ok (inCore st.keptCore t) := by
  simp [isUnsatAssumption, runOn_map, Except.map, nativeCore_of_unsat hunsat hst]

theorem getUnsatCore_of_unsat (hcores : s.unsatCoresEnabled) :
    (getUnsatCore.runOn s).1 = .ok (st.keptCore.filterMap (s.tracked.lookup ·)) := by
  simp [getUnsatCore, runOn_bind, runOn_map, Except.map, checkContract, hcores, nativeCore_of_unsat hunsat hst]

end Queries

theorem inCore_eq_true {core : List Term} {t : Handle} :
    inCore core t = true ↔ ∃ th, t = .term th ∧ th.native ∈ core := by
  cases t <;> simp [inCore]

theorem mem_of_lookup_eq_some {α : Type} {l : List (Term × α)} {c : Term} {b : α}
    (h : l.lookup c = some b) : (c, b) ∈ l := by
  obtain ⟨l₁, l₂, rfl, -⟩ := List.lookup_eq_some_iff.mp h
  exact List.mem_append_right _ List.mem_cons_self

/-- A term in the core is an assumption of the check or the literal of an
assertion on the stack. -/
theorem CoreInv.inCore (h : CoreInv s) (hunsat : s.lastResult = some .unsat)
    (hst : s.solver = some st) {t : Handle} (ht : inCore st.keptCore t = true) :
    ∃ th, t = .term th ∧
      (th.native ∈ assumedTerms s ∨ th.native ∈ st.assertions.filterMap (·.tracker)) := by
  obtain ⟨th, rfl, hcore⟩ := inCore_eq_true.mp ht
  exact ⟨th, rfl, (List.mem_append.mp (h hunsat st hst _ hcore)).symm⟩

/-- A formula reported for a literal of the core is on the stack under that
literal, unless the literal is an assumption of the check. -/
theorem CoreInv.reported (h : CoreInv s) (htrack : TrackingInv s) (hcores : s.unsatCoresEnabled)
    (hunsat : s.lastResult = some .unsat) (hst : s.solver = some st) {c : Term}
    {th : TermHandle} (hc : c ∈ st.keptCore) (hlookup : s.tracked.lookup c = some th) :
    (∃ a ∈ st.assertions, a.tracker = some c ∧ a.formula = th.native) ∨ c ∈ assumedTerms s := by
  rcases List.mem_append.mp (h hunsat st hst c hc) with hlive | hassumed
  · obtain ⟨a, ha, htr⟩ := List.mem_filterMap.mp hlive
    obtain ⟨l, th', hl, hmem, hformula⟩ := (htrack.cores hcores st hst).2 a ha
    rw [htr] at hl
    cases hl
    -- the record has one entry per literal, so it is the entry the query read
    have hsame : (c, th') = (c, th) :=
      List.inj_on_of_nodup_map htrack.nodup hmem (mem_of_lookup_eq_some hlookup) rfl
    cases hsame
    exact .inl ⟨a, ha, htr, hformula⟩
  · exact .inr hassumed

/-- What the core queries answer on session `s` with solver `st`, at the end
of a run with trace `tr` whose last completed check was unsatisfiable. -/
structure CoreAnswers (tr : List (Op × Answer)) (s : Session) (st : SolverState) : Prop where
  solver : s.solver = some st
  /-- The last assumptions are those of the last completed check. -/
  lastCheck : ∃ pre c post, tr = pre ++ (c, .ok (some .unsat)) :: post ∧ c.isCheck ∧
    s.lastAssumptions = c.assumptions
  /-- The assumptions in the core, in order and with repetitions. -/
  assumptions : (getUnsatAssumptions.runOn s).1 = .ok (s.lastAssumptions.filter (inCore st.keptCore))
  member : ∀ t, ((isUnsatAssumption t).runOn s).1 = .ok (inCore st.keptCore t)
  /-- A term in the core is an assumption or the literal of an assertion on
  the stack. -/
  member_assumed : ∀ t, inCore st.keptCore t = true → ∃ th, t = .term th ∧
    (th.native ∈ assumedTerms s ∨ th.native ∈ st.assertions.filterMap (·.tracker))
  /-- One recorded formula per tracked literal of the core, in the core's order. -/
  core : s.unsatCoresEnabled →
    (getUnsatCore.runOn s).1 = .ok (st.keptCore.filterMap (s.tracked.lookup ·))
  /-- A reported formula is on the stack under its literal, unless the
  literal was assumed. -/
  core_live : s.unsatCoresEnabled → ∀ c ∈ st.keptCore, ∀ th, s.tracked.lookup c = some th →
    (∃ a ∈ st.assertions, a.tracker = some c ∧ a.formula = th.native) ∨ c ∈ assumedTerms s

/-- After a run whose last completed check was unsatisfiable, the core
queries read the core of that check: its assumptions in the core, terms that
are assumptions or live literals, and formulas on the stack. -/
theorem core_queries_read_last_check (hc : CoreWithin check) (environment : Option String)
    (ops : List Op) (hunsat : (exec check ops (fresh environment)).2.lastResult = some .unsat) :
    ∃ st, CoreAnswers (trace check ops (fresh environment)) (exec check ops (fresh environment)).2
      st := by
  obtain ⟨-, hsolver, -, pre, c, post, htrace, hcheck, -, hassume⟩ :=
    lastResult_of_faithful_run hc.toFaithful environment ops .unsat hunsat
  obtain ⟨st, hst⟩ := Option.isSome_iff_exists.mp hsolver
  have hinv := exec_coreInv hc environment ops
  have htrack := exec_faithful_trackingInv hc.toFaithful environment ops
  exact ⟨st, hst, ⟨pre, c, post, htrace, hcheck, hassume⟩,
    getUnsatAssumptions_of_unsat hunsat hst, isUnsatAssumption_of_unsat hunsat hst,
    fun _ => hinv.inCore hunsat hst, getUnsatCore_of_unsat hunsat hst,
    fun hcores _ hc _ hl => hinv.reported htrack hcores hunsat hst hc hl⟩

/-- Asserting a formula and its negation, under a check that decides by
truth tables: the core queries read that check. -/
theorem core_queries_after_contradiction :
    CoreWithin (coreCheck truthTableSat) ∧
      (exec (coreCheck truthTableSat) [.setOpt Options.produceUnsatCores "true", .newSolver,
        .assertFormula (.term ⟨Term.const "x" .bool, none⟩),
        .assertFormula (.term ⟨.app .not [Term.const "x" .bool], none⟩), .checkSat] (fresh none)).2.lastResult = some .unsat ∧
      ∃ st, CoreAnswers (trace (coreCheck truthTableSat) [.setOpt Options.produceUnsatCores "true", .newSolver,
        .assertFormula (.term ⟨Term.const "x" .bool, none⟩),
        .assertFormula (.term ⟨.app .not [Term.const "x" .bool], none⟩), .checkSat] (fresh none))
        (exec (coreCheck truthTableSat) [.setOpt Options.produceUnsatCores "true", .newSolver,
        .assertFormula (.term ⟨Term.const "x" .bool, none⟩),
        .assertFormula (.term ⟨.app .not [Term.const "x" .bool], none⟩), .checkSat] (fresh none)).2 st := by
  have hunsat : (exec (coreCheck truthTableSat) [.setOpt Options.produceUnsatCores "true", .newSolver,
        .assertFormula (.term ⟨Term.const "x" .bool, none⟩),
        .assertFormula (.term ⟨.app .not [Term.const "x" .bool], none⟩), .checkSat] (fresh none)).2.lastResult =
      some .unsat := by
    set_option maxRecDepth 10000 in rfl
  exact ⟨coreWithin_coreCheck truthTableSat, hunsat,
    core_queries_read_last_check (coreWithin_coreCheck truthTableSat) none _ hunsat⟩

/-- A constant named like the first tracking literal is that literal. Assumed
with its negation after the scope of `x` was closed, it brings `x` back as
the core though the stack is empty and `x` no assumption; and it lies in the
core of a check that assumed nothing. -/
theorem tracking_literal_collisions_in_cores :
    CoreWithin (coreCheck truthTableSat) ∧
      (let s := (exec (coreCheck truthTableSat) [.setOpt Options.produceUnsatCores "true",
          .newSolver, .push 1, .assertFormula (.term ⟨Term.const "x" .bool, none⟩), .pop 1,
          .checkSatAssuming [.term ⟨trackerOf 0, none⟩, .term ⟨.app .not [trackerOf 0], none⟩]]
          (fresh none)).2;
        s.lastResult = some .unsat ∧ s.unsatCoresEnabled ∧ s.solver.map (·.assertions) = some [] ∧
          assumedTerms s = [trackerOf 0, .app .not [trackerOf 0]] ∧
          (getUnsatCore.runOn s).1 = .ok [⟨Term.const "x" .bool, none⟩]) ∧
      (let s := (exec (coreCheck truthTableSat) [.setOpt Options.produceUnsatCores "true", .newSolver,
        .assertFormula (.term ⟨Term.const "x" .bool, none⟩),
        .assertFormula (.term ⟨.app .not [Term.const "x" .bool], none⟩), .checkSat] (fresh none)).2;
        s.lastResult = some .unsat ∧ s.lastAssumptions = [] ∧
          ((isUnsatAssumption (.term ⟨trackerOf 0, none⟩)).runOn s).1 = .ok true) := by
  refine ⟨coreWithin_coreCheck truthTableSat, ?_, ?_⟩
  · set_option maxRecDepth 10000 in exact ⟨rfl, rfl, rfl, rfl, rfl⟩
  · set_option maxRecDepth 10000 in exact ⟨rfl, rfl, rfl⟩

end Session

end SmtBackend
