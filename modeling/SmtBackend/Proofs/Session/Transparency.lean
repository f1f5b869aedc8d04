import SmtBackend.Proofs.Session.Runs

/-!
# Tracking is transparent to checks

With unsat cores on, every formula is asserted as the implication from a
tracking literal `trackerOf k`, which every later check assumes while the
formula is on the stack. Tracking never changes a verdict: a run with unsat
cores queued before its first operation answers every check as the same run
without them (`verdicts_unchanged_by_tracking`).

The solver is a parameter. What the proof relies on of it is `ExactCheck`:
a check decides the satisfiability of what is asserted and assumed, a
tracked formula is its formula once its literal is assumed, and a Boolean
constant that nothing mentions can be assumed freely. That last law is
where tracking can show: the names `_murxla_track_k` are only kept apart
from each other, so the theorem asks that no asserted formula and no
assumption mention a tracking literal. Without that, asserting the negation
of a constant named `_murxla_track_0` is satisfiable, and unsatisfiable once
tracked by that very literal (`tracking_collision_changes_verdict`).
-/

namespace SmtBackend

open Solver SessionM Session

/-! ## Literals and what mentions them -/

/-- Whether a term has a free constant in common with `p`. -/
def Term.Mentions (t p : Term) : Prop := ∃ c ∈ p.constants, c ∈ t.constants

/-- A term that mentions no tracking literal. -/
def Term.TrackerFree (t : Term) : Prop := ∀ k, ¬ t.Mentions (trackerOf k)

/-- A handle that mentions no tracking literal; a sort mentions none. -/
def Handle.TrackerFree : Handle → Prop
  | .term th => th.native.TrackerFree
  | .sort _ => True

/-- A tracking literal, if any: what `assertFormula` puts beside a formula. -/
def IsTrackerOption (o : Option Term) : Prop := ∀ p, o = some p → ∃ k, p = trackerOf k

@[simp] theorem trackerOf_constants (k : Nat) :
    (trackerOf k).constants = [(s!"_murxla_track_{k}", .bool)] := rfl

/-- A tracking literal mentions exactly itself. -/
theorem trackerOf_mentions_iff (j k : Nat) :
    (trackerOf j).Mentions (trackerOf k) ↔ trackerOf j = trackerOf k := by
  constructor
  · rintro ⟨c, hk, hj⟩
    simp only [trackerOf_constants, List.mem_singleton] at hk hj
    have hname : s!"_murxla_track_{j}" = s!"_murxla_track_{k}" :=
      (Prod.mk.inj (hj.symm.trans hk)).1
    simp only [trackerOf, hname]
  · intro h
    exact ⟨_, List.mem_singleton_self _, h ▸ List.mem_singleton_self _⟩

/-! ## What a check relies on -/

/-- A check that decides satisfiability `sat` exactly, for a `sat` with the
laws tracking relies on. -/
structure ExactCheck (check : Checker) (sat : List Term → Bool) : Prop where
  /-- A check leaves the assertion stack alone. -/
  keeps_scopes : ∀ st assumptions, (check st assumptions).1.scopes = st.scopes
  /-- The verdict is satisfiability of the asserted formulas, the literals
  of the tracked ones, and the assumptions. -/
  decides : ∀ st assumptions, (check st assumptions).2 =
    if sat (st.assertions.map (·.stated) ++ (st.assertions.filterMap (·.tracker) ++ assumptions))
    then .sat else .unsat
  /-- Satisfiability is that of a set of formulas. -/
  congr : ∀ l l', (∀ t, t ∈ l ↔ t ∈ l') → sat l = sat l'
  /-- Once its literal holds, a tracked formula says what its formula says. -/
  implies : ∀ k f l, trackerOf k ∈ l →
    sat (.app .implies [trackerOf k, f] :: l) = sat (f :: l)
  /-- A literal that nothing mentions can be made true. -/
  fresh : ∀ k l, (∀ t ∈ l, ¬ t.Mentions (trackerOf k)) → sat (trackerOf k :: l) = sat l

namespace ExactCheck

variable {check : Checker} {sat : List Term → Bool}

/-- Moving a formula to the front of a list keeps satisfiability. -/
theorem sat_rotate (hc : ExactCheck check sat) (t : Term) (l₁ l₂ : List Term) :
    sat (t :: (l₁ ++ l₂)) = sat (l₁ ++ (t :: l₂)) :=
  hc.congr _ _ fun u => by simp [or_left_comm]

/-- Under assumptions that hold every tracking literal, tracked formulas
say what their formulas say. -/
theorem sat_stated (hc : ExactCheck check sat) (as : List Assertion)
    (htr : ∀ a ∈ as, IsTrackerOption a.tracker) (q : List Term)
    (hq : ∀ a ∈ as, ∀ p, a.tracker = some p → p ∈ q) :
    sat (as.map (·.stated) ++ q) = sat (as.map (·.formula) ++ q) := by
  induction as generalizing q with
  | nil => rfl
  | cons a as ih =>
    -- the head is moved behind the rest, so that the rest is rewritten first
    have hrest := ih (fun b hb => htr b (List.mem_cons_of_mem a hb)) (a.stated :: q)
      (fun b hb p hp => List.mem_cons_of_mem _ (hq b (List.mem_cons_of_mem a hb) p hp))
    simp only [List.map_cons, List.cons_append]
    rw [hc.sat_rotate, hrest, ← hc.sat_rotate]
    cases htrack : a.tracker with
    | none => simp [Assertion.stated, htrack]
    | some p =>
      obtain ⟨k, rfl⟩ := htr a List.mem_cons_self p htrack
      have hmem : trackerOf k ∈ as.map (·.formula) ++ q :=
        List.mem_append_right _ (hq a List.mem_cons_self _ htrack)
      simp only [Assertion.stated, htrack]
      exact hc.implies k a.formula _ hmem

/-- Tracking literals that nothing else mentions can all be dropped. -/
theorem sat_literals (hc : ExactCheck check sat) (fs ps as : List Term)
    (hfs : ∀ f ∈ fs, f.TrackerFree) (has : ∀ t ∈ as, t.TrackerFree)
    (hps : ∀ p ∈ ps, ∃ k, p = trackerOf k) :
    sat (fs ++ (ps ++ as)) = sat (fs ++ as) := by
  induction ps with
  | nil => rfl
  | cons p ps ih =>
    obtain ⟨k, rfl⟩ := hps p List.mem_cons_self
    rw [List.cons_append, ← hc.sat_rotate]
    by_cases hdup : trackerOf k ∈ fs ++ (ps ++ as)
    -- a literal assumed twice is assumed once
    · rw [← ih fun p hp => hps p (List.mem_cons_of_mem _ hp)]
      exact hc.congr _ _ fun u => by
        simp only [List.mem_cons, or_iff_right_iff_imp]
        rintro rfl
        exact hdup
    · rw [hc.fresh k _ ?_, ih fun p hp => hps p (List.mem_cons_of_mem _ hp)]
      intro t ht hmention
      simp only [List.mem_append] at ht
      rcases ht with ht | ht | ht
      · exact hfs t ht k hmention
      · obtain ⟨j, rfl⟩ := hps t (List.mem_cons_of_mem _ ht)
        exact hdup (List.mem_append_right _ (List.mem_append_left _
          (((trackerOf_mentions_iff j k).mp hmention) ▸ ht)))
      · exact has t ht k hmention

/-- A check of tracked formulas answers as the check of their formulas. -/
theorem sat_assertions (hc : ExactCheck check sat) (as : List Assertion) (assumptions : List Term)
    (htr : ∀ a ∈ as, IsTrackerOption a.tracker) (hfree : ∀ a ∈ as, a.formula.TrackerFree)
    (hassume : ∀ t ∈ assumptions, t.TrackerFree) :
    sat (as.map (·.stated) ++ (as.filterMap (·.tracker) ++ assumptions)) =
      sat (as.map (·.formula) ++ assumptions) := by
  have hps : ∀ p ∈ as.filterMap (·.tracker), ∃ k, p = trackerOf k := by
    intro p hp
    obtain ⟨a, ha, htrack⟩ := List.mem_filterMap.mp hp
    exact htr a ha p htrack
  rw [hc.sat_stated as htr _ fun a ha p hp =>
      List.mem_append_left _ (List.mem_filterMap.mpr ⟨a, ha, hp⟩),
    hc.sat_literals _ _ _ (by simpa using hfree) hassume hps]

end ExactCheck

/-! ## Recorded options -/

theorem Options.mem_setKey {l : List (String × String)} {key value : String}
    {p : String × String} :
    p ∈ Options.setKey l key value ↔ p = (key, value) ∨ (p.1 ≠ key ∧ p ∈ l) := by
  unfold Options.setKey
  split
  · rename_i hany
    obtain ⟨q, hq, hqkey⟩ := List.any_eq_true.mp hany
    simp only [List.mem_map]
    constructor
    · rintro ⟨r, hr, rfl⟩
      by_cases hr' : r.1 = key
      · simp [hr']
      · simp [hr', hr]
    · rintro (rfl | ⟨hp, hpl⟩)
      · exact ⟨q, hq, by simp [beq_iff_eq.mp hqkey]⟩
      · exact ⟨p, hpl, by simp [hp]⟩
  · rename_i hany
    simp only [List.any_eq_true, beq_iff_eq, not_exists, not_and] at hany
    simp only [List.mem_append, List.mem_singleton]
    constructor
    · rintro (hpl | rfl)
      · exact .inr ⟨hany p hpl, hpl⟩
      · exact .inl rfl
    · rintro (rfl | ⟨_, hpl⟩)
      · exact .inr rfl
      · exact .inl hpl

/-- The options of the run with unsat cores queued, beside those of the
run without: the same settings, except that the first may still hold the
queued one where the second has none for that option. -/
def OptionsTwin (oa ob : List (String × String)) : Prop :=
  (∀ p ∈ ob, p ∈ oa) ∧
    ∀ p ∈ oa, p ∈ ob ∨
      (p = (Options.produceUnsatCores, "true") ∧ ∀ v, (Options.produceUnsatCores, v) ∉ ob)

theorem OptionsTwin.refl (o : List (String × String)) : OptionsTwin o o :=
  ⟨fun _ hp => hp, fun _ hp => .inl hp⟩

theorem OptionsTwin.setKey {oa ob : List (String × String)} (h : OptionsTwin oa ob)
    (key value : String) :
    OptionsTwin (Options.setKey oa key value) (Options.setKey ob key value) := by
  constructor
  · intro p hp
    rcases Options.mem_setKey.mp hp with rfl | ⟨hkey, hpb⟩
    · exact Options.mem_setKey.mpr (.inl rfl)
    · exact Options.mem_setKey.mpr (.inr ⟨hkey, h.1 p hpb⟩)
  · intro p hp
    rcases Options.mem_setKey.mp hp with rfl | ⟨hkey, hpa⟩
    · exact .inl (Options.mem_setKey.mpr (.inl rfl))
    rcases h.2 p hpa with hpb | ⟨rfl, hnone⟩
    · exact .inl (Options.mem_setKey.mpr (.inr ⟨hkey, hpb⟩))
    -- the queued setting survives only a key other than its own
    · refine .inr ⟨rfl, fun v hv => ?_⟩
      rcases Options.mem_setKey.mp hv with hv | ⟨_, hv⟩
      · exact hkey (Prod.mk.inj hv).1
      · exact hnone v hv

theorem OptionsTwin.foldl_setKey {oa ob : List (String × String)} (h : OptionsTwin oa ob)
    (l : List (String × String)) :
    OptionsTwin (l.foldl (fun o p => Options.setKey o p.1 p.2) oa)
      (l.foldl (fun o p => Options.setKey o p.1 p.2) ob) := by
  induction l generalizing oa ob with
  | nil => exact h
  | cons p l ih => exact ih (h.setKey p.1 p.2)

/-- The queued setting is one the solver library of a fresh session takes. -/
theorem rejection?_unsatCores : rejection? catalogue Options.produceUnsatCores "true" = none := rfl

/-- A solver that takes the queued setting refuses an option of one list
exactly when it refuses one of the other. -/
theorem OptionsTwin.accepted_iff {params : List ParamInfo}
    (hcores : rejection? params Options.produceUnsatCores "true" = none)
    {oa ob : List (String × String)} (h : OptionsTwin oa ob) :
    firstFailure (fun p => rejection? params p.1 p.2) oa = .ok () ↔
      firstFailure (fun p => rejection? params p.1 p.2) ob = .ok () := by
  simp only [firstFailure_eq_ok]
  constructor
  · intro ha p hp
    exact ha p (h.1 p hp)
  · intro hb p hp
    rcases h.2 p hp with hp | ⟨rfl, _⟩
    · exact hb p hp
    · exact hcores

/-! ## Solvers side by side -/

/-- An assertion beside the same assertion of the other run: the same
formula, which mentions no tracking literal, each tracked by at most a
tracking literal. -/
def Assertion.Twin (a b : Assertion) : Prop :=
  a.formula = b.formula ∧ a.formula.TrackerFree ∧ IsTrackerOption a.tracker ∧
    IsTrackerOption b.tracker

/-- Two solvers whose stacks hold the same formulas in the same scopes. -/
def SolverState.Twin (sa sb : SolverState) : Prop :=
  List.Forall₂ (List.Forall₂ Assertion.Twin) sa.scopes sb.scopes

namespace SolverState

variable {sa sb : SolverState}

theorem Twin.of_scopes {sa' sb' : SolverState} (h : Twin sa sb) (ha : sa'.scopes = sa.scopes)
    (hb : sb'.scopes = sb.scopes) : Twin sa' sb' := by
  unfold Twin
  rw [ha, hb]
  exact h

theorem twin_empty : Twin ({} : SolverState) {} := .cons .nil .nil

theorem Twin.assert {a b : Assertion} (h : Twin sa sb) (hab : a.Twin b) :
    Twin (sa.assert a) (sb.assert b) := by
  unfold Twin at h ⊢
  simp only [SolverState.assert]
  revert h
  generalize sa.scopes = la
  generalize sb.scopes = lb
  intro h
  cases h with
  | nil => exact .cons (.cons hab .nil) .nil
  | cons hinner houter => exact .cons (List.rel_append hinner (.cons hab .nil)) houter

theorem Twin.push (h : Twin sa sb) : Twin sa.push sb.push := .cons .nil h

theorem Twin.pop (h : Twin sa sb) : Twin sa.pop sb.pop := by
  unfold Twin at h ⊢
  simp only [SolverState.pop]
  revert h
  generalize sa.scopes = la
  generalize sb.scopes = lb
  intro h
  -- both stacks have the same shape, so both close the same scope
  rcases h with _ | ⟨_, hrest⟩
  · exact twin_empty
  · cases hrest with
    | nil => exact twin_empty
    | cons hnext houter => exact .cons hnext houter

theorem Twin.iterate {f g : SolverState → SolverState}
    (hfg : ∀ x y, Twin x y → Twin (f x) (g y)) (k : Nat) (h : Twin sa sb) :
    Twin (f^[k] sa) (g^[k] sb) := by
  induction k generalizing sa sb with
  | zero => exact h
  | succ k ih => exact ih (hfg _ _ h)

theorem Twin.assertions (h : Twin sa sb) :
    List.Forall₂ Assertion.Twin sa.assertions sb.assertions :=
  List.rel_flatten (List.rel_reverse h)

/-- Twin solvers assert the same formulas. -/
theorem Twin.formulas (h : Twin sa sb) :
    sa.assertions.map (·.formula) = sb.assertions.map (·.formula) := by
  have hrel := h.assertions
  revert hrel
  generalize sa.assertions = la
  generalize sb.assertions = lb
  intro hrel
  induction hrel with
  | nil => rfl
  | cons hab _ ih => simp [hab.1, ih]

/-- Every assertion of a twin solver is of the shape tracking makes. -/
theorem Twin.tracked_left (h : Twin sa sb) :
    ∀ x ∈ sa.assertions, IsTrackerOption x.tracker ∧ x.formula.TrackerFree := by
  have hrel := h.assertions
  revert hrel
  generalize sa.assertions = la
  generalize sb.assertions = lb
  intro hrel
  induction hrel with
  | nil => simp
  | cons hxy _ ih =>
    intro x hx
    rcases List.mem_cons.mp hx with rfl | hx
    · exact ⟨hxy.2.2.1, hxy.2.1⟩
    · exact ih x hx

theorem Twin.tracked_right (h : Twin sa sb) :
    ∀ y ∈ sb.assertions, IsTrackerOption y.tracker ∧ y.formula.TrackerFree := by
  have hrel := h.assertions
  revert hrel
  generalize sa.assertions = la
  generalize sb.assertions = lb
  intro hrel
  induction hrel with
  | nil => simp
  | cons hxy _ ih =>
    intro y hy
    rcases List.mem_cons.mp hy with rfl | hy
    · exact ⟨hxy.2.2.2, hxy.1 ▸ hxy.2.1⟩
    · exact ih y hy

/-- An exact check of twin solvers under assumptions that mention no
tracking literal gives one verdict. -/
theorem Twin.check_verdict {check : Checker} {sat : List Term → Bool} (hc : ExactCheck check sat)
    (h : Twin sa sb) (assumptions : List Term) (hassume : ∀ t ∈ assumptions, t.TrackerFree) :
    (check sa assumptions).2 = (check sb assumptions).2 := by
  have hleft := hc.sat_assertions sa.assertions assumptions
    (fun x hx => (h.tracked_left x hx).1) (fun x hx => (h.tracked_left x hx).2) hassume
  have hright := hc.sat_assertions sb.assertions assumptions
    (fun y hy => (h.tracked_right y hy).1) (fun y hy => (h.tracked_right y hy).2) hassume
  rw [hc.decides, hc.decides, hleft, hright, h.formulas]

end SolverState

/-! ## Sessions side by side -/

namespace Session

/-- A session of the run with unsat cores queued, beside the session of the
run without at the same point: the same environment and parameter
descriptions, under which the queued setting is taken, twin options, twin
solvers (or none in both), and the same counts. -/
structure Twin (a b : Session) : Prop where
  environment : a.environment = b.environment
  options : OptionsTwin a.options b.options
  solver : Option.Rel SolverState.Twin a.solver b.solver
  depth : a.depth = b.depth
  asserted : a.asserted = b.asserted
  params : a.params = b.params
  cores : rejection? a.params Options.produceUnsatCores "true" = none

namespace Twin

variable {a b : Session}

theorem solver_isSome {x y : Option SolverState} (h : Option.Rel SolverState.Twin x y) :
    x.isSome = y.isSome := by
  cases h <;> rfl

theorem isSome_eq (h : Twin a b) : a.solver.isSome = b.solver.isSome :=
  solver_isSome h.solver

/-- Changing both solvers by maps that keep them twins keeps the sessions twins. -/
theorem mapSolver (h : Twin a b) (f g : SolverState → SolverState)
    (hfg : ∀ x y, SolverState.Twin x y → SolverState.Twin (f x) (g y)) :
    Twin { a with solver := a.solver.map f } { b with solver := b.solver.map g } := by
  refine { h with solver := ?_ }
  have hsolver := h.solver
  revert hsolver
  generalize a.solver = x
  generalize b.solver = y
  intro hsolver
  cases hsolver with
  | none => exact .none
  | some hxy => exact .some (hfg _ _ hxy)

theorem forget (h : Twin a b) : Twin a.forget b.forget :=
  { h with depth := rfl, asserted := rfl }

theorem setOptions (h : Twin a b) {oa ob : List (String × String)} (ho : OptionsTwin oa ob) :
    Twin { a with options := oa } { b with options := ob } :=
  { h with options := ho }

theorem takeOptions (h : Twin a b) (l : List (String × String)) :
    Twin (a.takeOptions l) (b.takeOptions l) := by
  rw [takeOptions_eq, takeOptions_eq]
  exact (h.mapSolver _ _ fun x y hxy => hxy.of_scopes (x.takeOptions_scopes _ l)
    (y.takeOptions_scopes _ l)).setOptions (h.options.foldl_setKey l)

theorem giveOptions (h : Twin a b) (la lb : List (String × String)) :
    Twin (a.giveOptions la) (b.giveOptions lb) :=
  h.mapSolver _ _ fun x y hxy =>
    hxy.of_scopes (x.takeOptions_scopes _ la) (y.takeOptions_scopes _ lb)

theorem environmentOptions_eq (h : Twin a b) : environmentOptions a = environmentOptions b := by
  simp only [environmentOptions, h.environment]

/-- Twin sessions take their options alike: both fail or neither does, and
they stay twins. -/
theorem applyOptions (h : Twin a b) (ha : a.solver.isSome) :
    (applyOptions.runOn a).1.isOk = (applyOptions.runOn b).1.isOk ∧
      Twin (applyOptions.runOn a).2 (applyOptions.runOn b).2 := by
  have hb : b.solver.isSome := h.isSome_eq ▸ ha
  rw [applyOptions_runOn a ha, applyOptions_runOn b hb]
  simp only
  have haccept := h.options.accepted_iff h.cores
  rw [← h.params]
  -- the recorded options are refused in both or in neither
  cases hfa : firstFailure (fun p => rejection? a.params p.1 p.2) a.options with
  | error e =>
    cases hfb : firstFailure (fun p => rejection? a.params p.1 p.2) b.options with
    | error e' => exact ⟨rfl, h.giveOptions _ _⟩
    | ok u => simp [hfa, hfb] at haccept
  | ok u =>
    cases hfb : firstFailure (fun p => rejection? a.params p.1 p.2) b.options with
    | error e' => simp [hfa, hfb] at haccept
    | ok u' =>
      -- the environment and the count of assertions are the same in both
      rw [← h.environmentOptions_eq, h.asserted]
      cases environmentOptions a with
      | error e => exact ⟨rfl, h.giveOptions _ _⟩
      | ok pairs => exact ⟨rfl, (h.giveOptions _ _).takeOptions _⟩

theorem dropSolver (h : Twin a b) : Twin { a with solver := none } { b with solver := none } :=
  { h with solver := .none }

/-- Twin sessions have both no solver, or twin solvers. -/
theorem cases_solver (h : Twin a b) :
    (a.solver = none ∧ b.solver = none) ∨
      ∃ sa sb, a.solver = some sa ∧ b.solver = some sb ∧ SolverState.Twin sa sb := by
  have hsolver := h.solver
  revert hsolver
  generalize a.solver = x
  generalize b.solver = y
  intro hsolver
  cases hsolver with
  | none => exact .inl ⟨rfl, rfl⟩
  | some hxy => exact .inr ⟨_, _, rfl, rfl, hxy⟩

theorem withModel_left (h : Twin a b) (m : Model) : Twin (a.withModel m) b := by
  have h' := h.mapSolver
    (fun st => { st with outcome := st.outcome.map fun o => { o with model := m } }) id
    fun x y hxy => hxy
  simpa [withModel] using h'

theorem withModel_right (h : Twin a b) (m : Model) : Twin a (b.withModel m) := by
  have h' := h.mapSolver id
    (fun st => { st with outcome := st.outcome.map fun o => { o with model := m } })
    fun x y hxy => hxy
  simpa [withModel] using h'

theorem isTrackerOption_none : IsTrackerOption none := fun _ h => nomatch h

theorem isTrackerOption_trackerOf (k : Nat) : IsTrackerOption (some (trackerOf k)) :=
  fun _ h => ⟨k, (Option.some.inj h).symm⟩

/-- Both runs assert a formula alike, whether or not each tracks it. -/
theorem withAssertion (h : Twin a b) {th : TermHandle} (hfree : th.native.TrackerFree) :
    Twin (a.withAssertion th) (b.withAssertion th) := by
  have hab : ∀ ta tb, IsTrackerOption ta → IsTrackerOption tb →
      Assertion.Twin ⟨th.native, ta⟩ ⟨th.native, tb⟩ :=
    fun _ _ hta htb => ⟨rfl, hfree, hta, htb⟩
  unfold Session.withAssertion
  split <;> split <;>
    exact ⟨h.environment, h.options,
      (h.mapSolver _ _ fun x y hxy => hxy.assert (hab _ _
        (by first | exact isTrackerOption_none | exact isTrackerOption_trackerOf _)
        (by first | exact isTrackerOption_none | exact isTrackerOption_trackerOf _))).solver,
      h.depth, congrArg (· + 1) h.asserted, h.params, h.cores⟩

end Twin

end Session

/-! ## One operation on both runs -/

namespace Session

/-- The formulas an operation hands to the solver: what it asserts, and
what it assumes. -/
def Op.formulas : Op → List Handle
  | .assertFormula t => [t]
  | .checkSatAssuming assumptions => assumptions
  | _ => []

namespace Twin

variable {a b : Session} {check : Checker} {sat : List Term → Bool}

/-- One operation keeps the two runs twins. -/
theorem step (hc : ExactCheck check sat) (h : Twin a b) (op : Op)
    (hfree : ∀ t ∈ op.formulas, t.TrackerFree) :
    Twin (Session.step check a op).2 (Session.step check b op).2 := by
  by_cases hr : op.isReadOnly
  · rw [step_of_readOnly hr, step_of_readOnly hr]
    exact h
  have hsome := h.isSome_eq
  cases op with
  | newSolver =>
    simp only [Session.step, Op.run, runOn_then_pure, newSolver_runOn, hsome]
    split
    · exact h
    -- both runs create a solver and take their options alike
    · have h₀ : Twin { a with solver := some {}, depth := 0 } { b with solver := some {}, depth := 0 } :=
        { h with solver := .some SolverState.twin_empty, depth := rfl }
      obtain ⟨hok, htwin⟩ := h₀.applyOptions rfl
      revert hok htwin
      rcases Session.applyOptions.runOn { a with solver := some {}, depth := 0 } with
        ⟨_ | ⟨⟩, a'⟩ <;>
        rcases Session.applyOptions.runOn { b with solver := some {}, depth := 0 } with
        ⟨_ | ⟨⟩, b'⟩ <;>
        intro hok htwin
      all_goals first
        | exact htwin.dropSolver.forget
        | exact htwin
        | (exfalso; simp [Except.isOk, Except.toBool] at hok)
  | deleteSolver =>
    simp only [Session.step, Op.run, runOn_then_pure, deleteSolver_runOn, hsome]
    split
    · exact h.dropSolver.forget
    · exact h
  | exit =>
    simp only [Session.step, Op.run, runOn_then_pure, exit_runOn, hsome]
    split
    · exact h.dropSolver.forget
    · exact h
  | setOpt opt value =>
    simp only [Session.step, Op.run, runOn_then_pure, setOpt_runOn, hsome]
    split
    · have hrefusal : refusal? a.params a.asserted opt value =
          refusal? b.params b.asserted opt value := by
        rw [h.asserted, h.params]
      rw [hrefusal]
      split
      · exact h
      · exact (h.mapSolver _ _ fun x y hxy => hxy.of_scopes (x.takeOption_scopes _ opt value)
          (y.takeOption_scopes _ opt value)).setOptions (h.options.setKey opt value)
    · exact h.setOptions (h.options.setKey opt value)
  | assertFormula t =>
    simp only [Session.step, Op.run, runOn_then_pure, assertFormula_runOn, hsome]
    repeat' split
    all_goals first
      | exact h
      | exact h.withAssertion (hfree _ List.mem_cons_self)
  | checkSat =>
    rcases h.cases_solver with ⟨ha, hb⟩ | ⟨sa, sb, ha, hb, hab⟩
    · simp only [Session.step, Op.run, runOn_map, checkSat_runOn, ha, hb]
      exact h
    · simp only [Session.step, Op.run, runOn_map, checkSat_runOn, ha, hb]
      refine ⟨h.environment, h.options, .some ?_, h.depth, h.asserted, h.params, h.cores⟩
      exact hab.of_scopes (hc.keeps_scopes _ _) (hc.keeps_scopes _ _)
  | checkSatAssuming assumptions =>
    rcases h.cases_solver with ⟨ha, hb⟩ | ⟨sa, sb, ha, hb, hab⟩
    · simp only [Session.step, Op.run, runOn_map, checkSatAssuming_runOn, ha, hb]
      exact h
    · simp only [Session.step, Op.run, runOn_map, checkSatAssuming_runOn, ha, hb]
      repeat' split
      all_goals first
        | exact h
        | exact ⟨h.environment, h.options, .some hab, h.depth, h.asserted, h.params, h.cores⟩
        | refine ⟨h.environment, h.options, .some ?_, h.depth, h.asserted, h.params, h.cores⟩
          exact hab.of_scopes (hc.keeps_scopes _ _) (hc.keeps_scopes _ _)
  | getValue terms =>
    simp only [Session.step, Op.run, runOn_then_pure, runOn_discard, getValue_runOn]
    -- the runs may differ in their last results: reading values only completes a model
    repeat' split
    all_goals first
      | exact h
      | exact h.withModel_left _
      | exact h.withModel_right _
      | exact (h.withModel_left _).withModel_right _
  | push n =>
    simp only [Session.step, Op.run, runOn_then_pure, push_runOn, hsome, openScope_iterate]
    split
    · exact { h.mapSolver (SolverState.push^[n.toNat]) (SolverState.push^[n.toNat])
        fun x y hxy => hxy.iterate (fun _ _ => SolverState.Twin.push) _
        with depth := by simp [h.depth] }
    · exact h
  | pop n =>
    simp only [Session.step, Op.run, runOn_then_pure, pop_runOn, hsome, closeScope_iterate]
    have hdepth : (a.depth : Int) = b.depth := by rw [h.depth]
    rw [hdepth]
    split
    · split
      · exact { h.mapSolver (SolverState.pop^[n.toNat]) (SolverState.pop^[n.toNat])
          fun x y hxy => hxy.iterate (fun _ _ => SolverState.Twin.pop) _
          with depth := by simp [h.depth] }
      · exact h
    · exact h
  | reset =>
    simp only [Session.step, Op.run, runOn_then_pure, reset_runOn, hsome]
    split
    · have h₀ : Twin { a with options := [], solver := some {} }.forget
          { b with options := [], solver := some {} }.forget :=
        Twin.forget { h with options := OptionsTwin.refl [], solver := .some SolverState.twin_empty }
      exact (h₀.applyOptions rfl).2
    · exact h
  | resetAssertions =>
    simp only [Session.step, Op.run, runOn_then_pure, resetAssertions_runOn, hsome]
    split
    · exact (h.mapSolver SolverState.cleared SolverState.cleared fun _ _ _ =>
        SolverState.twin_empty.of_scopes rfl rfl).forget
    · exact h
  | _ => simp [Op.isReadOnly] at hr

theorem mem_of_mapM_asTerm {hs : List Handle} {ths : List TermHandle}
    (h : hs.mapM Handle.asTerm = .ok ths) : ∀ th ∈ ths, Handle.term th ∈ hs := by
  induction hs generalizing ths with
  | nil =>
    simp only [List.mapM_nil] at h
    cases h
    simp
  | cons x hs ih =>
    cases x with
    | sort so => simp [List.mapM_cons, bind, Except.bind] at h
    | term t =>
      cases hrest : hs.mapM Handle.asTerm with
      | error e => simp [List.mapM_cons, hrest, bind, Except.bind] at h
      | ok rest =>
        simp only [List.mapM_cons, Handle.asTerm_term, hrest] at h
        cases h
        intro th hth
        rcases List.mem_cons.mp hth with rfl | hth
        · exact List.mem_cons_self
        · exact List.mem_cons_of_mem _ (ih hrest th hth)

/-- A check answers alike in both runs. -/
theorem step_check (hc : ExactCheck check sat) (h : Twin a b) {op : Op} (hop : op.isCheck)
    (hfree : ∀ t ∈ op.formulas, t.TrackerFree) :
    (Session.step check a op).1 = (Session.step check b op).1 := by
  cases op with
  | checkSat =>
    rcases h.cases_solver with ⟨ha, hb⟩ | ⟨sa, sb, ha, hb, hab⟩
    · simp only [Session.step, Op.run, runOn_map, checkSat_runOn, ha, hb]
    · simp only [Session.step, Op.run, runOn_map, checkSat_runOn, ha, hb,
        hab.check_verdict hc [] (by simp)]
  | checkSatAssuming assumptions =>
    rcases h.cases_solver with ⟨ha, hb⟩ | ⟨sa, sb, ha, hb, hab⟩
    · simp only [Session.step, Op.run, runOn_map, checkSatAssuming_runOn, ha, hb]
    · simp only [Session.step, Op.run, runOn_map, checkSatAssuming_runOn, ha, hb]
      split
      · rfl
      · cases hths : assumptions.mapM Handle.asTerm with
        | error e => rfl
        | ok ths =>
          -- the assumptions are the harness's own terms, which mention no literal
          have hassume : ∀ t ∈ ths.map (·.native), t.TrackerFree := by
            intro t ht
            obtain ⟨th, hth, rfl⟩ := List.mem_map.mp ht
            exact hfree _ (mem_of_mapM_asTerm hths th hth)
          simp only [hab.check_verdict hc _ hassume]
  | _ => simp [Op.isCheck] at hop

end Twin

end Session

/-! ## Whole runs -/

namespace Session

variable {check : Checker} {sat : List Term → Bool}

/-- Twin sessions answer each check of a run alike, wherever it stands. -/
theorem Twin.exec (hc : ExactCheck check sat) {a b : Session} (h : Twin a b) (ops : List Op)
    (hfree : ∀ op ∈ ops, ∀ t ∈ op.formulas, t.TrackerFree) (i : Nat) {op : Op}
    (hop : ops[i]? = some op) (hcheck : op.isCheck) :
    (Session.exec check ops a).1[i]? = (Session.exec check ops b).1[i]? := by
  induction ops generalizing a b i with
  | nil => simp at hop
  | cons first ops ih =>
    have hfirst := hfree first List.mem_cons_self
    have hrest : ∀ op ∈ ops, ∀ t ∈ op.formulas, t.TrackerFree :=
      fun op hop => hfree op (List.mem_cons_of_mem _ hop)
    cases i with
    | zero =>
      simp only [List.getElem?_cons_zero, Option.some.injEq] at hop
      subst hop
      simp [exec_cons, h.step_check hc hcheck hfirst]
    | succ i =>
      simp only [List.getElem?_cons_succ] at hop
      simp only [exec_cons, List.getElem?_cons_succ]
      exact ih (h.step hc first hfirst) hrest i hop

/-- Queuing unsat cores on a fresh session gives a twin of it. -/
theorem twin_queued_unsatCores (environment : Option String) :
    Twin (step check (fresh environment) (.setOpt Options.produceUnsatCores "true")).2
      (fresh environment) := by
  have hqueued : (step check (fresh environment) (.setOpt Options.produceUnsatCores "true")).2 =
      { fresh environment with options := [(Options.produceUnsatCores, "true")] } := rfl
  rw [hqueued]
  refine ⟨rfl, ⟨fun _ hp => (nomatch hp), fun p hp => .inr ⟨List.mem_singleton.mp hp, ?_⟩⟩,
    .none, rfl, rfl, rfl, rejection?_unsatCores⟩
  intro _ hv
  nomatch hv

/-- Turning on unsat cores never changes a verdict: queued before a run,
they leave the answer of every check of the run as it is without them,
as long as no formula the run asserts or assumes mentions a tracking
literal. -/
theorem verdicts_unchanged_by_tracking (hc : ExactCheck check sat)
    (environment : Option String) (ops : List Op)
    (hfree : ∀ op ∈ ops, ∀ t ∈ op.formulas, t.TrackerFree) (i : Nat) (op : Op)
    (hop : ops[i]? = some op) (hcheck : op.isCheck) :
    (exec check (.setOpt Options.produceUnsatCores "true" :: ops) (fresh environment)).1[i + 1]? =
      (exec check ops (fresh environment)).1[i]? := by
  rw [exec_cons, List.getElem?_cons_succ]
  exact (twin_queued_unsatCores environment).exec hc ops hfree i hop hcheck

end Session

/-! ## A check that decides exactly

The propositional reading of terms gives a check that `ExactCheck` holds
of: implication, negation and the Boolean literals are read, and every other
term is an atom that a valuation decides. -/

/-- Whether a term holds under a valuation of the atoms. -/
def Term.holds (v : Term → Bool) : Term → Bool
  | .app .implies [a, b] => !a.holds v || b.holds v
  | .app .not [a] => !a.holds v
  | .app (.boolLit b) [] => b
  | t => v t

open Classical in
/-- Satisfiability under the propositional reading: some valuation makes
every formula hold. -/
noncomputable def propSat (l : List Term) : Bool :=
  decide (∃ v : Term → Bool, ∀ t ∈ l, t.holds v = true)

/-- The check that decides satisfiability under the propositional reading. -/
noncomputable def propCheck : Checker := fun st assumptions =>
  (st, if propSat (st.assertions.map (·.stated) ++ (st.assertions.filterMap (·.tracker) ++ assumptions))
    then .sat else .unsat)

theorem propSat_eq_true {l : List Term} :
    propSat l = true ↔ ∃ v : Term → Bool, ∀ t ∈ l, t.holds v = true := by
  simp [propSat]

theorem holds_trackerOf (k : Nat) (v : Term → Bool) : (trackerOf k).holds v = v (trackerOf k) :=
  rfl

open Classical in
/-- Making a literal true changes nothing in a term that does not mention it. -/
theorem holds_update (k : Nat) (v : Term → Bool) (t : Term)
    (ht : ¬ t.Mentions (trackerOf k)) :
    t.holds (fun u => if u = trackerOf k then true else v u) = t.holds v := by
  fun_induction Term.holds v t with
  | case1 a b iha ihb =>
    have hab : ¬ a.Mentions (trackerOf k) ∧ ¬ b.Mentions (trackerOf k) := by
      simp only [Term.Mentions, Term.constants, Term.constantsAll, List.append_nil,
        List.mem_append] at ht
      exact ⟨fun ⟨c, hc, hca⟩ => ht ⟨c, hc, .inl hca⟩, fun ⟨c, hc, hcb⟩ => ht ⟨c, hc, .inr hcb⟩⟩
    simp only [Term.holds]
    rw [iha hab.1, ihb hab.2]
  | case2 a iha =>
    have ha : ¬ a.Mentions (trackerOf k) := by
      simpa [Term.Mentions, Term.constants, Term.constantsAll] using ht
    simp only [Term.holds]
    rw [iha ha]
  | case3 b => rfl
  | case4 t h₁ h₂ h₃ =>
    -- an atom that does not mention the literal is not the literal
    have hne : t ≠ trackerOf k := by
      rintro rfl
      exact ht ⟨_, List.mem_singleton_self _, List.mem_singleton_self _⟩
    rw [Term.holds.eq_4 _ t h₁ h₂ h₃, if_neg hne]

open Classical in
/-- The propositional check decides exactly. -/
theorem exactCheck_propCheck : ExactCheck propCheck propSat where
  keeps_scopes _ _ := rfl
  decides _ _ := rfl
  congr l l' h := by simp only [propSat, h]
  implies k f l hk := by
    rw [Bool.eq_iff_iff, propSat_eq_true, propSat_eq_true]
    -- once the literal holds, the implication holds exactly when the formula does
    constructor <;> rintro ⟨v, hv⟩ <;> refine ⟨v, fun t ht => ?_⟩ <;>
      have hp : (trackerOf k).holds v = true := hv _ (List.mem_cons_of_mem _ hk)
    · rcases List.mem_cons.mp ht with rfl | ht
      · simpa [Term.holds, hp] using hv _ List.mem_cons_self
      · exact hv t (List.mem_cons_of_mem _ ht)
    · rcases List.mem_cons.mp ht with rfl | ht
      · simpa [Term.holds, hp] using hv _ List.mem_cons_self
      · exact hv t (List.mem_cons_of_mem _ ht)
  fresh k l hl := by
    rw [Bool.eq_iff_iff, propSat_eq_true, propSat_eq_true]
    constructor
    · rintro ⟨v, hv⟩
      exact ⟨v, fun t ht => hv t (List.mem_cons_of_mem _ ht)⟩
    -- make the literal true: nothing else mentions it
    · rintro ⟨v, hv⟩
      refine ⟨fun u => if u = trackerOf k then true else v u, fun t ht => ?_⟩
      rcases List.mem_cons.mp ht with rfl | ht
      · simp [holds_trackerOf]
      · rw [holds_update k v t (hl t ht)]
        exact hv t ht

namespace Session

/-- Tracking leaves alone the check after a Boolean literal is asserted,
under the propositional check. -/
theorem propCheck_tracked_literal_answers_alike :
    ExactCheck propCheck propSat ∧
      (∀ op ∈ [Op.newSolver, .assertFormula (.term ⟨Term.ofBool true, none⟩), .checkSat],
        ∀ t ∈ op.formulas, t.TrackerFree) ∧
      [Op.newSolver, .assertFormula (.term ⟨Term.ofBool true, none⟩), .checkSat][2]? =
        some .checkSat ∧
      Op.checkSat.isCheck ∧
      (exec propCheck (.setOpt Options.produceUnsatCores "true" ::
          [.newSolver, .assertFormula (.term ⟨Term.ofBool true, none⟩), .checkSat])
          (fresh none)).1[2 + 1]? =
        (exec propCheck [.newSolver, .assertFormula (.term ⟨Term.ofBool true, none⟩), .checkSat]
          (fresh none)).1[2]? := by
  have hfree : ∀ op ∈ [Op.newSolver, .assertFormula (.term ⟨Term.ofBool true, none⟩), .checkSat],
      ∀ t ∈ op.formulas, t.TrackerFree := by
    simp [Op.formulas, Handle.TrackerFree, Term.TrackerFree, Term.Mentions, Term.ofBool,
      Term.constants, Term.constantsAll]
  exact ⟨exactCheck_propCheck, hfree, rfl, rfl,
    verdicts_unchanged_by_tracking exactCheck_propCheck none _ hfree 2 .checkSat rfl rfl⟩

/-- A constant named like the first tracking literal is that literal: its
negation is satisfiable, and unsatisfiable once tracking assumes it. -/
theorem tracking_collision_changes_verdict :
    (exec propCheck (.setOpt Options.produceUnsatCores "true" ::
        [.newSolver, .assertFormula (.term ⟨.app .not [trackerOf 0], none⟩), .checkSat])
        (fresh none)).1[3]? = some (.ok (some .unsat)) ∧
      (exec propCheck [.newSolver, .assertFormula (.term ⟨.app .not [trackerOf 0], none⟩), .checkSat]
        (fresh none)).1[2]? = some (.ok (some .sat)) := by
  have htracked : propSat [.app .implies [trackerOf 0, .app .not [trackerOf 0]], trackerOf 0] =
      false := by
    rw [Bool.eq_false_iff]
    intro hsat
    obtain ⟨v, hv⟩ := propSat_eq_true.mp hsat
    have hp := hv (trackerOf 0) (by simp)
    have himp := hv (.app .implies [trackerOf 0, .app .not [trackerOf 0]]) (by simp)
    simp [Term.holds, holds_trackerOf] at hp himp
    simp [hp] at himp
  have hplain : propSat [.app .not [trackerOf 0]] = true :=
    propSat_eq_true.mpr ⟨fun _ => false, by simp [Term.holds, holds_trackerOf]⟩
  constructor
  · have hrun : (exec propCheck (.setOpt Options.produceUnsatCores "true" ::
        [.newSolver, .assertFormula (.term ⟨.app .not [trackerOf 0], none⟩), .checkSat])
        (fresh none)).1[3]? = some (.ok (some (if propSat
          [.app .implies [trackerOf 0, .app .not [trackerOf 0]], trackerOf 0] then .sat
          else .unsat))) := by
      set_option maxRecDepth 10000 in rfl
    rw [hrun, htracked]
    rfl
  · have hrun : (exec propCheck
        [.newSolver, .assertFormula (.term ⟨.app .not [trackerOf 0], none⟩), .checkSat]
        (fresh none)).1[2]? =
          some (.ok (some (if propSat [.app .not [trackerOf 0]] then .sat else .unsat))) := rfl
    rw [hrun, hplain]
    rfl

end Session

end SmtBackend
