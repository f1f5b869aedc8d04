import SmtBackend.Proofs.Session.Runs

/-!
# Tracking literals

While unsat cores are on, every formula is asserted together with a fresh
tracking literal, which the session records with the formula. This module
proves that the record stays complete whichever way cores were switched on:
on every run, a session whose solver produces cores has recorded exactly as
many tracked formulas as it has asserted, under pairwise distinct literals,
and every assertion on the solver's stack carries its literal and its
formula as recorded (`TrackingInv`, `exec_faithful_trackingInv`), whatever faithful check
the session uses.

The only guard is in setting an option on a live solver: cores cannot be
switched on once something is asserted. Every other way to switch them on
(queued options, the environment, a reset) starts from nothing asserted.
-/

namespace SmtBackend

open Solver SessionM

/-! ## The assertion stack -/

namespace SolverState

theorem assert_assertions (st : SolverState) (a : Assertion) :
    (st.assert a).assertions = st.assertions ++ [a] := by
  unfold assert assertions
  cases st.scopes <;> simp

theorem push_assertions (st : SolverState) : st.push.assertions = st.assertions := by
  simp [push, assertions]

/-- Closing a scope drops the assertions made in it. -/
theorem pop_assertions (st : SolverState) : st.pop.assertions.Sublist st.assertions := by
  unfold pop assertions
  split
  · rename_i inner outer _ hscopes
    rw [hscopes]
    simp
  · simp

theorem cleared_assertions (st : SolverState) : st.cleared.assertions = [] := rfl

theorem takeOptions_assertions (st : SolverState) (params : List ParamInfo)
    (l : List (String × String)) : (st.takeOptions params l).assertions = st.assertions := by
  simp [assertions]

theorem push_iterate_assertions (k : Nat) (st : SolverState) :
    (push^[k] st).assertions = st.assertions := by
  induction k with
  | zero => rfl
  | succ k ih => rw [Function.iterate_succ_apply', push_assertions, ih]

theorem pop_iterate_assertions (k : Nat) (st : SolverState) :
    (pop^[k] st).assertions.Sublist st.assertions := by
  induction k with
  | zero => exact .refl _
  | succ k ih =>
    rw [Function.iterate_succ_apply']
    exact (pop_assertions _).trans ih

end SolverState

/-! ## Options -/

/-- Setting a key replaces what every search for that key finds, and no
other search. -/
theorem Options.find?_setKey (pairs : List (String × String)) (o v key : String) :
    (Options.setKey pairs o v).find? (·.1 == key) =
      if o = key then some (o, v) else pairs.find? (·.1 == key) := by
  -- replacing a value keeps every key where it is
  have hkeys : (fun p : String × String => p.1 == key) ∘
      (fun p => if p.1 == o then (o, v) else p) = fun p => p.1 == key := by
    funext p
    by_cases hp : p.1 = o <;> simp [hp]
  unfold Options.setKey
  split
  · rename_i hany
    rw [List.find?_map, hkeys]
    by_cases hok : o = key
    · subst hok
      obtain ⟨r, hr, hro⟩ := List.any_eq_true.mp hany
      have hsome : (pairs.find? fun p : String × String => p.1 == o).isSome :=
        List.find?_isSome.mpr ⟨r, hr, hro⟩
      obtain ⟨q, hq⟩ := Option.isSome_iff_exists.mp hsome
      have hqo : q.1 = o := by simpa using List.find?_some hq
      simp [hq, hqo]
    · cases hq : pairs.find? (·.1 == key) with
      | none => simp [hok]
      | some q =>
        have hqk : q.1 = key := by simpa using List.find?_some hq
        have hqo : q.1 ≠ o := fun h => hok (h ▸ hqk)
        simp [hok, hqo]
  · rename_i hany
    rw [List.find?_append]
    by_cases hok : o = key
    · subst hok
      have hnone : pairs.find? (·.1 == o) = none := by
        rw [List.find?_eq_none]
        intro x hx hxo
        exact hany (List.any_eq_true.mpr ⟨x, hx, hxo⟩)
      simp [hnone]
    · simp [hok]

namespace Session

variable {s s' : Session}

theorem unsatCoresEnabled_setKey {opt value : String}
    (h : ({ s with options := Options.setKey s.options opt value } : Session).unsatCoresEnabled) :
    s.unsatCoresEnabled ∨ (opt = Options.produceUnsatCores ∧ value = "true") := by
  unfold unsatCoresEnabled at h ⊢
  rw [Options.find?_setKey] at h
  by_cases hopt : opt = Options.produceUnsatCores
  · right
    simp_all
  · left
    simpa [hopt] using h

/-- Cores can be switched on by an option only with nothing asserted. -/
theorem refusal?_unsatCores {params : List ParamInfo} {n : Nat}
    (h : refusal? params n Options.produceUnsatCores "true" = none) : n = 0 := by
  unfold refusal? at h
  by_contra hn
  simp [Nat.pos_of_ne_zero hn] at h

/-- The tracking literals are pairwise distinct. -/
theorem trackerOf_injective : Function.Injective trackerOf := by
  intro j k h
  simp only [trackerOf, Term.const, Term.app.injEq, Fn.const.injEq, and_true] at h
  have hnames := congrArg String.toList h
  simp only [String.toList_append] at hnames
  exact Nat.repr_inj.mp (String.toList_inj.mp (List.append_cancel_left hnames))

/-! ## The invariant -/

/-- The record of tracked formulas: its literals are tracking literals made
so far, pairwise distinct, at most one per formula asserted; the solver
holds at most the formulas asserted; and while cores are on, every formula
asserted is recorded and every assertion on the stack carries a recorded
literal with its formula. -/
structure TrackingInv (s : Session) : Prop where
  keys : ∀ p ∈ s.tracked, ∃ k < s.trackers, p.1 = trackerOf k
  nodup : (s.tracked.map Prod.fst).Nodup
  count : s.tracked.length ≤ s.asserted
  live : ∀ st, s.solver = some st → st.assertions.length ≤ s.asserted
  cores : s.unsatCoresEnabled → ∀ st, s.solver = some st →
    s.tracked.length = s.asserted ∧
      ∀ a ∈ st.assertions, ∃ l th, a.tracker = some l ∧ (l, th) ∈ s.tracked ∧ a.formula = th.native

/-- A session that has recorded and asserted nothing, and whose solver, if
any, holds nothing. -/
theorem trackingInv_of_empty (htracked : s.tracked = []) (hasserted : s.asserted = 0)
    (hsolver : ∀ st, s.solver = some st → st.assertions = []) : TrackingInv s where
  keys := by simp [htracked]
  nodup := by simp [htracked]
  count := by simp [htracked]
  live st hst := by simp [hsolver st hst]
  cores _ st hst := ⟨by simp [htracked, hasserted], by simp [hsolver st hst]⟩

/-- With nothing asserted, nothing is recorded or on the stack, so the part
about cores holds whether or not they are on. -/
theorem TrackingInv.cores_of_empty (h : TrackingInv s) (hasserted : s.asserted = 0) (st : SolverState)
    (hst : s.solver = some st) :
    s.tracked.length = s.asserted ∧
      ∀ a ∈ st.assertions, ∃ l th, a.tracker = some l ∧ (l, th) ∈ s.tracked ∧ a.formula = th.native := by
  have hlive := h.live st hst
  have hcount := h.count
  rw [hasserted] at hlive hcount
  have hnone : st.assertions = [] := List.eq_nil_of_length_eq_zero (by omega)
  exact ⟨by omega, by simp [hnone]⟩

/-- An operation that keeps the record and the count, keeps or drops
assertions from the stack, and switches cores on only with nothing
asserted, keeps the invariant. -/
theorem TrackingInv.of_sublist (h : TrackingInv s) (htracked : s'.tracked = s.tracked)
    (htrackers : s'.trackers = s.trackers) (hasserted : s'.asserted = s.asserted)
    (hsolver : ∀ st', s'.solver = some st' →
      ∃ st, s.solver = some st ∧ st'.assertions.Sublist st.assertions)
    (hcores : s'.unsatCoresEnabled → s.unsatCoresEnabled ∨ s.asserted = 0) : TrackingInv s' where
  keys := htracked ▸ htrackers ▸ h.keys
  nodup := htracked ▸ h.nodup
  count := htracked ▸ hasserted ▸ h.count
  live st' hst' := by
    obtain ⟨st, hst, hsub⟩ := hsolver st' hst'
    exact hasserted ▸ hsub.length_le.trans (h.live st hst)
  cores hc st' hst' := by
    obtain ⟨st, hst, hsub⟩ := hsolver st' hst'
    have hold : s.tracked.length = s.asserted ∧
        ∀ a ∈ st.assertions, ∃ l th, a.tracker = some l ∧ (l, th) ∈ s.tracked ∧
          a.formula = th.native := by
      rcases hcores hc with hc | h0
      · exact h.cores hc st hst
      · exact h.cores_of_empty h0 st hst
    rw [htracked, hasserted]
    exact ⟨hold.1, fun a ha => hold.2 a (hsub.subset ha)⟩

/-- A solver mapped by a function that keeps or drops assertions. -/
theorem solver_map_sublist {f : SolverState → SolverState}
    (hf : ∀ st, (f st).assertions.Sublist st.assertions) (solver : Option SolverState) :
    ∀ st', solver.map f = some st' → ∃ st, solver = some st ∧ st'.assertions.Sublist st.assertions := by
  intro st' hst'
  obtain ⟨st, hst, rfl⟩ := Option.map_eq_some_iff.mp hst'
  exact ⟨st, hst, hf st⟩

theorem solver_same : ∀ st', s.solver = some st' →
    ∃ st, s.solver = some st ∧ st'.assertions.Sublist st.assertions :=
  fun st' hst' => ⟨st', hst', .refl _⟩

/-- An assertion keeps the invariant: with cores on it is recorded under a
literal never made before. -/
theorem TrackingInv.withAssertion (h : TrackingInv s) (th : TermHandle) :
    TrackingInv (s.withAssertion th) := by
  unfold Session.withAssertion
  split
  · rename_i hc
    -- every recorded literal was made before the new one
    have hfresh : trackerOf s.trackers ∉ s.tracked.map Prod.fst := by
      intro hmem
      obtain ⟨p, hp, hpk⟩ := List.mem_map.mp hmem
      obtain ⟨k, hk, hpk'⟩ := h.keys p hp
      have := trackerOf_injective (hpk'.symm.trans hpk)
      omega
    refine ⟨?_, ?_, ?_, ?_, ?_⟩ <;> dsimp only
    · intro p hp
      rcases List.mem_append.mp hp with hp | hp
      · obtain ⟨k, hk, hpk⟩ := h.keys p hp
        exact ⟨k, by omega, hpk⟩
      · exact ⟨s.trackers, by omega, by simp_all⟩
    · have hdisjoint : ∀ a x, (a, x) ∈ s.tracked → ¬a = trackerOf s.trackers :=
        fun a x hax hk => hfresh (List.mem_map.mpr ⟨(a, x), hax, hk⟩)
      simpa [List.nodup_append] using And.intro h.nodup hdisjoint
    · simpa using h.count
    · intro st' hst'
      obtain ⟨st, hst, rfl⟩ := Option.map_eq_some_iff.mp hst'
      simpa [SolverState.assert_assertions] using h.live st hst
    · intro _ st' hst'
      obtain ⟨st, hst, rfl⟩ := Option.map_eq_some_iff.mp hst'
      obtain ⟨hlen, hall⟩ := h.cores hc st hst
      refine ⟨by simp [hlen], ?_⟩
      intro a ha
      rw [SolverState.assert_assertions] at ha
      rcases List.mem_append.mp ha with ha | ha
      · obtain ⟨l, th', hl, hmem, hformula⟩ := hall a ha
        exact ⟨l, th', hl, List.mem_append_left _ hmem, hformula⟩
      · rw [List.mem_singleton.mp ha]
        exact ⟨_, th, rfl, List.mem_append_right _ (List.mem_singleton_self _), rfl⟩
  · rename_i hc
    refine ⟨h.keys, h.nodup, by simpa using Nat.le_succ_of_le h.count, ?_, ?_⟩
    · intro st' hst'
      obtain ⟨st, hst, rfl⟩ := Option.map_eq_some_iff.mp hst'
      simpa [SolverState.assert_assertions] using h.live st hst
    -- the options are those of `s`, so cores stay off
    · intro hc'
      exact absurd hc' hc

/-- A solver mapped by a function that keeps its assertions. -/
theorem solver_map_same {f : SolverState → SolverState}
    (hf : ∀ st, (f st).assertions = st.assertions) (solver : Option SolverState) :
    ∀ st', solver.map f = some st' → ∃ st, solver = some st ∧ st'.assertions.Sublist st.assertions :=
  solver_map_sublist (fun st => (hf st) ▸ .refl _) solver

/-- Handing options to a solver changes neither the record nor the stack. -/
theorem applyOptions_tracking (hs : s.solver.isSome) :
    (applyOptions.runOn s).2.tracked = s.tracked ∧ (applyOptions.runOn s).2.trackers = s.trackers ∧
      (applyOptions.runOn s).2.asserted = s.asserted ∧
      ∀ st', (applyOptions.runOn s).2.solver = some st' →
        ∃ st, s.solver = some st ∧ st'.assertions.Sublist st.assertions := by
  obtain ⟨l, hframe⟩ := applyOptions_frame hs
  rw [hframe]
  exact ⟨rfl, rfl, rfl, solver_map_same (fun st => st.takeOptions_assertions _ l) _⟩

/-- Every operation keeps the invariant on a session that is clear when it
has no solver, whatever faithful check the session uses. -/
theorem step_trackingInv {check : Checker} (hc : Faithful check) (hclear : ClearWhenIdle s)
    (h : TrackingInv s) (op : Op) : TrackingInv (step check s op).2 := by
  by_cases hr : op.isReadOnly
  · rw [step_of_readOnly hr]
    exact h
  -- a session after `forget` without a solver has nothing to track
  have hforgotten : ∀ s' : Session, s'.solver = none → TrackingInv s'.forget :=
    fun s' hs' => trackingInv_of_empty rfl rfl (by simp [hs'])
  cases op with
  | newSolver =>
    simp only [step, Op.run, runOn_then_pure]
    by_cases hs : s.solver.isSome
    · rw [newSolver_runOn, if_pos hs]
      exact h
    have hnone : s.solver = none := by simpa using hs
    obtain ⟨-, htracked, hasserted, -⟩ := hclear hnone
    -- the new solver, if it stays, holds nothing
    obtain ⟨l, o, hnew | hnew⟩ := newSolver_of_idle hclear hnone <;> rw [hnew]
    · exact trackingInv_of_empty htracked hasserted (by simp [hnone])
    · refine trackingInv_of_empty htracked hasserted fun st' hst' => ?_
      cases hst'
      exact SolverState.takeOptions_assertions _ _ l
  | deleteSolver =>
    simp only [step, Op.run, runOn_then_pure, deleteSolver_runOn]
    split
    · exact hforgotten _ rfl
    · exact h
  | exit =>
    simp only [step, Op.run, runOn_then_pure, exit_runOn]
    split
    · exact hforgotten _ rfl
    · exact h
  | resetAssertions =>
    simp only [step, Op.run, runOn_then_pure, resetAssertions_runOn]
    split
    · refine trackingInv_of_empty rfl rfl fun st' hst' => ?_
      obtain ⟨st, -, rfl⟩ := Option.map_eq_some_iff.mp hst'
      exact st.cleared_assertions
    · exact h
  | reset =>
    simp only [step, Op.run, runOn_then_pure, reset_runOn]
    split
    · have hs₀ : ({ s with options := [], solver := some {} } : Session).forget.solver.isSome :=
        rfl
      obtain ⟨ht, -, ha, hsolver⟩ := applyOptions_tracking hs₀
      refine trackingInv_of_empty ht ha fun st' hst' => ?_
      obtain ⟨st, hst, hsub⟩ := hsolver st' hst'
      cases hst
      exact List.sublist_nil.mp hsub
    · exact h
  | setOpt opt value =>
    simp only [step, Op.run, runOn_then_pure, setOpt_runOn]
    split
    · split
      · exact h
      -- cores switched on by this option were refused unless nothing is asserted
      · rename_i hrefusal
        refine h.of_sublist rfl rfl rfl (solver_map_same (fun st => ?_) _) fun hc => ?_
        · simp [SolverState.assertions]
        · rcases unsatCoresEnabled_setKey hc with hc | ⟨rfl, rfl⟩
          · exact .inl hc
          · exact .inr (refusal?_unsatCores hrefusal)
    · rename_i hs
      refine h.of_sublist rfl rfl rfl solver_same fun _ => ?_
      exact .inr (hclear (by simpa using hs)).2.2.1
  | assertFormula t =>
    obtain ⟨e, hstep⟩ | ⟨th, -, hstep⟩ := @step_assertFormula_cases check s t
    · rw [hstep]
      exact h
    · rw [hstep]
      exact h.withAssertion _
  | checkSat =>
    simp only [step, Op.run, runOn_map, checkSat_runOn]
    split
    · rename_i st hst
      refine h.of_sublist rfl rfl rfl (fun st' hst' => ⟨st, hst, ?_⟩) .inl
      cases hst'
      rw [hc.keeps_assertions]
    · exact h
  | checkSatAssuming assumptions =>
    simp only [step, Op.run, runOn_map, checkSatAssuming_runOn]
    split
    · exact h
    · rename_i st hst
      repeat' split
      all_goals first
        | exact h
        | exact h.of_sublist rfl rfl rfl solver_same .inl
        | refine h.of_sublist rfl rfl rfl (fun st' hst' => ⟨st, hst, ?_⟩) .inl
          cases hst'
          rw [hc.keeps_assertions]
  | getValue terms =>
    simp only [step, Op.run, runOn_then_pure, runOn_discard, getValue_runOn]
    split
    · exact h
    · split
      · exact h
      -- reading values completes the model and leaves the stack alone
      · refine h.of_sublist rfl rfl rfl (fun st' hst' => ?_) .inl
        obtain ⟨st, hst, rfl⟩ := Option.map_eq_some_iff.mp hst'
        exact ⟨st, hst, .refl _⟩
  | push n =>
    simp only [step, Op.run, runOn_then_pure, push_runOn]
    split
    · simp only [openScope_iterate]
      exact h.of_sublist rfl rfl rfl
        (solver_map_same (SolverState.push_iterate_assertions n.toNat) _) .inl
    · exact h
  | pop n =>
    simp only [step, Op.run, runOn_then_pure, pop_runOn]
    split
    · split
      · simp only [closeScope_iterate]
        exact h.of_sublist rfl rfl rfl
          (solver_map_sublist (SolverState.pop_iterate_assertions n.toNat) _) .inl
      · exact h
    · exact h
  | _ => simp [Op.isReadOnly] at hr

/-- The invariant holds at the end of every run, whatever faithful check the
session uses. -/
theorem exec_faithful_trackingInv {check : Checker} (hc : Faithful check)
    (environment : Option String) (ops : List Op) :
    TrackingInv (exec check ops (fresh environment)).2 := by
  have hboth : ClearWhenIdle (exec check ops (fresh environment)).2 ∧
      TrackingInv (exec check ops (fresh environment)).2 :=
    exec_invariant (fun s => ClearWhenIdle s ∧ TrackingInv s)
      (fun _ op h => ⟨step_clearWhenIdle h.1 op, step_trackingInv hc h.1 h.2 op⟩) ops
      ⟨clearWhenIdle_fresh environment, trackingInv_of_empty rfl rfl (by simp [fresh])⟩
  exact hboth.2

/-! ## Cores on a live solver -/

/-- On every run, under any check that keeps the assertions and records its
verdict, a solver that produces cores has every formula asserted since it
was created or reset recorded under its own tracking literal, and every
assertion on its stack carries its literal and the recorded formula. -/
theorem assertions_tracked_while_cores_on (check : Checker) (hc : Faithful check)
    (environment : Option String) (ops : List Op)
    (hsolver : (exec check ops (fresh environment)).2.solver.isSome)
    (hcores : (exec check ops (fresh environment)).2.unsatCoresEnabled) :
    let s := (exec check ops (fresh environment)).2
    s.tracked.length = s.asserted ∧ (s.tracked.map Prod.fst).Nodup ∧
      (∀ p ∈ s.tracked, ∃ k, p.1 = trackerOf k) ∧
      ∀ a ∈ (s.solver.get hsolver).assertions,
        ∃ l th, a.tracker = some l ∧ (l, th) ∈ s.tracked ∧ a.formula = th.native := by
  intro s
  have h := exec_faithful_trackingInv hc environment ops
  obtain ⟨hcount, hlive⟩ := h.cores hcores _ (Option.some_get hsolver).symm
  refine ⟨hcount, h.nodup, fun p hp => ?_, hlive⟩
  obtain ⟨k, -, hk⟩ := h.keys p hp
  exact ⟨k, hk⟩

/-- Cores queued before the solver is created, then one assertion, under the
solver's own check: the theorem applies. -/
theorem queued_cores_track_assertion :
    Faithful SolverState.check ∧
    ∃ (hsolver : (exec SolverState.check [.setOpt Options.produceUnsatCores "true", .newSolver,
        .assertFormula (.term ⟨Term.ofBool true, none⟩)] (fresh none)).2.solver.isSome)
      (_ : (exec SolverState.check [.setOpt Options.produceUnsatCores "true", .newSolver,
        .assertFormula (.term ⟨Term.ofBool true, none⟩)] (fresh none)).2.unsatCoresEnabled),
      let s := (exec SolverState.check [.setOpt Options.produceUnsatCores "true", .newSolver,
        .assertFormula (.term ⟨Term.ofBool true, none⟩)] (fresh none)).2
      s.tracked.length = s.asserted ∧ (s.tracked.map Prod.fst).Nodup ∧
        (∀ p ∈ s.tracked, ∃ k, p.1 = trackerOf k) ∧
        ∀ a ∈ (s.solver.get hsolver).assertions,
          ∃ l th, a.tracker = some l ∧ (l, th) ∈ s.tracked ∧ a.formula = th.native :=
  ⟨faithful_check, rfl, rfl, assertions_tracked_while_cores_on SolverState.check faithful_check none _ rfl rfl⟩

end Session

end SmtBackend
