import SmtBackend.Proofs.Session.Tracking
import SmtBackend.Proofs.Session.Transparency

/-!
# Settings and the record of options

The session records every option it is given, each name once, with its last
value, at the position where it was first given; a solver takes each option
as it is set, and a new solver takes the record in its order. The two agree
as long as no two recorded names reach one parameter
(`settings_follow_recorded_options`): the settings in force are then the
record replayed on a solver with none. Whether models are produced, read off
the text recorded for `produce-models`, is then the solver's `model` setting,
as long as nothing else sets `model` and `false` is written plainly. None of
this depends on which parameters the solver library describes, beyond
`model` being a flag, nor on how checks decide, as long as they leave the
settings alone.

Both conditions are needed (`recorded_options_disagree_with_settings`):
`produce-models` and `model` reach one parameter, and a later
`produce-models` keeps its first position in the record, behind `model`; a
`model` set by its own name, or a `false` written with a blank, turns models
off while the record says they are on.
-/

namespace SmtBackend

open Solver

/-- The value in force for a parameter: the last setting made. -/
def Solver.Settings.value? (s : Settings) (name : String) : Option Options.ParamValue :=
  (s.find? (·.1 == name)).map (·.2)

/-- The parameter an option sets, for any value the solver accepts: the one
that the description its parameter key finds names. -/
def Options.param? (params : List ParamInfo) (opt : String) : Option String :=
  (paramKey opt).bind fun key => (lookup? params (normalizeName key)).map (·.name)

/-- The parameter an option with a value takes effect on, if the solver
accepts the value. -/
def Options.accepted? (params : List ParamInfo) (opt value : String) : Option String :=
  (paramKey opt).bind fun key => accept? params key (paramValue value)

/-- Different recorded options set different parameters. -/
def ParamsDistinct (params : List ParamInfo) (options : List (String × String)) : Prop :=
  ∀ p ∈ options, ∀ q ∈ options, Options.param? params p.1 ≠ none →
    Options.param? params p.1 = Options.param? params q.1 → p.1 = q.1

/-- The only recorded option that sets `model` is `produce-models`, and it
reads as `false` only where it is written `false`. -/
def ModelSetPlainly (params : List ParamInfo) (options : List (String × String)) : Prop :=
  ∀ p ∈ options, Options.param? params p.1 = some "model" →
    p.1 = Options.produceModels ∧ (Options.paramValue p.2 = .flag false → p.2 = "false")

instance (params : List ParamInfo) (options : List (String × String)) :
    Decidable (ParamsDistinct params options) :=
  inferInstanceAs (Decidable (∀ p ∈ options, ∀ q ∈ options, _))

instance (params : List ParamInfo) (options : List (String × String)) :
    Decidable (ModelSetPlainly params options) :=
  inferInstanceAs (Decidable (∀ p ∈ options, _))

variable {params : List ParamInfo}

namespace Solver.Settings

theorem value?_put (s : Settings) (name n : String) (v : Options.ParamValue) :
    (s.put name v).value? n = if name = n then some v else s.value? n := by
  unfold value? put
  by_cases h : name = n
  -- the filter removed every earlier setting of the parameter
  · subst h
    have hnone : (s.filter (·.1 != name)).find? (·.1 == name) = none := by simp
    simp [List.find?_append, hnone]
  · have hfind : (s.filter (·.1 != name)).find? (·.1 == n) = s.find? (·.1 == n) := by
      simp only [List.find?_filter]
      congr 1
      funext x
      by_cases hx : x.1 = n
      · simp [hx, Ne.symm h]
      · simp [hx]
    rw [List.find?_append, hfind]
    cases s.find? (·.1 == n) <;> simp [h]

/-- A flag reads its value in force, and its default where none is. -/
theorem flag_eq (s : Settings) (name : String) (default : Bool) :
    s.flag name default = match s.value? name with
      | some (.flag b) => b
      | _ => default := by
  unfold flag value?
  cases h : s.find? (·.1 == name) with
  | none => rfl
  | some p =>
    obtain ⟨_, v⟩ := p
    cases v <;> rfl

end Solver.Settings

/-- A value the solver accepts takes effect on the parameter its key names. -/
theorem Solver.accept?_eq_some {key n : String} {v : Options.ParamValue}
    (h : accept? params key v = some n) : (lookup? params (normalizeName key)).map (·.name) = some n := by
  unfold accept? at h
  split at h
  · rename_i info hinfo
    split at h
    · cases h
      simp [hinfo]
    · cases h
  · cases h

namespace Options

theorem param?_of_accepted? {opt value n : String} (h : accepted? params opt value = some n) :
    param? params opt = some n := by
  unfold accepted? at h
  unfold param?
  cases hkey : paramKey opt with
  | none => simp [hkey] at h
  | some key =>
    simp only [hkey, Option.bind_some] at h ⊢
    exact accept?_eq_some h

/-- An option the solver does not refuse takes effect on its parameter, if
it has one. -/
theorem accepted?_of_rejection? {opt value : String} (h : Session.rejection? params opt value = none) :
    accepted? params opt value = param? params opt := by
  unfold Session.rejection? at h
  unfold accepted? param?
  cases hkey : paramKey opt with
  | none => rfl
  | some key =>
    simp only [hkey, Option.bind_some] at h ⊢
    split at h
    · rename_i name hname
      rw [hname, accept?_eq_some hname]
    · cases h

end Options

/-! ## Replaying options -/

namespace SolverState

theorem value?_takeOption (st : SolverState) (opt value n : String) :
    (st.takeOption params opt value).settings.value? n =
      if Options.accepted? params opt value = some n then some (Options.paramValue value)
      else st.settings.value? n := by
  unfold takeOption Options.accepted?
  cases Options.paramKey opt with
  | none => simp
  | some key =>
    simp only [Option.bind_some]
    split
    · rename_i name hname
      simp [hname, Settings.value?_put]
    · rename_i hnone
      simp [hnone]

/-- A parameter's value after options are taken in order: that of the last
option that takes effect on it, or the value before. -/
theorem value?_takeOptions (st : SolverState) (l : List (String × String)) (n : String) :
    (st.takeOptions params l).settings.value? n =
      ((l.reverse.find? fun p => Options.accepted? params p.1 p.2 == some n).map
        (Options.paramValue ·.2)).or (st.settings.value? n) := by
  induction l generalizing st with
  | nil => simp [takeOptions]
  | cons p l ih =>
    rw [takeOptions, List.foldl_cons, ← takeOptions, ih, value?_takeOption]
    by_cases hp : Options.accepted? params p.1 p.2 = some n
    · simp [List.find?_append, hp]
    · simp [List.find?_append, hp]

variable {l : List (String × String)} {n : String}

/-- Where one recorded option takes effect on a parameter, replaying the
record leaves that option's value. -/
theorem value?_takeOptions_of_mem (st : SolverState) (hkeys : (l.map Prod.fst).Nodup)
    (hd : ParamsDistinct params l) {e : String × String} (he : e ∈ l)
    (hn : Options.accepted? params e.1 e.2 = some n) :
    (st.takeOptions params l).settings.value? n = some (Options.paramValue e.2) := by
  rw [value?_takeOptions]
  obtain ⟨q, hq⟩ : ∃ q, (l.reverse.find? fun p => Options.accepted? params p.1 p.2 == some n) = some q :=
    Option.isSome_iff_exists.mp (List.find?_isSome.mpr ⟨e, List.mem_reverse.mpr he, by simpa using hn⟩)
  have hqmem : q ∈ l := List.mem_reverse.mp (List.mem_of_find?_eq_some hq)
  have hqn : Options.accepted? params q.1 q.2 = some n := by simpa using List.find?_some hq
  -- the option found sets the same parameter, so it has the same name, and
  -- the record has one entry per name
  have hkey : q.1 = e.1 :=
    hd q hqmem e he (by simp [Options.param?_of_accepted? hqn])
      (by rw [Options.param?_of_accepted? hqn, Options.param?_of_accepted? hn])
  have hqe : q = e := List.inj_on_of_nodup_map hkeys hqmem he hkey
  simp [hq, hqe]

/-- Where no recorded option takes effect on a parameter, replaying the
record leaves its value as it was. -/
theorem value?_takeOptions_of_none (st : SolverState)
    (h : ∀ p ∈ l, Options.accepted? params p.1 p.2 ≠ some n) :
    (st.takeOptions params l).settings.value? n = st.settings.value? n := by
  rw [value?_takeOptions]
  have hnone : (l.reverse.find? fun p => Options.accepted? params p.1 p.2 == some n) = none :=
    List.find?_eq_none.mpr fun p hp => by simpa using h p (List.mem_reverse.mp hp)
  simp [hnone]

end SolverState

namespace Options

theorem keys_nodup_setKey {l : List (String × String)} (h : (l.map Prod.fst).Nodup)
    (key value : String) : ((setKey l key value).map Prod.fst).Nodup := by
  unfold setKey
  split
  -- a recorded name keeps its place
  · rename_i hany
    have hkeys : (l.map fun p => if p.1 == key then (key, value) else p).map Prod.fst =
        l.map Prod.fst := by
      rw [List.map_map]
      congr 1
      funext p
      by_cases hp : p.1 = key <;> simp [hp]
    rw [hkeys]
    exact h
  · rename_i hany
    rw [List.map_append, List.nodup_append]
    refine ⟨h, List.nodup_singleton _, fun a ha b hb => ?_⟩
    obtain ⟨p, hp, rfl⟩ := List.mem_map.mp ha
    simp only [List.map_cons, List.map_nil, List.mem_singleton] at hb
    subst hb
    intro hkey
    exact hany (List.any_eq_true.mpr ⟨p, hp, by simp [hkey]⟩)

theorem exists_key_mem_setKey {l : List (String × String)} {p : String × String} (hp : p ∈ l)
    (key value : String) : ∃ q ∈ setKey l key value, q.1 = p.1 := by
  by_cases hkey : p.1 = key
  · exact ⟨(key, value), mem_setKey.mpr (.inl rfl), hkey.symm⟩
  · exact ⟨p, mem_setKey.mpr (.inr ⟨hkey, hp⟩), rfl⟩

end Options

theorem ParamsDistinct.of_setKey {l : List (String × String)} {key value : String}
    (h : ParamsDistinct params (Options.setKey l key value)) : ParamsDistinct params l := by
  intro p hp q hq hnone hpq
  obtain ⟨p', hp', hpkey⟩ := Options.exists_key_mem_setKey hp key value
  obtain ⟨q', hq', hqkey⟩ := Options.exists_key_mem_setKey hq key value
  rw [← hpkey, ← hqkey]
  rw [← hpkey] at hnone
  rw [← hpkey, ← hqkey] at hpq
  exact h p' hp' q' hq' hnone hpq

/-- Setting an option the solver takes, recorded or not before, does to the
replayed record what it does to the solver. -/
theorem value?_takeOptions_setKey (st : SolverState) {l : List (String × String)}
    (hkeys : (l.map Prod.fst).Nodup) {opt value : String}
    (hr : Session.rejection? params opt value = none)
    (hd : ParamsDistinct params (Options.setKey l opt value)) (n : String) :
    (st.takeOptions params (Options.setKey l opt value)).settings.value? n =
      ((st.takeOptions params l).takeOption params opt value).settings.value? n := by
  have hkeys' := Options.keys_nodup_setKey hkeys opt value
  have hd' := hd.of_setKey
  rw [SolverState.value?_takeOption]
  by_cases hn : Options.accepted? params opt value = some n
  -- the option takes effect on `n`: its entry is the one that does
  · rw [if_pos hn]
    have hmem : (opt, value) ∈ Options.setKey l opt value := Options.mem_setKey.mpr (.inl rfl)
    have hn' : Options.accepted? params (opt, value).1 (opt, value).2 = some n := hn
    have hvalue := st.value?_takeOptions_of_mem hkeys' hd hmem hn'
    exact hvalue
  · rw [if_neg hn]
    -- entries of the option's own name do not take effect on `n`
    have hother : ∀ p ∈ l, Options.accepted? params p.1 p.2 = some n → p.1 ≠ opt := by
      rintro p - hp rfl
      rw [Options.accepted?_of_rejection? hr, ← Options.param?_of_accepted? hp] at hn
      exact hn rfl
    by_cases hsome : ∃ e ∈ l, Options.accepted? params e.1 e.2 = some n
    · obtain ⟨e, he, hen⟩ := hsome
      rw [st.value?_takeOptions_of_mem hkeys' hd
          (Options.mem_setKey.mpr (.inr ⟨hother e he hen, he⟩)) hen,
        st.value?_takeOptions_of_mem hkeys hd' he hen]
    · simp only [not_exists, not_and] at hsome
      rw [st.value?_takeOptions_of_none hsome, st.value?_takeOptions_of_none]
      intro p hp
      rcases Options.mem_setKey.mp hp with rfl | ⟨-, hpl⟩
      · exact hn
      · exact hsome p hpl

namespace SolverState

@[simp] theorem push_iterate_settings (k : Nat) (st : SolverState) :
    (push^[k] st).settings = st.settings := by
  induction k with
  | zero => rfl
  | succ k ih => rw [Function.iterate_succ_apply', ← ih]; rfl

@[simp] theorem pop_iterate_settings (k : Nat) (st : SolverState) :
    (pop^[k] st).settings = st.settings := by
  induction k with
  | zero => rfl
  | succ k ih => rw [Function.iterate_succ_apply', ← ih]; rfl

/-- The solver's own check leaves its settings alone. -/
theorem check_settings (st : SolverState) (assumptions : List Term) :
    (st.check assumptions).1.settings = st.settings := by
  unfold check
  simp only

end SolverState

/-! ## The record along a run -/

namespace Session

open SessionM

variable {s : Session}

/-- The record of options has one entry per name, and as long as no two
recorded options set one parameter, the solver's settings are those of the
record replayed on a solver with none. -/
structure OptionsInv (s : Session) : Prop where
  keys : (s.options.map Prod.fst).Nodup
  settings : ∀ st, s.solver = some st → ParamsDistinct s.params s.options →
    ∀ n, st.settings.value? n = (({} : SolverState).takeOptions s.params s.options).settings.value? n

theorem optionsInv_of_idle (hkeys : (s.options.map Prod.fst).Nodup) (hs : s.solver = none) :
    OptionsInv s :=
  ⟨hkeys, fun _ hst => by simp [hs] at hst⟩

/-- What changes neither the record nor the settings keeps the invariant. -/
theorem OptionsInv.of_frame {s' : Session} (h : OptionsInv s) (hopt : s'.options = s.options)
    (hparams : s'.params = s.params)
    (hsolver : ∀ st', s'.solver = some st' → ∃ st, s.solver = some st ∧ st'.settings = st.settings) :
    OptionsInv s' := by
  refine ⟨hopt ▸ h.keys, fun st' hst' hd n => ?_⟩
  obtain ⟨st, hst, hsettings⟩ := hsolver st' hst'
  rw [hopt, hparams] at hd ⊢
  rw [hsettings]
  exact h.settings st hst hd n

theorem solver_map_settings {f : SolverState → SolverState}
    (hf : ∀ st, (f st).settings = st.settings) (solver : Option SolverState) :
    ∀ st', solver.map f = some st' → ∃ st, solver = some st ∧ st'.settings = st.settings := by
  intro st' hst'
  obtain ⟨st, hst, rfl⟩ := Option.map_eq_some_iff.mp hst'
  exact ⟨st, hst, hf st⟩

/-- Setting an option the solver takes keeps the invariant. -/
theorem OptionsInv.takeOption (h : OptionsInv s) {opt value : String}
    (hr : rejection? s.params opt value = none) : OptionsInv (s.takeOption opt value) := by
  refine ⟨Options.keys_nodup_setKey h.keys opt value, fun st' hst' hd n => ?_⟩
  simp only [Session.takeOption] at hst' hd ⊢
  obtain ⟨st, hst, rfl⟩ := Option.map_eq_some_iff.mp hst'
  rw [value?_takeOptions_setKey {} h.keys hr hd, SolverState.value?_takeOption,
    SolverState.value?_takeOption, h.settings st hst hd.of_setKey n]

theorem OptionsInv.takeOptions (h : OptionsInv s) {l : List (String × String)}
    (hr : ∀ p ∈ l, rejection? s.params p.1 p.2 = none) : OptionsInv (s.takeOptions l) := by
  induction l generalizing s with
  | nil => exact h
  | cons p l ih =>
    exact ih (h.takeOption (hr p List.mem_cons_self)) fun q hq => hr q (List.mem_cons_of_mem _ hq)

theorem rejection?_of_refusal? {n : Nat} {opt value : String}
    (h : refusal? params n opt value = none) : rejection? params opt value = none := by
  unfold refusal? at h
  split at h
  · cases h
  · exact h

theorem keys_nodup_takeOptions (hkeys : (s.options.map Prod.fst).Nodup)
    (l : List (String × String)) : ((s.takeOptions l).options.map Prod.fst).Nodup := by
  induction l generalizing s with
  | nil => exact hkeys
  | cons p l ih => exact ih (Options.keys_nodup_setKey hkeys p.1 p.2)

/-- Handing options to a solver records only what it sets. -/
theorem applyOptions_keys (hkeys : (s.options.map Prod.fst).Nodup) (hs : s.solver.isSome) :
    ((applyOptions.runOn s).2.options.map Prod.fst).Nodup := by
  rw [applyOptions_runOn s hs]
  simp only
  split
  · exact hkeys
  · split
    · exact hkeys
    · exact keys_nodup_takeOptions (s := s.giveOptions _) hkeys _

/-- A solver handed the options succeeds only if it took the whole record. -/
theorem applyOptions_record_ok (hs : s.solver.isSome) (h : (applyOptions.runOn s).1 = .ok ()) :
    firstFailure (fun p => rejection? s.params p.1 p.2) s.options = .ok () := by
  rw [applyOptions_runOn s hs] at h
  simp only at h
  split at h
  · cases h
  · assumption

/-- A solver with no settings that takes the whole record, and then the
options of the environment, keeps the invariant. -/
theorem applyOptions_optionsInv (hkeys : (s.options.map Prod.fst).Nodup)
    (hs : s.solver = some {})
    (hok : firstFailure (fun p => rejection? s.params p.1 p.2) s.options = .ok ()) :
    OptionsInv (applyOptions.runOn s).2 := by
  -- the record replayed: the solver took every recorded option in order
  have h₁ : OptionsInv (s.giveOptions (takenBefore (fun p => rejection? s.params p.1 p.2) s.options)) := by
    rw [takenBefore_of_firstFailure hok]
    refine ⟨hkeys, fun st hst _ n => ?_⟩
    simp only [giveOptions_solver, hs, Option.map_some, Option.some.injEq] at hst
    rw [← hst]
    rfl
  rw [applyOptions_runOn s (by simp [hs]), hok]
  simp only
  split
  · exact h₁
  · exact h₁.takeOptions fun p hp =>
      rejection?_of_refusal? (by simpa using List.mem_takeWhile_imp hp)

theorem OptionsInv.withAssertion (h : OptionsInv s) (th : TermHandle) :
    OptionsInv (s.withAssertion th) := by
  unfold Session.withAssertion
  split
  · exact h.of_frame rfl rfl (solver_map_settings (fun _ => by rfl) _)
  · exact h.of_frame rfl rfl (solver_map_settings (fun _ => by rfl) _)

/-- Every operation keeps the invariant, under a check that leaves the
settings alone. -/
theorem step_optionsInv {check : Checker}
    (hkeep : ∀ st assumptions, (check st assumptions).1.settings = st.settings)
    (h : OptionsInv s) (op : Op) : OptionsInv (step check s op).2 := by
  by_cases hr : op.isReadOnly
  · rw [step_of_readOnly hr]
    exact h
  have hsame : ∀ st', s.solver = some st' → ∃ st, s.solver = some st ∧ st'.settings = st.settings :=
    fun st' hst' => ⟨st', hst', rfl⟩
  cases op with
  | newSolver =>
    simp only [step, Op.run, runOn_then_pure, newSolver_runOn]
    split
    · exact h
    have hs₀ : ({ s with solver := some {}, depth := 0 } : Session).solver.isSome := rfl
    have hkeys := applyOptions_keys (s := { s with solver := some {}, depth := 0 }) h.keys hs₀
    split
    -- the solver stays: it took the whole record, then the environment's options
    · rename_i s' hrun
      have hok := applyOptions_record_ok hs₀ (by rw [hrun])
      have happ := applyOptions_optionsInv (s := { s with solver := some {}, depth := 0 }) h.keys
        rfl hok
      rw [hrun] at happ
      exact happ
    -- refused: the solver is deleted again
    · rename_i e s' hrun
      rw [hrun] at hkeys
      exact optionsInv_of_idle (by simpa using hkeys) rfl
  | deleteSolver =>
    simp only [step, Op.run, runOn_then_pure, deleteSolver_runOn]
    split
    · exact optionsInv_of_idle (by simpa using h.keys) rfl
    · exact h
  | exit =>
    simp only [step, Op.run, runOn_then_pure, exit_runOn]
    split
    · exact optionsInv_of_idle (by simpa using h.keys) rfl
    · exact h
  | resetAssertions =>
    simp only [step, Op.run, runOn_then_pure, resetAssertions_runOn]
    split
    · exact h.of_frame rfl rfl (solver_map_settings (fun _ => by rfl) _)
    · exact h
  -- a reset starts from an empty record and a solver with no settings
  | reset =>
    simp only [step, Op.run, runOn_then_pure, reset_runOn]
    split
    · exact applyOptions_optionsInv (by simp) rfl rfl
    · exact h
  | setOpt opt value =>
    simp only [step, Op.run, runOn_then_pure, setOpt_runOn]
    split
    · split
      · exact h
      · rename_i hrefusal
        exact h.takeOption (rejection?_of_refusal? hrefusal)
    · rename_i hs
      exact optionsInv_of_idle (Options.keys_nodup_setKey h.keys opt value) (by simpa using hs)
  | assertFormula t =>
    obtain ⟨e, hstep⟩ | ⟨th, -, hstep⟩ := @step_assertFormula_cases check s t
    · rw [hstep]
      exact h
    · rw [hstep]
      exact h.withAssertion _
  | checkSat =>
    simp only [step, Op.run, runOn_map, checkSat_runOn]
    split
    · rename_i st hst
      refine h.of_frame rfl rfl fun st' hst' => ⟨st, hst, ?_⟩
      cases hst'
      exact hkeep st []
    · exact h
  | checkSatAssuming assumptions =>
    simp only [step, Op.run, runOn_map, checkSatAssuming_runOn]
    split
    · exact h
    · rename_i st hst
      repeat' split
      all_goals first
        | exact h
        | exact h.of_frame rfl rfl hsame
        | refine h.of_frame rfl rfl fun st' hst' => ⟨st, hst, ?_⟩
          cases hst'
          exact hkeep st _
  | getValue terms =>
    simp only [step, Op.run, runOn_then_pure, runOn_discard, getValue_runOn]
    split
    · exact h
    · split
      · exact h
      · exact h.of_frame rfl rfl (solver_map_settings (fun _ => by rfl) _)
  | push n =>
    simp only [step, Op.run, runOn_then_pure, push_runOn]
    split
    · simp only [openScope_iterate]
      exact h.of_frame rfl rfl (solver_map_settings (SolverState.push_iterate_settings n.toNat) _)
    · exact h
  | pop n =>
    simp only [step, Op.run, runOn_then_pure, pop_runOn]
    split
    · split
      · simp only [closeScope_iterate]
        exact h.of_frame rfl rfl (solver_map_settings (SolverState.pop_iterate_settings n.toNat) _)
      · exact h
    · exact h
  | _ => simp [Op.isReadOnly] at hr

theorem exec_optionsInv {check : Checker}
    (hkeep : ∀ st assumptions, (check st assumptions).1.settings = st.settings)
    (params : List ParamInfo) (environment : Option String) (ops : List Op) :
    OptionsInv (exec check ops (freshOn params environment)).2 :=
  exec_invariant OptionsInv (fun _ op h => step_optionsInv hkeep h op) ops
    (optionsInv_of_idle List.nodup_nil rfl)

/-- A run keeps the parameter descriptions it started with. -/
theorem exec_params {check : Checker} (ops : List Op) (s : Session) :
    (exec check ops s).2.params = s.params :=
  exec_invariant (fun s' => s'.params = s.params) (fun _ op h => (step_origin op).2.trans h) ops rfl

end Session

/-! ## Settings after any run -/

namespace Session

variable {s : Session}

theorem paramValue_false : Options.paramValue "false" = .flag false := by decide

/-- A library that describes `model` as a flag takes `produce-models` set to
`false` as a setting of it. -/
theorem accepted?_produceModels_false
    (hmodel : ∃ m, lookup? params "model" = some ⟨"model", .flag, m⟩) :
    Options.accepted? params Options.produceModels "false" = some "model" := by
  obtain ⟨m, hm⟩ := hmodel
  have hkey : Options.paramKey Options.produceModels = some "model" := by decide
  have hnorm : normalizeName "model" = "model" := by decide
  simp [Options.accepted?, hkey, accept?, hnorm, hm, paramValue_false, ParamKind.admits, kindOf]

/-- Whether models are produced is the `model` setting of the replayed
record, when only `produce-models` sets it and `false` is written plainly,
on a library that describes `model` as a flag. -/
theorem modelGenEnabled_eq_flag (hmodel : ∃ m, lookup? params "model" = some ⟨"model", .flag, m⟩)
    (hkeys : (s.options.map Prod.fst).Nodup)
    (hd : ParamsDistinct params s.options) (hplain : ModelSetPlainly params s.options) :
    s.modelGenEnabled = (({} : SolverState).takeOptions params s.options).settings.flag "model" true := by
  rw [Settings.flag_eq]
  unfold modelGenEnabled
  cases hfind : s.options.find? (·.1 == Options.produceModels) with
  -- nothing sets `model`: it keeps its default
  | none =>
    have hnone : ∀ p ∈ s.options, Options.accepted? params p.1 p.2 ≠ some "model" := by
      intro p hp hpm
      have hkey := (hplain p hp (Options.param?_of_accepted? hpm)).1
      exact (List.find?_eq_none.mp hfind) p hp (by simp [hkey])
    rw [SolverState.value?_takeOptions_of_none _ hnone]
    rfl
  | some e =>
    have he : e ∈ s.options := List.mem_of_find?_eq_some hfind
    have hekey : e.1 = Options.produceModels := by simpa using List.find?_some hfind
    by_cases hacc : Options.accepted? params e.1 e.2 = some "model"
    -- `produce-models` sets `model`; `false` written plainly is the one value that turns it off
    · rw [SolverState.value?_takeOptions_of_mem _ hkeys hd he hacc]
      have hfalse := (hplain e he (Options.param?_of_accepted? hacc)).2
      by_cases he2 : e.2 = "false"
      · simp [he2, paramValue_false]
      · cases hv : Options.paramValue e.2 with
        | flag b =>
          cases b
          · exact absurd (hfalse hv) he2
          · simp [he2]
        | _ => simp [he2]
    -- `produce-models` is recorded with a value the solver does not take, so not `false`
    · have hnone : ∀ p ∈ s.options, Options.accepted? params p.1 p.2 ≠ some "model" := by
        intro p hp hpm
        have hpe : p = e := List.inj_on_of_nodup_map hkeys hp he
          ((hplain p hp (Options.param?_of_accepted? hpm)).1.trans hekey.symm)
        exact hacc (hpe ▸ hpm)
      rw [SolverState.value?_takeOptions_of_none _ hnone]
      have hne : e.2 ≠ "false" := by
        intro h
        apply hacc
        rw [hekey, h]
        exact accepted?_produceModels_false hmodel
      simp [hne, Settings.value?]

/-- In every session a run reaches, on any solver library and under any
check that leaves the settings alone, the solver's settings are those of the
recorded options replayed in order, as long as no two recorded options set
one parameter; and whether models are produced is the solver's `model`
setting, as long as only `produce-models` sets it, with `false` written
plainly, and the library describes `model` as a flag. -/
theorem settings_follow_recorded_options (check : Checker)
    (hkeep : ∀ st assumptions, (check st assumptions).1.settings = st.settings)
    (params : List ParamInfo) (environment : Option String) (ops : List Op) :
    let s := (exec check ops (freshOn params environment)).2;
    ∀ st, s.solver = some st → ParamsDistinct params s.options →
      (∀ n, st.settings.value? n = (({} : SolverState).takeOptions params s.options).settings.value? n) ∧
      ((∃ m, lookup? params "model" = some ⟨"model", .flag, m⟩) → ModelSetPlainly params s.options →
        s.modelGenEnabled = st.settings.flag "model" true) := by
  intro s st hst hd
  -- the invariant speaks of the session's own descriptions, which the run kept
  have hparams : s.params = params := exec_params ops _
  have hinv : OptionsInv s := exec_optionsInv hkeep params environment ops
  have hagree : ∀ n, st.settings.value? n =
      (({} : SolverState).takeOptions params s.options).settings.value? n := by
    rw [← hparams]
    exact hinv.settings st hst (hparams ▸ hd)
  refine ⟨hagree, fun hmodel hplain => ?_⟩
  rw [Settings.flag_eq, hagree, ← Settings.flag_eq]
  exact modelGenEnabled_eq_flag hmodel hinv.keys hd hplain

/-- `produce-models` queued as `false` before the solver is made, on the
solver's own library and check. -/
theorem settings_follow_queued_models_option :
    let s := (exec SolverState.check [.setOpt Options.produceModels "false", .newSolver]
      (freshOn catalogue none)).2;
    let st := ({} : SolverState).takeOptions catalogue [(Options.produceModels, "false")];
    (∀ st' assumptions, (SolverState.check st' assumptions).1.settings = st'.settings) ∧
    s.solver = some st ∧ ParamsDistinct catalogue s.options ∧
      (∃ m, lookup? catalogue "model" = some ⟨"model", .flag, m⟩) ∧ ModelSetPlainly catalogue s.options ∧
      (∀ n, st.settings.value? n = (({} : SolverState).takeOptions catalogue s.options).settings.value? n) ∧
      s.modelGenEnabled = st.settings.flag "model" true := by
  intro s st
  have hst : s.solver = some st := rfl
  have hd : ParamsDistinct catalogue s.options := by decide
  have hmodel : ∃ m, lookup? catalogue "model" = some ⟨"model", .flag, m⟩ := ⟨"", rfl⟩
  have hplain : ModelSetPlainly catalogue s.options := by decide
  have hfollow := settings_follow_recorded_options SolverState.check SolverState.check_settings
    catalogue none _ st hst hd
  exact ⟨SolverState.check_settings, hst, hd, hmodel, hplain, hfollow.1, hfollow.2 hmodel hplain⟩

/-- `model` and `produce-models` set one parameter: set after `model`,
`produce-models` is in force but is replayed before it. And `model` set by
its own name, or `false` written with a blank, turns models off while the
record says they are produced. -/
theorem recorded_options_disagree_with_settings :
    (let s := (exec SolverState.check [.newSolver, .setOpt Options.produceModels "false",
        .setOpt "model" "true", .setOpt Options.produceModels "false"] (fresh none)).2;
      s.solver.map (·.settings.value? "model") = some (some (.flag false)) ∧
        (({} : SolverState).takeOptions catalogue s.options).settings.value? "model" =
          some (.flag true)) ∧
    (let s := (exec SolverState.check [.newSolver, .setOpt "model" "false"] (fresh none)).2;
      s.modelGenEnabled = true ∧ s.solver.map (·.settings.flag "model" true) = some false) ∧
    (let s := (exec SolverState.check [.newSolver, .setOpt Options.produceModels " false"]
        (fresh none)).2;
      s.modelGenEnabled = true ∧ s.solver.map (·.settings.flag "model" true) = some false) :=
  ⟨⟨by decide, by decide⟩, ⟨by decide, by decide⟩, ⟨by decide, by decide⟩⟩

end Session

end SmtBackend
