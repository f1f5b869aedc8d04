import Mathlib
import SmtBackend.Session.Run

/-!
# What each operation does to a session

One lemma per operation of a session says, for every session it starts
from, what the operation answers and which session it leaves behind. The
later proofs about runs read the operations through these lemmas and never
unfold an operation again.

Operations that build sorts and terms, and the queries of models and
cores, read the session and never change it (`ReadOnly`). The others are
given in closed form: a check of the solver's presence and of the
arguments, then one update of the session. Options are handed to the solver
one at a time, up to the first it refuses; the lemmas say which prefix of
them took effect.
-/

namespace SmtBackend

open Solver

namespace SessionM

variable {α β : Type} {s : Session}

@[simp] theorem runOn_pure (a : α) : (pure a : SessionM α).runOn s = (.ok a, s) := rfl

theorem runOn_bind (x : SessionM α) (f : α → SessionM β) :
    (x >>= f).runOn s = match x.runOn s with
      | (.ok a, s') => (f a).runOn s'
      | (.error e, s') => (.error e, s') := by
  simp only [runOn, ExceptT.run_bind, StateT.run_bind]
  rcases x.run.run s with ⟨r, s'⟩
  cases r <;> rfl

theorem runOn_map (f : α → β) (x : SessionM α) :
    (f <$> x).runOn s = ((x.runOn s).1.map f, (x.runOn s).2) := by
  rw [map_eq_pure_bind, runOn_bind]
  rcases x.runOn s with ⟨r, s'⟩
  cases r <;> rfl

@[simp] theorem runOn_then_pure (x : SessionM α) (b : β) :
    (x >>= fun _ => pure b).runOn s = ((x.runOn s).1.map fun _ => b, (x.runOn s).2) := by
  rw [runOn_bind]
  rcases x.runOn s with ⟨_ | _, s'⟩ <;> rfl

theorem runOn_discard (x : SessionM α) :
    (discard x).runOn s = ((x.runOn s).1.map fun _ => PUnit.unit, (x.runOn s).2) := by
  show ((fun _ => PUnit.unit) <$> x).runOn s = _
  exact runOn_map _ x

theorem runOn_tryCatch (x : SessionM α) (handle : Failure → SessionM α) :
    (tryCatch x handle).runOn s = match x.runOn s with
      | (.ok a, s') => (.ok a, s')
      | (.error e, s') => (handle e).runOn s' := by
  rcases h : x.runOn s with ⟨_ | _, s'⟩ <;>
  · show (ExceptT.tryCatch x handle).run.run s = _
    simp only [runOn, ExceptT.run] at h
    simp only [ExceptT.tryCatch, ExceptT.run_mk, StateT.run_bind, h]
    rfl

@[simp] theorem runOn_get : (get : SessionM Session).runOn s = (.ok s, s) := rfl

@[simp] theorem runOn_modify (f : Session → Session) :
    (modify f : SessionM Unit).runOn s = (.ok (), f s) := rfl

@[simp] theorem runOn_throw (e : Failure) : (throw e : SessionM α).runOn s = (.error e, s) := rfl

@[simp] theorem runOn_lift (r : Except Failure α) : (Session.lift r).runOn s = (r, s) := by
  cases r <;> rfl

theorem runOn_bind_ok {x : SessionM α} {f : α → SessionM β} {r : β}
    (h : ((x >>= f).runOn s).1 = .ok r) : ∃ a, (x.runOn s).1 = .ok a := by
  rw [runOn_bind] at h
  rcases hx : x.runOn s with ⟨_ | a, s'⟩
  · rw [hx] at h
    cases h
  · exact ⟨a, rfl⟩

/-- A computation that leaves every session as it was. -/
def ReadOnly (x : SessionM α) : Prop := ∀ s, (x.runOn s).2 = s

namespace ReadOnly

theorem of_pure (a : α) : ReadOnly (pure a : SessionM α) := fun _ => rfl

theorem of_get : ReadOnly (get : SessionM Session) := fun _ => rfl

theorem of_throw (e : Failure) : ReadOnly (throw e : SessionM α) := fun _ => rfl

theorem of_lift (r : Except Failure α) : ReadOnly (Session.lift r) := fun _ => by simp

theorem bind {x : SessionM α} {f : α → SessionM β} (hx : ReadOnly x)
    (hf : ∀ a, ReadOnly (f a)) : ReadOnly (x >>= f) := by
  intro s
  rw [runOn_bind]
  rcases h : x.runOn s with ⟨r, s'⟩
  have hs : s' = s := by simpa [h] using hx s
  subst hs
  cases r with
  | ok a => exact hf a _
  | error e => rfl

theorem discard {x : SessionM α} (h : ReadOnly x) : ReadOnly (discard x) :=
  fun s => by rw [runOn_discard]; exact h s

end ReadOnly

/-- The failure of the first element of a list that `why?` refuses. -/
def firstFailure {γ : Type} (why? : γ → Option Failure) (l : List γ) : Except Failure Unit :=
  match l.findSome? why? with
  | some e => .error e
  | none => .ok ()

/-- The elements of a list before the first one that `why?` refuses. -/
def takenBefore {γ : Type} (why? : γ → Option Failure) (l : List γ) : List γ :=
  l.takeWhile fun x => (why? x).isNone

theorem firstFailure_eq_ok {γ : Type} {why? : γ → Option Failure} {l : List γ} :
    firstFailure why? l = .ok () ↔ ∀ x ∈ l, why? x = none := by
  unfold firstFailure
  cases h : l.findSome? why? with
  | some e =>
    obtain ⟨x, hx, he⟩ := List.exists_of_findSome?_eq_some h
    simp only [reduceCtorEq, false_iff, not_forall]
    exact ⟨x, hx, by simp [he]⟩
  | none => simpa using List.findSome?_eq_none_iff.mp h

theorem takenBefore_of_firstFailure {γ : Type} {why? : γ → Option Failure} {l : List γ}
    (h : firstFailure why? l = .ok ()) : takenBefore why? l = l := by
  rw [takenBefore, List.takeWhile_eq_self_iff]
  intro x hx
  simp [firstFailure_eq_ok.mp h x hx]

/-- A loop whose body fails with `why? x` or else goes on after updating the
session by `g x` runs its body on each element in turn, up to the first
failure. -/
theorem runOn_forIn_steps {γ : Type} (l : List γ) (body : γ → PUnit → SessionM (ForInStep PUnit))
    (why? : γ → Option Failure) (g : γ → Session → Session) (P : Session → Prop)
    (hP : ∀ x s, P s → P (g x s))
    (hbody : ∀ x s, P s → (body x PUnit.unit).runOn s = match why? x with
      | some e => (.error e, s)
      | none => (.ok (.yield PUnit.unit), g x s))
    (hs : P s) :
    (forIn l PUnit.unit body).runOn s =
      (firstFailure why? l, (takenBefore why? l).foldl (fun s x => g x s) s) := by
  -- on the list: the head either stops the loop with its failure or updates
  -- the session, and the rest runs from there
  induction l generalizing s with
  | nil => rfl
  | cons x l ih =>
    simp only [List.forIn_cons, runOn_bind, hbody x s hs]
    cases h : why? x with
    | some e => simp [h, firstFailure, takenBefore]
    | none => simpa [h, firstFailure, takenBefore] using ih (hP x s hs)

/-- A loop whose body never fails updates the session by each element in turn. -/
theorem runOn_forIn_total {γ : Type} (l : List γ) (body : γ → PUnit → SessionM (ForInStep PUnit))
    (g : γ → Session → Session)
    (hbody : ∀ x s, (body x PUnit.unit).runOn s = (.ok (.yield PUnit.unit), g x s)) :
    (forIn l PUnit.unit body).runOn s = (.ok (), l.foldl (fun s x => g x s) s) := by
  have hf : firstFailure (fun _ : γ => (none : Option Failure)) l = .ok () :=
    firstFailure_eq_ok.mpr fun _ _ => rfl
  rw [runOn_forIn_steps l body (fun _ => none) g (fun _ => True) (fun _ _ _ => trivial)
    (fun x s _ => hbody x s) trivial, takenBefore_of_firstFailure hf, hf]

end SessionM

@[simp] theorem Handle.asTerm_term (t : TermHandle) : (Handle.term t).asTerm = .ok t := rfl

@[simp] theorem Handle.asTerm_sort (s : SortHandle) :
    (Handle.sort s).asTerm = .error (.contract "Expected a Z3Term, got Z3Sort") := rfl

@[simp] theorem Handle.termSort_term (t : TermHandle) : (Handle.term t).termSort = .ok t.sort := rfl

@[simp] theorem Handle.termSort_sort (s : SortHandle) :
    (Handle.sort s).termSort = .error Handle.sortOfSortFailure := rfl

/-- Whether a failure refuses a request: the backend cannot realize it, or
the solver does not accept it. -/
def Failure.isRefusal : Failure → Bool
  | .config _ | .rejected _ => true
  | _ => false

theorem Options.addItem_refusal {pairs : List (String × String)} {item : String} {e : Failure}
    (h : Options.addItem pairs item = .error e) : e.isRefusal := by
  unfold Options.addItem at h
  split at h
  · cases h; rfl
  · cases h; rfl
  · simp only at h
    split at h
    · cases h; rfl
    · cases h

theorem Options.parseOptionString_refusal {text : String} {e : Failure}
    (h : Options.parseOptionString text = .error e) : e.isRefusal := by
  unfold Options.parseOptionString at h
  generalize Options.splitAt ';' text = items at h
  generalize ([] : List (String × String)) = init at h
  -- the items are read left to right; the first that fails gives the failure
  induction items generalizing init with
  | nil => cases h
  | cons raw rest ih =>
    simp only [List.foldlM_cons, bind, Except.bind] at h
    split at h
    · rename_i hstep
      split at hstep
      · cases hstep
      · cases h; exact Options.addItem_refusal hstep
    · exact ih _ h

theorem Options.fromEnvironment_refusal {env : List (String × String)} {e : Failure}
    (h : Options.fromEnvironment env = .error e) : e.isRefusal := by
  unfold Options.fromEnvironment at h
  split at h
  · split at h
    · cases h
    · exact Options.parseOptionString_refusal h
  · cases h

namespace Session

open SessionM

/-- The failure of an operation that needs a solver when there is none. -/
def notInitialized : Failure := .contract "Solver is not initialized"

/-- The session with the bookkeeping of its assertions forgotten. -/
def forget (s : Session) : Session :=
  { s with depth := 0, tracked := [], asserted := 0, lastResult := none }

@[simp] theorem forget_solver (s : Session) : s.forget.solver = s.solver := rfl
@[simp] theorem forget_options (s : Session) : s.forget.options = s.options := rfl
@[simp] theorem forget_environment (s : Session) : s.forget.environment = s.environment := rfl
@[simp] theorem forget_depth (s : Session) : s.forget.depth = 0 := rfl
@[simp] theorem forget_tracked (s : Session) : s.forget.tracked = [] := rfl
@[simp] theorem forget_asserted (s : Session) : s.forget.asserted = 0 := rfl
@[simp] theorem forget_lastResult (s : Session) : s.forget.lastResult = none := rfl
@[simp] theorem forget_trackers (s : Session) : s.forget.trackers = s.trackers := rfl
@[simp] theorem forget_lastAssumptions (s : Session) :
    s.forget.lastAssumptions = s.lastAssumptions := rfl

/-! ## Building blocks -/

@[simp] theorem isInitialized_runOn (s : Session) :
    isInitialized.runOn s = (.ok s.solver.isSome, s) := rfl

theorem checkInitialized_runOn (s : Session) : checkInitialized.runOn s =
    if s.solver.isSome then (.ok (), s) else (.error notInitialized, s) := by
  rcases s with ⟨_, _, _ | _, _⟩ <;> rfl

theorem checkInitialized_readOnly : ReadOnly checkInitialized := fun s => by
  rw [checkInitialized_runOn]
  split <;> rfl

@[simp] theorem stateChanged_runOn (s : Session) :
    stateChanged.runOn s = (.ok (), { s with lastResult := none }) := rfl

@[simp] theorem clearAssertionState_runOn (s : Session) :
    clearAssertionState.runOn s = (.ok (), s.forget) := rfl

@[simp] theorem modifySolver_runOn (f : SolverState → SolverState) (s : Session) :
    (modifySolver f).runOn s = (.ok (), { s with solver := s.solver.map f }) := rfl

/-! ## Options -/

/-- Why the solver refuses an option, if it does: an option that names a
parameter is refused when the solver does not accept the setting. -/
def rejection? (params : List ParamInfo) (opt value : String) : Option Failure :=
  match Options.paramKey opt with
  | none => none
  | some key => match accept? params key (Options.paramValue value) with
    | some _ => none
    | none => some (.rejected s!"Z3 rejected option '{opt}={value}': ")

/-- Why setting an option fails on a solver with `n` formulas asserted, if
it does: unsat cores cannot be enabled after the first assertion, and the
solver refuses what it does not accept. -/
def refusal? (params : List ParamInfo) (n : Nat) (opt value : String) : Option Failure :=
  if opt == Options.produceUnsatCores && value == "true" && n > 0 then
    some (.config s!"Cannot enable '{opt}' after {n} formulas have been asserted")
  else rejection? params opt value

end Session

/-- The solver after taking an option: a setting it accepts replaces the
earlier one of its parameter, and anything else leaves it as it was. -/
def SolverState.takeOption (st : SolverState) (params : List ParamInfo) (opt value : String) :
    SolverState :=
  match Options.paramKey opt with
  | none => st
  | some key => match accept? params key (Options.paramValue value) with
    | some name => { st with settings := st.settings.put name (Options.paramValue value) }
    | none => st

/-- The solver after taking options in order. -/
def SolverState.takeOptions (st : SolverState) (params : List ParamInfo)
    (l : List (String × String)) : SolverState :=
  l.foldl (fun st p => st.takeOption params p.1 p.2) st

@[simp] theorem SolverState.takeOption_scopes (st : SolverState) (params : List ParamInfo)
    (opt value : String) : (st.takeOption params opt value).scopes = st.scopes := by
  unfold SolverState.takeOption
  split
  · rfl
  · split <;> rfl

@[simp] theorem SolverState.takeOption_outcome (st : SolverState) (params : List ParamInfo)
    (opt value : String) : (st.takeOption params opt value).outcome = st.outcome := by
  unfold SolverState.takeOption
  split
  · rfl
  · split <;> rfl

@[simp] theorem SolverState.takeOptions_scopes (st : SolverState) (params : List ParamInfo)
    (l : List (String × String)) : (st.takeOptions params l).scopes = st.scopes := by
  induction l generalizing st with
  | nil => rfl
  | cons p l ih => exact (ih _).trans (st.takeOption_scopes params p.1 p.2)

@[simp] theorem SolverState.takeOptions_outcome (st : SolverState) (params : List ParamInfo)
    (l : List (String × String)) : (st.takeOptions params l).outcome = st.outcome := by
  induction l generalizing st with
  | nil => rfl
  | cons p l ih => exact (ih _).trans (st.takeOption_outcome params p.1 p.2)

namespace Session

open SessionM

/-- The session after an option is set on its solver: the solver takes it,
and the session records it. -/
def takeOption (s : Session) (opt value : String) : Session :=
  { s with solver := s.solver.map (·.takeOption s.params opt value),
           options := Options.setKey s.options opt value }

/-- The session after options are set in order. -/
def takeOptions (s : Session) (l : List (String × String)) : Session :=
  l.foldl (fun s p => s.takeOption p.1 p.2) s

theorem takeOptions_eq (s : Session) (l : List (String × String)) :
    s.takeOptions l =
      { s with solver := s.solver.map (·.takeOptions s.params l)
               options := l.foldl (fun o p => Options.setKey o p.1 p.2) s.options } := by
  induction l generalizing s with
  | nil => cases s; simp [takeOptions, SolverState.takeOptions]
  | cons p l ih =>
    simp only [takeOptions, List.foldl_cons] at ih ⊢
    rw [ih]
    cases s
    simp [takeOption, SolverState.takeOptions, Option.map_map, Function.comp_def]

@[simp] theorem takeOptions_environment (s : Session) (l : List (String × String)) :
    (s.takeOptions l).environment = s.environment := by
  rw [takeOptions_eq]
@[simp] theorem takeOptions_depth (s : Session) (l : List (String × String)) :
    (s.takeOptions l).depth = s.depth := by
  rw [takeOptions_eq]
@[simp] theorem takeOptions_lastResult (s : Session) (l : List (String × String)) :
    (s.takeOptions l).lastResult = s.lastResult := by
  rw [takeOptions_eq]
@[simp] theorem takeOptions_lastAssumptions (s : Session) (l : List (String × String)) :
    (s.takeOptions l).lastAssumptions = s.lastAssumptions := by
  rw [takeOptions_eq]
@[simp] theorem takeOptions_tracked (s : Session) (l : List (String × String)) :
    (s.takeOptions l).tracked = s.tracked := by
  rw [takeOptions_eq]
@[simp] theorem takeOptions_trackers (s : Session) (l : List (String × String)) :
    (s.takeOptions l).trackers = s.trackers := by
  rw [takeOptions_eq]
@[simp] theorem takeOptions_asserted (s : Session) (l : List (String × String)) :
    (s.takeOptions l).asserted = s.asserted := by
  rw [takeOptions_eq]
@[simp] theorem takeOptions_solver (s : Session) (l : List (String × String)) :
    (s.takeOptions l).solver = s.solver.map (·.takeOptions s.params l) := by
  rw [takeOptions_eq]
@[simp] theorem takeOptions_params (s : Session) (l : List (String × String)) :
    (s.takeOptions l).params = s.params := by
  rw [takeOptions_eq]

theorem applyOption_runOn (opt value : String) (s : Session) :
    (applyOption opt value).runOn s = match rejection? s.params opt value with
      | some e => (.error e, s)
      | none => (.ok (), { s with solver := s.solver.map (·.takeOption s.params opt value) }) := by
  unfold applyOption rejection? SolverState.takeOption
  rcases s with ⟨_, _, _ | st, _, _, _, _, _, _, params⟩ <;>
  · cases Options.paramKey opt with
    | none => rfl
    | some key =>
      simp only [runOn_bind, runOn_get]
      cases accept? params key (Options.paramValue value) <;> rfl

theorem setOpt_runOn (opt value : String) (s : Session) :
    (setOpt opt value).runOn s =
      if s.solver.isSome then
        match refusal? s.params s.asserted opt value with
        | some e => (.error e, s)
        | none => (.ok (), s.takeOption opt value)
      else (.ok (), { s with options := Options.setKey s.options opt value }) := by
  rcases s with ⟨_, _, _ | st, _, _, _, _, _, n, params⟩
  · rfl
  · simp only [setOpt, refusal?, runOn_bind, isInitialized_runOn, runOn_get, runOn_lift,
      checkConfig, Option.isSome_some, if_true]
    by_cases hg : (opt == Options.produceUnsatCores && value == "true" && decide (n > 0)) = true
    · simp [hg]
    · simp only [hg, Bool.not_false, if_true, applyOption_runOn]
      cases rejection? params opt value <;> rfl

theorem foldl_takeOption_solver (params : List ParamInfo) (l : List (String × String)) (s : Session) :
    l.foldl (fun s p => { s with solver := s.solver.map (·.takeOption params p.1 p.2) }) s =
      { s with solver := s.solver.map (·.takeOptions params l) } := by
  induction l generalizing s with
  | nil => cases s; simp [SolverState.takeOptions]
  | cons p l ih =>
    rw [List.foldl_cons, ih]
    cases s
    simp [SolverState.takeOptions, Option.map_map, Function.comp_def]

/-- The session after its solver takes options that are recorded already. -/
def giveOptions (s : Session) (l : List (String × String)) : Session :=
  { s with solver := s.solver.map (·.takeOptions s.params l) }

@[simp] theorem giveOptions_solver (s : Session) (l : List (String × String)) :
    (s.giveOptions l).solver = s.solver.map (·.takeOptions s.params l) := rfl
@[simp] theorem giveOptions_params (s : Session) (l : List (String × String)) :
    (s.giveOptions l).params = s.params := rfl
@[simp] theorem giveOptions_options (s : Session) (l : List (String × String)) :
    (s.giveOptions l).options = s.options := rfl
@[simp] theorem giveOptions_environment (s : Session) (l : List (String × String)) :
    (s.giveOptions l).environment = s.environment := rfl
@[simp] theorem giveOptions_depth (s : Session) (l : List (String × String)) :
    (s.giveOptions l).depth = s.depth := rfl
@[simp] theorem giveOptions_lastResult (s : Session) (l : List (String × String)) :
    (s.giveOptions l).lastResult = s.lastResult := rfl
@[simp] theorem giveOptions_lastAssumptions (s : Session) (l : List (String × String)) :
    (s.giveOptions l).lastAssumptions = s.lastAssumptions := rfl
@[simp] theorem giveOptions_tracked (s : Session) (l : List (String × String)) :
    (s.giveOptions l).tracked = s.tracked := rfl
@[simp] theorem giveOptions_trackers (s : Session) (l : List (String × String)) :
    (s.giveOptions l).trackers = s.trackers := rfl
@[simp] theorem giveOptions_asserted (s : Session) (l : List (String × String)) :
    (s.giveOptions l).asserted = s.asserted := rfl

theorem applyAll_runOn (l : List (String × String)) (s : Session) :
    (applyAll l).runOn s =
      (firstFailure (fun p => rejection? s.params p.1 p.2) l,
       s.giveOptions (takenBefore (fun p => rejection? s.params p.1 p.2) l)) := by
  simp only [applyAll, runOn_bind]
  -- the loop never changes the parameter descriptions it checks against
  rw [runOn_forIn_steps l _ (fun p => rejection? s.params p.1 p.2)
    (fun p s' => { s' with solver := s'.solver.map (·.takeOption s.params p.1 p.2) })
    (fun s' => s'.params = s.params) (fun _ _ h => h) (fun ⟨opt, value⟩ s' h => by
      simp only [runOn_bind, applyOption_runOn, h]
      cases rejection? s.params opt value <;> rfl) rfl,
    foldl_takeOption_solver]
  cases firstFailure (fun p => rejection? s.params p.1 p.2) l <;> rfl

theorem setAll_runOn (l : List (String × String)) (s : Session) (h : s.solver.isSome) :
    (setAll l).runOn s =
      (firstFailure (fun p => refusal? s.params s.asserted p.1 p.2) l,
       s.takeOptions (takenBefore (fun p => refusal? s.params s.asserted p.1 p.2) l)) := by
  simp only [setAll, runOn_bind]
  rw [runOn_forIn_steps l _ (fun p => refusal? s.params s.asserted p.1 p.2)
    (fun p s => s.takeOption p.1 p.2)
    (fun s' => s'.solver.isSome ∧ s'.asserted = s.asserted ∧ s'.params = s.params)
    (fun _ _ hs' => ⟨by simpa [takeOption] using hs'.1, hs'.2⟩)
    (fun ⟨opt, value⟩ s' hs' => by
      simp only [runOn_bind, setOpt_runOn, if_pos hs'.1, hs'.2]
      cases refusal? s.params s.asserted opt value <;> rfl) ⟨h, rfl, rfl⟩]
  cases firstFailure (fun p => refusal? s.params s.asserted p.1 p.2) l <;> rfl

/-- The recorded options and those of the environment are handed to a new
solver in order: the recorded ones up to the first the solver refuses, then,
if none was refused and the environment's text reads, the environment's
ones up to the first that fails. -/
theorem applyOptions_runOn (s : Session) (h : s.solver.isSome) :
    applyOptions.runOn s =
      let s₁ := s.giveOptions (takenBefore (fun p => rejection? s.params p.1 p.2) s.options)
      match firstFailure (fun p => rejection? s.params p.1 p.2) s.options with
      | .error e => (.error e, s₁)
      | .ok () =>
        match environmentOptions s with
        | .error e => (.error e, s₁)
        | .ok pairs =>
          (firstFailure (fun p => refusal? s.params s.asserted p.1 p.2) pairs,
           s₁.takeOptions (takenBefore (fun p => refusal? s.params s.asserted p.1 p.2) pairs)) := by
  simp only [applyOptions, runOn_bind, runOn_get, applyAll_runOn]
  cases firstFailure (fun p => rejection? s.params p.1 p.2) s.options
  · rfl
  · simp only [runOn_lift]
    have he : environmentOptions (s.giveOptions
        (takenBefore (fun p => rejection? s.params p.1 p.2) s.options)) = environmentOptions s := rfl
    rw [he]
    cases environmentOptions s with
    | error e => rfl
    | ok pairs =>
      simp only
      rw [setAll_runOn _ _ (by simpa using h), giveOptions_asserted, giveOptions_params]

theorem rejection?_refusal {params : List ParamInfo} {opt value : String} {e : Failure}
    (h : rejection? params opt value = some e) : e.isRefusal := by
  unfold rejection? at h
  split at h
  · cases h
  · split at h
    · cases h
    · cases h; rfl

theorem refusal?_refusal {params : List ParamInfo} {n : Nat} {opt value : String} {e : Failure}
    (h : refusal? params n opt value = some e) : e.isRefusal := by
  unfold refusal? at h
  split at h
  · cases h; rfl
  · exact rejection?_refusal h

theorem firstFailure_refusal {γ : Type} {why? : γ → Option Failure} {l : List γ} {e : Failure}
    (hw : ∀ x e, why? x = some e → e.isRefusal) (h : firstFailure why? l = .error e) :
    e.isRefusal := by
  unfold firstFailure at h
  split at h
  · rename_i e' he
    cases h
    obtain ⟨x, -, hx⟩ := List.exists_of_findSome?_eq_some he
    exact hw x _ hx
  · cases h

theorem applyOptions_refusal {s : Session} {e : Failure} (hs : s.solver.isSome)
    (h : (applyOptions.runOn s).1 = .error e) : e.isRefusal := by
  rw [applyOptions_runOn s hs] at h
  simp only at h
  split at h
  · rename_i e' he
    cases h
    exact firstFailure_refusal (fun _ _ => rejection?_refusal) he
  · split at h
    · cases h
      exact Options.fromEnvironment_refusal (by assumption)
    · exact firstFailure_refusal (fun _ _ => refusal?_refusal) h

theorem SolverState.takeOptions_append (st : SolverState) (params : List ParamInfo)
    (l₁ l₂ : List (String × String)) :
    st.takeOptions params (l₁ ++ l₂) = (st.takeOptions params l₁).takeOptions params l₂ := by
  simp [SolverState.takeOptions, List.foldl_append]

/-- Handing options to a solver changes its settings and the record of
options, and nothing else. -/
theorem applyOptions_frame {s : Session} (hs : s.solver.isSome) :
    ∃ l, (applyOptions.runOn s).2 =
      { s with solver := s.solver.map (·.takeOptions s.params l),
               options := (applyOptions.runOn s).2.options } := by
  rw [applyOptions_runOn s hs]
  simp only
  split
  · exact ⟨_, rfl⟩
  · split
    · exact ⟨_, rfl⟩
    -- the recorded options are taken first, the environment's after them
    · rename_i pairs _
      refine ⟨takenBefore (fun p => rejection? s.params p.1 p.2) s.options ++
        takenBefore (fun p => refusal? s.params s.asserted p.1 p.2) pairs, ?_⟩
      rw [takeOptions_eq]
      simp [Option.map_map, Function.comp_def, SolverState.takeOptions_append]

theorem applyOptions_solver {s : Session} (hs : s.solver.isSome) :
    (applyOptions.runOn s).2.solver.isSome := by
  obtain ⟨l, hframe⟩ := applyOptions_frame hs
  rw [hframe]
  simpa using hs

/-! ## Life cycle -/

theorem deleteSolver_runOn (s : Session) : deleteSolver.runOn s =
    if s.solver.isSome then (.ok (), { s with solver := none }.forget)
    else (.error notInitialized, s) := by
  rcases s with ⟨_, _, _ | _, _⟩ <;> rfl

theorem exit_runOn (s : Session) : exit.runOn s =
    if s.solver.isSome then (.ok (), { s with solver := none }.forget) else (.ok (), s) := by
  rcases s with ⟨_, _, _ | _, _⟩ <;> rfl

/-- A new solver takes the recorded options and those of the environment;
if one is refused, the solver is deleted again. -/
theorem newSolver_runOn (s : Session) : newSolver.runOn s =
    if s.solver.isSome then (.error (.contract "Solver is already initialized"), s)
    else match applyOptions.runOn { s with solver := some {}, depth := 0 } with
      | (.ok (), s') => (.ok (), s')
      | (.error e, s') => (.error e, { s' with solver := none }.forget) := by
  cases hs : s.solver with
  | some st =>
    simp only [newSolver, runOn_bind, isInitialized_runOn, hs, Option.isSome_some, Bool.not_true,
      runOn_lift, checkContract, Bool.false_eq_true, if_false, if_true]
  | none =>
    simp only [newSolver, runOn_bind, isInitialized_runOn, hs, Option.isSome_none,
      Bool.not_false, runOn_lift, checkContract, if_true, runOn_modify, runOn_tryCatch,
      Bool.false_eq_true, if_false]
    have hs₁ : ({ s with solver := some {}, depth := 0 } : Session).solver.isSome := rfl
    rcases h : applyOptions.runOn { s with solver := some {}, depth := 0 } with ⟨e | _, s'⟩
    -- a refused option is caught: the solver is deleted and the failure raised again
    · have hsolver := applyOptions_solver hs₁
      have hkind := applyOptions_refusal hs₁ (by rw [h])
      rw [h] at hsolver
      cases e <;> simp [Failure.isRefusal] at hkind <;>
        simp [runOn_bind, deleteSolver_runOn, hsolver]
    · rfl

theorem resetAssertions_runOn (s : Session) : resetAssertions.runOn s =
    if s.solver.isSome then (.ok (), { s with solver := s.solver.map SolverState.cleared }.forget)
    else (.error notInitialized, s) := by
  rcases s with ⟨_, _, _ | _, _⟩ <;> rfl

/-- A reset drops the recorded options and gives the session a new solver,
which then takes the options of the environment. -/
theorem reset_runOn (s : Session) : reset.runOn s =
    if s.solver.isSome then applyOptions.runOn { s with options := [], solver := some {} }.forget
    else (.error notInitialized, s) := by
  rcases s with ⟨_, _, _ | _, _⟩
  · rfl
  · simp only [reset, runOn_bind, checkInitialized_runOn, runOn_modify, clearAssertionState_runOn]
    rfl

/-! ## Assertions and checks -/

/-- The session after a formula is asserted: with unsat cores produced,
the formula is tracked by a fresh literal. -/
def withAssertion (s : Session) (th : TermHandle) : Session :=
  if s.unsatCoresEnabled then
    { s with solver := s.solver.map (·.assert ⟨th.native, some (trackerOf s.trackers)⟩)
             tracked := s.tracked ++ [(trackerOf s.trackers, th)]
             trackers := s.trackers + 1
             asserted := s.asserted + 1
             lastResult := none }
  else
    { s with solver := s.solver.map (·.assert ⟨th.native, none⟩)
             asserted := s.asserted + 1
             lastResult := none }

/-- A sort handle fails the Boolean check before anything changes, since the
check's message asks it for its sort; a Boolean term is asserted. -/
theorem assertFormula_runOn (t : Handle) (s : Session) : (assertFormula t).runOn s =
    if s.solver.isSome then
      match t with
      | .sort _ => (.error Handle.sortOfSortFailure, s)
      | .term th =>
        if th.sort.isBool then (.ok (), s.withAssertion th)
        else
          (.error (.config
            s!"Expected Boolean term to assert, got sort kind '{th.sort.kind.name}'"), s)
    else (.error notInitialized, s) := by
  cases hs : s.solver with
  | none => simp [assertFormula, runOn_bind, checkInitialized_runOn, hs]
  | some st =>
    cases t with
    | sort so => simp [assertFormula, runOn_bind, checkInitialized_runOn, hs]
    | term th =>
      by_cases hb : th.sort.isBool = true
      · simp only [assertFormula, runOn_bind, checkInitialized_runOn, hs, Handle.sortView, hb,
          checkConfig, Option.isSome_some, if_true, runOn_lift, Handle.termSort_term,
          Handle.asTerm_term, runOn_get, withAssertion]
        split <;> simp [runOn_bind, hs]
      · simp [assertFormula, runOn_bind, checkInitialized_runOn, hs, Handle.sortView, hb,
          checkConfig]

theorem checkSat_runOn (check : Checker) (s : Session) : (checkSat check).runOn s =
    match s.solver with
    | some st =>
      (.ok (check st []).2,
       { s with solver := some (check st []).1
                lastResult := some (check st []).2
                lastAssumptions := [] })
    | none => (.error notInitialized, s) := by
  rcases s with ⟨_, _, _ | st, _⟩ <;> rfl

/-- The failure of an assumption that is no Boolean term: a sort handle has
no sort to name in the message. -/
def nonBoolean? : Handle → Option Failure
  | .sort _ => some Handle.sortOfSortFailure
  | .term t =>
    if t.sort.isBool then none
    else some (.config s!"Expected Boolean assumption, got sort kind '{t.sort.kind.name}'")

/-- Assumptions are checked to be Boolean terms before anything changes;
the check then forgets the last result and records the assumptions before
it reads them as terms. -/
theorem checkSatAssuming_runOn (check : Checker) (hs : List Handle) (s : Session) :
    (checkSatAssuming check hs).runOn s =
      match s.solver with
      | none => (.error notInitialized, s)
      | some st =>
        match firstFailure nonBoolean? hs with
        | .error e => (.error e, s)
        | .ok () =>
          match hs.mapM Handle.asTerm with
          | .error e => (.error e, { s with lastResult := none, lastAssumptions := hs })
          | .ok ths =>
            (.ok (check st (ths.map (·.native))).2,
             { s with solver := some (check st (ths.map (·.native))).1
                      lastResult := some (check st (ths.map (·.native))).2
                      lastAssumptions := hs }) := by
  cases hsolver : s.solver with
  | none => simp [checkSatAssuming, runOn_bind, checkInitialized_runOn, hsolver]
  | some st =>
    simp only [checkSatAssuming, runOn_bind, checkInitialized_runOn, hsolver, Option.isSome_some,
      if_true]
    rw [runOn_forIn_steps hs _ nonBoolean? (fun _ s => s) (fun _ => True) (fun _ _ _ => trivial)
      (fun a s' _ => by
        cases a with
        | sort so => simp [runOn_bind, runOn_lift, nonBoolean?]
        | term th =>
          by_cases hb : th.sort.isBool = true <;>
            simp [runOn_bind, runOn_map, checkConfig, nonBoolean?, Handle.sortView, hb,
              Except.map]) trivial]
    -- the Boolean check changes nothing, so the loop leaves the session as it is
    rw [List.foldl_const, Function.iterate_fixed rfl]
    cases firstFailure nonBoolean? hs with
    | error e => rfl
    | ok u =>
      simp only [stateChanged_runOn, runOn_modify, runOn_lift]
      cases hs.mapM Handle.asTerm with
      | error e => simp [hsolver]
      | ok ths =>
        simp only [runCheck, runOn_bind, runOn_get, hsolver]
        rfl

/-! ## Construction

Sorts and terms are built without touching the session: every
constructor only checks that a solver exists and then computes. -/

theorem mkSort_readOnly (kind : KindArg SortKind) (sizes : List Int) :
    ReadOnly (mkSort kind sizes) := by
  unfold mkSort
  refine checkInitialized_readOnly.bind fun _ => ?_
  repeat' first
    | exact ReadOnly.of_pure _
    | exact ReadOnly.of_throw _
    | refine (ReadOnly.of_lift _).bind fun _ => ?_
    | split

theorem mkUninterpretedSort_readOnly (name : String) : ReadOnly (mkUninterpretedSort name) :=
  checkInitialized_readOnly.bind fun _ => ReadOnly.of_pure _

theorem mkCompositeSort_readOnly (kind : KindArg SortKind) (sorts : List Handle) :
    ReadOnly (mkCompositeSort kind sorts) := by
  unfold mkCompositeSort
  refine checkInitialized_readOnly.bind fun _ => (ReadOnly.of_lift _).bind fun _ => ?_
  repeat' first
    | exact ReadOnly.of_pure _
    | exact ReadOnly.of_throw _
    | refine (ReadOnly.of_lift _).bind fun _ => ?_
    | split

theorem getSort_readOnly (term : TermHandle) (hint : KindArg SortKind) :
    ReadOnly (getSort term hint) := by
  unfold getSort
  refine checkInitialized_readOnly.bind fun _ => ?_
  simp only
  split <;> exact ReadOnly.of_pure _

theorem mkConst_readOnly (sort : Handle) (name : String) : ReadOnly (mkConst sort name) :=
  checkInitialized_readOnly.bind fun _ => (ReadOnly.of_lift _).bind fun _ => ReadOnly.of_pure _

theorem construct_readOnly {α : Type} (r : Except Failure α) : ReadOnly (construct r) :=
  checkInitialized_readOnly.bind fun _ => ReadOnly.of_lift _

/-! ## Models and cores -/

theorem nativeCore_runOn (s : Session) : nativeCore.runOn s =
    if s.lastResult = some .unsat then
      (.ok (((s.solver.bind (·.outcome)).map (·.core)).getD []), s)
    else (.error (.contract "Unsat core requested without preceding UNSAT result"), s) := by
  by_cases h : s.lastResult = some .unsat <;>
    simp [nativeCore, runOn_bind, runOn_map, Except.map, checkContract, h]

theorem model_runOn (s : Session) : model.runOn s =
    if s.solver.isSome then
      if s.lastResult = some .sat then
        (.ok (((s.solver.bind (·.outcome)).map (·.model)).getD {}), s)
      else (.error (.contract "Model requested without preceding SAT result"), s)
    else (.error notInitialized, s) := by
  by_cases hs : s.solver.isSome <;> by_cases h : s.lastResult = some .sat <;>
    simp [model, runOn_bind, runOn_map, Except.map, checkInitialized_runOn, checkContract, hs, h]

theorem nativeCore_readOnly : ReadOnly nativeCore := fun s => by
  rw [nativeCore_runOn]
  split <;> rfl

theorem nativeCore_ok {s : Session} {c : List Term} (h : (nativeCore.runOn s).1 = .ok c) :
    s.lastResult = some .unsat := by
  rw [nativeCore_runOn] at h
  split at h
  · assumption
  · cases h

theorem model_readOnly : ReadOnly model := fun s => by
  rw [model_runOn]
  repeat' split
  all_goals rfl

theorem model_ok {s : Session} {m : Model} (h : (model.runOn s).1 = .ok m) :
    s.solver.isSome ∧ s.lastResult = some .sat := by
  rw [model_runOn] at h
  split at h
  · split at h
    · exact ⟨by assumption, by assumption⟩
    · cases h
  · cases h

theorem getUnsatAssumptions_readOnly : ReadOnly getUnsatAssumptions :=
  nativeCore_readOnly.bind fun _ => ReadOnly.of_get.bind fun _ => ReadOnly.of_pure _

theorem getUnsatAssumptions_ok {s : Session} {r : List Handle}
    (h : (getUnsatAssumptions.runOn s).1 = .ok r) : s.lastResult = some .unsat :=
  have ⟨_, hc⟩ := runOn_bind_ok h
  nativeCore_ok hc

theorem isUnsatAssumption_readOnly (t : Handle) : ReadOnly (isUnsatAssumption t) :=
  nativeCore_readOnly.bind fun _ => ReadOnly.of_pure _

theorem isUnsatAssumption_ok {s : Session} {t : Handle} {r : Bool}
    (h : ((isUnsatAssumption t).runOn s).1 = .ok r) : s.lastResult = some .unsat :=
  have ⟨_, hc⟩ := runOn_bind_ok h
  nativeCore_ok hc

theorem getUnsatCore_readOnly : ReadOnly getUnsatCore :=
  ReadOnly.of_get.bind fun _ => (ReadOnly.of_lift _).bind fun _ =>
    nativeCore_readOnly.bind fun _ => ReadOnly.of_get.bind fun _ => ReadOnly.of_pure _

theorem getUnsatCore_ok {s : Session} {r : List TermHandle}
    (h : (getUnsatCore.runOn s).1 = .ok r) :
    s.unsatCoresEnabled ∧ s.lastResult = some .unsat := by
  by_cases hc : s.unsatCoresEnabled
  · refine ⟨hc, ?_⟩
    simp only [getUnsatCore, runOn_bind, runOn_get, runOn_lift, checkContract, hc,
      if_true] at h
    rcases hn : nativeCore.runOn s with ⟨_ | c, s'⟩ <;> rw [hn] at h
    · cases h
    · exact nativeCore_ok (congrArg Prod.fst hn)
  · simp [getUnsatCore, runOn_bind, checkContract, hc] at h

theorem printModel_readOnly : ReadOnly printModel :=
  model_readOnly.bind fun _ => ReadOnly.of_pure _

theorem printModel_ok {s : Session} {r : String} (h : (printModel.runOn s).1 = .ok r) :
    s.solver.isSome ∧ s.lastResult = some .sat :=
  have ⟨_, hm⟩ := runOn_bind_ok h
  model_ok hm

/-- The session after the model of its last check is completed to `m`. -/
def withModel (s : Session) (m : Model) : Session :=
  { s with solver := s.solver.map fun st =>
      { st with outcome := st.outcome.map fun o => { o with model := m } } }

/-- Values are read in the model of the last check, which must have been
satisfiable; reading them completes the model. -/
theorem getValue_runOn (terms : List Handle) (s : Session) : (getValue terms).runOn s =
    match (model.runOn s).1 with
    | .error e => (.error e, s)
    | .ok m₀ =>
      match terms.mapM Handle.asTerm with
      | .error e => (.error e, s)
      | .ok ths =>
        let m := ths.foldl (fun m th => m.completeWith th.native) m₀
        (.ok (ths.map fun th => ⟨m.eval th.native, th.trackedFun⟩), s.withModel m) := by
  have hs := model_readOnly s
  simp only [getValue, runOn_bind]
  rcases hm : model.runOn s with ⟨_ | m₀, s'⟩ <;> rw [hm] at hs <;> subst hs
  · rfl
  · cases terms.mapM Handle.asTerm <;> rfl

/-! ## Scopes -/

/-- The session with one more scope open. -/
def openScope (s : Session) : Session :=
  { s with solver := s.solver.map SolverState.push, depth := s.depth + 1 }

/-- The session with its innermost scope closed. -/
def closeScope (s : Session) : Session :=
  { s with solver := s.solver.map SolverState.pop, depth := s.depth - 1 }

theorem openScope_iterate (k : Nat) (s : Session) : openScope^[k] s =
    { s with solver := s.solver.map SolverState.push^[k], depth := s.depth + k } := by
  induction k generalizing s with
  | zero => simp
  | succ k ih =>
    rw [Function.iterate_succ_apply, ih]
    simp only [openScope, Option.map_map, Function.iterate_succ, Nat.add_assoc, Nat.add_comm 1 k]

theorem closeScope_iterate (k : Nat) (s : Session) : closeScope^[k] s =
    { s with solver := s.solver.map SolverState.pop^[k], depth := s.depth - k } := by
  induction k generalizing s with
  | zero => simp
  | succ k ih =>
    rw [Function.iterate_succ_apply, ih]
    simp only [closeScope, Option.map_map, Function.iterate_succ, Nat.sub_sub, Nat.add_comm 1 k]

/-- Pushing opens the scopes one by one and drops the last result; a count
that is not positive opens none. -/
theorem push_runOn (n : Int) (s : Session) : (push n).runOn s =
    if s.solver.isSome then (.ok (), { openScope^[n.toNat] s with lastResult := none })
    else (.error notInitialized, s) := by
  by_cases h : s.solver.isSome
  · simp only [push, runOn_bind, checkInitialized_runOn, if_pos h]
    rw [runOn_forIn_total _ _ (fun _ s => openScope s) fun _ _ => rfl, List.foldl_const,
      List.length_range]
    rfl
  · simp only [push, runOn_bind, checkInitialized_runOn, if_neg h]

/-- Popping more scopes than are open fails before anything changes. -/
theorem pop_runOn (n : Int) (s : Session) : (pop n).runOn s =
    if s.solver.isSome then
      if n ≤ s.depth then (.ok (), { closeScope^[n.toNat] s with lastResult := none })
      else (.error (.contract s!"Cannot pop {n} levels at depth {s.depth}"), s)
    else (.error notInitialized, s) := by
  by_cases h : s.solver.isSome
  · simp only [pop, runOn_bind, checkInitialized_runOn, if_pos h]
    by_cases hn : n ≤ s.depth
    · simp only [runOn_get, runOn_lift, checkContract, decide_eq_true hn, if_pos hn, if_true]
      rw [runOn_forIn_total _ _ (fun _ s => closeScope s) fun _ _ => rfl, List.foldl_const,
        List.length_range]
      rfl
    · simp [checkContract, hn]
  · simp only [pop, runOn_bind, checkInitialized_runOn, if_neg h]

end Session

end SmtBackend
