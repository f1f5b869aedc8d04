import SmtBackend.Proofs.Session.Effects

/-!
# Components of composite sorts

An array sort is made from an index and an element sort, a function sort
from domain sorts and a codomain sort. Taking such a sort apart gives its
components back as sorts equal to those it was made from. Only the domain
sorts of a function sort are kept as they were given; the index, element
and codomain sorts are read off the solver's array sort, which does not
record that a component was made as a function sort. A component made as a
function sort therefore comes back as an array sort, every other component
with its kind.

`composite_sorts_decompose` states this for every session with a solver and
every choice of components; `function_index_sort_kind_lost` shows an index
sort that was a function sort and comes back as an array sort.
-/

namespace SmtBackend

open Session SessionM

theorem Handle.mapM_asSort_sort (ds : List SortHandle) :
    (ds.map Handle.sort).mapM Handle.asSort = .ok ds := by
  induction ds with
  | nil => rfl
  | cons d ds ih => simp [List.mapM_cons, Handle.asSort, ih, bind, Except.bind, pure, Except.pure]

namespace SortHandle

/-- A sort read off the solver's sort is the sort itself, forgetting that it
was made as a function sort. -/
theorem kind_forget (s : SortHandle) :
    (⟨s.native, none⟩ : SortHandle).kind = if s.isFun then .array else s.kind := by
  unfold kind isFun
  cases s.native with
  | array d r => cases s.funDomain <;> simp [SmtSort.isArray, SmtSort.kind]
  | _ => simp [SmtSort.isArray]

theorem equals_forget (s : SortHandle) :
    Handle.equals (.sort ⟨s.native, none⟩) (.sort s) = true :=
  SmtSort.beq_refl s.native

theorem arrayIndexSort_array (i e : SmtSort) :
    (⟨.array [i] e, none⟩ : SortHandle).arrayIndexSort = .ok ⟨i, none⟩ := rfl

theorem arrayElementSort_array (i e : SmtSort) :
    (⟨.array [i] e, none⟩ : SortHandle).arrayElementSort = .ok ⟨e, none⟩ := rfl

section Function

variable (ds : List SortHandle) (c : SmtSort)

theorem funArity_fun :
    (⟨.array (ds.map (·.native)) c, some ds⟩ : SortHandle).funArity = .ok ds.length := rfl

theorem funDomainSorts_fun :
    (⟨.array (ds.map (·.native)) c, some ds⟩ : SortHandle).funDomainSorts = .ok ds := rfl

theorem funCodomainSort_fun :
    (⟨.array (ds.map (·.native)) c, some ds⟩ : SortHandle).funCodomainSort =
      .ok ⟨c, none⟩ := rfl

end Function

end SortHandle

section Making

variable {s : Session}

theorem mkCompositeSort_array_runOn (hs : s.solver.isSome) (i e : SortHandle) :
    (mkCompositeSort (.known .array) [.sort i, .sort e]).runOn s =
      (.ok ⟨.array [i.native] e.native, none⟩, s) := by
  have hsorts : [Handle.sort i, .sort e].mapM Handle.asSort = .ok [i, e] :=
    Handle.mapM_asSort_sort [i, e]
  simp only [mkCompositeSort, runOn_bind, checkInitialized_runOn, hs, if_true, runOn_lift, hsorts]
  rfl

theorem mkCompositeSort_fun_runOn (hs : s.solver.isSome) (ds : List SortHandle) (c : SortHandle)
    (hds : ds ≠ []) :
    (mkCompositeSort (.known .fun) ((ds ++ [c]).map .sort)).runOn s =
      (.ok ⟨.array (ds.map (·.native)) c.native, some ds⟩, s) := by
  have hlen : 1 ≤ ds.length := List.length_pos_of_ne_nil hds
  simp only [mkCompositeSort, runOn_bind, checkInitialized_runOn, hs, if_true, runOn_lift,
    Handle.mapM_asSort_sort]
  simp [checkConfig, hlen]

end Making

/-- In every session with a solver, the array sort of index sort `i` and
element sort `e` gives back as index and element sorts the sorts `i` and
`e`, of the same kind unless they are function sorts, which come back as
array sorts. The function sort of nonempty domain sorts `ds` and codomain
sort `c` has as many arguments as `ds` has sorts, gives back `ds` itself as
domain sorts, and as codomain sort the sort `c`, of the same kind unless it
is a function sort, which comes back as an array sort. Making the sorts
leaves the session as it was. -/
theorem composite_sorts_decompose (s : Session) (hs : s.solver.isSome) (i e c : SortHandle)
    (ds : List SortHandle) (hds : ds ≠ []) :
    (∃ a, (mkCompositeSort (.known .array) [.sort i, .sort e]).runOn s = (.ok a, s) ∧
      (∃ i', a.arrayIndexSort = .ok i' ∧ Handle.equals (.sort i') (.sort i) ∧
        i'.kind = if i.isFun then .array else i.kind) ∧
      ∃ e', a.arrayElementSort = .ok e' ∧ Handle.equals (.sort e') (.sort e) ∧
        e'.kind = if e.isFun then .array else e.kind) ∧
    ∃ f, (mkCompositeSort (.known .fun) ((ds ++ [c]).map .sort)).runOn s = (.ok f, s) ∧
      f.funArity = .ok ds.length ∧ f.funDomainSorts = .ok ds ∧
      ∃ c', f.funCodomainSort = .ok c' ∧ Handle.equals (.sort c') (.sort c) ∧
        c'.kind = if c.isFun then .array else c.kind :=
  ⟨⟨_, mkCompositeSort_array_runOn hs i e,
      ⟨_, SortHandle.arrayIndexSort_array _ _, SortHandle.equals_forget i,
        SortHandle.kind_forget i⟩,
      ⟨_, SortHandle.arrayElementSort_array _ _, SortHandle.equals_forget e,
        SortHandle.kind_forget e⟩⟩,
    ⟨_, mkCompositeSort_fun_runOn hs ds c hds, SortHandle.funArity_fun _ _,
      SortHandle.funDomainSorts_fun _ _,
      ⟨_, SortHandle.funCodomainSort_fun _ _, SortHandle.equals_forget c,
        SortHandle.kind_forget c⟩⟩⟩

theorem integer_function_components_decompose :
    let f : SortHandle := ⟨.array [.int] .int, some [⟨.int, none⟩]⟩
    let s : Session := { solver := some {} }
    s.solver.isSome ∧ [f] ≠ [] ∧
    ((∃ a, (mkCompositeSort (.known .array) [.sort f, .sort ⟨.int, none⟩]).runOn s =
        (.ok a, s) ∧
      (∃ i', a.arrayIndexSort = .ok i' ∧ Handle.equals (.sort i') (.sort f) ∧
        i'.kind = if f.isFun then .array else f.kind) ∧
      ∃ e', a.arrayElementSort = .ok e' ∧ Handle.equals (.sort e') (.sort ⟨.int, none⟩) ∧
        e'.kind = if SortHandle.isFun ⟨.int, none⟩ then .array
          else SortHandle.kind ⟨.int, none⟩) ∧
    ∃ g, (mkCompositeSort (.known .fun) (([f] ++ [f]).map .sort)).runOn s = (.ok g, s) ∧
      g.funArity = .ok [f].length ∧ g.funDomainSorts = .ok [f] ∧
      ∃ c', g.funCodomainSort = .ok c' ∧ Handle.equals (.sort c') (.sort f) ∧
        c'.kind = if f.isFun then .array else f.kind) :=
  ⟨rfl, List.cons_ne_nil _ _,
    composite_sorts_decompose _ rfl _ ⟨.int, none⟩ _ _ (List.cons_ne_nil _ _)⟩

/-- The function sort from integers to integers, made the index sort of an
array, comes back from the array as an array sort. -/
theorem function_index_sort_kind_lost :
    ∃ f a i',
      (mkCompositeSort (.known .fun) [.sort ⟨.int, none⟩, .sort ⟨.int, none⟩]).runOn
        ({ solver := some {} } : Session) = (.ok f, { solver := some {} }) ∧
      (mkCompositeSort (.known .array) [.sort f, .sort ⟨.int, none⟩]).runOn
        ({ solver := some {} } : Session) = (.ok a, { solver := some {} }) ∧
      a.arrayIndexSort = .ok i' ∧ f.kind = .fun ∧ i'.kind = .array :=
  ⟨_, _, _,
    mkCompositeSort_fun_runOn rfl [⟨.int, none⟩] ⟨.int, none⟩ (List.cons_ne_nil _ _),
    mkCompositeSort_array_runOn rfl _ _, SortHandle.arrayIndexSort_array _ _, rfl, rfl⟩

end SmtBackend
