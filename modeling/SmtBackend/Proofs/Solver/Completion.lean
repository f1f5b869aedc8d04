import SmtBackend.Solver.Model

/-!
# Completing a model

Reading the value of a term adds to the model each constant of the term it
does not define yet. A constant once defined stays defined, and a term
whose constants are all defined leaves the model as it was: completing a
model twice with the same terms is completing it once
(`foldl_completeWith_idem`).
-/

namespace SmtBackend

namespace Solver.Model

variable {m : Model} {n : String} {s : SmtSort}

/-- One step of completion: define a constant the model does not define,
with the value completion gives it. -/
def define (m : Model) (c : String × SmtSort) : Model :=
  if (m.value? c.1 c.2).isSome then m
  else { m with bindings := m.bindings ++ [⟨c.1, c.2, m.env.lookup c.1 c.2⟩] }

theorem completeWith_eq (m : Model) (t : Term) :
    m.completeWith t = t.constants.foldl define m := rfl

theorem define_of_defined {c : String × SmtSort} (h : (m.value? c.1 c.2).isSome) :
    m.define c = m := by
  simp [define, h]

theorem define_mono (c : String × SmtSort) (h : (m.value? n s).isSome) :
    ((m.define c).value? n s).isSome := by
  unfold define
  split
  · exact h
  -- the earlier binding is found before the new one
  · simp only [value?, Option.isSome_map] at h ⊢
    obtain ⟨b, hb⟩ := Option.isSome_iff_exists.mp h
    simp [List.find?_append, hb]

theorem define_defines (m : Model) (c : String × SmtSort) :
    ((m.define c).value? c.1 c.2).isSome := by
  unfold define
  split
  · assumption
  -- the constant was not found before, so the search reaches the new binding
  · rename_i hnone
    have hfind : m.bindings.find? (fun b => b.name == c.1 && b.sort == c.2) = none := by
      simpa [value?] using hnone
    simp [value?, List.find?_append, hfind]

theorem foldl_define_mono (l : List (String × SmtSort)) (h : (m.value? n s).isSome) :
    ((l.foldl define m).value? n s).isSome := by
  induction l generalizing m with
  | nil => exact h
  | cons c l ih => exact ih (define_mono c h)

theorem foldl_define_defines (l : List (String × SmtSort)) (m : Model) :
    ∀ c ∈ l, ((l.foldl define m).value? c.1 c.2).isSome := by
  induction l generalizing m with
  | nil => simp
  | cons c l ih =>
    intro c' hc'
    rcases List.mem_cons.mp hc' with rfl | hc'
    · exact foldl_define_mono l (define_defines m c')
    · exact ih _ c' hc'

theorem foldl_define_of_defined (l : List (String × SmtSort))
    (h : ∀ c ∈ l, (m.value? c.1 c.2).isSome) : l.foldl define m = m := by
  induction l with
  | nil => rfl
  | cons c l ih =>
    rw [List.foldl_cons, define_of_defined (h c (by simp))]
    exact ih fun c' hc' => h c' (by simp [hc'])

theorem completeWith_mono (t : Term) (h : (m.value? n s).isSome) :
    ((m.completeWith t).value? n s).isSome :=
  foldl_define_mono _ h

section Terms

variable {γ : Type} (f : γ → Term)

/-- Completing with the terms of a list in order, as reading their values
does. -/
theorem foldl_completeWith_mono (l : List γ) (h : (m.value? n s).isSome) :
    ((l.foldl (fun m x => m.completeWith (f x)) m).value? n s).isSome := by
  induction l generalizing m with
  | nil => exact h
  | cons x l ih => exact ih (completeWith_mono _ h)

theorem foldl_completeWith_defines (l : List γ) (m : Model) :
    ∀ x ∈ l, ∀ c ∈ (f x).constants,
      ((l.foldl (fun m x => m.completeWith (f x)) m).value? c.1 c.2).isSome := by
  induction l generalizing m with
  | nil => simp
  | cons x l ih =>
    intro x' hx' c hc
    rcases List.mem_cons.mp hx' with rfl | hx'
    · exact foldl_completeWith_mono f l (foldl_define_defines _ m c hc)
    · exact ih _ x' hx' c hc

theorem foldl_completeWith_of_defined (l : List γ)
    (h : ∀ x ∈ l, ∀ c ∈ (f x).constants, (m.value? c.1 c.2).isSome) :
    l.foldl (fun m x => m.completeWith (f x)) m = m := by
  induction l with
  | nil => rfl
  | cons x l ih =>
    rw [List.foldl_cons, completeWith_eq, foldl_define_of_defined _ (h x (by simp))]
    exact ih fun x' hx' => h x' (by simp [hx'])

theorem foldl_completeWith_idem (l : List γ) (m : Model) :
    l.foldl (fun m x => m.completeWith (f x)) (l.foldl (fun m x => m.completeWith (f x)) m) =
      l.foldl (fun m x => m.completeWith (f x)) m :=
  foldl_completeWith_of_defined f l (foldl_completeWith_defines f l m)

end Terms

end Solver.Model

end SmtBackend
