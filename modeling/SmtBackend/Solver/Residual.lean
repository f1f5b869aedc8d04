import SmtBackend.Solver.Equations

/-!
# Residual problems

Before a one-shot check searches for a model, the problem is simplified:
its formulas are put in normal form and split at top-level conjunctions,
equations that define constants are solved, and then, unless the problem
is one of real arithmetic, unconstrained constants are eliminated. What
is left is searched; the model found is turned back into a model of the
problem by the rebuilding steps, the elimination's last first, then the
definitions of the solved constants.

The model of what is left lists its own constants first, in the order of
a table keyed by their names, then the fresh constants in the order they
were made. Problems with uninterpreted sorts or floating-point numbers are
searched as they are, and so are propositional problems, which have
constants, all of them Boolean; problems with binders are only put in
normal form.
-/

namespace SmtBackend.Solver

open SmtBackend.Eval Unconstrained

/-- What is left of a problem: the formulas to search, the fresh
constants among them, and the steps that rebuild a model of the problem. -/
structure Residual where
  formulas : List Term
  fresh : List Const := []
  steps : List Rebuild := []
  /-- The applications outside their symbol's domain, each with the
  constant that stands for it. -/
  apart : List (Term × Const) := []

mutual
/-- Whether a sort is built without uninterpreted sorts, floating-point
numbers and rounding modes. -/
def plainSort : SmtSort → Bool
  | .named _ | .float .. | .roundingMode => false
  | .array d r => plainSorts d && plainSort r
  | _ => true
/-- `plainSort` for every sort of a list. -/
def plainSorts : List SmtSort → Bool
  | [] => true
  | s :: ss => plainSort s && plainSorts ss
end

mutual
/-- Whether a term has a binder. -/
def hasBinder : Term → Bool
  | .bind .. => true
  | .app _ args => hasBinderAll args
  | .var .. => false
/-- `hasBinder` for some term of a list. -/
def hasBinderAll : List Term → Bool
  | [] => false
  | t :: ts => hasBinder t || hasBinderAll ts
end

/-- The formulas of a formula in normal form: the conjuncts of a
conjunction, the negated disjuncts of a negated disjunction, and no
formula for `true`. -/
def split (t : Term) : List Term :=
  match t with
  | .app .and args => args
  | .app .not [.app .or args] => args.map Normal.not_
  | .app (.boolLit true) [] => []
  | _ => [t]

/-- A prefix of names that no name of the list starts with. -/
def freshPrefix (names : List String) : String :=
  (List.range ((names.map String.length).foldl max 0 + 1)).foldl
    (fun p _ => if names.any (·.startsWith p) then p ++ "!" else p) "k!"

mutual
/-- Set apart the applications outside their symbol's domain: each
distinct one, innermost first, becomes a fresh constant named with the
prefix, recorded with it in `acc`. -/
def setApart (pre : String) (acc : List (Term × Term)) : Term → List (Term × Term) × Term
  | .app f (a :: as) =>
    let (acc, args) := setApartAll pre acc (a :: as)
    let t := Term.app f args
    if !unspecified f args then (acc, t)
    else match acc.lookup t with
      | some c => (acc, c)
      | none =>
        let c := Term.const (pre ++ "u" ++ toString acc.length) t.sort
        (acc ++ [(t, c)], c)
  | t => (acc, t)
/-- `setApart` over a list of terms, in order. -/
def setApartAll (pre : String) (acc : List (Term × Term)) : List Term → List (Term × Term) × List Term
  | [] => (acc, [])
  | t :: ts =>
    let (acc, t) := setApart pre acc t
    let (acc, ts) := setApartAll pre acc ts
    (acc, t :: ts)
end

/-- The residual of a problem. Applications outside their symbol's domain
are set apart first, as constants the search chooses freely. -/
def Residual.ofProblem (problem : List Term) : Residual :=
  let pre := freshPrefix ((Term.constantsAll problem).map (·.1))
  let (apart, formulas) := setApartAll pre [] problem
  let base : Residual := { formulas := formulas,
                           apart := apart.filterMap fun (t, c) => (const? c).map (t, ·) }
  let consts := dedup (Term.constantsAll formulas)
  let normal := (formulas.map (Equations.substitute [])).flatMap split
  if !plainSorts (consts.map (·.2)) || (!consts.isEmpty && consts.all (·.2 == .bool)) ||
      (!consts.isEmpty && consts.all (·.2.isBitVec)) then base
  else if hasBinderAll formulas then { base with formulas := normal }
  else
    let (kept, defs) := Equations.solve normal
    let kept := kept.flatMap split
    let solved := defs.map fun ((n, s), d) => Rebuild.define n s d
    if consts.all (fun c => c.2 == .real || c.2 == .bool) then
      { base with formulas := kept, steps := solved }
    else
      let (left, fresh, steps) := eliminateAll pre (base.apart.map (·.2)) kept
      { base with formulas := left, fresh := fresh, steps := solved ++ steps }

/-- The model of a problem from a model of its residual: the residual's
own constants in table order, then its fresh ones in the order they were
made, rebuilt. The constants set apart give the values of the
applications they stand for. -/
def Residual.model (r : Residual) (m : Model) : Model :=
  let isApart := fun (b : Binding) => r.apart.any (·.2 == (b.name, b.sort))
  let isFresh := fun (b : Binding) => r.fresh.contains (b.name, b.sort)
  let own := { m with bindings := m.bindings.filter (!isFresh ·) }.inTableOrder
  let fresh := r.fresh.filterMap fun (n, s) => m.bindings.find? fun b => b.name == n && b.sort == s
  let m := { own with bindings := own.bindings ++ fresh }.rebuild r.steps
  { m with bindings := m.bindings.filter (!isApart ·),
           unspecified := r.apart.filterMap fun (t, (n, s)) => (m.value? n s).map (t, ·) }

/-- Check a problem once: search its residual and rebuild the model. A
rebuilt model that makes a formula of the problem false would betray a
simplification that lost a solution; the problem is then searched as it
is. -/
def checkResidual (settings : Settings) (formulas : List Term) : Outcome :=
  let r := Residual.ofProblem formulas
  let o := check settings [] r.formulas []
  if o.verdict == .sat && settings.flag "model" true then
    let m := r.model o.model
    if formulas.any (fun f => asBool? (m.eval f) == some false) then
      let o := check settings [] formulas []
      { o with model := o.model.inTableOrder }
    else { o with model := m }
  else o

end SmtBackend.Solver
