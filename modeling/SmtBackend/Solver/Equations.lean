import SmtBackend.Solver.Unconstrained

/-!
# Solving equations

A formula that says what a constant is can be dropped once the constant
is replaced by what the formula says. A constant asserted is true and a
negated one false; an equality with a constant side defines that constant
by the other side, if the constant does not occur there; an arithmetic
equality with a sum on one side defines a summand that is a constant, or a
constant times minus one, or for reals a constant times any nonzero
number, by the other side minus the rest of the sum.

The formulas are taken in order. Each is first rewritten with the
definitions found so far; if it then defines a constant not yet defined,
the definition is recorded, put into the earlier definitions, and the
formula dropped. The formulas kept are rewritten with all definitions.
Rewriting puts terms, definitions included, in normal form.
-/

namespace SmtBackend.Solver.Equations

open SmtBackend.Eval Unconstrained

/-- A term with defined constants replaced by their definitions, in
normal form. -/
def substitute (defs : List (Const × Term)) (t : Term) : Term :=
  ({ value? := fun n s => defs.lookup (n, s), complete := false, normalize := true } : Env).eval t

/-- The definition an equality gives a constant side. -/
def plain (a b : Term) : List (Const × Term) :=
  match const? a with
  | some c => if (Term.constants b).contains c then [] else [(c, b)]
  | none => []

/-- The definitions an arithmetic equality `sum = other` gives the
constants among the summands. -/
def linear (sum other : Term) : List (Const × Term) :=
  match sum with
  | .app .add args =>
    let s := sum.sort
    let rest := fun (i : Nat) => (args.eraseIdx i).foldl (fun acc a => Term.app .sub [acc, a]) other
    (List.range args.length).filterMap fun i =>
      let others := args.eraseIdx i
      let fresh := fun (c : Const) => !(Term.constants other).contains c &&
        !(Term.constantsAll others).contains c
      match args.getD i other with
      | .app (.const n cs) [] =>
        if fresh (n, cs) then some ((n, cs), rest i) else none
      | .app .mul [k, .app (.const n cs) []] =>
        match Normal.numeral? k with
        | some q =>
          if !fresh (n, cs) || q == 0 then none
          else if q == -1 then some ((n, cs), .app .neg [rest i])
          else if s == .real then some ((n, cs), .app .div [rest i, k])
          else none
        | none => none
      | _ => none
  | _ => []

/-- The definitions a formula gives, in the order they are tried. -/
def candidates (f : Term) : List (Const × Term) :=
  match f with
  | .app (.const n s) [] => [((n, s), Term.ofBool true)]
  | .app .not [.app (.const n s) []] => [((n, s), Term.ofBool false)]
  | .app .eq [a, b] =>
    plain a b ++ plain b a ++ (if a.sort.isArith then linear a b ++ linear b a else [])
  | _ => []

/-- Solve formulas: the formulas kept and the definitions, in the order
they were found, each over constants left undefined. -/
def solve (formulas : List Term) : List Term × List (Const × Term) :=
  let (kept, defs) := formulas.foldl (fun (acc : List Term × List (Const × Term)) f =>
    let f := substitute acc.2 f
    match (candidates f).find? (fun (c, _) => !(acc.2.any (·.1 == c))) with
    | some (c, d) =>
      let d := substitute [] d
      (acc.1, acc.2.map (fun (e, t) => (e, substitute [(c, d)] t)) ++ [(c, d)])
    | none => (acc.1 ++ [f], acc.2)) ([], [])
  (kept.map (substitute defs), defs)

end SmtBackend.Solver.Equations
