import SmtBackend.Solver.Check

/-!
# Unconstrained constants

A constant that occurs once in a problem can take whatever value the term
around it asks for, so that term is as free as the constant: it is
replaced by a fresh constant, and the constant it frees is defined in
terms of the fresh one. A sum `x + t` becomes a fresh `u` with
`x := u - t`; a bound `x ≤ t` becomes a fresh Boolean `u` with
`x := ite u t (t + 1)`; an equality `x = t` becomes `u` with
`x := ite u t d` for a term `d` that differs from `t`. A fresh constant is
unconstrained as soon as it is made, so the replacement climbs the term.

Occurrences are counted over the distinct subterms of the problem: a
constant inside a subterm that occurs twice occurs once. The rewriting
goes through the formulas once, in order, each bottom up; occurrences are
counted before it starts.

Each fresh constant is hidden again when a model is rebuilt; its hiding
step comes right before the definitions it brings, so that rebuilding,
which takes the steps last first, first defines and then hides.
-/

namespace SmtBackend.Solver.Unconstrained

open SmtBackend.Eval

/-- A constant: its name and sort. -/
abbrev Const := String × SmtSort

/-- The constant a term is, if it is one. -/
def const? : Term → Option Const
  | .app (.const n s) [] => some (n, s)
  | _ => none

mutual
/-- The applications with arguments in a term, outside binders, each
after its arguments. -/
def apps : Term → List Term
  | .app f (a :: as) => appsAll (a :: as) ++ [.app f (a :: as)]
  | _ => []
/-- `apps` over a list of terms, in order. -/
def appsAll : List Term → List Term
  | [] => []
  | t :: ts => apps t ++ appsAll ts
end

/-- The constants that occur once among the distinct subterms of formulas:
once for each argument place of a distinct application, and once for each
distinct formula that is the constant. -/
def unconstrained (formulas : List Term) : List Const :=
  let places := (dedup (appsAll formulas)).flatMap (fun t => match t with
    | .app _ args => args.filterMap const?
    | _ => []) ++ (dedup formulas).filterMap const?
  (dedup places).filter fun c => places.count c == 1

/-- The state of the rewriting. -/
structure State where
  /-- The prefix of the names of fresh constants. -/
  pre : String
  /-- The constants that are unconstrained. -/
  free : List Const := []
  /-- The terms replaced so far, each with its fresh constant, in the order
  they were made. -/
  fresh : List (Term × Term) := []
  /-- The steps that rebuild a model, in the order they were found. -/
  steps : List Rebuild := []

/-- Whether a term is an unconstrained constant. -/
def State.isFree (st : State) (t : Term) : Bool := (const? t).any st.free.contains

/-- Replace a term by a fresh constant and define constants in terms of
it. A term replaced before keeps its constant and defines nothing again. -/
def State.replace (st : State) (t : Term) (defs : Term → List (Term × Term)) : State × Term :=
  match st.fresh.find? (·.1 == t) with
  | some (_, u) => (st, u)
  | none =>
    let name := st.pre ++ toString st.fresh.length
    let s := t.sort
    let u := Term.const name s
    let found := (defs u).filterMap fun (v, d) => (const? v).map fun (n, vs) => Rebuild.define n vs d
    ({ st with free := st.free ++ [(name, s)], fresh := st.fresh ++ [(t, u)],
               steps := st.steps ++ [.hide name s] ++ found }, u)

/-! ## Rules -/

/-- The sum of terms of a sort: the term itself for one. -/
def sumOf (s : SmtSort) : List Term → Term
  | [t] => t
  | ts => .app (Normal.addFn s) ts

/-- The difference of two terms of a sort. -/
def minus (s : SmtSort) (a b : Term) : Term :=
  .app (if s.isBitVec then .bvBinary .sub else .sub) [a, b]

/-- A term of a sort that differs from the given one, for the sorts where
one is easy to build: the negation, the successor, the complement, and
for arrays the array with one element changed. -/
def differ : SmtSort → Term → Option Term
  | .bool, t => some (.app .not [t])
  | .int, t => some (.app .add [t, Term.ofInt 1])
  | .real, t => some (.app .add [t, Term.ofRat 1])
  | .bitVec _, t => some (.app .bvNot [t])
  | .array d r, t =>
    let idx := d.map defaultValue
    (differ r (.app .select (t :: idx))).map fun e => .app .store (t :: idx ++ [e])
  | _, _ => none

/-- The inverse of an odd number modulo two to a width: each step of
`x ↦ x (2 - c x)` doubles the number of correct low bits, and `c` is its
own inverse modulo eight. -/
def oddInverse (c w : Nat) : Nat :=
  let m := Nat.pow 2 w
  (List.range w).foldl (fun x _ => x * (2 + m - c * x % m) % m) (c % m)

/-- A positive number as an odd number times a power of two, at most
`fuel` halvings: the odd number and the exponent. -/
def oddPart (n fuel : Nat) : Nat × Nat :=
  match fuel with
  | 0 => (n, 0)
  | fuel + 1 =>
    if n % 2 == 0 && n > 0 then
      let (odd, k) := oddPart (n / 2) fuel
      (odd, k + 1)
    else (n, 0)

/-- A sum with an unconstrained summand `x`: `x := u - rest`. -/
def sum (st : State) (t : Term) (args : List Term) : Option (State × Term) :=
  (args.findIdx? st.isFree).map fun i =>
    let rest := args.eraseIdx i
    let s := t.sort
    st.replace t fun u => [(args.getD i t, if rest.isEmpty then u else minus s u (sumOf s rest))]

/-- A product: with every factor unconstrained, the first is `u` and the
others one; a real numeral times an unconstrained `x` gives `x := u / c`.
A bit-vector numeral `2^k c`, `c` odd, times an unconstrained `x` is `u`
shifted left by `k`, with `x := u / c`. -/
def product (st : State) (t : Term) (args : List Term) : Option (State × Term) :=
  let s := t.sort
  let one := Normal.numeral s 1
  match args with
  | a :: rest =>
    if args.all st.isFree then some (st.replace t fun u => (a, u) :: rest.map (·, one))
    else match rest, Normal.numeral? a with
      | [x], some c =>
        if !st.isFree x || c == 0 then none
        else match s with
          | .real => some (st.replace t fun u => [(x, .app .mul [Term.ofRat c⁻¹, u])])
          | .bitVec w =>
            let (odd, shift) := oddPart c.num.toNat w
            let (st, u) := st.replace t fun u =>
              [(x, .app (.bvBinary .mul) [Term.ofBits w (oddInverse odd w), u])]
            some (st, if shift == 0 then u
              else .app .concat [.app (.extract (w - shift - 1) 0) [u], Term.ofBits shift 0])
          | _ => none
      | _, _ => none
  | [] => none

/-- A bound `x ≤ t` (or `t ≤ x`, read as `x ≥ t`) with `x` unconstrained:
`x := ite u t (t ± 1)`. -/
def bound (st : State) (t a b : Term) (le : Bool) : Option (State × Term) :=
  let pick := if st.isFree a then some (a, b, le) else if st.isFree b then some (b, a, !le) else none
  pick.map fun (v, r, le) =>
    st.replace t fun u =>
      [(v, .app .ite [u, r, .app .add [r, Normal.numeral r.sort (if le then 1 else -1)]])]

/-- A bit-vector bound `x ≤ t` with `x` unconstrained becomes `u ∨ t = max`
with `x := ite (u ∨ t = max) t (t + 1)`; `t ≤ x` likewise with the least
vector and `t - 1`. -/
def bvBound (st : State) (t : Term) (signed : Bool) (a b : Term) : Option (State × Term) :=
  let w := a.sort.width
  let top := if signed then Nat.pow 2 (w - 1) - 1 else Nat.pow 2 w - 1
  let bottom := if signed then Nat.pow 2 (w - 1) else 0
  let rule := fun (v r : Term) (edge : Nat) (step : BvBinary) =>
    let cond := fun (u : Term) => Term.app .or [u, .app .eq [r, Term.ofBits w edge]]
    let (st, u) := st.replace t fun u =>
      [(v, .app .ite [cond u, r, .app (.bvBinary step) [r, Term.ofBits w 1]])]
    (st, cond u)
  if st.isFree a then some (rule a b top .add)
  else if st.isFree b then some (rule b a bottom .sub)
  else none

/-- An equality with an unconstrained side `x`: `x := ite u t d` for a
term `d` that differs from the other side `t`. -/
def equality (st : State) (t a b : Term) : Option (State × Term) :=
  let pick := if st.isFree a then some (a, b) else if st.isFree b then some (b, a) else none
  pick.bind fun (v, r) => (differ a.sort r).map fun d => st.replace t fun u => [(v, .app .ite [u, r, d])]

/-- The pieces of a concatenation of unconstrained vectors, last first:
each is the slice of `u` it covers. -/
def slices (args : List Term) (u : Term) : List (Term × Term) :=
  (args.reverse.foldl (fun (acc : List (Term × Term) × Nat) a =>
    let w := a.sort.width
    (acc.1 ++ [(a, .app (.extract (acc.2 + w - 1) acc.2) [u])], acc.2 + w)) ([], 0)).1

/-- Replace an application whose arguments, already rewritten, leave it
unconstrained; `none` when no rule applies. -/
def eliminate (st : State) (f : Fn) (args : List Term) : Option (State × Term) :=
  let t := Term.app f args
  let free := st.isFree
  match f, args with
  | .ite, [c, a, b] =>
    if free a && free b then some (st.replace t fun u => [(a, u), (b, u)])
    else if free c && free a then some (st.replace t fun u => [(c, Term.ofBool true), (a, u)])
    else if free c && free b then some (st.replace t fun u => [(c, Term.ofBool false), (b, u)])
    else none
  | .not, [a] => if free a then some (st.replace t fun u => [(a, .app .not [u])]) else none
  | .and, a :: rest =>
    if args.all free then some (st.replace t fun u => (a, u) :: rest.map (·, Term.ofBool true)) else none
  | .or, a :: rest =>
    if args.all free then some (st.replace t fun u => (a, u) :: rest.map (·, Term.ofBool false)) else none
  | .eq, [a, b] => equality st t a b
  | .add, _ :: _ => sum st t args
  | .bvBinary .add, _ :: _ => sum st t args
  | .mul, _ => product st t args
  | .bvBinary .mul, _ => product st t args
  | .le, [a, b] => bound st t a b true
  | .ge, [a, b] => bound st t a b false
  | .bvCompare .ule, [a, b] => bvBound st t false a b
  | .bvCompare .sle, [a, b] => bvBound st t true a b
  | .bvNot, [a] => if free a then some (st.replace t fun u => [(a, .app .bvNot [u])]) else none
  | .extract h l, [a] =>
    if !free a then none
    else
      let w := a.sort.width
      some (st.replace t fun u =>
        [(a, if w == h - l + 1 then u
             else .app .concat ((if h + 1 < w then [Term.ofBits (w - h - 1) 0] else []) ++ [u] ++
               (if l > 0 then [Term.ofBits l 0] else [])))])
  | .concat, _ :: _ => if args.all free then some (st.replace t (slices args)) else none
  | .bvBinary .udiv, [a, b] | .bvBinary .sdiv, [a, b] =>
    if free a && free b then some (st.replace t fun u => [(a, u), (b, Term.ofBits b.sort.width 1)])
    else none
  | .bvBinary .shl, [a, b] | .bvBinary .lshr, [a, b] =>
    if free a && free b then some (st.replace t fun u => [(a, u), (b, Term.ofBits b.sort.width 0)])
    else none
  | .strConcat, a :: rest =>
    if args.all free then some (st.replace t fun u => (a, u) :: rest.map (·, Term.ofString ""))
    else none
  | .select, a :: _ :: _ =>
    if free a then some (st.replace t fun u => [(a, .app (.constArray a.sort) [u])]) else none
  | .store, a :: rest@(_ :: _ :: _) =>
    match rest.getLast? with
    | some v =>
      if free a && free v then
        some (st.replace t fun u => [(v, .app .select (a :: rest.dropLast)), (a, u)])
      else none
    | none => none
  | _, _ => none

/-! ## Rewriting -/

mutual
/-- Rewrite a term bottom up, replacing what the rules replace. -/
def rewrite (st : State) : Term → State × Term
  | .app f (a :: as) =>
    let (st, args) := rewriteAll st (a :: as)
    (eliminate st f args).getD (st, .app f args)
  | t => (st, t)
/-- `rewrite` over a list of terms, in order. -/
def rewriteAll (st : State) : List Term → State × List Term
  | [] => (st, [])
  | t :: ts =>
    let (st, t) := rewrite st t
    let (st, ts) := rewriteAll st ts
    (st, t :: ts)
end

/-- What elimination leaves of formulas: the formulas, the fresh constants
in the order they were made, and the steps that rebuild a model. Fresh
names start with `pre`; the constants of `fixed` are never eliminated.
Occurrences are counted once, before the pass: a constant that the pass
itself leaves with one occurrence stays. -/
def eliminateAll (pre : String) (fixed : List Const) (formulas : List Term) :
    List Term × List Const × List Rebuild :=
  let free := (unconstrained formulas).filter (!fixed.contains ·)
  let (st, fs) := rewriteAll { pre := pre, free := free } formulas
  (fs, st.fresh.filterMap (const? ·.2), st.steps)

end SmtBackend.Solver.Unconstrained
