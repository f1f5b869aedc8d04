import SmtBackend.Solver.Universe
import SmtBackend.Solver.Param
import SmtBackend.Solver.Forcing
import SmtBackend.Solver.BitSearch

/-!
# Satisfiability checks

A check decides whether formulas, under assumptions, have a model. The
search assigns the free constants one at a time, the Boolean ones last and
each group in order of first occurrence; the first constant of a linear
equation between numbers comes after the others and first tries the value
the equation forces. Each constant tries the candidates of its sort in
turn: `false` before `true`; small numbers, the problem's numbers, their
neighbours and the integers between close ones, and for reals zero first,
then comparison bounds and the points half a unit beside them; the
problem's strings, decimal forms, overlaps and strings of its small
lengths; every vector of a narrow bit-vector sort. An assignment under
which a formula is already `false` is abandoned, and the first that makes
every formula `true` is the model.

Otherwise the check answers `unsat`, with as core a minimal subset of the
assumptions, found by dropping assumptions the last first while the rest
stays unsatisfiable, an assumption that another strictly implies first.
-/

namespace SmtBackend.Solver

open SmtBackend.Eval

/-- The answer of a check. -/
inductive Verdict where
  | sat | unsat | unknown
  deriving DecidableEq, Repr

/-- The word for a verdict. -/
def Verdict.text : Verdict → String
  | .sat => "sat" | .unsat => "unsat" | .unknown => "unknown"

/-- What a check finds: its verdict, the model of a satisfiable check and
the core of an unsatisfiable one. -/
structure Outcome where
  verdict : Verdict
  model : Model := {}
  core : List Term := []
  deriving Repr

/-! ## Constants and literals of a problem -/

/-- A list without repeated elements, first occurrences kept. -/
def dedup {α : Type} [BEq α] (xs : List α) : List α :=
  xs.foldl (fun acc x => if acc.contains x then acc else acc ++ [x]) []

/-- The widest bit-vector sort whose vectors are all tried. -/
def enumerableWidth : Nat := 8

/-- The widest range of integers between the numbers of a problem whose
every element is tried. -/
def enumerableRange : Nat := 32

/-- The integers from the least to the greatest of some numbers, when they
are at most `enumerableRange` apart. -/
def between (own : List Int) : List Int :=
  match own.min?, own.max? with
  | some lo, some hi =>
    if hi - lo ≤ (enumerableRange : Int) then
      (List.range (hi - lo).toNat.succ).map fun (i : Nat) => lo + (i : Int)
    else []
  | _, _ => []

/-- The longest string candidate filled up with letters. -/
def longestPadding : Nat := 8

/-! ## Bit patterns -/

/-- The order in which a solver that decides the bits of a pattern one at a
time, each `false` first, the lowest bit first and then the others from
the highest down, meets the patterns: those with the lowest bit clear
first, each group in increasing order. -/
def bitKeyLE (a b : Nat) : Bool := a % 2 < b % 2 || (a % 2 == b % 2 && a ≤ b)

/-- Every pattern of a width in the order of `bitKeyLE`: the even ones,
then the odd ones. -/
def allPatterns (w : Nat) : List Nat :=
  let all := List.range (Nat.pow 2 w)
  all.filter (· % 2 == 0) ++ all.filter (· % 2 == 1)

/-- Patterns of a width together with those one and two steps either side
of each, in the order of `bitKeyLE`. The least pattern past a bound that
one of them marks is among these, whatever the parity of the bound. -/
def patternsNear (w : Nat) (ps : List Nat) : List Nat :=
  let m := Nat.pow 2 w
  (dedup (ps.flatMap fun p => [p, p + 1, p + 2, p + m - 1, p + m - 2].map (· % m))).mergeSort bitKeyLE

/-- Values of a bit-vector or floating-point sort, with their neighbours,
in the order of `bitKeyLE` on their bit patterns; a narrow bit-vector
sort takes all its vectors in that order. Other values keep their order. -/
def bitOrder : SmtSort → List Term → List Term
  | .bitVec w, values =>
    if w ≤ enumerableWidth then (allPatterns w).map (Term.ofBits w)
    else (patternsNear w (values.filterMap fun t => (asBits? t).map (·.2))).map (Term.ofBits w)
  | .float e s, values =>
    let f : Float.Format := ⟨e, s⟩
    let ps := values.filterMap fun t => (asFloat? t).map fun (_, v) => Float.toBits f v
    dedup ((patternsNear (e + s) ps).map fun p => ofFloat f (Float.ofBits f p))
  | _, values => values

/-- The shortest string that starts with `a` and ends with `b`, overlapping
them as far as they allow. -/
def overlap (a b : List Nat) : List Nat :=
  match (List.range (a.length + 1)).find? fun k => Strings.isPrefix (a.drop k) b with
  | some k => a.take k ++ b
  | none => a ++ b

/-- The numeral a term is a constant times, when it is one: one for the
constant itself. -/
def scale? : Term → Option Rat
  | .app (.const ..) [] => some 1
  | .app .mul [k, .app (.const ..) []] => (Normal.numeral? k).bind fun c => if c == 0 then none else some c
  | _ => none

/-- The number a comparison between a constant, times a numeral, and a
numeral puts a bound at. -/
def boundOf? (lhs rhs : Term) : Option Rat :=
  match scale? lhs, Normal.numeral? rhs, scale? rhs, Normal.numeral? lhs with
  | some c, some k, _, _ => some (k / c)
  | _, _, some c, some k => some (k / c)
  | _, _, _, _ => none

mutual
/-- The bounds the comparisons of a term put on single constants, in
reading order. -/
def boundsIn : Term → List Rat
  | .app f args =>
    let own := match f, args with
      | .le, [a, b] | .ge, [a, b] | .lt, [a, b] | .gt, [a, b] | .eq, [a, b] => (boundOf? a b).toList
      | _, _ => []
    own ++ boundsInAll args
  | .bind _ _ body => boundsIn body
  | .var .. => []
/-- `boundsIn` over a list of terms, in order. -/
def boundsInAll : List Term → List Rat
  | [] => []
  | t :: ts => boundsIn t ++ boundsInAll ts
end

mutual
/-- The string constants whose length a term takes. -/
def measuredIn : Term → List (String × SmtSort)
  | .app .strLen [.app (.const n .string) []] => [(n, .string)]
  | .app _ args => measuredInAll args
  | .bind _ _ body => measuredIn body
  | .var .. => []
/-- `measuredIn` over a list of terms. -/
def measuredInAll : List Term → List (String × SmtSort)
  | [] => []
  | t :: ts => measuredIn t ++ measuredInAll ts
end

/-- Candidate values of a sort for a problem with the given literals, in
the order they are tried. -/
def candidates (start : Nat) (lits : List Term) (bounds : List Rat) (size : Nat) : SmtSort → List Term
  | .bool => [Term.ofBool false, Term.ofBool true]
  | .int =>
    let own := lits.filterMap asInt?
    dedup ((([0, 1, -1, 2, -2] ++ between own ++ own ++ own.map (· + 1) ++ own.map (· - 1))).map Term.ofInt)
  | .real =>
    let own := lits.filterMap asRat?
    let ints := lits.filterMap asInt?
    dedup (([0] ++ bounds ++ bounds.map (· + 1 / 2) ++ bounds.map (· - 1 / 2) ++ [1, -1, 2, -2] ++
      own ++ ints.map (fun i => ((i : Int) : Rat)) ++ own.map (· + 1) ++ own.map (· - 1)).map Term.ofRat)
  | .string =>
    let own := lits.filterMap asCodes?
    let digits := (lits.filterMap asInt?).filter (0 ≤ ·) |>.map Strings.fromInt
    let merged := own.flatMap fun a => (own.filter (· != a)).map (overlap a)
    let lengths := dedup ((lits.filterMap asInt?).flatMap fun i => [i, i + 1]) |>.filterMap fun i =>
      if 0 < i && i ≤ (longestPadding : Int) then some i.toNat else none
    let padded := lengths.flatMap fun n =>
      ([] :: own).filterMap fun a => if a.length < n then some (a ++ letters start (n - a.length)) else none
    dedup (Term.ofString "" :: (own.map Term.ofCodes) ++ [Term.ofCodes [start]] ++
      ((digits ++ merged ++ padded).map Term.ofCodes))
  | .roundingMode =>
    [.towardZero, .nearestEven, .nearestAway, .towardPositive, .towardNegative].map
      (fun m => .app (.rmLit m) [])
  | .bitVec w =>
    bitOrder (.bitVec w) (Term.ofBits w 0 :: lits.filter fun t => (asBits? t).any (·.1 == w))
  | .float e s =>
    bitOrder (.float e s) ([FloatValue.zero false, .zero true, .nan, .infinity false, .infinity true].map
      (fun v => .app (.fpLit e s v) []) ++
      lits.filter (fun t => match t with | .app (.fpLit e' s' _) [] => e' == e && s' == s | _ => false))
  | .array d r =>
    let values := candidates start lits bounds size r
    values.map (fun v => .app (.constArray (.array d r)) [v]) ++
      (match d with
       | [dom] => (candidates start lits bounds size dom).flatMap (fun i => values.map (fun v =>
          .app .store [.app (.constArray (.array d r)) [defaultValue r], i, v]))
       | _ => [])
  | .named n => (List.range (max size 1)).map (fun i => .app (.element n i) [])

/-- Whether every value of a sort is among its candidates. -/
def enumerable : SmtSort → Bool
  | .bool | .roundingMode => true
  | .bitVec w => w ≤ enumerableWidth
  | _ => false

/-! ## Search -/

/-- The evaluation environment of a partial assignment. -/
def partialEnv (bindings : List Binding) (inst : SmtSort → List Term) : Env :=
  { value? := fun n s => (bindings.find? fun b => b.name == n && b.sort == s).map (·.value),
    complete := false, instances := inst }

/-- Whether no formula is already false under a partial assignment. -/
def consistent (formulas : List Term) (bindings : List Binding)
    (inst : SmtSort → List Term) : Bool :=
  formulas.all fun f => asBool? ((partialEnv bindings inst).eval f) != some false

/-- Whether every formula is true under an assignment. -/
def satisfies (formulas : List Term) (bindings : List Binding)
    (inst : SmtSort → List Term) : Bool :=
  formulas.all fun f => asBool? ((partialEnv bindings inst).eval f) == some true

/-- Candidate values of a constant under the assignment so far. -/
abbrev Chooser := List Binding → String × SmtSort → List Term

/-- The candidates of the first pending constant. -/
def firstCandidates (cands : Chooser) (bindings : List Binding) :
    List (String × SmtSort) → List Term
  | [] => []
  | c :: _ => cands bindings c

/-- Search the assignments of the pending constants that extend the given
bindings, the first pending constant taking one of `values`; `budget`
bounds the number of values tried. Binders range over the values `inst`
gives each sort. The result is the model found, if any, and the budget
left. -/
def explore (formulas : List Term) (inst : SmtSort → List Term) (cands : Chooser) :
    List (String × SmtSort) → List Term → List Binding → Nat → Option (List Binding) × Nat
  | [], _, bindings, budget =>
    (if satisfies formulas bindings inst then some bindings else none, budget)
  | _ :: _, [], _, b => (none, b)
  | _ :: _, _ :: _, _, 0 => (none, 0)
  | (n, s) :: rest, v :: vs, bindings, b + 1 =>
    let bindings' := bindings ++ [⟨n, s, v⟩]
    let (found, b') :=
      if consistent formulas bindings' inst then
        explore formulas inst cands rest (firstCandidates cands bindings' rest) bindings' b
      else (none, b)
    match found with
    | some m => (some m, b')
    | none => explore formulas inst cands ((n, s) :: rest) vs bindings b'
termination_by pending values => (pending.length, values.length)

/-- The number of assignments a check may try. -/
def searchBudget : Nat := 20000

/-- The largest integer whose divisors are candidates. -/
def largestDivided : Nat := 10000

/-- Candidates with the empty string moved last. -/
def nonemptyFirst (values : List Term) : List Term :=
  values.filter (· != Term.ofString "") ++ values.filter (· == Term.ofString "")

/-- Values of each kind of a floating-point format, with both signs: the
least and the greatest subnormal number, the least normal number, one and
the greatest finite number. -/
def floatLandmarks (f : Float.Format) : List Term :=
  let top := Nat.pow 2 f.fraction - 1
  let fields := [(0, 1), (0, top), (1, 0), (f.bias.toNat, 0), (Nat.pow 2 f.exponent - 2, top)]
  [false, true].flatMap fun negative =>
    fields.map fun (be, m) => ofFloat f (.finite negative be m)

/-- The positive divisors of an integer up to `largestDivided`, with
their negations. -/
def divisors (n : Int) : List Int :=
  if n == 0 || n.natAbs > largestDivided then []
  else
    let ds := ((List.range (n.natAbs + 1)).filter fun d => d != 0 && n.natAbs % d == 0).map
      fun (d : Nat) => (d : Int)
    ds ++ ds.map (- ·)

/-- The numeric constants of a term, in order of first occurrence. -/
def numericConstants (t : Term) : List (String × SmtSort) :=
  dedup ((Term.constants t).filter fun c => c.2 == .int || c.2 == .real)

mutual
/-- Whether a numeric term is linear in its constants: sums, differences,
negations and products in which at most one factor has constants. -/
def isLinear : Term → Bool
  | .app (.const ..) [] => true
  | .app .add args | .app .sub args => allLinear args
  | .app .neg [a] | .app .toReal [a] => isLinear a
  | .app .mul args => allLinear args && (args.filter fun a => !(Term.constants a).isEmpty).length ≤ 1
  | .app _ [] => true
  | _ => false
/-- `isLinear` for every term of a list. -/
def allLinear : List Term → Bool
  | [] => true
  | t :: ts => isLinear t && allLinear ts
end

/-- The constant that a linear equation or disequality between numbers
with several constants solves for: its first constant. The others take
values first, the way a simplex tableau makes the first variable of a row
basic and adjusts the others; a disequality moves it below the others
first. -/
def leaderOf? : Term → Option (String × SmtSort)
  | .app .eq [l, r] | .app .not [.app .eq [l, r]] | .app .distinct [l, r] =>
    if !(isLinear l && isLinear r) then none
    else match numericConstants (.app .eq [l, r]) with
      | c :: _ :: _ => some c
      | _ => none
  | _ => none

/-- What a search ends with: a model, no model after every candidate
assignment was tried, or no model when the budget ran out first. -/
inductive Search where
  | model (bindings : List Binding)
  | exhausted
  | gaveUp

/-- The end of a search from what `explore` returns. -/
def Search.ofExplored : Option (List Binding) × Nat → Search
  | (some bs, _) => .model bs
  | (none, 0) => .gaveUp
  | (none, _ + 1) => .exhausted

/-- Whether a search tried every candidate assignment and none was a
model. -/
def Search.refutes : Search → Bool
  | .exhausted => true
  | _ => false

/-- The integer constant of a nonlinear equation that has no other
constant: the nonlinear solver branches on it, below zero first, so its
roots are tried before the fixed candidates. -/
def rootOf? : Term → Option (String × SmtSort)
  | .app .eq [l, r] =>
    if isLinear l && isLinear r then none
    else match numericConstants (.app .eq [l, r]) with
      | [c] => if c.2 == .int && (Term.constants (.app .eq [l, r])).all (· == c) then some c else none
      | _ => none
  | _ => none

/-- A model of formulas found by the search, if any, each constant trying
first the value `prior` gives it: an incremental solver keeps the values
of its last model while they still fit. With `bitLevel`, a problem whose
constants are all bit-vectors is first searched bit by bit (see
`BitSearch`), each bit first taking its value in `prior`. A string constant
whose length the formulas take is tried nonempty first, and a
floating-point constant first takes the values the formulas force on it. When the fixed
candidates find none, the search runs again, with the arrays last, trying
first the values that the formulas force on each constant, then the fixed
candidates, then the divisors of the problem's integers and values of each
kind of floating-point number. -/
def findModelNear (bitLevel : Bool) (prior : List Binding) (formulas : List Term) : Search :=
  let consts := dedup (Term.constantsAll formulas)
  let lits := dedup (literalsInAll formulas)
  let inst := candidates (firstLetter formulas) lits (dedup (boundsInAll formulas)) consts.length
  let measured := measuredInAll formulas
  let fixed := fun (c : String × SmtSort) =>
    if measured.contains c then nonemptyFirst (inst c.2) else inst c.2
  let leaders := dedup (formulas.filterMap leaderOf?)
  let rooted := dedup (formulas.filterMap rootOf?)
  let order := consts.filter (fun c => c.2 != .bool && !leaders.contains c) ++
    consts.filter leaders.contains ++ consts.filter (·.2 == .bool)
  let search := fun (order : List (String × SmtSort)) (cands : Chooser) =>
    Search.ofExplored (explore formulas inst cands order (firstCandidates cands [] order) [] searchBudget)
  let forced := fun (bindings : List Binding) c =>
    forcedValues (partialEnv bindings inst) (bindings.map fun b => (b.name, b.sort)) c formulas
  let kept := fun (c : String × SmtSort) =>
    ((prior.find? fun b => b.name == c.1 && b.sort == c.2).map (·.value)).toList
  let phase := fun (pos : Nat × Nat) => match consts[pos.1]? with
    | some c => (kept c).any fun v => (asBits? v).any fun (_, n) => n / Nat.pow 2 pos.2 % 2 == 1
    | none => false
  let bind := fun (vs : List Term) => List.zipWith (fun (c : String × SmtSort) v => Binding.mk c.1 c.2 v) consts vs
  let joint := if bitLevel && !consts.isEmpty && consts.all (·.2.isBitVec) then
      BitSearch.firstVectors consts formulas phase fun vs => satisfies formulas (bind vs) inst
    else none
  match joint with
  | some vs => .model (bind vs)
  | none =>
  match search order fun bindings c =>
      dedup (kept c ++ if c.2.isFloat || leaders.contains c || rooted.contains c then
        bitOrder c.2 (forced bindings c ++ fixed c) else fixed c) with
  | .model m => .model m
  | _ =>
    let extra := (lits.filterMap asInt?).flatMap divisors |>.map Term.ofInt
    let arraysLast := order.filter (!·.2.isArray) ++ order.filter (·.2.isArray)
    search arraysLast fun bindings c =>
      dedup (kept c ++ bitOrder c.2 (forced bindings c ++ fixed c ++ match c.2 with
        | .int => extra
        | .float e sig => floatLandmarks ⟨e, sig⟩
        | _ => []))

/-- A model of formulas found by the search, if any. -/
def findModel (formulas : List Term) : Search := findModelNear false [] formulas

/-- Drop assumptions one at a time while the rest stays unsatisfiable
together with the formulas: each of `rest` in turn is dropped or kept. An
assumption is kept when the search for a model without it gives up. -/
def shrink (formulas : List Term) : List Term → List Term → List Term
  | kept, [] => kept
  | kept, a :: rest =>
    if (findModel (formulas ++ kept ++ rest)).refutes then shrink formulas kept rest
    else shrink formulas (kept ++ [a]) rest

/-- Whether one formula implies another: their conjunction with the
negation of the second has no model. -/
def entails (a b : Term) : Bool := (findModel [a, .app .not [b]]).refutes

/-- Whether an assumption is strictly weaker than another of the list. -/
def weaker (assumptions : List Term) (b : Term) : Bool :=
  assumptions.any fun a => a != b && entails a b && !entails b a

/-- A minimal unsatisfiable subset of the assumptions, together with the
formulas, listed in the order of the assumptions. Assumptions strictly
weaker than another are left out when the rest stays unsatisfiable; then
the last assumptions are dropped first, so that the core keeps the
earliest ones it can. -/
def minimalCore (formulas assumptions : List Term) : List Term :=
  let strong := assumptions.filter (!weaker assumptions ·)
  let base := if (findModel (formulas ++ strong)).refutes then strong else assumptions
  let kept := shrink formulas [] base.reverse
  base.filter kept.contains

/-- The resource limits below this bound run out on any problem that has
a formula to check; zero is no limit. -/
def scarceResources : Nat := 1000

/-- Whether the resource limit runs out before a check of the given
formulas ends. -/
def exhausts (settings : Settings) (formulas : List Term) : Bool :=
  !formulas.isEmpty && (settings.word? "rlimit").any fun r => 0 < r && r < scarceResources

/-- Check formulas under assumptions. Without model generation a
satisfiable check has the empty model. -/
def check (settings : Settings) (prior : List Binding) (formulas assumptions : List Term) : Outcome :=
  match universeModel? (formulas ++ assumptions) with
    | some m => { verdict := .sat, model := if settings.flag "model" true then m else {} }
    | none =>
      match findModelNear true prior (formulas ++ assumptions) with
      | .model bs =>
        { verdict := .sat,
          model := if settings.flag "model" true then ({ bindings := bs } : Model).withUniverses else {} }
      | _ => { verdict := .unsat, core := minimalCore formulas assumptions }

end SmtBackend.Solver
