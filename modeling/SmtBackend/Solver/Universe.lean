import SmtBackend.Solver.Model

/-!
# Models over uninterpreted sorts

A problem whose free constants are of uninterpreted sorts, or are arrays
between such sorts that are only read, gets the model in which terms are
equal only where the asserted equalities force it. The two sides of an
equality asserted at the top level share a class, and so do two reads of
one array at indices of the same classes; each class is one element of its
sort, numbered in the order classes are first met (formulas in order,
arguments before the term).

An array maps the element of each index it is read at to the element read,
and elsewhere holds the value its reads give most often (the first to reach
that count); an array never read holds the first element of its range. The
model lists its constants by first occurrence, and a sort's universe lists
the elements first met as a read before the others. When this model makes
some formula false, the general search takes over.
-/

namespace SmtBackend.Solver

open SmtBackend.Eval

/-- The name of an uninterpreted sort. -/
def sortName? : SmtSort → Option String
  | .named n => some n
  | _ => none

/-- Whether a sort is an array from uninterpreted sorts to one. -/
def isNamedArray : SmtSort → Bool
  | .array d r => !d.isEmpty && d.all SmtSort.isNamed && r.isNamed
  | _ => false

mutual
/-- Collect the terms of uninterpreted sorts of a formula, arguments
before the term, each once, after those collected so far; `none` when the
formula leaves the fragment: Boolean connectives, equalities and
distinctness over constants of uninterpreted sorts and reads of array
constants. -/
def collect (acc : List Term) : Term → Option (List Term)
  | .app (.const n s) [] =>
    if s.isNamed then
      let t := Term.const n s
      some (if acc.contains t then acc else acc ++ [t])
    else if isNamedArray s then some acc
    else none
  | .app .select (arr@(.app (.const _ s) []) :: idx) =>
    if isNamedArray s then
      (collectAll acc idx).map fun acc =>
        let t := Term.app .select (arr :: idx)
        if acc.contains t then acc else acc ++ [t]
    else none
  | .app (.boolLit _) [] => some acc
  | .app .not args | .app .and args | .app .or args | .app .implies args | .app .xor args
  | .app .eq args | .app .distinct args => collectAll acc args
  | _ => none
/-- `collect` over a list of terms, in order. -/
def collectAll (acc : List Term) : List Term → Option (List Term)
  | [] => some acc
  | t :: ts => (collect acc t).bind fun acc => collectAll acc ts
end

/-- The conjuncts of a formula at the top level. -/
def conjuncts : Term → List Term
  | .app .and args => args.attach.flatMap fun ⟨a, _⟩ => conjuncts a
  | t => [t]

/-- Classes of terms: each position of the term list holds the position of
the first member of its class. -/
abbrev Classes := Array Nat

/-- Put the classes of two positions together; the class keeps the first
member of the two. -/
def Classes.join (cls : Classes) (i j : Nat) : Classes :=
  let a := cls.getD i i
  let b := cls.getD j j
  let keep := min a b
  let drop := max a b
  cls.map fun c => if c == drop then keep else c

/-- The position of a term in the term list. -/
def positionOf (terms : Array Term) (t : Term) : Option Nat := terms.findIdx? (· == t)

/-- Join the two sides of each equality asserted at the top level. -/
def joinAsserted (terms : Array Term) (formulas : List Term) (cls : Classes) : Classes :=
  (formulas.flatMap conjuncts).foldl (fun cls f =>
    match f with
    | .app .eq [s, t] =>
      match positionOf terms s, positionOf terms t with
      | some i, some j => cls.join i j
      | _, _ => cls
    | _ => cls) cls

/-- Whether two terms are reads of one array at indices of the same
classes, but not yet of one class. -/
def congruent (terms : Array Term) (cls : Classes) (i j : Nat) : Bool :=
  cls.getD i i != cls.getD j j &&
  match terms.getD i default, terms.getD j default with
  | .app .select (a :: xs), .app .select (b :: ys) =>
    a == b && xs.length == ys.length &&
      (xs.zip ys).all fun (x, y) =>
        match positionOf terms x, positionOf terms y with
        | some p, some q => cls.getD p p == cls.getD q q
        | _, _ => x == y
  | _, _ => false

/-- Join congruent reads until none are left, at most `fuel` rounds. -/
def closeUnderReads (terms : Array Term) : Nat → Classes → Classes
  | 0, cls => cls
  | fuel + 1, cls =>
    let pairs := (List.range terms.size).flatMap fun i =>
      ((List.range terms.size).filter (i < ·)).map fun j => (i, j)
    match pairs.find? fun (i, j) => congruent terms cls i j with
    | some (i, j) => closeUnderReads terms fuel (cls.join i j)
    | none => cls

/-- The element of the class at a position: its class's rank among the
classes of the same sort, by first member. -/
def elementAt (terms : Array Term) (cls : Classes) (i : Nat) : Term :=
  let rep := cls.getD i i
  let s := (terms.getD rep default).sort
  let name := (sortName? s).getD ""
  let earlier := ((List.range rep).filter fun k =>
    cls.getD k k == k && (terms.getD k default).sort == s).length
  .app (.element name earlier) []

/-- The value a list of results gives most often; of values given equally
often, the first to reach that count. -/
def mostFrequent (results : List Term) : Option Term :=
  (results.foldl (fun (st : List (Term × Nat) × Option (Term × Nat)) r =>
    let (counts, best) := st
    let n := ((counts.lookup r).getD 0) + 1
    let counts := (r, n) :: counts.filter (·.1 != r)
    (counts, match best with
      | some (_, m) => if n > m then some (r, n) else best
      | none => some (r, n))) ([], none)).2.map (·.1)

/-- The value of an array constant: its reads in the order met, as stores
over a constant array of the value they give most often. -/
def arrayValue (terms : Array Term) (cls : Classes) (name : String) (s : SmtSort) :
    Option Term :=
  let reads := (List.range terms.size).filterMap fun i =>
    match terms.getD i default with
    | .app .select (.app (.const n s') [] :: idx) =>
      if n == name && s' == s then
        some (idx.map fun x => ((positionOf terms x).map (elementAt terms cls)).getD x,
              elementAt terms cls i)
      else none
    | _ => none
  let entries := reads.foldl (fun acc (k, v) =>
    if acc.any (·.1 == k) then acc else acc ++ [(k, v)]) []
  let range := match s with
    | .array _ r => r
    | _ => s
  let firstOfRange := (List.range terms.size).findSome? fun i =>
    if (terms.getD i default).sort == range then some (elementAt terms cls i) else none
  let fallback := (mostFrequent (entries.map (·.2))).orElse fun _ => firstOfRange
  fallback.map fun dflt =>
    (entries.filter (·.2 != dflt)).foldl (fun acc (k, v) => .app .store (acc :: k ++ [v]))
      (.app (.constArray s) [dflt])

/-- Free constants in the order of their first occurrence. -/
def byFirstOccurrence (consts : List (String × SmtSort)) : List (String × SmtSort) :=
  consts.foldl (fun acc c => if acc.contains c then acc else acc ++ [c]) []

/-- The universe of each uninterpreted sort: first the elements of
classes first met as a read, then the others, each in element order. -/
def universes (terms : Array Term) (cls : Classes) : List (String × List Nat) :=
  let reps := (List.range terms.size).filter fun k => cls.getD k k == k
  let sorts := reps.foldl (fun acc k =>
    match sortName? (terms.getD k default).sort with
    | some n => if acc.contains n then acc else acc ++ [n]
    | none => acc) []
  sorts.map fun n =>
    let mine := reps.filter fun k => sortName? (terms.getD k default).sort == some n
    let number := fun k => match elementAt terms cls k with
      | .app (.element _ e) [] => e
      | _ => 0
    let isRead := fun k => match terms.getD k default with
      | .app .select _ => true
      | _ => false
    (n, (mine.filter isRead ++ mine.filter (!isRead ·)).map number)

/-- The model of distinct classes for formulas of the fragment, if it makes
every formula true. -/
def universeModel? (formulas : List Term) : Option Model := do
  let terms := (← collectAll [] formulas).toArray
  if terms.isEmpty then none
  let cls := joinAsserted terms formulas ((List.range terms.size).toArray)
  let cls := closeUnderReads terms (terms.size + 1) cls
  let consts := byFirstOccurrence (Term.constantsAll formulas)
  let bindings ← consts.mapM fun (n, s) =>
    if s.isNamed then
      (positionOf terms (Term.const n s)).map fun i => ⟨n, s, elementAt terms cls i⟩
    else (arrayValue terms cls n s).map fun v => ({ name := n, sort := s, value := v } : Binding)
  let m : Model := { bindings := bindings, universes := universes terms cls }
  if formulas.all fun f => asBool? (m.eval f) == some true then some m else none

end SmtBackend.Solver
