import SmtBackend.Eval.Reduce

/-!
# Forced values

Once every other constant of a formula has a value, the formula may leave
its last constant few values worth trying, and a search that tries those
first finds models that the fixed candidates of a sort miss. An equation
with a value on one side forces the other side. An affine equation or
comparison between numbers gives its root and the values beside it, and an
integer constant is otherwise searched for a change of sign by doubling and
halving. Bit-vector equations are solved bit by bit from the lowest. Strings
are put together from the lengths, characters, substrings and affixes that
formulas fix, their other characters letters from `A`. A floating-point
value is tried with its two neighbours, and an array holds the first element
an equation fixes, the others stored over it.
-/

namespace SmtBackend.Solver

open SmtBackend.Eval

/-- The pair that `a < b` orders, unless a side is the empty string or
both are values. -/
def ordering (a b : Term) : List (Term × Term) :=
  if asCodes? a == some [] || asCodes? b == some [] || (isValue a && isValue b) then []
  else [(a, b)]

mutual
/-- The string orderings in a term that evaluation leaves standing, as the
pairs they order: `a ≤ b` stands for `b < a` negated, and an ordering with
the empty string on a side is an equation or false, not an ordering. -/
def orderingsIn : Term → List (Term × Term)
  | .app .strLt [a, b] => ordering a b ++ orderingsInAll [a, b]
  | .app .strLe [a, b] => ordering b a ++ orderingsInAll [a, b]
  | .app _ args => orderingsInAll args
  | .bind _ _ body => orderingsIn body
  | .var .. => []
/-- `orderingsIn` over a list of terms. -/
def orderingsInAll : List Term → List (Term × Term)
  | [] => []
  | t :: ts => orderingsIn t ++ orderingsInAll ts
end

/-- The first letter a string of free characters takes: `A`, after the
two witness characters that each string ordering of the formulas keeps
(the characters where the two strings first differ), which take the first
letters. -/
def firstLetter (formulas : List Term) : Nat :=
  65 + 2 * (orderingsInAll formulas).eraseDups.length

/-- The code points of `n` distinct capital letters from `start` on, the
way a string of free characters is filled: the first `n` letters in order,
the last two of them swapped. -/
def letters (start n : Nat) : List Nat :=
  let first := (List.range n).map (· + start)
  first.take (n - 2) ++ (first.drop (n - 2)).reverse

namespace Forcing

/-- A constant: its name and sort. -/
abbrev Const := String × SmtSort

/-- The longest string of letters tried for a length. -/
def longestString : Nat := 1000

/-- An environment that also gives a constant a value. -/
def assign (env : Env) (c : Const) (v : Term) : Env :=
  { env with value? := fun n s => if n == c.1 && s == c.2 then some v else env.value? n s }

/-- The number of an integer or real literal. -/
def number? (t : Term) : Option Rat :=
  match asInt? t with
  | some i => some (i : Rat)
  | none => asRat? t

/-- The difference of two numeric terms when the constant takes an integer
value. -/
def gap (env : Env) (c : Const) (l r : Term) (k : Int) : Option Rat :=
  let e := assign env c (if c.2 == .int then Term.ofInt k else Term.ofRat (k : Rat))
  match number? (e.eval l), number? (e.eval r) with
  | some a, some b => some (a - b)
  | _, _ => none

/-- The root of a difference that takes the values `d0`, `d1` and `d2` at
0, 1 and 2, when these lie on a line that is not flat. -/
def affineRoot (d0 d1 d2 : Rat) : Option Rat :=
  if d1 - d0 != 0 && d2 - d1 == d1 - d0 then some (-d0 / (d1 - d0)) else none

/-- The root of the difference of two numeric terms in the constant. -/
def numericRoot? (env : Env) (c : Const) (l r : Term) : Option Rat :=
  match gap env c l r 0, gap env c l r 1, gap env c l r 2 with
  | some d0, some d1, some d2 => affineRoot d0 d1 d2
  | _, _, _ => none

/-- The farthest power of two probed for a sign change. -/
def farthestProbe : Nat := 62

/-- Narrow a pair of integers `lo < hi` on which `negative` differs down to
neighbours on which it still differs. -/
def bisect (negative : Int → Option Bool) : Nat → Int → Int → Int × Int
  | 0, lo, hi => (lo, hi)
  | fuel + 1, lo, hi =>
    if hi - lo ≤ 1 then (lo, hi)
    else
      let mid := (lo + hi) / 2
      if negative mid == negative lo then bisect negative fuel mid hi else bisect negative fuel lo mid

/-- Neighbouring integers, on the side of zero that `dir` points to, where
the difference changes sign, found by doubling from zero and then halving. -/
def crossing (d : Int → Option Rat) (dir : Int) : Option (Int × Int) :=
  let negative := fun k => (d k).map fun (q : Rat) => decide (q < 0)
  let points := (List.range (farthestProbe + 1)).map fun j => dir * (Nat.pow 2 j : Nat)
  match points.findIdx? (fun p => negative p != negative 0 && (negative p).isSome) with
  | some j =>
    let far := dir * (Nat.pow 2 j : Nat)
    let near := if j == 0 then 0 else dir * (Nat.pow 2 (j - 1) : Nat)
    some (bisect negative (farthestProbe + 1) (min near far) (max near far))
  | none => none

/-- The integers worth trying for an integer constant when the difference
is not affine: the neighbours where it changes sign, below zero first;
for an equation only those where it vanishes. -/
def integerCrossings (env : Env) (c : Const) (exact : Bool) (l r : Term) : List Term :=
  let d := gap env c l r
  let pairs := [crossing d (-1), crossing d 1].filterMap id
  let near := if exact then pairs.flatMap (fun (lo, hi) => [lo, hi]) |>.filter (d · == some 0)
    else pairs.flatMap fun (lo, hi) => [lo, hi, lo - 1, hi + 1]
  ((if d 0 == some 0 then [0] else []) ++ near).map Term.ofInt

/-- How many integers beyond a bound are tried, on either side. -/
def scanWidth : Nat := 32

/-- The values of a sort that a root makes worth trying: the root itself
for an equation, which an integer constant takes only when it is whole;
for a comparison the values next to the root, on both sides, and for an
integer constant the next `scanWidth` integers away from it on each side,
for the other formulas to choose among. -/
def nearRoot (s : SmtSort) (exact : Bool) (q : Rat) : List Term :=
  if s == .int then
    if exact then (if q.floor == q.ceil then [Term.ofInt q.floor] else [])
    else
      let steps := (List.range scanWidth).map fun (i : Nat) => (i : Int) + 2
      ([q.floor, q.ceil, q.floor - 1, q.ceil + 1] ++ steps.map (q.ceil + ·) ++
        steps.map (q.floor - ·)).map Term.ofInt
  else if exact then [Term.ofRat q]
  else [q, q - 1, q + 1].map Term.ofRat

/-- The numbers worth trying for a numeric constant in an equation or a
comparison: near the root when the difference is affine, and otherwise,
for an integer constant, where the difference changes sign. -/
def numericValues (env : Env) (c : Const) (exact : Bool) (l r : Term) : List Term :=
  match numericRoot? env c l r with
  | some q => nearRoot c.2 exact q
  | none => if c.2 == .int then integerCrossings env c exact l r else []

/-- The difference of two bit-vector terms of width `w` when the constant
takes the value `k`. -/
def bitsGap (env : Env) (c : Const) (w : Nat) (l r : Term) (k : Nat) : Option Nat :=
  let e := assign env c (Term.ofBits w k)
  let m := Nat.pow 2 w
  match asBits? (e.eval l), asBits? (e.eval r) with
  | some (_, a), some (_, b) => some ((a + m - b % m) % m)
  | _, _ => none

/-- The most partial roots kept at each bit. -/
def widestLift : Nat := 32

/-- The roots of the difference of two bit-vector terms of width `w`, found
bit by bit from the lowest: a root modulo `2 ^ (k + 1)` extends one modulo
`2 ^ k` by the bit `k`, which suits differences whose low bits depend only
on the low bits of the constant, as sums, products and bitwise operations
do. At most `widestLift` partial roots are kept at each bit, and only exact
roots are returned, least first. -/
def bitsRoots (env : Env) (c : Const) (w : Nat) (l r : Term) : List Nat :=
  let lift := fun (roots : List Nat) (k : Nat) =>
    let m := Nat.pow 2 (k + 1)
    (roots.flatMap fun x => [x, x + Nat.pow 2 k]).filter (fun x =>
      (bitsGap env c w l r x).any (· % m == 0)) |>.take widestLift
  let roots := (List.range w).foldl lift [0]
  (roots.filter fun x => bitsGap env c w l r x == some 0).mergeSort (· ≤ ·)

/-- The string a string constant must be for `l = r`: letters for a length
that `r` fixes, or what a concatenation of values around the constant
leaves over of the value of `r`. -/
def stringOf (start : Nat) (env : Env) (c : Const) (l r : Term) : List Term :=
  let x := Term.const c.1 c.2
  match l with
  | .app .strLen [y] =>
    if y != x then []
    else match asInt? (env.eval r) with
      | some n => if 0 ≤ n && n ≤ (longestString : Int) then [Term.ofCodes (letters start n.toNat)] else []
      | none => []
  | .app .strConcat parts =>
    match asCodes? (env.eval r), parts.findIdx? (· == x) with
    | some target, some i =>
      match (parts.take i).mapM (fun p => asCodes? (env.eval p)),
            (parts.drop (i + 1)).mapM (fun p => asCodes? (env.eval p)) with
      | some before, some after =>
        let pre := before.flatten
        let suf := after.flatten
        let n := target.length
        if pre.length + suf.length ≤ n && target.take pre.length == pre &&
            target.drop (n - suf.length) == suf then
          [Term.ofCodes ((target.drop pre.length).take (n - pre.length - suf.length))]
        else []
      | _, _ => []
    | _, _ => []
  | _ => []

/-- What a formula tells of a string constant. -/
inductive Fact where
  /-- The string has this length. -/
  | length (n : Nat)
  /-- The string holds this text from this position on. -/
  | piece (pos : Nat) (text : List Nat)
  /-- The string ends with this text. -/
  | suffix (text : List Nat)
  /-- The string contains this text. -/
  | inside (text : List Nat)

/-- A natural number that a term evaluates to. -/
def natOf? (env : Env) (t : Term) : Option Nat :=
  (asInt? (env.eval t)).bind fun i => if 0 ≤ i then some i.toNat else none

/-- What `l = r` tells of the string constant, with `l` the side that
applies a string operation to it. -/
def equationFacts (env : Env) (x l r : Term) : List Fact :=
  let text := asCodes? (env.eval r)
  match l with
  | .app .strLen [y] => if y == x then ((natOf? env r).map Fact.length).toList else []
  | .app .strAt [y, i] =>
    match natOf? env i, text with
    | some i, some [ch] => if y == x then [.piece i [ch]] else []
    | _, _ => []
  | .app .strSubstr [y, i, n] =>
    match natOf? env i, natOf? env n, text with
    | some i, some n, some t =>
      if y != x || t.isEmpty then []
      else if t.length == n then [.piece i t] else [.piece i t, .length (i + t.length)]
    | _, _, _ => []
  | .app .strIndexof [y, v, k] =>
    match asCodes? (env.eval v), natOf? env k, natOf? env r with
    | some v, some k, some i => if y == x && k ≤ i then [.piece i v] else []
    | _, _, _ => []
  | _ => []

/-- What a formula, whose only unknown is the string constant, tells of
it. -/
def stringFacts (env : Env) (c : Const) (f : Term) : List Fact :=
  let x := Term.const c.1 c.2
  let codes := fun t => asCodes? (env.eval t)
  match f with
  | .app .eq [l, r] => equationFacts env x l r ++ equationFacts env x r l
  | .app .strPrefixof [v, y] => if y == x then ((codes v).map (Fact.piece 0)).toList else []
  | .app .strSuffixof [v, y] => if y == x then ((codes v).map Fact.suffix).toList else []
  | .app .strContains [y, v] => if y == x then ((codes v).map Fact.inside).toList else []
  | _ => []

/-- Holes padded to a length. -/
def padTo (slots : List (Option Nat)) (n : Nat) : List (Option Nat) :=
  slots ++ List.replicate (n - slots.length) none

/-- Put a text into holes from a position on. -/
def place (slots : List (Option Nat)) (pos : Nat) (text : List Nat) : List (Option Nat) :=
  (padTo slots (pos + text.length)).mapIdx fun i o =>
    if pos ≤ i && i < pos + text.length then some (text.getD (i - pos) 0) else o

/-- Whether a text fits the holes from a position on. -/
def fits (slots : List (Option Nat)) (pos : Nat) (text : List Nat) : Bool :=
  (List.range text.length).all fun i =>
    match slots.getD (pos + i) none with
    | some ch => ch == text.getD i 0
    | none => true

/-- The first position from which a text fits the holes. -/
def firstFit (slots : List (Option Nat)) (text : List Nat) : Nat :=
  ((List.range (slots.length + 1)).find? fun p => fits slots p text).getD slots.length

/-- Apply one fact to the holes of a string. -/
def Fact.apply (slots : List (Option Nat)) : Fact → List (Option Nat)
  | .length n => padTo slots n
  | .piece pos text => place slots pos text
  | .suffix text =>
    let pos := slots.length - text.length
    place slots (if fits slots pos text then pos else slots.length) text
  | .inside text => place slots (firstFit slots text) text

/-- The string that the facts describe: lengths first, then the pieces,
the suffixes and the contained texts in order, the holes filled with
letters. -/
def ofFacts (start : Nat) (facts : List Fact) : List Term :=
  if facts.isEmpty then []
  else
    let lengths := facts.filter fun | .length _ => true | _ => false
    let others := facts.filter fun | .length _ => false | _ => true
    let slots := (lengths ++ others).foldl Fact.apply []
    let fill := letters start (slots.filter Option.isNone).length
    let (codes, _) := slots.foldl (fun (acc, rest) o => match o with
      | some ch => (acc ++ [ch], rest)
      | none => (acc ++ rest.take 1, rest.drop 1)) (([] : List Nat), fill)
    [Term.ofCodes codes]

/-- The value of a term when it evaluates to one. -/
def valueOf (env : Env) (t : Term) : List Term :=
  let v := env.eval t
  if isValue v then [v] else []

/-- The values that `l = r` forces on the constant. -/
def ofEquation (start : Nat) (env : Env) (c : Const) (l r : Term) : List Term :=
  let x := Term.const c.1 c.2
  let direct := if l == x then valueOf env r else if r == x then valueOf env l else []
  direct ++ match c.2 with
    | .real => numericValues env c true l r
    | .bitVec w => (bitsRoots env c w l r).map (Term.ofBits w)
    | .string => stringOf start env c l r ++ stringOf start env c r l
    | .int =>
      let fromDigits := fun (a b : Term) => match a with
        | .app .strFromInt [y] =>
          if y != x then []
          else match asCodes? (env.eval b) with
            | some t => if Strings.toInt t < 0 then [] else [Term.ofInt (Strings.toInt t)]
            | none => []
        | _ => []
      numericValues env c true l r ++ fromDigits l r ++ fromDigits r l
    | _ => []

/-- The bits of a floating-point value that is not NaN, without its sign:
the biased exponent, then the trailing significand. -/
def magnitude (f : Float.Format) : FloatValue → Option Nat
  | .zero _ => some 0
  | .finite _ be m => some (be * Nat.pow 2 f.fraction + m)
  | .infinity _ => some ((Nat.pow 2 f.exponent - 1) * Nat.pow 2 f.fraction)
  | .nan => none

/-- The value itself and its two neighbours, one step up and one step down
in magnitude; a zero has the least subnormal numbers of both signs. -/
def floatNear (f : Float.Format) (x : FloatValue) : List FloatValue :=
  match magnitude f x with
  | some k =>
    let width := f.exponent + f.fraction
    let sign := if Float.isNegative x then Nat.pow 2 width else 0
    let below := if k == 0 then [Float.ofBits f (Nat.pow 2 width - sign + 1)] else [Float.ofBits f (sign + k - 1)]
    let above := if k + 1 < Nat.pow 2 width then [Float.ofBits f (sign + k + 1)] else []
    x :: above ++ below
  | none => [x]

/-- The values that a floating-point comparison with a value on one side
makes worth trying: that value and its neighbours. -/
def ofFloatComparison (env : Env) (c : Const) (l r : Term) : List Term :=
  match c.2 with
  | .float e sig =>
    let x := Term.const c.1 c.2
    let other := if l == x then r else if r == x then l else x
    match asFloat? (env.eval other) with
    | some (_, v) => (floatNear ⟨e, sig⟩ v).map (ofFloat ⟨e, sig⟩)
    | none => []
  | _ => []

/-- The values worth trying that a formula, whose only unknown is the
constant, puts forward. -/
def ofFormula (start : Nat) (env : Env) (c : Const) : Term → List Term
  | .app (.fpCompare _) [l, r] | .app .not [.app (.fpCompare _) [l, r]] => ofFloatComparison env c l r
  | .app .eq [l, r] => ofEquation start env c l r
  | .app .not [.app .eq [l, r]] | .app .distinct [l, r] =>
    if c.2 == .int || c.2 == .real then numericValues env c false l r else []
  | .app .le [l, r] | .app .lt [l, r] | .app .ge [l, r] | .app .gt [l, r]
  | .app .not [.app .le [l, r]] | .app .not [.app .lt [l, r]]
  | .app .not [.app .ge [l, r]] | .app .not [.app .gt [l, r]] =>
    if c.2 == .int || c.2 == .real then numericValues env c false l r else []
  | _ => []

/-- The conjuncts of a formula. -/
def conjuncts : Term → List Term
  | .app .and fs => fs
  | f => [f]

/-- The point `(indices, value)` that a formula `select c indices = value`
fixes of an array constant. -/
def pointOf (env : Env) (c : Const) (f : Term) : Option (List Term × Term) :=
  let x := Term.const c.1 c.2
  let point := fun (sel v : Term) => match sel with
    | .app .select (a :: idx) =>
      if a == x then
        let idx := idx.map env.eval
        let v := env.eval v
        if idx.all isValue && isValue v then some (idx, v) else none
      else none
    | _ => none
  match f with
  | .app .eq [l, r] => (point l r).orElse fun _ => point r l
  | _ => none

/-- The array that holds the points: the value of the first everywhere,
and the others stored over it in order. -/
def ofPoints (s : SmtSort) : List (List Term × Term) → List Term
  | [] => []
  | (_, v) :: rest =>
    [rest.foldl (fun a (i, w) => Term.app .store (a :: i ++ [w])) (Term.app (.constArray s) [v])]

end Forcing

/-- The values that formulas force on a constant, under an environment
that gives values to the other constants: each conjunct whose only
unknown is the constant puts its values forward, in the order of the
formulas. -/
def forcedValues (env : Env) (known : List (String × SmtSort)) (c : String × SmtSort)
    (formulas : List Term) : List Term :=
  let own := (formulas.flatMap Forcing.conjuncts).filter fun f =>
    let unknown := (Term.constants f).filter (!known.contains ·)
    !unknown.isEmpty && unknown.all (· == c)
  let table := if c.2.isArray then Forcing.ofPoints c.2 (own.filterMap (Forcing.pointOf env c)) else []
  let start := firstLetter formulas
  let template := if c.2 == .string then Forcing.ofFacts start (own.flatMap (Forcing.stringFacts env c)) else []
  own.flatMap (Forcing.ofFormula start env c) ++ table.map env.eval ++ template

end SmtBackend.Solver
