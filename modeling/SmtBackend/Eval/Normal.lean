import SmtBackend.Eval.Value
import SmtBackend.Term.Bound

/-!
# Normal forms of open terms

Evaluation reduces an application to a value when its arguments are values.
Where an argument stays open, as a bound variable in a quantifier or lambda
body does, the application is put in the normal form of the solver's
simplifier, the form in which models print such terms:

* sums are flat with their numeral in front and like monomials merged,
  differences and negations are products by `-1`, and bit-vector sums and
  products follow the same rules modulo two to the width;
* `<` and `>` are negated `<=`, and comparisons of numbers cancel common
  monomials, dividing integer sides by the common factor;
* Boolean connectives are flat without neutral or repeated arguments, and
  bit-vector comparisons are `bvule` and `bvsle`.

Nested quantifiers of one kind merge, a variable defined by an equality is
replaced by its definition, unused variables are dropped, and a lambda that
does not use its variables is a constant array.
-/

namespace SmtBackend.Eval.Normal

/-! ## Numbers -/

/-- The number of an integer, real or bit-vector literal. -/
def numeral? : Term → Option Rat
  | .app (.intLit v) [] => some v
  | .app (.realLit v) [] => some v
  | .app (.bvLit _ v) [] => some (v : Int)
  | _ => none

/-- Whether a term is a numeral. -/
def isNumeral (t : Term) : Bool := (numeral? t).isSome

/-- A coefficient as the sort keeps it: modulo two to the width for
bit-vectors. -/
def reduce (s : SmtSort) (q : Rat) : Rat :=
  match s with
  | .bitVec w => ((q.floor % (Nat.pow 2 w : Int) : Int) : Rat)
  | _ => q

/-- The literal of a number in a sort. -/
def numeral (s : SmtSort) (q : Rat) : Term :=
  match s with
  | .int => Term.ofInt q.floor
  | .bitVec w => Term.ofBits w (q.floor % (Nat.pow 2 w : Int)).toNat
  | _ => Term.ofRat q

/-- The sum symbol of a sort. -/
def addFn (s : SmtSort) : Fn := if s.isBitVec then .bvBinary .add else .add

/-- The product symbol of a sort. -/
def mulFn (s : SmtSort) : Fn := if s.isBitVec then .bvBinary .mul else .mul

/-- Whether a term is a sum of its sort. -/
def isSum (s : SmtSort) : Term → Bool
  | .app f _ => f == addFn s
  | _ => false

/-- Whether a term is a product of its sort. -/
def isProduct (s : SmtSort) : Term → Bool
  | .app f _ => f == mulFn s
  | _ => false

/-- The summands of a term: the arguments of a sum, or the term. -/
def summands (s : SmtSort) (t : Term) : List Term :=
  match t with
  | .app f args => if f == addFn s then args else [t]
  | _ => [t]

/-- A monomial as its coefficient and power product: a product whose first
factor is a numeral is that numeral times the product of the others; any
other term is itself once. -/
def monomial (s : SmtSort) (t : Term) : Rat × Term :=
  match t with
  | .app f (c :: x :: rest) =>
    match numeral? c with
    | some a => if f == mulFn s then (a, if rest.isEmpty then x else .app f (x :: rest)) else (1, t)
    | none => (1, t)
  | _ => (1, t)

/-- The power product of a monomial. -/
def powerProduct (s : SmtSort) (t : Term) : Term := (monomial s t).2

/-- The sum of a list of terms: zero, the one term, or their sum. -/
def sumOf (s : SmtSort) : List Term → Term
  | [] => numeral s 0
  | [t] => t
  | ts => .app (addFn s) ts

/-- A numeral times a term, with no further simplification than dropping
a factor one and keeping a zero. -/
def scaled (s : SmtSort) (c : Rat) (t : Term) : Term :=
  if c == 1 || numeral? t == some 0 then t else .app (mulFn s) [numeral s c, t]

/-- The total of the coefficients of the monomials of a list over a power
product. -/
def coefficient (s : SmtSort) (ts : List Term) (p : Term) : Rat :=
  (ts.filterMap fun t => let (a, q) := monomial s t; if q == p then some a else none).foldl
    (· + ·) 0

/-! ## Order of factors -/

/-- The name a symbol is ordered by: the name of a constant, nothing for
the others. -/
def symbolKey : Fn → String
  | .const n _ => n
  | _ => ""

mutual
/-- The order of terms that sorts the factors of a product: applications
before variables before binders; applications by the name of their symbol,
then by their number of arguments, then by their arguments; variables by
index. -/
def order : Term → Term → Ordering
  | .app f xs, .app g ys =>
    match compare (symbolKey f) (symbolKey g) with
    | .eq =>
      match compare xs.length ys.length with
      | .eq => orderAll xs ys
      | o => o
    | o => o
  | .app .., _ => .lt
  | .var i _, .var j _ => compare i j
  | .var .., .app .. => .gt
  | .var .., .bind .. => .lt
  | .bind _ _ b, .bind _ _ c => order b c
  | .bind .., _ => .gt
/-- `order` lifted to lists, lexicographically. -/
def orderAll : List Term → List Term → Ordering
  | [], [] => .eq
  | [], _ :: _ => .lt
  | _ :: _, [] => .gt
  | x :: xs, y :: ys =>
    match order x y with
    | .eq => orderAll xs ys
    | o => o
end

/-- Whether no term of a list comes before the one preceding it. -/
def isOrdered : List Term → Bool
  | x :: y :: rest => order y x != .lt && isOrdered (y :: rest)
  | _ => true

/-! ## Sums and products -/

/-- The normal form of a sum of terms in normal form. When no power
product repeats, a sum with no numeral, or with one nonzero numeral in
front, keeps its (flattened) arguments. -/
def add (s : SmtSort) (args : List Term) : Term :=
  let flat := args.flatMap (summands s)
  let c := reduce s ((flat.filterMap numeral?).foldl (· + ·) 0)
  let numerals := (flat.filter isNumeral).length
  let others := flat.filter (!isNumeral ·)
  let pps := others.map (powerProduct s)
  let repeated := fun p => (pps.filter (· == p)).length > 1
  let lead := if c == 0 then [] else [numeral s c]
  if pps.any repeated then
    let kept := (others.foldl (fun (acc : List Term × List Term) t =>
      let p := powerProduct s t
      if !repeated p then (acc.1 ++ [t], acc.2)
      else if acc.2.contains p then acc
      else
        let a := reduce s (coefficient s others p)
        (if a == 0 then acc.1 else acc.1 ++ [scaled s a p], acc.2 ++ [p])) ([], [])).1
    sumOf s (lead ++ kept)
  else if numerals == 0 || (numerals == 1 && (flat.head?.bind numeral?).any (· != 0)) then
    sumOf s flat
  else sumOf s (lead ++ others)

/-- The factors of a product, nested products flattened. -/
def factors (s : SmtSort) : Term → List Term
  | .app f args =>
    if f == mulFn s then args.attach.flatMap fun ⟨a, _⟩ => factors s a else [.app f args]
  | t => [t]

/-- The normal form of a flat product of terms in normal form. A numeral
factor other than one is distributed over a sum when `distribute` holds;
each summand is then multiplied without distributing further. -/
def mulFlat (distribute : Bool) (s : SmtSort) (args : List Term) : Term :=
  let c := reduce s ((args.filterMap numeral?).foldl (· * ·) 1)
  let others := args.filter (!isNumeral ·)
  let keep := Term.app (mulFn s) args
  match others with
  | [] => numeral s c
  | [v] =>
    if c == 0 then numeral s 0
    else if c == 1 then v
    else match v with
      | .app f (d :: rest) =>
        if f == mulFn s then
          match numeral? d, rest with
          | some a, [y] =>
            let c := reduce s (c * a)
            if c == 0 then numeral s 0 else scaled s c y
          | _, _ => keep
        else if f == addFn s && distribute then
          add s ((d :: rest).map fun t =>
            if isProduct s t || isNumeral t then
              let fs := numeral s c :: factors s t
              let c' := reduce s ((fs.filterMap numeral?).foldl (· * ·) 1)
              match fs.filter (!isNumeral ·) with
              | [] => numeral s c'
              | [y] => if c' == 0 then numeral s 0 else scaled s c' y
              | ys => if c' == 0 then numeral s 0 else scaled s c' (.app (mulFn s) ys)
            else scaled s c t)
        else if args.length == 2 && args.getLast? == some v then keep
        else .app (mulFn s) [numeral s c, v]
      | _ =>
        if args.length == 2 && args.getLast? == some v then keep
        else .app (mulFn s) [numeral s c, v]
  | _ =>
    if c == 0 then numeral s 0
    else
      let ordered := isOrdered others
      if ordered && others.length == args.length then keep
      else
        let sorted := if ordered then others
          else others.mergeSort fun a b => order a b != .gt
        scaled s c (.app (mulFn s) sorted)

/-- The normal form of a product of terms in normal form. A product of a
numeral and a term that is not a product, or a monomial, is not
flattened. -/
def mul (s : SmtSort) (args : List Term) : Term :=
  let flatten := match args with
    | [c, x] => !isNumeral c || (match x with
        | .app f (d :: _) => f == mulFn s && isNumeral d
        | _ => false)
    | _ => true
  match args with
  | [c, x] =>
    match numeral? c with
    | some a =>
      if !isProduct s x && !isSum s x then
        if a == 0 then c
        else if a == 1 then x
        else match numeral? x with
          | some b => numeral s (reduce s (a * b))
          | none => .app (mulFn s) args
      else mulFlat true s (if flatten then args.flatMap (factors s) else args)
    | none => mulFlat true s (args.flatMap (factors s))
  | _ => mulFlat true s (if flatten then args.flatMap (factors s) else args)

/-- The normal form of a negation. -/
def neg (s : SmtSort) (t : Term) : Term :=
  match numeral? t with
  | some a => numeral s (reduce s (-a))
  | none => mul s [numeral s (reduce s (-1)), t]

/-- The normal form of a difference: the first term plus the others times
`-1`, zeros dropped. -/
def sub (s : SmtSort) : List Term → Term
  | [] => numeral s 0
  | [t] => t
  | t :: rest =>
    add s (t :: (rest.filter (numeral? · != some 0)).map fun u =>
      mul s [numeral s (reduce s (-1)), u])

/-! ## Booleans -/

/-- The normal form of a negation. -/
def not_ : Term → Term
  | .app (.boolLit b) [] => Term.ofBool !b
  | .app .not [x] => x
  | t => .app .not [t]

/-- Whether two formulas are a formula and its negation. -/
def complementary (a b : Term) : Bool := a == .app .not [b] || b == .app .not [a]

/-- The arguments of a connective without repeats, or the absorbing value
when an argument is that value or two arguments are complementary. -/
def junction (absorbing : Bool) (args : List Term) : Option (List Term) :=
  args.foldl (fun acc a =>
    acc.bind fun kept =>
      if a == Term.ofBool absorbing then none
      else if a == Term.ofBool !absorbing || kept.contains a then some kept
      else if kept.any (complementary a) then none
      else some (kept ++ [a])) (some [])

/-- The normal form of a conjunction. -/
def andOf (args : List Term) : Term :=
  let flat := args.flatMap fun a => match a with
    | .app .and xs => xs
    | _ => [a]
  match junction false flat with
  | none => Term.ofBool false
  | some [] => Term.ofBool true
  | some [a] => a
  | some xs => .app .and xs

/-- The normal form of a disjunction. -/
def orOf (args : List Term) : Term :=
  let flat := args.flatMap fun a => match a with
    | .app .or xs => xs
    | _ => [a]
  match junction true flat with
  | none => Term.ofBool true
  | some [] => Term.ofBool false
  | some [a] => a
  | some xs => .app .or xs

/-- The normal form of an equality of formulas. -/
def boolEq (a b : Term) : Term :=
  if a == b then Term.ofBool true
  else
    let (a, b, unfolded) := match a, b with
      | .app .not [x], .app .not [y] => (x, y, true)
      | _, _ => (a, b, false)
    match a, b with
    | .app (.boolLit true) [], _ => b
    | .app (.boolLit false) [], _ => not_ b
    | _, .app (.boolLit true) [] => a
    | _, .app (.boolLit false) [] => not_ a
    | _, _ =>
      if complementary a b then Term.ofBool false
      else if unfolded then .app .eq [a, b]
      else .app .eq [a, b]

/-- The normal form of a conditional. -/
def ite (c t e : Term) : Term :=
  let (c, t, e) := match c with
    | .app .not [c'] => (c', e, t)
    | _ => (c, t, e)
  let t := match t with
    | .app .ite [c', t', _] => if c' == c then t' else t
    | _ => t
  let e := match e with
    | .app .ite [c', _, e'] => if c' == c then e' else e
    | _ => e
  match asBool? c with
  | some true => t
  | some false => e
  | none =>
    if t == e then t
    else if t.sort == .bool then
      match asBool? t, asBool? e with
      | some true, some false => c
      | some false, some true => not_ c
      | some true, _ => orOf [c, e]
      | some false, _ => andOf [not_ c, e]
      | _, some true => orOf [not_ c, t]
      | _, some false => andOf [c, t]
      | _, _ =>
        if c == e then andOf [c, t]
        else if c == t then orOf [c, e]
        else if complementary t e then boolEq c t
        else .app .ite [c, t, e]
    else .app .ite [c, t, e]

/-! ## Comparisons of numbers -/

/-- The relations that comparisons of numbers are normalized to. -/
inductive Relation where
  | le | ge | eq
  deriving BEq, Repr

/-- Whether a relation holds between two numbers. -/
def Relation.holds : Relation → Rat → Rat → Bool
  | .le, a, b => decide (a ≤ b)
  | .ge, a, b => decide (b ≤ a)
  | .eq, a, b => a == b

/-- The application of a relation. -/
def Relation.build : Relation → Term → Term → Term
  | .le, a, b => .app .le [a, b]
  | .ge, a, b => .app .ge [a, b]
  | .eq, a, b => .app .eq [a, b]

/-- Cancel the monomials common to the two sides of a comparison and
gather the numerals on one side: the right side when it has no other
monomials left or the left side has some, the left side otherwise. `none`
when there is nothing to do: no power product on both sides and at most one
numeral, which is the whole right side or absent. -/
def cancel (s : SmtSort) (lhs rhs : Term) : Option (Term × Term) :=
  let lm := summands s lhs
  let rm := summands s rhs
  let total := fun (ts : List Term) => (ts.filterMap numeral?).foldl (· + ·) 0
  let c := total lm - total rm
  let count := (lm.filter isNumeral).length + (rm.filter isNumeral).length
  let lmono := lm.filter (!isNumeral ·)
  let rmono := rm.filter (!isNumeral ·)
  let lpps := lmono.map (powerProduct s)
  let shared := fun p => lpps.contains p && rmono.any (powerProduct s · == p)
  if !(rmono.any fun t => lpps.contains (powerProduct s t)) && count ≤ 1 &&
      (count == 0 || isNumeral rhs) then none
  else
    let newL := (lmono.foldl (fun (acc : List Term × List Term) t =>
      let p := powerProduct s t
      if !shared p then (acc.1 ++ [t], acc.2)
      else if acc.2.contains p then acc
      else
        let a := coefficient s lmono p - coefficient s rmono p
        (if a == 0 then acc.1 else acc.1 ++ [scaled s a p], acc.2 ++ [p])) ([], [])).1
    let newR := rmono.filter fun t => !shared (powerProduct s t)
    let atRight := newR.isEmpty || !newL.isEmpty
    let c := if atRight then -c else c
    let left := if !atRight && (c != 0 || newL.isEmpty) then [numeral s c] else []
    let right := if atRight && (c != 0 || newR.isEmpty) then [numeral s c] else []
    some (sumOf s (left ++ newL), sumOf s (right ++ newR))

/-- The greatest common divisor of the coefficients of the monomials of a
list, if it has monomials, and the number of its nonzero numerals. -/
def commonFactor (s : SmtSort) (ts : List Term) : Option Nat × Nat :=
  ts.foldl (fun (acc : Option Nat × Nat) t =>
    match numeral? t with
    | some a => (acc.1, if a == 0 then acc.2 else acc.2 + 1)
    | none =>
      let a := (monomial s t).1.num.natAbs
      (some (match acc.1 with
        | some g => Nat.gcd g a
        | none => a), acc.2)) (none, 0)

/-- How a numeral that the common factor does not divide is treated:
rounded down, rounded up, or making the comparison false. -/
inductive Rounding where
  | down | up | exact
  deriving BEq, Repr

/-- A side of a comparison divided by a common factor `g`; `none` when an
exact division fails. -/
def divide (s : SmtSort) (g : Nat) (r : Rounding) (t : Term) : Option Term :=
  ((summands s t).mapM fun u =>
    match numeral? u with
    | some a =>
      let q := a / (g : Rat)
      let q? := if q.den == 1 then some q else match r with
        | .down => some ((q.floor : Int) : Rat)
        | .up => some ((q.ceil : Int) : Rat)
        | .exact => none
      q?.map fun q => if q == 0 then [] else [numeral s q]
    | none =>
      let (a, p) := monomial s u
      let q := a / (g : Rat)
      some (if q == 0 then [] else if q == 1 then [p] else [.app (mulFn s) [numeral s q, p]])).map
    fun (parts : List (List Term)) => sumOf s parts.flatten

/-- The normal form of a comparison or equality of numbers. -/
def compare (s : SmtSort) (rel : Relation) (lhs rhs : Term) : Term :=
  let (l, r) := (cancel s lhs rhs).getD (lhs, rhs)
  match numeral? l, numeral? r with
  | some a, some b => Term.ofBool (rel.holds a b)
  | _, _ =>
    let lf := commonFactor s (summands s l)
    let rf := commonFactor s (summands s r)
    let g := match lf.1, rf.1 with
      | some a, some b => some (Nat.gcd a b)
      | some a, none => some a
      | none, b => b
    match g with
    | some g =>
      if s == .int && g > 1 && lf.2 + rf.2 ≤ 1 then
        let (lr, rr) : Rounding × Rounding := match rel with
          | .le => (.up, .down)
          | .ge => (.down, .up)
          | .eq => (.exact, .exact)
        match divide s g lr l, divide s g rr r with
        | some l', some r' => rel.build l' r'
        | _, _ => Term.ofBool false
      else rel.build l r
    | none => rel.build l r

/-! ## Bit-vectors -/

/-- The normal form of a bit-vector equality. -/
def bvEq (a b : Term) : Term :=
  if a == b then Term.ofBool true
  else match asBits? a, asBits? b with
    | some x, some y => Term.ofBool (x == y)
    | _, _ => .app .eq [a, b]

/-- The normal form of `bvule` (`bvsle` when `signed`) at width `w`. With
`split`, an unsigned comparison with a numeral of leading zero bits is
split into the high bits of the other side, which are zero, and its low
bits. -/
def bvLe (split signed : Bool) (w : Nat) (a b : Term) : Term :=
  let value := fun (v : Nat) => if signed then Bits.signed w v else (v : Int)
  let keep := Term.app (.bvCompare (if signed then .sle else .ule)) [a, b]
  let lower : Int := if signed then -((Nat.pow 2 (w - 1) : Nat) : Int) else 0
  let upper : Int :=
    if signed then ((Nat.pow 2 (w - 1) : Nat) : Int) - 1 else ((Nat.pow 2 w : Nat) : Int) - 1
  if a == b then Term.ofBool true
  else match asBits? a, asBits? b with
    | some (_, x), some (_, y) => Term.ofBool (decide (value x ≤ value y))
    | x?, some (_, y) =>
      if value y == lower then bvEq a b
      else if value y == upper then Term.ofBool true
      else if x?.isNone && split && !signed then
        let low := Nat.log2 y + 1
        if low < w then
          let high := Term.app (.extract (w - 1) low) [a]
          let rest := Term.app (.extract (low - 1) 0) [a]
          let restLe := if y == Nat.pow 2 low - 1 then Term.ofBool true
            else .app (.bvCompare .ule) [rest, Term.ofBits low y]
          andOf [bvEq high (Term.ofBits (w - low) 0), restLe]
        else keep
      else keep
    | some (_, x), none =>
      if value x == lower then Term.ofBool true
      else if value x == upper then bvEq a b
      else keep
    | none, none => keep

/-- The normal form of a bit-vector comparison. -/
def bvCompare (op : BvCompare) (a b : Term) : Term :=
  let w := match a.sort with
    | .bitVec w => w
    | _ => 0
  match op with
  | .ule => bvLe true false w a b
  | .uge => bvLe true false w b a
  | .ult => not_ (bvLe true false w b a)
  | .ugt => not_ (bvLe true false w a b)
  | .sle => bvLe true true w a b
  | .sge => bvLe true true w b a
  | .slt => not_ (bvLe true true w b a)
  | .sgt => not_ (bvLe true true w a b)

/-- The normal form of a bit-vector complement. -/
def bvNot (w : Nat) (t : Term) : Term :=
  match t with
  | .app (.bvLit _ v) [] => Term.ofBits w (Bits.complement w v)
  | .app .bvNot [x] => x
  | _ => .app .bvNot [t]

/-- The normal form of a bitwise conjunction or disjunction: `unit` is the
neutral numeral and `absorbing` the absorbing one. -/
def bvJunction (op : BvBinary) (w unit absorbing : Nat) (args : List Term) : Term :=
  let flat := args.flatMap fun a => match a with
    | .app (.bvBinary op') xs => if op' == op then xs else [a]
    | _ => [a]
  if flat.any (asBits? · |>.any (·.2 == absorbing)) ||
      flat.any (fun a => flat.any fun b => a == .app .bvNot [b]) then Term.ofBits w absorbing
  else
    let kept := flat.foldl (fun acc a =>
      if (asBits? a).any (·.2 == unit) || acc.contains a then acc else acc ++ [a]) []
    match kept with
    | [] => Term.ofBits w unit
    | [a] => a
    | xs => .app (.bvBinary op) xs

/-- The normal form of an exclusive or of bit-vectors: pairs of equal
arguments cancel and numerals combine into one in front. -/
def bvXor (w : Nat) (args : List Term) : Term :=
  let flat := args.flatMap fun a => match a with
    | .app (.bvBinary .xor) xs => xs
    | _ => [a]
  let c := (flat.filterMap asBits?).foldl (fun acc x => Bits.bitwise (· != ·) w acc x.2) 0
  let odd := (flat.filter (asBits? · |>.isNone)).foldl (fun acc a =>
    if acc.contains a then acc.erase a else acc ++ [a]) []
  match (if c == 0 then [] else [Term.ofBits w c]) ++ odd with
  | [] => Term.ofBits w 0
  | [a] => a
  | xs => .app (.bvBinary .xor) xs

/-! ## Strings -/

/-- The parts of a concatenation, nested concatenations flattened. -/
def parts : Term → List Term
  | .app .strConcat args => args.attach.flatMap fun ⟨a, _⟩ => parts a
  | t => [t]

/-- The normal form of a concatenation: empty strings dropped and
adjacent literals joined. -/
def strConcat (args : List Term) : Term :=
  let joined := (args.flatMap parts).foldl (fun (acc : List Term) a =>
    match asCodes? a with
    | some [] => acc
    | some cs => match acc.getLast? with
      | some last => match asCodes? last with
        | some ds => acc.dropLast ++ [Term.ofCodes (ds ++ cs)]
        | none => acc ++ [a]
      | none => acc ++ [a]
    | none => acc ++ [a]) []
  match joined with
  | [] => Term.ofCodes []
  | [a] => a
  | xs => .app .strConcat xs

/-- The normal form of the length of a string: the lengths of the parts of
a concatenation added, literals counted. -/
def strLen (t : Term) : Term :=
  let ps := parts t
  let known := (ps.filterMap asCodes?).foldl (fun (n : Nat) cs => n + cs.length) 0
  let open_ := ps.filter (asCodes? · |>.isNone)
  match open_ with
  | [] => Term.ofInt known
  | [u] => if ps.length == 1 then .app .strLen [t]
    else add .int ([Term.app .strLen [u]] ++ if known == 0 then [] else [Term.ofInt known])
  | us => add .int (us.map (fun u => Term.app .strLen [u]) ++
    if known == 0 then [] else [Term.ofInt known])

/-- The order of strings when a side is empty: no string is below the
empty string, and the empty string is below exactly the strings that
differ from it, an equality left as it is. -/
def strLess (a b : Term) : Option Term :=
  if asCodes? b == some [] then some (Term.ofBool false)
  else if asCodes? a == some [] then some (.app .not [.app .eq [a, b]])
  else none

/-- `s ≤ t` as the negation of `t < s`, when that has a rule. -/
def strLessEq (a b : Term) : Option Term :=
  (strLess b a).map fun t => match t with
    | .app .not [e] => e
    | .app (.boolLit v) [] => Term.ofBool !v
    | t => .app .not [t]

/-! ## Applications -/

/-- The normal form of an equality, by the sort of its sides. -/
def eq (a b : Term) : Term :=
  match a.sort with
  | .int => compare .int .eq a b
  | .real => compare .real .eq a b
  | .bitVec _ => bvEq a b
  | .bool => boolEq a b
  | _ =>
    if a == b then Term.ofBool true
    else if isValue a && isValue b then Term.ofBool false
    else .app .eq [a, b]

/-- The normal form of a distinctness constraint. -/
def distinct (args : List Term) : Term :=
  match args with
  | [] | [_] => Term.ofBool true
  | [a, b] => not_ (eq a b)
  | _ =>
    let rec repeats : List Term → Bool
      | [] => false
      | t :: ts => ts.contains t || repeats ts
    if repeats args then Term.ofBool false
    else if args.all isValue then Term.ofBool true
    else .app .distinct args

/-- The normal form of an application whose arguments are in normal form;
`none` for symbols this module leaves alone. -/
def step (f : Fn) (args : List Term) : Option Term :=
  let sortOf := fun (ts : List Term) => (ts.head?.map Term.sort).getD .int
  let width := match sortOf args with
    | .bitVec w => w
    | _ => 0
  match f, args with
  | .not, [a] => some (not_ a)
  | .and, _ => some (andOf args)
  | .or, _ => some (orOf args)
  | .implies, [a, b] => some (orOf [not_ a, b])
  | .xor, [a, b] => some (boolEq a (not_ b))
  | .ite, [c, t, e] => some (ite c t e)
  | .eq, [a, b] => some (eq a b)
  | .distinct, _ => some (distinct args)
  | .add, _ :: _ => some (add (sortOf args) args)
  | .sub, _ :: _ => some (sub (sortOf args) args)
  | .mul, _ :: _ => some (mul (sortOf args) args)
  | .neg, [a] => some (neg a.sort a)
  | .le, [a, b] => some (compare a.sort .le a b)
  | .ge, [a, b] => some (compare a.sort .ge a b)
  | .lt, [a, b] => some (not_ (compare a.sort .le b a))
  | .gt, [a, b] => some (not_ (compare a.sort .le a b))
  | .bvBinary .add, _ :: _ => some (add (sortOf args) args)
  | .bvBinary .sub, _ :: _ => some (sub (sortOf args) args)
  | .bvBinary .mul, _ :: _ => some (mul (sortOf args) args)
  | .bvBinary .and, _ :: _ => some (bvJunction .and width (Bits.ones width) 0 args)
  | .bvBinary .or, _ :: _ => some (bvJunction .or width 0 (Bits.ones width) args)
  | .bvBinary .xor, _ :: _ => some (bvXor width args)
  | .bvNeg, [a] => some (neg a.sort a)
  | .bvNot, [a] => some (bvNot width a)
  | .bvCompare op, [a, b] => some (bvCompare op a b)
  | .strConcat, _ :: _ => some (strConcat args)
  | .strLen, [a] => some (strLen a)
  | .strPrefixof, [a, _] | .strSuffixof, [a, _] | .strContains, [_, a] =>
    if asCodes? a == some [] then some (Term.ofBool true) else none
  | _, _ => none

/-! ## Binders -/

/-- The literals of a quantifier body that define variables: the
conjuncts of an existential body, the disjuncts of a universal one. -/
def literals (b : Binder) (body : Term) : List Term :=
  match b, body with
  | .some, .app .and xs => xs
  | .all, .app .or xs => xs
  | _, t => [t]

/-- The variable a literal defines among the `n` variables of a
quantifier, and its definition: `x = t` in an existential body, `x ≠ t` in
a universal one, where `x` does not occur in `t`. -/
def definition? (b : Binder) (n : Nat) (lit : Term) : Option (Nat × Term) :=
  let sides := match b, lit with
    | .some, .app .eq [x, y] => some (x, y)
    | .all, .app .not [.app .eq [x, y]] => some (x, y)
    | _, _ => none
  let defines := fun (v t : Term) => match v with
    | .var i _ => if i < n && !Term.occurs i 0 t then some (i, t) else none
    | _ => none
  sides.bind fun (x, y) => (defines x y).orElse fun _ => defines y x

/-- A quantifier body from its literals. -/
def fromLiterals (b : Binder) : List Term → Term
  | [] => Term.ofBool (b != .all)
  | [t] => t
  | ts => .app (if b == .all then .or else .and) ts

/-- Replace the variables that literals of the body define, one at a time,
at most `fuel` times. -/
def resolve (b : Binder) : Nat → List (String × SmtSort) → Term → List (String × SmtSort) × Term
  | 0, ds, body => (ds, body)
  | fuel + 1, ds, body =>
    let lits := literals b body
    match lits.findSome? fun l => (definition? b ds.length l).map (l, ·) with
    | some (lit, i, t) =>
      resolve b fuel (ds.eraseIdx (ds.length - 1 - i))
        (Term.substVar i t (fromLiterals b (lits.erase lit)))
    | none => (ds, body)

/-- Drop the variables of a quantifier that do not occur in its body; a
quantifier left without variables is its body. -/
def dropUnused (b : Binder) (ds : List (String × SmtSort)) (body : Term) : Term :=
  let n := ds.length
  let used := (List.range n).filter fun i => Term.occurs i 0 body
  if n == 0 then body
  else if used.length == n then .bind b ds body
  else
    let body := Term.renumber (fun r =>
      if r < n then (used.filter (· < r)).length else r - (n - used.length)) body
    if used.isEmpty then body
    else .bind b (ds.zipIdx.filterMap fun (d, p) =>
      if used.contains (n - 1 - p) then some d else none) body

/-- The normal form of a binder over a body in normal form. -/
def binder (b : Binder) (ds : List (String × SmtSort)) (body : Term) : Term :=
  match b with
  | .lambda =>
    if (List.range ds.length).any fun i => Term.occurs i 0 body then .bind b ds body
    else .app (.constArray (.array (ds.map (·.2)) body.sort))
      [Term.renumber (· - ds.length) body]
  | _ =>
    let (ds, body) := match body with
      | .bind b' ds' inner => if b' == b then (ds ++ ds', inner) else (ds, body)
      | _ => (ds, body)
    let (ds, body) := resolve b ds.length ds body
    dropUnused b ds body

end SmtBackend.Eval.Normal
