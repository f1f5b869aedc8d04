import SmtBackend.Eval.Strings
import SmtBackend.Eval.Normal
import SmtBackend.Eval.Arrays

/-!
# Evaluation of terms

A term is evaluated by rewriting it bottom-up: free constants take the
values an environment gives them, and an application whose arguments are
values is replaced by its value under the SMT-LIB semantics of its symbol.
Applications that cannot be decided stay as they are, with their
arguments evaluated, and so do bound variables: the body of a quantifier
or a lambda is simplified, and a quantifier whose body becomes a truth
value is that truth value.

Partial operations are completed the way models complete them: division
by zero is zero, and conversions of NaN, infinities or out-of-range
floating-point numbers to reals and bit-vectors give zero. The minimum and
maximum of two zeros of opposite sign stay undecided.
-/

namespace SmtBackend.Eval

open SmtBackend.Float (Format)

/-! ## Values of applications -/

/-- The value of a Boolean connective, simplified as far as its literal
arguments allow. -/
def connective (f : Fn) (args : List Term) : Term :=
  match f, args with
  | .not, [a] => match a with
    | .app (.boolLit b) [] => Term.ofBool !b
    | .app .not [x] => x
    | _ => .app .not [a]
  | .and, _ =>
    if args.any (asBool? · == some false) then Term.ofBool false
    else match args.filter (asBool? · != some true) with
      | [] => Term.ofBool true
      | [x] => x
      | rest => .app .and rest
  | .or, _ =>
    if args.any (asBool? · == some true) then Term.ofBool true
    else match args.filter (asBool? · != some false) with
      | [] => Term.ofBool false
      | [x] => x
      | rest => .app .or rest
  | .implies, [a, b] => match asBool? a, asBool? b with
    | some false, _ => Term.ofBool true
    | some true, _ => b
    | _, some true => Term.ofBool true
    | _, _ => .app .implies [a, b]
  | .xor, [a, b] => match asBool? a, asBool? b with
    | some x, some y => Term.ofBool (x != y)
    | _, _ => .app .xor [a, b]
  | _, _ => .app f args

/-- Whether all terms of a list are pairwise different. -/
def pairwiseDistinct : List Term → Bool
  | [] => true
  | t :: ts => !ts.contains t && pairwiseDistinct ts

/-- The value of an integer or real operation on literal arguments. -/
def arith (f : Fn) (args : List Term) : Option Term :=
  match args.mapM asInt? with
  | some is => match f, is with
    | .add, _ => some (Term.ofInt (is.foldl (· + ·) 0))
    | .mul, _ => some (Term.ofInt (is.foldl (· * ·) 1))
    | .sub, i :: rest => some (Term.ofInt (rest.foldl (· - ·) i))
    | .neg, [i] => some (Term.ofInt (-i))
    | .intDiv, [a, b] => some (Term.ofInt (if b == 0 then 0 else a / b))
    | .mod, [a, b] => some (Term.ofInt (if b == 0 then 0 else a % b))
    | .le, [a, b] => some (Term.ofBool (a ≤ b))
    | .lt, [a, b] => some (Term.ofBool (a < b))
    | .ge, [a, b] => some (Term.ofBool (a ≥ b))
    | .gt, [a, b] => some (Term.ofBool (a > b))
    | .toReal, [a] => some (Term.ofRat a)
    | _, _ => none
  | none => match args.mapM asRat? with
    | some qs => match f, qs with
      | .add, _ => some (Term.ofRat (qs.foldl (· + ·) 0))
      | .mul, _ => some (Term.ofRat (qs.foldl (· * ·) 1))
      | .sub, q :: rest => some (Term.ofRat (rest.foldl (· - ·) q))
      | .neg, [q] => some (Term.ofRat (-q))
      | .div, [a, b] => some (Term.ofRat (if b == 0 then 0 else a / b))
      | .le, [a, b] => some (Term.ofBool (a ≤ b))
      | .lt, [a, b] => some (Term.ofBool (a < b))
      | .ge, [a, b] => some (Term.ofBool (a ≥ b))
      | .gt, [a, b] => some (Term.ofBool (a > b))
      | .toInt, [a] => some (Term.ofInt a.floor)
      | .isInt, [a] => some (Term.ofBool (a.den == 1))
      | _, _ => none
    | none => none

/-- The value of a bit-vector operation on literal arguments. -/
def bits (f : Fn) (args : List Term) : Option Term :=
  match args.mapM asBits? with
  | none => none
  | some vs => match f, vs with
    | .bvBinary op, [(w, a), (_, b)] => some (Term.ofBits w (Bits.binary w op a b))
    | .bvCompare op, [(w, a), (_, b)] => some (Term.ofBool (Bits.compare w op a b))
    | .bvNot, [(w, a)] => some (Term.ofBits w (Bits.complement w a))
    | .bvNeg, [(w, a)] => some (Term.ofBits w (Bits.neg w a))
    | .concat, (w, a) :: rest =>
      let (width, value) := rest.foldl (fun (acc : Nat × Nat) (x : Nat × Nat) =>
        (acc.1 + x.1, Bits.concat x.1 acc.2 x.2)) (w, a)
      some (Term.ofBits width value)
    | .bvRedAnd, [(w, a)] => some (Term.ofBits 1 (if a == Bits.ones w then 1 else 0))
    | .bvRedOr, [(_, a)] => some (Term.ofBits 1 (if a == 0 then 0 else 1))
    | .extract h l, [(_, a)] => some (Term.ofBits (h + 1 - l) (Bits.extract h l a))
    | .repeat n, [(w, a)] => some (Term.ofBits (w * n) (Bits.repeatBits w a n))
    | .zeroExtend n, [(w, a)] => some (Term.ofBits (w + n) a)
    | .signExtend n, [(w, a)] => some (Term.ofBits (w + n) (Bits.signExtend w n a))
    | .rotateLeft n, [(w, a)] => some (Term.ofBits w (Bits.rotateLeft w a n))
    | .rotateRight n, [(w, a)] => some (Term.ofBits w (Bits.rotateRight w a n))
    | .eq, [a, b] => some (Term.ofBool (a == b))
    | _, _ => none

/-- The value of a string operation on literal arguments. -/
def strings (f : Fn) (args : List Term) : Option Term :=
  match f, args with
  | .strConcat, _ => (args.mapM asCodes?).map fun ss => Term.ofCodes ss.flatten
  | .strLen, [s] => (asCodes? s).map fun cs => Term.ofInt cs.length
  | .strAt, [s, i] => do some (Term.ofCodes (Strings.charAt (← asCodes? s) (← asInt? i)))
  | .strSubstr, [s, i, n] => do
    some (Term.ofCodes (Strings.substr (← asCodes? s) (← asInt? i) (← asInt? n)))
  | .strContains, [s, t] => do some (Term.ofBool (Strings.contains (← asCodes? s) (← asCodes? t)))
  | .strPrefixof, [s, t] => do some (Term.ofBool (Strings.isPrefix (← asCodes? s) (← asCodes? t)))
  | .strSuffixof, [s, t] => do some (Term.ofBool (Strings.isSuffix (← asCodes? s) (← asCodes? t)))
  | .strIndexof, [s, t, i] => do
    some (Term.ofInt (Strings.indexOf (← asCodes? s) (← asCodes? t) (← asInt? i)))
  | .strReplace, [s, t, u] => do
    some (Term.ofCodes (Strings.replace (← asCodes? s) (← asCodes? t) (← asCodes? u)))
  | .strToInt, [s] => (asCodes? s).map fun cs => Term.ofInt (Strings.toInt cs)
  | .strFromInt, [i] => (asInt? i).map fun v => Term.ofCodes (Strings.fromInt v)
  | .strLe, [s, t] => do some (Term.ofBool (Strings.le (← asCodes? s) (← asCodes? t)))
  | .strLt, [s, t] => do some (Term.ofBool (Strings.lt (← asCodes? s) (← asCodes? t)))
  | _, _ => none

/-- The value of a floating-point operation on literal arguments. -/
def floats (f : Fn) (args : List Term) : Option Term :=
  match f, args with
  | .fpAbs, [x] => do let (fm, v) ← asFloat? x; some (ofFloat fm (Float.abs v))
  | .fpNeg, [x] => do let (fm, v) ← asFloat? x; some (ofFloat fm (Float.negate v))
  | .fpAdd, [m, x, y] => do
    let (fm, a) ← asFloat? x; let (_, b) ← asFloat? y
    some (ofFloat fm (Float.add fm (← asMode? m) a b))
  | .fpSub, [m, x, y] => do
    let (fm, a) ← asFloat? x; let (_, b) ← asFloat? y
    some (ofFloat fm (Float.sub fm (← asMode? m) a b))
  | .fpMul, [m, x, y] => do
    let (fm, a) ← asFloat? x; let (_, b) ← asFloat? y
    some (ofFloat fm (Float.mul fm (← asMode? m) a b))
  | .fpDiv, [m, x, y] => do
    let (fm, a) ← asFloat? x; let (_, b) ← asFloat? y
    some (ofFloat fm (Float.div fm (← asMode? m) a b))
  | .fpFma, [m, x, y, z] => do
    let (fm, a) ← asFloat? x; let (_, b) ← asFloat? y; let (_, c) ← asFloat? z
    some (ofFloat fm (Float.fma fm (← asMode? m) a b c))
  | .fpRem, [x, y] => do
    let (fm, a) ← asFloat? x; let (_, b) ← asFloat? y
    some (ofFloat fm (Float.rem fm a b))
  | .fpSqrt, [m, x] => do
    let (fm, a) ← asFloat? x; some (ofFloat fm (Float.sqrt fm (← asMode? m) a))
  | .fpRoundToIntegral, [m, x] => do
    let (fm, a) ← asFloat? x; some (ofFloat fm (Float.roundToIntegral fm (← asMode? m) a))
  | .fpMin, [x, y] => do
    let (fm, a) ← asFloat? x; let (_, b) ← asFloat? y
    (Float.min? fm a b).map (ofFloat fm)
  | .fpMax, [x, y] => do
    let (fm, a) ← asFloat? x; let (_, b) ← asFloat? y
    (Float.max? fm a b).map (ofFloat fm)
  | .fpCompare op, [x, y] => do
    let (fm, a) ← asFloat? x; let (_, b) ← asFloat? y
    some (Term.ofBool (Float.compare fm op a b))
  | .fpClass op, [x] => do let (_, a) ← asFloat? x; some (Term.ofBool (Float.classify op a))
  | .fpFields, [sgn, ex, sig] => do
    let (_, sv) ← asBits? sgn; let (e, ev) ← asBits? ex; let (m, mv) ← asBits? sig
    let fm : Format := ⟨e, m + 1⟩
    some (ofFloat fm (Float.ofBits.ofFields fm (sv == 1) ev mv))
  | .toFp e s, [x] => do let (_, v) ← asBits? x; some (ofFloat ⟨e, s⟩ (Float.ofBits ⟨e, s⟩ v))
  | .toFp e s, [m, x] => do
    let mode ← asMode? m
    match asFloat? x, asRat? x, asBits? x with
    | some (src, v), _, _ => some (ofFloat ⟨e, s⟩ (Float.convert ⟨e, s⟩ mode src v))
    | _, some q, _ => some (ofFloat ⟨e, s⟩ (Float.round ⟨e, s⟩ mode q))
    | _, _, some (w, v) => some (ofFloat ⟨e, s⟩ (Float.round ⟨e, s⟩ mode (Bits.signed w v)))
    | _, _, _ => none
  | .toFpUnsigned e s, [m, x] => do
    let mode ← asMode? m; let (_, v) ← asBits? x
    some (ofFloat ⟨e, s⟩ (Float.round ⟨e, s⟩ mode v))
  | .fpToReal, [x] => do
    let (fm, a) ← asFloat? x; some (Term.ofRat ((Float.toReal? fm a).getD 0))
  | .fpToSbv n, [m, x] => do
    let mode ← asMode? m; let (fm, a) ← asFloat? x
    some (Term.ofBits n ((Float.toSigned? fm mode n a).getD 0))
  | .fpToUbv n, [m, x] => do
    let mode ← asMode? m; let (fm, a) ← asFloat? x
    some (Term.ofBits n ((Float.toUnsigned? fm mode n a).getD 0))
  | _, _ => none

/-- Whether an application lies outside the domain its symbol is
specified on, so that its value is left open: a division or remainder by
zero, and a conversion of NaN, an infinity or a number out of range from
floating point to a real or a bit-vector. -/
def unspecified (f : Fn) (args : List Term) : Bool :=
  let zero := fun (t : Term) => asInt? t == some 0 || asRat? t == some 0
  match f, args with
  | .intDiv, [_, b] | .mod, [_, b] | .div, [_, b] => zero b
  | .fpToReal, [x] => (asFloat? x).any fun (fm, a) => (Float.toReal? fm a).isNone
  | .fpToSbv n, [m, x] =>
    (asMode? m).any fun mode => (asFloat? x).any fun (fm, a) => (Float.toSigned? fm mode n a).isNone
  | .fpToUbv n, [m, x] =>
    (asMode? m).any fun mode => (asFloat? x).any fun (fm, a) => (Float.toUnsigned? fm mode n a).isNone
  | _, _ => false

/-- Simplifications that hold whatever the arguments: a term equals itself,
zero is below every bit-vector, and a term is not below itself. -/
def identities (f : Fn) (args : List Term) : Option Term :=
  match f, args with
  | .eq, [a, b] => if a == b then some (Term.ofBool true) else none
  | .le, [a, b] | .ge, [a, b] => if a == b then some (Term.ofBool true) else none
  | .lt, [a, b] | .gt, [a, b] => if a == b then some (Term.ofBool false) else none
  | .bvCompare .ule, [a, _] | .bvCompare .uge, [_, a] =>
    if (asBits? a).map (·.2) == some 0 then some (Term.ofBool true) else none
  | .ite, [c, a, b] => match asBool? c with
    | some true => some a
    | some false => some b
    | none => if a == b then some a else none
  | _, _ => none

/-- The value of an application whose arguments are evaluated, when no
argument is an array or function to look into. -/
def evaluate (f : Fn) (args : List Term) : Term :=
  match identities f args with
  | some t => t
  | none =>
    match f with
    | .not | .and | .or | .implies | .xor => connective f args
    | .eq | .distinct =>
      if args.all isValue then
        Term.ofBool (if f == .eq then pairwiseDistinct args == false else pairwiseDistinct args)
      else if f == .distinct && !pairwiseDistinct args then Term.ofBool false
      else .app f args
    | _ => ((arith f args).orElse fun _ => (bits f args).orElse fun _ =>
        (strings f args).orElse fun _ => floats f args).getD (.app f args)

/-- `evaluate`, except that with `normalize` an application with an
argument that is not a value takes its normal form, and so does an order
of strings with an empty side. -/
def apply (normalize : Bool) (f : Fn) (args : List Term) : Term :=
  let rewritten := if !normalize then none
    else match f, args with
      | .strLt, [a, b] => Normal.strLess a b
      | .strLe, [a, b] => Normal.strLessEq a b
      | _, _ => if args.all isValue then none else Normal.step f args
  rewritten.getD (evaluate f args)

/-- How free constants are read: the value a model gives a constant, and
whether constants without one take the default value of their sort. A
quantifier whose body stays undecided is decided on the instances of its
variables, when the environment offers instances for their sorts. -/
structure Env where
  value? : String → SmtSort → Option Term
  complete : Bool
  instances : SmtSort → List Term := fun _ => []
  /-- Whether open terms are put in normal form. -/
  normalize : Bool := false

/-- The value of a constant in an environment. -/
def Env.lookup (env : Env) (name : String) (s : SmtSort) : Term :=
  match env.value? name s with
  | some v => v
  | none => if env.complete then defaultValue s else Term.const name s

/-- The instances a quantifier over a body is decided on: those the
environment offers for a sort and, when it offers some, the numbers of the
body of that sort with their neighbours. -/
def Env.instancesFor (env : Env) (body : Term) (s : SmtSort) : List Term :=
  match env.instances s with
  | [] => []
  | base =>
    let near := (literalsIn body).flatMap fun t =>
      if t.sort != s then []
      else match asInt? t, asRat? t with
        | some i, _ => [Term.ofInt i, Term.ofInt (i + 1), Term.ofInt (i - 1)]
        | _, some q => [Term.ofRat q, Term.ofRat (q + 1), Term.ofRat (q - 1)]
        | _, _ => []
    (base ++ near).foldl (fun acc t => if acc.contains t then acc else acc ++ [t]) []

/-- The tuples of instances for a list of declarations, at most `limit`
of them, varying the last declaration fastest. -/
def tuples (inst : SmtSort → List Term) (limit : Nat) : List (String × SmtSort) → List (List Term)
  | [] => [[]]
  | (_, s) :: rest =>
    ((inst s).flatMap fun v => (tuples inst limit rest).map (v :: ·)).take limit

/-- The most instances a quantifier is decided on. -/
def instanceLimit : Nat := 256

/-- The truth of a quantifier from the truth of its body at instances: a
universal one is false at a false instance and true when all instances are
true; an existential one dually. Undecided otherwise. -/
def quantifierValue (b : Binder) (values : List (Option Bool)) : Option Bool :=
  match b with
  | .all => if values.contains (some false) then some false
    else if !values.isEmpty && values.all (· == some true) then some true else none
  | _ => if values.contains (some true) then some true
    else if !values.isEmpty && values.all (· == some false) then some false else none

mutual
/-- Evaluate a term; `fuel` bounds the depth of evaluation, applications
of lambdas included. -/
def reduce (env : Env) : Nat → Term → Term
  | 0, t => t
  | _ + 1, .var i s => .var i s
  | _ + 1, .app (.const n s) [] => env.lookup n s
  | fuel + 1, .app f args => select env fuel f (reduceAll env fuel args)
  | fuel + 1, .bind b ds body =>
    let body := reduce env fuel body
    if env.normalize then Normal.binder b ds body else
    match b, asBool? body with
    | .lambda, _ => .bind b ds body
    | _, some v => Term.ofBool v
    | _, none =>
      let values := (tuples (env.instancesFor body) instanceLimit ds).map fun vs =>
        asBool? (reduce env fuel (body.instantiate vs 0))
      match quantifierValue b values with
      | some v => Term.ofBool v
      | none => .bind b ds body
/-- Evaluate each term of a list. -/
def reduceAll (env : Env) (fuel : Nat) : List Term → List Term
  | [] => []
  | t :: ts => reduce env fuel t :: reduceAll env fuel ts
/-- The value of an application of evaluated arguments: reads of arrays
look through lambdas, stores, constant arrays and conditionals; stores on
array values and equalities of array values are decided as array values
are (see `Arrays`). -/
def select (env : Env) (fuel : Nat) (f : Fn) (args : List Term) : Term :=
  match fuel, f, args with
  | fuel + 1, .select, .bind .lambda ds body :: idx =>
    if idx.length == ds.length then reduce env fuel (body.instantiate idx 0)
    else .app .select args
  | fuel + 1, .select, .app .store (arr :: rest) :: idx =>
    if rest.length == idx.length + 1 && (rest.take idx.length ++ idx).all isValue then
      if rest.take idx.length == idx then (rest.getLast?.getD (.app .select args))
      else select env fuel .select (arr :: idx)
    else .app .select args
  | _, .select, .app (.constArray _) [v] :: _ => v
  | fuel + 1, .select, .app .ite [c, a, b] :: idx =>
    match asBool? c with
    | some true => select env fuel .select (a :: idx)
    | some false => select env fuel .select (b :: idx)
    | none => .app .select args
  | _, .store, arr :: rest@(_ :: _) =>
    ((rest.getLast?).bind fun v => Arrays.store arr (rest.dropLast, v)).getD
      (apply env.normalize f args)
  | _, .eq, [a, b] =>
    match (if a.sort.isArray then Arrays.equal? a b else none) with
    | some r => Term.ofBool r
    | none => apply env.normalize f args
  | _, _, _ => apply env.normalize f args
end

/-- The fuel that evaluation of a term starts with. -/
def startFuel : Nat := 100000

/-- The value of a term in an environment. -/
def Env.eval (env : Env) (t : Term) : Term := reduce env startFuel t

end SmtBackend.Eval
