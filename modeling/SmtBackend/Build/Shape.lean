import SmtBackend.Term.Basic
import SmtBackend.Failure

/-!
# Operator semantics of the binding layer

Operator kinds are built through the solver's scripting binding, whose
operators decide both the symbol and the argument conversions:

* Every term has a shape: Boolean, quantifier (a special Boolean shape),
  arithmetic, integer or rational numeral (special arithmetic shapes),
  bit-vector and its numerals, floating-point and its numerals, rounding
  mode, string, array, or a plain expression.
* Comparisons are answered by the right operand, mirrored, when its shape
  is special of the left one's (`x = 7` builds `(= 7 x)`); arithmetic
  operators by the left operand if its shape has them, else the right.
* Operands of different sorts are unified first: Booleans to integers
  (`(ite b 1 0)`) and integers to reals (`to_real`).

A rejection by the binding or the solver is a `native` failure here. An
operator that neither operand's class has is the binding's type error,
which is no rejection: it names the operator and the operands' classes.
-/

namespace SmtBackend.Build

/-- The failure the binding or the solver answers with. -/
def rejected : Failure := .native ""

/-- Operand shapes of the binding. -/
inductive Shape where
  | boolean | quantifier | arith | intNumeral | ratNumeral | bits | bitsNumeral
  | float | floatNumeral | roundingMode | string | array | plain
  deriving DecidableEq, Repr

/-- Whether the first shape is a special case of the second. -/
def Shape.specializes : Shape → Shape → Bool
  | .quantifier, .boolean => true
  | .intNumeral, .arith | .ratNumeral, .arith => true
  | .bitsNumeral, .bits => true
  | .floatNumeral, .float => true
  | .plain, _ => false
  | _, .plain => true
  | _, _ => false

/-- The shape of a term. -/
def shapeOf (t : Term) : Shape :=
  if t.isBinder then .quantifier else
  match t.sort with
  | .bool => .boolean
  | .int | .real => if t.isLiteral then (if t.sort == .int then .intNumeral else .ratNumeral)
      else .arith
  | .bitVec _ => if t.isLiteral then .bitsNumeral else .bits
  | .float .. => if t.isLiteral then .floatNumeral else .float
  | .roundingMode => .roundingMode
  | .string => .string
  | .array .. => .array
  | .named _ => .plain

/-- Whether a shape is arithmetic. -/
def Shape.isArith (s : Shape) : Bool := s == .arith || s == .intNumeral || s == .ratNumeral
/-- Whether a shape is a bit-vector shape. -/
def Shape.isBits (s : Shape) : Bool := s == .bits || s == .bitsNumeral
/-- Whether a shape is a floating-point shape. -/
def Shape.isFloat (s : Shape) : Bool := s == .float || s == .floatNumeral
/-- Whether a shape is Boolean. -/
def Shape.isBoolean (s : Shape) : Bool := s == .boolean || s == .quantifier

/-- The binding's class of the terms of a shape, as its errors name it. -/
def Shape.className : Shape → String
  | .boolean => "BoolRef" | .quantifier => "QuantifierRef" | .arith => "ArithRef"
  | .intNumeral => "IntNumRef" | .ratNumeral => "RatNumRef" | .bits => "BitVecRef"
  | .bitsNumeral => "BitVecNumRef" | .float => "FPRef" | .floatNumeral => "FPNumRef"
  | .roundingMode => "FPRMRef" | .string => "SeqRef" | .array => "ArrayRef"
  | .plain => "ExprRef"

/-- The binding's class of a term. -/
def className (t : Term) : String := (shapeOf t).className

/-- The type error of an operator that neither operand's class has. -/
def noOperator (symbol : String) (a b : Term) : Failure :=
  .unchecked "TypeError"
    s!"unsupported operand type(s) for {symbol}: '{className a}' and '{className b}'"

/-- The type error of a unary operator that the operand's class lacks. -/
def noUnaryOperator (symbol : String) (a : Term) : Failure :=
  .unchecked "TypeError" s!"bad operand type for unary {symbol}: '{className a}'"

/-- The attribute error of a method that the term's class lacks. -/
def noMethod (a : Term) (name : String) : Failure :=
  .unchecked "AttributeError" s!"'{className a}' object has no attribute '{name}'"

/-- Apply a symbol, if the solver accepts the arguments. -/
def mkApp (f : Fn) (args : List Term) : Except Failure Term :=
  match f.result? (args.map Term.sort) with
  | some _ => pure (.app f args)
  | none => throw rejected

/-- Whether a sort converts into another when operands are unified. -/
def subsort : SmtSort → SmtSort → Bool
  | .bool, .int | .bool, .real | .int, .real => true
  | .bitVec a, .bitVec b => a < b
  | _, _ => false

/-- The common sort of two operands' sorts, if there is one. -/
def joinSorts (s t : SmtSort) : Except Failure SmtSort :=
  if s == t then pure s
  else if subsort s t then pure t
  else if subsort t s then pure s
  else throw rejected

/-- `(ite c 1 0)` of a Boolean. -/
def boolToInt (b : Term) : Term := .app .ite [b, Term.ofInt 1, Term.ofInt 0]

/-- Convert an operand to a target sort: integers to reals, Booleans to
integers or reals; bit-vector and floating-point operands pass unchanged,
whatever their format; other sorts must match. -/
def castTo (target : SmtSort) (t : Term) : Except Failure Term :=
  let s := t.sort
  match target with
  | .int | .real =>
    if s == target then pure t
    else if s == .int && target == .real then pure (.app .toReal [t])
    else if s == .bool && target == .int then pure (boolToInt t)
    else if s == .bool && target == .real then pure (.app .toReal [boolToInt t])
    else throw rejected
  | .bitVec _ | .float .. => pure t
  | _ => if s == target then pure t else throw rejected

/-- Unify the sorts of two operands. -/
def unify (a b : Term) : Except Failure (Term × Term) := do
  let s ← joinSorts a.sort b.sort
  pure (← castTo s a, ← castTo s b)

/-- Unify the sorts of a list of operands. -/
def unifyAll (ts : List Term) : Except Failure (List Term) := do
  match ts with
  | [] => pure []
  | t :: rest =>
    let s ← rest.foldlM (fun s u => joinSorts s u.sort) t.sort
    ts.mapM (castTo s)

/-- Unify floating-point operands: like `unifyAll`, all sorts must agree. -/
def unifyFloats (ts : List Term) : Except Failure (List Term) := unifyAll ts

/-- Comparisons of the binding. -/
inductive Comparison where
  | eq | lt | le | gt | ge
  deriving DecidableEq, Repr

/-- The operator symbol of a comparison. -/
def Comparison.symbol : Comparison → String
  | .eq => "==" | .lt => "<" | .le => "<=" | .gt => ">" | .ge => ">="

/-- The type error of a comparison that neither operand's class has. -/
def incomparable (c : Comparison) (a b : Term) : Failure :=
  .unchecked "TypeError"
    s!"'{c.symbol}' not supported between instances of '{className a}' and '{className b}'"

/-- The comparison with its operands exchanged. -/
def Comparison.mirror : Comparison → Comparison
  | .eq => .eq | .lt => .gt | .le => .ge | .gt => .lt | .ge => .le

/-- A comparison answered by a receiver of a shape, if the shape has it. -/
def compareBy (shape : Shape) (c : Comparison) (self other : Term) :
    Option (Except Failure Term) :=
  if c == .eq then some (do let (a, b) ← unify self other; mkApp .eq [a, b])
  else if shape.isArith then
    some (do
      let (a, b) ← unify self other
      mkApp (match c with | .lt => .lt | .le => .le | .gt => .gt | _ => .ge) [a, b])
  else if shape.isBits then
    some (do
      let (a, b) ← unify self other
      mkApp (.bvCompare (match c with | .lt => .slt | .le => .sle | .gt => .sgt | _ => .sge)) [a, b])
  else if shape.isFloat then
    some (do
      let xs ← unifyFloats [self, other]
      unless xs.any (fun x => (shapeOf x).isFloat) do throw rejected
      mkApp (.fpCompare (match c with | .lt => .lt | .le => .leq | .gt => .gt | _ => .geq)) xs)
  else if shape == .string then
    some (match c with
      | .lt => mkApp .strLt [self, other]
      | .le => mkApp .strLe [self, other]
      | .gt => mkApp .strLt [other, self]
      | _ => mkApp .strLe [other, self])
  else none

/-- A comparison of two operands, with the binding's choice of receiver. -/
def compare (c : Comparison) (a b : Term) : Except Failure Term :=
  let sa := shapeOf a
  let sb := shapeOf b
  let mirrored := compareBy sb c.mirror b a
  let direct := compareBy sa c a b
  if sb.specializes sa && sb != sa then
    match mirrored with
    | some r => r
    | none => (direct.getD (throw (incomparable c a b)))
  else
    match direct with
    | some r => r
    | none => (mirrored.getD (throw (incomparable c a b)))

/-- Binary arithmetic and bitwise operators of the binding. -/
inductive Operator where
  | add | sub | mul | div | mod | and | or | xor | shl | shr
  deriving DecidableEq, Repr

/-- The symbol of an operator. -/
def Operator.symbol : Operator → String
  | .add => "+" | .sub => "-" | .mul => "*" | .div => "/" | .mod => "%"
  | .and => "&" | .or => "|" | .xor => "^" | .shl => "<<" | .shr => ">>"

/-- The default rounding mode of floating-point operators. -/
def defaultRounding : Term := .app (.rmLit .nearestEven) []

mutual
/-- A binary operator answered by a receiver of a shape, if the shape has
it; `flipped` says the receiver is the right operand. -/
def operateBy (fuel : Nat) (shape : Shape) (op : Operator) (self other : Term) (flipped : Bool) :
    Option (Except Failure Term) :=
  let ordered (a b : Term) : Term × Term := if flipped then (b, a) else (a, b)
  if shape.isArith then
    match op with
    | .add | .sub | .mul | .div | .mod =>
      some (do
        let (a, b) ← unify (ordered self other).1 (ordered self other).2
        match op with
        | .add => mkApp .add [a, b]
        | .sub => mkApp .sub [a, b]
        | .mul => mkApp .mul [a, b]
        | .div => mkApp (if a.sort == .int then .intDiv else .div) [a, b]
        | _ =>
          unless a.sort == .int do throw rejected
          mkApp .mod [a, b])
    | _ => none
  else if shape.isBits then
    some (do
      let (a, b) ← unify (ordered self other).1 (ordered self other).2
      let bop : BvBinary := match op with
        | .add => .add | .sub => .sub | .mul => .mul | .div => .sdiv | .mod => .smod
        | .and => .and | .or => .or | .xor => .xor | .shl => .shl | .shr => .ashr
      mkApp (.bvBinary bop) [a, b])
  else if shape.isFloat then
    match op with
    | .add | .sub | .mul | .div | .mod =>
      some (do
        let (x, y) := ordered self other
        let xs ← unifyFloats [x, y]
        unless xs.any (fun t => (shapeOf t).isFloat) do throw rejected
        match op with
        | .add => mkApp .fpAdd (defaultRounding :: xs)
        | .sub => mkApp .fpSub (defaultRounding :: xs)
        | .mul => mkApp .fpMul (defaultRounding :: xs)
        | .div => mkApp .fpDiv (defaultRounding :: xs)
        | _ => mkApp .fpRem xs)
    | _ => none
  else if shape == .string then
    match op with
    | .add =>
      some (do
        let (x, y) := ordered self other
        unless x.sort == .string && y.sort == .string do throw rejected
        mkApp .strConcat [x, y])
    | _ => none
  else if shape.isBoolean then
    match fuel with
    | 0 => some (throw rejected)
    | fuel + 1 =>
      match op with
      | .add =>
        -- `b + o` is `(ite b 1 0) + o`, a Boolean `o` converted the same way
        let o := if (shapeOf other).isBoolean then boolToInt other else other
        some (operate fuel .add (boolToInt self) o)
      | .mul =>
        let o := if (shapeOf other).isBoolean then boolToInt other else other
        some (do
          let zero ← castZero o
          let (t, e) ← unify o zero
          mkApp .ite [self, t, e])
      | .and => some (if flipped then mkApp .and [other, self] else logical .and self other)
      | .or => some (if flipped then mkApp .or [other, self] else logical .or self other)
      | .xor => some (if flipped then mkApp .xor [other, self] else logical .xor self other)
      | _ => none
  else none
/-- A binary operator: the left operand answers if its shape has the
operator, else the right one. -/
def operate (fuel : Nat) (op : Operator) (a b : Term) : Except Failure Term :=
  match fuel with
  | 0 => throw rejected
  | fuel + 1 =>
    match operateBy fuel (shapeOf a) op a b false with
    | some r => r
    | none =>
      match operateBy fuel (shapeOf b) op b a true with
      | some r => r
      | none => throw (noOperator op.symbol a b)
/-- The zero of an operand's sort, as the binding writes `0` against it. -/
def castZero (t : Term) : Except Failure Term :=
  match t.sort with
  | .int => pure (Term.ofInt 0)
  | .real => pure (Term.ofRat 0)
  | .bitVec w => pure (Term.ofBits w 0)
  | .float e s => pure (.app (.fpLit e s (.zero false)) [])
  | _ => throw rejected
/-- Conjunction, disjunction or exclusive or of two operands converted to
Booleans. -/
def logical (f : Fn) (a b : Term) : Except Failure Term := do
  match f with
  | .xor =>
    unless a.sort == .bool && b.sort == .bool do throw rejected
    mkApp .xor [a, b]
  | _ =>
    let xs ← unifyAll [a, b]
    mkApp f xs
end

/-- Negation (`-a`) of the binding. -/
def negate (a : Term) : Except Failure Term :=
  let s := shapeOf a
  if s.isArith then mkApp .neg [a]
  else if s.isBits then mkApp .bvNeg [a]
  else if s.isFloat then mkApp .fpNeg [a]
  else throw (noUnaryOperator "-" a)

/-- Complement (`~a`) of the binding. -/
def complement (a : Term) : Except Failure Term :=
  let s := shapeOf a
  if s.isBits then mkApp .bvNot [a]
  else if s.isBoolean then mkApp .not [a]
  else throw (noUnaryOperator "~" a)

end SmtBackend.Build
