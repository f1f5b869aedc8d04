import SmtBackend.Build.Shape
import SmtBackend.Handle
import SmtBackend.OpKind

/-!
# Building terms from operator kinds

`mkTerm` checks a request against the operator kind's arity and index
count, then builds the term with the binding's semantics (`Build.Shape`).
N-ary kinds are strict left folds of the binary operator. A rejection by
the binding or the solver becomes the configuration failure
`Z3 rejected arguments to 'KIND': ` caused by the solver.

Quantifiers and function definitions bind constants: the constants become
de Bruijn variables in the body, and when a constant is bound twice the last
binding wins.
-/

namespace SmtBackend.Build

/-- An index of a request: an integer, or another value given by its text. -/
inductive IndexArg where
  | int (v : Int)
  | other (text : String)
  deriving BEq, Repr

/-- The text of an index, as messages quote it. -/
def IndexArg.text : IndexArg → String
  | .int v => toString v
  | .other t => t

/-- The index as a natural number, if it is a non-negative integer. -/
def IndexArg.nat? : IndexArg → Option Nat
  | .int v => if v ≥ 0 then some v.toNat else none
  | .other _ => none

/-! ## Text of the binding's own printer, for messages -/

/-- The binding's text of a sort. -/
def bindingSortText : SmtSort → String
  | .bool => "Bool" | .int => "Int" | .real => "Real" | .string => "String"
  | .roundingMode => "RoundingMode"
  | .bitVec w => s!"BitVec({w})"
  | .float e s => s!"FPSort({e}, {s})"
  | .array d r =>
    "Array(" ++ String.intercalate ", " (d.attach.map (fun ⟨x, _⟩ => bindingSortText x) ++
      [bindingSortText r]) ++ ")"
  | .named n => n

/-- The binding's text of a literal or constant; other terms print in
SMT-LIB syntax. -/
def bindingTermText (t : Term) : String :=
  match t with
  | .app (.intLit v) [] => toString v
  | .app (.realLit v) [] => if v.den == 1 then toString v.num else s!"{v.num}/{v.den}"
  | .app (.boolLit b) [] => if b then "True" else "False"
  | .app (.bvLit _ v) [] => toString v
  | .app (.const n _) [] => n
  | _ => Print.termText t

/-! ## Binding constants -/

/-- The index a bound constant takes in a binder over the given constants,
the last binding of a repeated constant winning. -/
def boundIndex (vars : List Term) (t : Term) : Option Nat :=
  let n := vars.length
  match (vars.zipIdx.filter (fun (v, _) => v == t)).getLast? with
  | some (_, i) => some (n - 1 - i)
  | none => none

/-- Replace the bound constants by variables, under `depth` enclosing
binders. -/
def abstract (vars : List Term) : Nat → Term → Term
  | _, .var i s => .var i s
  | depth, .app f [] =>
    match boundIndex vars (.app f []) with
    | some i => .var (i + depth) (Term.sort (.app f []))
    | none => .app f []
  | depth, .app f (a :: as) => .app f ((a :: as).attach.map (fun ⟨x, _⟩ => abstract vars depth x))
  | depth, .bind b decls body => .bind b decls (abstract vars (depth + decls.length) body)

/-- The binder over the given constants. -/
def bindConsts (b : Binder) (vars : List Term) (body : Term) : Term :=
  let decls := vars.map (fun v => match v with
    | .app (.const n s) [] => (n, s)
    | _ => ("", v.sort))
  .bind b decls (abstract vars 0 body)

/-! ## Operator kinds -/

/-- Fail unless a term has the sort. -/
def expect (t : Term) (ok : SmtSort → Bool) : Except Failure Unit :=
  if ok t.sort then pure () else throw rejected

/-- Whether the sort is a bit-vector sort. -/
def isBitsSort (s : SmtSort) : Bool := s.isBitVec

/-- Binary bit-vector operators with unified operands, one operand at least
being a bit-vector. -/
def bitsOp (f : Fn) (a b : Term) : Except Failure Term := do
  unless a.sort.isBitVec || b.sort.isBitVec do throw rejected
  let (x, y) ← unify a b
  mkApp f [x, y]

/-- Concatenation of two strings or two bit-vectors. -/
def concat (a b : Term) : Except Failure Term := do
  if a.sort == .string then
    unless b.sort == .string do throw rejected
    mkApp .strConcat [a, b]
  else
    unless a.sort.isBitVec && b.sort.isBitVec do throw rejected
    mkApp .concat [a, b]

/-- `a > 0`, with `0` of the operand's sort. A string compares by reading
the other side as a term, which a number is not; other classes have no `>`
at all. -/
def positive (a : Term) : Except Failure Term := do
  let s := shapeOf a
  if s.isArith || s.isBits || s.isFloat then
    let zero ← castZero a
    compare .gt a zero
  else if s == .string then
    throw (.unchecked "AttributeError" "'int' object has no attribute 'as_ast'")
  else
    throw (.unchecked "TypeError" s!"'>' not supported between instances of '{className a}' and 'int'")

/-- A format that floating-point sorts may have. -/
def validFormat (e s : Nat) : Bool := e ≥ 2 && s ≥ 3

/-- Whether a term is a rounding mode. -/
def isRounding (t : Term) : Bool := t.sort == .roundingMode

/-- Whether a term is floating-point. -/
def isFloatTerm (t : Term) : Bool := t.sort.isFloat

/-- Floating-point operation with a rounding mode and unified operands. -/
def fpRounded (f : Fn) (rm : Term) (xs : List Term) : Except Failure Term := do
  let ys ← unifyFloats xs
  unless isRounding rm do throw rejected
  unless ys.any isFloatTerm do throw rejected
  mkApp f (rm :: ys)

/-- Floating-point operation on unified operands, one at least being
floating-point. -/
def fpPlain (f : Fn) (xs : List Term) : Except Failure Term := do
  let ys ← unifyFloats xs
  unless ys.any isFloatTerm do throw rejected
  mkApp f ys

/-- A floating-point class test of one operand. -/
def fpClassOf (c : FpClass) (a : Term) : Except Failure Term := do
  let xs ← unifyFloats [a]
  expect a SmtSort.isFloat
  mkApp (.fpClass c) xs

/-- Operator depth allowed when the binding re-dispatches an operator. -/
def dispatchFuel : Nat := 4

/-! ## The dispatch table -/

/-- A builder of the dispatch table, by the arguments and indices it reads:
the table's combinators (`_unary`, `_binary`, `_left_fold`, ...) and its
builders of indexed kinds, quantifiers and applications. -/
inductive Builder where
  /-- Every argument at once. -/
  | all (f : List Term → Except Failure Term)
  /-- A strict left fold of a binary step over the arguments. -/
  | fold (step : Term → Term → Except Failure Term)
  | unary (f : Term → Except Failure Term)
  | binary (f : Term → Term → Except Failure Term)
  | ternary (f : Term → Term → Term → Except Failure Term)
  | quaternary (f : Term → Term → Term → Term → Except Failure Term)
  /-- One index and one argument. -/
  | indexed (f : Nat → Term → Except Failure Term)
  /-- Two indices and one argument. -/
  | indexed₂ (f : Nat → Nat → Term → Except Failure Term)
  /-- One index and two arguments. -/
  | indexedBinary (f : Nat → Term → Term → Except Failure Term)
  /-- Two indices and two arguments. -/
  | indexed₂Binary (f : Nat → Nat → Term → Term → Except Failure Term)
  /-- The bound variables, one at least, and the body after them. -/
  | binder (f : List Term → Term → Except Failure Term)
  /-- A function and its actual arguments, one at least. -/
  | apply (f : Term → List Term → Except Failure Term)

/-- Run a builder on the arguments and indices of a request; `none` when
they are not of the form the builder reads. -/
def Builder.run : Builder → List Term → List Nat → Option (Except Failure Term)
  | .all f, args@(_ :: _ :: _), _ => some (f args)
  | .fold step, a :: rest, _ => some (rest.foldlM step a)
  | .unary f, [a], _ => some (f a)
  | .binary f, [a, b], _ => some (f a b)
  | .ternary f, [a, b, c], _ => some (f a b c)
  | .quaternary f, [a, b, c, d], _ => some (f a b c d)
  | .indexed f, [a], [i] => some (f i a)
  | .indexed₂ f, [a], [i, j] => some (f i j a)
  | .indexedBinary f, [a, b], [i] => some (f i a b)
  | .indexed₂Binary f, [a, b], [i, j] => some (f i j a b)
  | .binder f, v :: b :: rest, _ =>
    some (f (v :: b :: rest).dropLast ((b :: rest).getLast (List.cons_ne_nil b rest)))
  | .apply f, g :: a :: rest, _ => some (f g (a :: rest))
  | _, _, _ => none

/-- A quantifier over constants, which become its bound variables. -/
def quantifier (b : Binder) (vars : List Term) (body : Term) : Except Failure Term := do
  for v in vars do
    checkConfig v.isConst s!"Expected bound variable in quantifier, got '{bindingTermText v}'"
  expect body (· == .bool)
  pure (bindConsts b vars body)

/-- Application of a function, which is an array: a select on it. -/
def applyFun (f : Term) (actuals : List Term) : Except Failure Term := do
  match f.sort with
  | .array d _ =>
    unless actuals.length ≤ d.length do throw rejected
    let xs ← (actuals.zip d).mapM (fun (x, s) => castTo s x)
    mkApp .select (f :: xs)
  | s => throw (.config
      s!"Expected function-sorted first argument to OP_UF_APPLY, got sort '{bindingSortText s}'")

/-- The builder of each operator kind. -/
def dispatch : OpKind → Builder
  | .distinct => .all fun args => do let xs ← unifyAll args; mkApp .distinct xs
  | .equal => .binary (compare .eq)
  | .ite => .ternary fun c a b => do
    let c ← castTo .bool c
    let (x, y) ← unify a b
    mkApp .ite [c, x, y]
  | .and => .fold fun a b => do let xs ← unifyAll [a, b]; mkApp .and xs
  | .or => .fold fun a b => do let xs ← unifyAll [a, b]; mkApp .or xs
  | .not => .unary fun a => do let x ← castTo .bool a; mkApp .not [x]
  | .xor => .binary fun a b => do mkApp .xor [← castTo .bool a, ← castTo .bool b]
  | .implies => .binary fun a b => do mkApp .implies [← castTo .bool a, ← castTo .bool b]
  | .arraySelect => .binary fun a i => do
    unless a.sort.isArray do throw rejected
    let d := a.sort.domain.headD .bool
    mkApp .select [a, ← castTo d i]
  | .arrayStore => .ternary fun a i v => do
    unless a.sort.isArray do throw rejected
    let d := a.sort.domain.headD .bool
    let i ← castTo d i
    let v ← castTo a.sort.range v
    mkApp .store [a, i, v]
  | .bvExtract => .indexed₂ fun hi lo a => do
    unless a.sort.isBitVec do throw (.config "Expected bit-vector argument to OP_BV_EXTRACT")
    let w := a.sort.width
    checkConfig (w > hi && hi ≥ lo)
      s!"Invalid indices ({hi}, {lo}) for OP_BV_EXTRACT on width {w}"
    mkApp (.extract hi lo) [a]
  | .bvRepeat => .indexed fun n a => do
    checkConfig (n ≥ 1) s!"Invalid repeat count {n} for OP_BV_REPEAT"
    expect a SmtSort.isBitVec
    mkApp (.repeat n) [a]
  | .bvRotateLeft => .indexed fun n a => mkApp (.rotateLeft n) [a]
  | .bvRotateRight => .indexed fun n a => mkApp (.rotateRight n) [a]
  | .bvSignExtend => .indexed fun n a => do expect a SmtSort.isBitVec; mkApp (.signExtend n) [a]
  | .bvZeroExtend => .indexed fun n a => do expect a SmtSort.isBitVec; mkApp (.zeroExtend n) [a]
  | .bvAdd => .binary (operate dispatchFuel .add)
  | .bvAnd => .binary (operate dispatchFuel .and)
  | .bvAshr => .binary (operate dispatchFuel .shr)
  | .bvConcat => .binary concat
  | .bvLshr => .binary (bitsOp (.bvBinary .lshr))
  | .bvMult => .binary (operate dispatchFuel .mul)
  | .bvNand => .binary fun a b => mkApp (.bvBinary .nand) [a, b]
  | .bvNeg => .unary negate
  | .bvNor => .binary fun a b => mkApp (.bvBinary .nor) [a, b]
  | .bvNot => .unary complement
  | .bvOr => .binary (operate dispatchFuel .or)
  | .bvSdiv => .binary (operate dispatchFuel .div)
  | .bvSge => .binary (compare .ge)
  | .bvSgt => .binary (compare .gt)
  | .bvShl => .binary (operate dispatchFuel .shl)
  | .bvSle => .binary (compare .le)
  | .bvSlt => .binary (compare .lt)
  | .bvSmod => .binary fun a b => mkApp (.bvBinary .smod) [a, b]
  | .bvSrem => .binary (bitsOp (.bvBinary .srem))
  | .bvSub => .binary (operate dispatchFuel .sub)
  | .bvUdiv => .binary (bitsOp (.bvBinary .udiv))
  | .bvUge => .binary (bitsOp (.bvCompare .uge))
  | .bvUgt => .binary (bitsOp (.bvCompare .ugt))
  | .bvUle => .binary (bitsOp (.bvCompare .ule))
  | .bvUlt => .binary (bitsOp (.bvCompare .ult))
  | .bvUrem => .binary (bitsOp (.bvBinary .urem))
  | .bvXnor => .binary fun a b => mkApp (.bvBinary .xnor) [a, b]
  | .bvXor => .binary (operate dispatchFuel .xor)
  | .fpAbs => .unary fun a => do let xs ← unifyFloats [a]; mkApp .fpAbs xs
  | .fpAdd => .ternary fun rm a b => fpRounded .fpAdd rm [a, b]
  | .fpDiv => .ternary fun rm a b => fpRounded .fpDiv rm [a, b]
  | .fpEq => .binary fun a b => fpPlain (.fpCompare .eq) [a, b]
  | .fpFma => .quaternary fun rm a b c => fpRounded .fpFma rm [a, b, c]
  | .fpFp => .ternary fun s e m => do
    unless s.sort.isBitVec && e.sort.isBitVec && m.sort.isBitVec do throw rejected
    unless s.sort.width == 1 do throw rejected
    mkApp .fpFields [s, e, m]
  | .fpGeq => .binary fun a b => fpPlain (.fpCompare .geq) [a, b]
  | .fpGt => .binary fun a b => fpPlain (.fpCompare .gt) [a, b]
  | .fpIsInf => .unary (fpClassOf .isInfinite)
  | .fpIsNan => .unary (fpClassOf .isNaN)
  | .fpIsNeg => .unary (fpClassOf .isNegative)
  | .fpIsNormal => .unary (fpClassOf .isNormal)
  | .fpIsPos => .unary (fpClassOf .isPositive)
  | .fpIsSubnormal => .unary (fpClassOf .isSubnormal)
  | .fpIsZero => .unary (fpClassOf .isZero)
  | .fpLeq => .binary fun a b => fpPlain (.fpCompare .leq) [a, b]
  | .fpLt => .binary fun a b => fpPlain (.fpCompare .lt) [a, b]
  | .fpMax => .binary fun a b => fpPlain .fpMax [a, b]
  | .fpMin => .binary fun a b => fpPlain .fpMin [a, b]
  | .fpMul => .ternary fun rm a b => fpRounded .fpMul rm [a, b]
  | .fpNeg => .unary fun a => do let xs ← unifyFloats [a]; mkApp .fpNeg xs
  | .fpRem => .binary fun a b => fpPlain .fpRem [a, b]
  | .fpRti => .binary fun rm a => do
    let xs ← unifyFloats [a]
    unless isRounding rm && isFloatTerm a do throw rejected
    mkApp .fpRoundToIntegral (rm :: xs)
  | .fpSqrt => .binary fun rm a => do
    let xs ← unifyFloats [a]
    unless isRounding rm && isFloatTerm a do throw rejected
    mkApp .fpSqrt (rm :: xs)
  | .fpSub => .ternary fun rm a b => fpRounded .fpSub rm [a, b]
  | .fpToFpFromBv => .indexed₂ fun e s v => do
    unless validFormat e s && v.sort.isBitVec do throw rejected
    mkApp (.toFp e s) [v]
  | .fpToFpFromFp => .indexed₂Binary fun e s rm v => do
    unless validFormat e s && isRounding rm && isFloatTerm v do throw rejected
    mkApp (.toFp e s) [rm, v]
  | .fpToFpFromReal => .indexed₂Binary fun e s rm v => do
    unless validFormat e s && isRounding rm && v.sort == .real do throw rejected
    mkApp (.toFp e s) [rm, v]
  | .fpToFpFromSbv => .indexed₂Binary fun e s rm v => do
    unless validFormat e s && isRounding rm && v.sort.isBitVec do throw rejected
    mkApp (.toFp e s) [rm, v]
  | .fpToFpFromUbv => .indexed₂Binary fun e s rm v => do
    unless validFormat e s && isRounding rm && v.sort.isBitVec do throw rejected
    mkApp (.toFpUnsigned e s) [rm, v]
  | .fpToReal => .unary fun a => do expect a SmtSort.isFloat; mkApp .fpToReal [a]
  | .fpToSbv => .indexedBinary fun n rm a => do
    unless n ≥ 1 && isRounding rm && isFloatTerm a do throw rejected
    mkApp (.fpToSbv n) [rm, a]
  | .fpToUbv => .indexedBinary fun n rm a => do
    unless n ≥ 1 && isRounding rm && isFloatTerm a do throw rejected
    mkApp (.fpToUbv n) [rm, a]
  | .intAbs => .unary fun a => do
    let c ← positive a
    let n ← negate a
    let (x, y) ← unify a n
    mkApp .ite [c, x, y]
  | .intAdd | .realAdd => .fold (operate dispatchFuel .add)
  | .intDiv | .realDiv => .fold (operate dispatchFuel .div)
  | .intMul | .realMul => .fold (operate dispatchFuel .mul)
  | .intSub | .realSub => .fold (operate dispatchFuel .sub)
  | .intGe | .realGe => .binary (compare .ge)
  | .intGt | .realGt => .binary (compare .gt)
  | .intLe | .realLe => .binary (compare .le)
  | .intLt | .realLt => .binary (compare .lt)
  | .intMod => .binary (operate dispatchFuel .mod)
  | .intNeg | .realNeg => .unary negate
  | .intToReal => .unary fun a =>
    if (shapeOf a).isBoolean then mkApp .ite [a, Term.ofRat 1, Term.ofRat 0]
    else if (shapeOf a).isArith then do expect a (· == .int); mkApp .toReal [a]
    else throw (noMethod a "is_int")
  | .realIsInt => .unary fun a =>
    if (shapeOf a).isArith then do expect a (· == .real); mkApp .isInt [a]
    else throw (noMethod a "is_real")
  | .realToInt => .unary fun a =>
    if (shapeOf a).isArith then do expect a (· == .real); mkApp .toInt [a]
    else throw (noMethod a "is_real")
  | .quantAll => .binder (quantifier .all)
  | .quantSome => .binder (quantifier .some)
  | .strAt => .binary fun s i =>
    if shapeOf s == .string then mkApp .strAt [s, i] else throw (noMethod s "at")
  | .strConcat => .fold concat
  | .strContains => .binary fun a b => do
    expect a (· == .string); expect b (· == .string); mkApp .strContains [a, b]
  | .strFromInt => .unary fun a => mkApp .strFromInt [a]
  | .strIndexof => .ternary fun s t o => do
    expect s (· == .string); expect t (· == .string); mkApp .strIndexof [s, t, o]
  | .strLe => .binary fun a b => mkApp .strLe [a, b]
  | .strLen => .unary fun a => do expect a (· == .string); mkApp .strLen [a]
  | .strLt => .binary fun a b => mkApp .strLt [a, b]
  | .strPrefixof => .binary fun a b => do
    expect a (· == .string); expect b (· == .string); mkApp .strPrefixof [a, b]
  | .strReplace => .ternary fun a b c => do
    expect a (· == .string); expect b (· == .string); expect c (· == .string)
    mkApp .strReplace [a, b, c]
  | .strSubstr => .ternary fun s o l => do expect s (· == .string); mkApp .strSubstr [s, o, l]
  | .strSuffixof => .binary fun a b => do
    expect a (· == .string); expect b (· == .string); mkApp .strSuffixof [a, b]
  | .strToInt => .unary fun a => do expect a (· == .string); mkApp .strToInt [a]
  | .ufApply => .apply applyFun
  | .bvExtRotateLeft => .binary (bitsOp (.bvBinary .extRotateLeft))
  | .bvExtRotateRight => .binary (bitsOp (.bvBinary .extRotateRight))
  | .bvRedand => .unary fun a => do expect a SmtSort.isBitVec; mkApp .bvRedAnd [a]
  | .bvRedor => .unary fun a => do expect a SmtSort.isBitVec; mkApp .bvRedOr [a]

/-- Build the term of an operator kind from checked arguments and indices;
arguments or indices that are not of the form the kind's builder reads are
rejected. -/
def build (kind : OpKind) (args : List Term) (idx : List Nat) : Except Failure Term :=
  match (dispatch kind).run args idx with
  | some r => r
  | none => throw rejected

/-- Wrap a built term, keeping the function sort of the first argument
that has one equal to the result's sort. -/
def wrapResult (t : Term) (args : List TermHandle) : TermHandle :=
  if t.sort.isArray then
    ⟨t, (args.filterMap TermHandle.trackedFun).find? (fun s => s.native == t.sort)⟩
  else ⟨t, none⟩

/-- Check a request's argument and index counts against its operator kind,
and that every index is a non-negative integer. -/
def validate (kindName : String) (kind : OpKind) (args : List Handle) (indices : List IndexArg) :
    Except Failure Unit := do
  let n := args.length
  match kind.arity with
  | .atLeastTwo => checkConfig (n ≥ 2) s!"Expected at least 2 arguments to '{kindName}', got {n}"
  | .exactly k => checkConfig (n == k) s!"Expected {k} arguments to '{kindName}', got {n}"
  checkConfig (indices.length == kind.indexCount)
    s!"Expected {kind.indexCount} indices to '{kindName}', got {indices.length}"
  for i in indices do
    checkConfig i.nat?.isSome
      s!"Invalid index '{i.text}' to '{kindName}', expected a non-negative integer"

/-- An application of a function whose sort records its arity must give it
that many arguments. -/
def checkApplyArity (args : List Handle) : Except Failure Unit :=
  match args.head? with
  | some (.term f) =>
    match f.tracked with
    | some s =>
      if s.isFun then
        let arity := (s.funDomain.getD []).length
        checkConfig (args.length - 1 == arity)
          s!"Expected {arity} arguments to function in 'OP_UF_APPLY', got {args.length - 1}"
      else pure ()
    | none => pure ()
  | _ => pure ()

/-- Build the term of a checked request; a rejection by the binding or the
solver becomes the failure naming the kind. -/
def finish (kindName : String) (kind : OpKind) (terms : List TermHandle) (idx : List Nat) :
    Except Failure TermHandle :=
  match build kind (terms.map (·.native)) idx with
  | .ok t => pure (wrapResult t terms)
  | .error (.native _) => throw (.rejected s!"Z3 rejected arguments to '{kindName}': ")
  | .error e => throw e

/-- Check a request against its operator kind and build the term. -/
def mkTerm (kindName : String) (args : List Handle) (indices : List IndexArg) :
    Except Failure TermHandle := do
  let some kind := OpKind.ofName? kindName
    | throw (.config s!"Unsupported operator kind '{kindName}' in Z3Solver.mk_term")
  validate kindName kind args indices
  if kind == .ufApply then checkApplyArity args
  let terms ← args.mapM Handle.asTerm
  finish kindName kind terms (indices.filterMap IndexArg.nat?)

/-- A function as a lambda over variables (constants) and a body; the
domain sorts are those of the variables' handles. -/
def mkFun (name : String) (args : List Handle) (body : Handle) : Except Failure TermHandle := do
  checkConfig (args.length ≥ 1) s!"Function '{name}' needs at least one argument"
  let vars ← args.mapM Handle.asTerm
  for v in vars do
    checkConfig v.native.isConst
      s!"Expected variable as argument of function '{name}', got '{bindingTermText v.native}'"
  let b ← body.asTerm
  let fn := bindConsts .lambda (vars.map (·.native)) b.native
  pure ⟨fn, some ⟨fn.sort, some (vars.map (·.sort))⟩⟩

end SmtBackend.Build
