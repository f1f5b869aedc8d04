import SmtBackend.Sort

/-!
# Solver terms

Terms are trees of function symbols applied to arguments, bound variables
(de Bruijn indices, innermost binder first, last declared variable at index
zero), and binders: universal and existential quantifiers and lambdas.
Two terms are the same term exactly when they are equal as trees, so
equality of terms is structural.

Literals are nullary symbols: Booleans, integers, reals, bit-vectors (value
and width), strings (Unicode code points), rounding modes and floating-point
values in their IEEE 754 fields.
-/

namespace SmtBackend

/-- IEEE 754 rounding modes. -/
inductive RoundingMode where
  | nearestEven | nearestAway | towardPositive | towardNegative | towardZero
  deriving BEq, DecidableEq, Repr, Hashable

/-- SMT-LIB name of a rounding mode. -/
def RoundingMode.name : RoundingMode → String
  | .nearestEven => "roundNearestTiesToEven"
  | .nearestAway => "roundNearestTiesToAway"
  | .towardPositive => "roundTowardPositive"
  | .towardNegative => "roundTowardNegative"
  | .towardZero => "roundTowardZero"

/-- A floating-point value of some format: NaN, a signed infinity, a signed
zero, or nonzero finite fields (biased exponent, zero for subnormals, and
the trailing significand). -/
inductive FloatValue where
  | nan
  | infinity (negative : Bool)
  | zero (negative : Bool)
  | finite (negative : Bool) (biasedExponent significand : Nat)
  deriving BEq, DecidableEq, Repr, Hashable

/-- Binary operators of bit-vectors of one width. -/
inductive BvBinary where
  | add | sub | mul | udiv | sdiv | urem | srem | smod
  | and | or | xor | nand | nor | xnor | shl | lshr | ashr
  | extRotateLeft | extRotateRight
  deriving BEq, DecidableEq, Repr, Hashable

/-- SMT-LIB name of a binary bit-vector operator. -/
def BvBinary.name : BvBinary → String
  | .add => "bvadd" | .sub => "bvsub" | .mul => "bvmul" | .udiv => "bvudiv"
  | .sdiv => "bvsdiv" | .urem => "bvurem" | .srem => "bvsrem" | .smod => "bvsmod"
  | .and => "bvand" | .or => "bvor" | .xor => "bvxor" | .nand => "bvnand"
  | .nor => "bvnor" | .xnor => "bvxnor" | .shl => "bvshl" | .lshr => "bvlshr"
  | .ashr => "bvashr" | .extRotateLeft => "ext_rotate_left"
  | .extRotateRight => "ext_rotate_right"

/-- Whether a bit-vector operator takes any number of arguments (two at
least), as the associative ones do. -/
def BvBinary.isAssociative : BvBinary → Bool
  | .add | .mul | .and | .or | .xor => true
  | _ => false

/-- Comparisons of bit-vectors. -/
inductive BvCompare where
  | ule | ult | uge | ugt | sle | slt | sge | sgt
  deriving BEq, DecidableEq, Repr, Hashable

/-- SMT-LIB name of a bit-vector comparison. -/
def BvCompare.name : BvCompare → String
  | .ule => "bvule" | .ult => "bvult" | .uge => "bvuge" | .ugt => "bvugt"
  | .sle => "bvsle" | .slt => "bvslt" | .sge => "bvsge" | .sgt => "bvsgt"

/-- Comparisons of floating-point numbers. -/
inductive FpCompare where
  | eq | leq | lt | geq | gt
  deriving BEq, DecidableEq, Repr, Hashable

/-- SMT-LIB name of a floating-point comparison. -/
def FpCompare.name : FpCompare → String
  | .eq => "fp.eq" | .leq => "fp.leq" | .lt => "fp.lt" | .geq => "fp.geq" | .gt => "fp.gt"

/-- Classification tests of floating-point numbers. -/
inductive FpClass where
  | isInfinite | isNaN | isNegative | isNormal | isPositive | isSubnormal | isZero
  deriving BEq, DecidableEq, Repr, Hashable

/-- SMT-LIB name of a floating-point classification test. -/
def FpClass.name : FpClass → String
  | .isInfinite => "fp.isInfinite" | .isNaN => "fp.isNaN" | .isNegative => "fp.isNegative"
  | .isNormal => "fp.isNormal" | .isPositive => "fp.isPositive"
  | .isSubnormal => "fp.isSubnormal" | .isZero => "fp.isZero"

/-- Function symbols. Parameterized symbols carry their indices. -/
inductive Fn where
  /-- An uninterpreted constant (the empty name is the null name). -/
  | const (name : String) (sort : SmtSort)
  | boolLit (b : Bool)
  | intLit (v : Int)
  | realLit (v : Rat)
  | bvLit (width value : Nat)
  /-- A string literal: its characters as code points, surrogates included. -/
  | strLit (codes : List Nat)
  | rmLit (m : RoundingMode)
  | fpLit (exponent significand : Nat) (v : FloatValue)
  | eq | distinct | ite | and | or | not | xor | implies
  | add | sub | mul | intDiv | div | mod | neg | le | lt | ge | gt | toReal | toInt | isInt
  | select | store
  | bvBinary (op : BvBinary)
  | bvCompare (op : BvCompare)
  | bvNot | bvNeg | concat | bvRedAnd | bvRedOr
  | extract (high low : Nat)
  | repeat (count : Nat)
  | zeroExtend (count : Nat)
  | signExtend (count : Nat)
  | rotateLeft (count : Nat)
  | rotateRight (count : Nat)
  | fpAbs | fpNeg | fpAdd | fpSub | fpMul | fpDiv | fpFma | fpRem | fpSqrt
  | fpRoundToIntegral | fpMin | fpMax
  | fpCompare (op : FpCompare)
  | fpClass (op : FpClass)
  /-- The floating-point number of sign, exponent and significand fields. -/
  | fpFields
  /-- Conversion into a format: from bits, another format, a real or a signed
  bit-vector, depending on the arguments. -/
  | toFp (exponent significand : Nat)
  | toFpUnsigned (exponent significand : Nat)
  | fpToReal
  | fpToSbv (width : Nat)
  | fpToUbv (width : Nat)
  | strConcat | strLen | strAt | strSubstr | strContains | strPrefixof | strSuffixof
  | strIndexof | strReplace | strToInt | strFromInt | strLe | strLt
  /-- The element of the given number in the universe of an uninterpreted
  sort, as models name them. -/
  | element (sort : String) (index : Nat)
  /-- The array of the given sort that holds its argument everywhere. -/
  | constArray (sort : SmtSort)
  deriving DecidableEq, Repr, Hashable

/-- The three binders. -/
inductive Binder where
  | all | some | lambda
  deriving DecidableEq, Repr, Hashable

/-- SMT-LIB keyword of a binder. -/
def Binder.keyword : Binder → String
  | .all => "forall" | .some => "exists" | .lambda => "lambda"

/-- A term. -/
inductive Term where
  | var (index : Nat) (sort : SmtSort)
  | app (f : Fn) (args : List Term)
  | bind (binder : Binder) (decls : List (String × SmtSort)) (body : Term)
  deriving Repr, Hashable, Inhabited

mutual
/-- Structural equality of terms. -/
def Term.beq : Term → Term → Bool
  | .var i s, .var i' s' => i == i' && s == s'
  | .app f args, .app f' args' => f == f' && Term.beqAll args args'
  | .bind b ds body, .bind b' ds' body' => b == b' && ds == ds' && Term.beq body body'
  | _, _ => false
/-- `Term.beq` over two lists of terms, position by position. -/
def Term.beqAll : List Term → List Term → Bool
  | [], [] => true
  | t :: ts, t' :: ts' => Term.beq t t' && Term.beqAll ts ts'
  | _, _ => false
end

instance : BEq Term := ⟨Term.beq⟩

namespace Term

mutual
theorem beq_refl : ∀ t : Term, Term.beq t t = true
  | .var _ _ => by simp [Term.beq]
  | .app _ args => by simp [Term.beq, beqAll_refl args]
  | .bind _ _ body => by simp [Term.beq, beq_refl body]
theorem beqAll_refl : ∀ l : List Term, Term.beqAll l l = true
  | [] => rfl
  | t :: l => by simp [Term.beqAll, beq_refl t, beqAll_refl l]
end

mutual
theorem eq_of_beq_true : ∀ t u : Term, Term.beq t u = true → t = u
  | .app f args, u, h => by
    cases u with
    | app f' args' =>
      simp only [Term.beq, Bool.and_eq_true] at h
      rw [eq_of_beq h.1, eqAll_of_beqAll_true args args' h.2]
    | _ => simp [Term.beq] at h
  | .bind b ds body, u, h => by
    cases u with
    | bind b' ds' body' =>
      simp only [Term.beq, Bool.and_eq_true] at h
      rw [eq_of_beq h.1.1, eq_of_beq h.1.2, eq_of_beq_true body body' h.2]
    | _ => simp [Term.beq] at h
  | .var _ _, u, h => by
    cases u <;> simp_all [Term.beq]
theorem eqAll_of_beqAll_true : ∀ l l' : List Term, Term.beqAll l l' = true → l = l'
  | [], [], _ => rfl
  | t :: l, t' :: l', h => by
    simp only [Term.beqAll, Bool.and_eq_true] at h
    rw [eq_of_beq_true t t' h.1, eqAll_of_beqAll_true l l' h.2]
  | [], _ :: _, h | _ :: _, [], h => nomatch h
end

/-- Terms compare equal exactly when they are the same term. -/
instance : LawfulBEq Term where
  rfl := beq_refl _
  eq_of_beq := eq_of_beq_true _ _

end Term

namespace Fn

/-- Whether all sorts in a list equal the first. -/
def allSame : List SmtSort → Bool
  | [] => true
  | s :: rest => rest.all (· == s)

/-- The result sort of a symbol applied to arguments of the given sorts, if
the solver accepts the application. -/
def result? : Fn → List SmtSort → Option SmtSort
  | .const _ s, [] => some s
  | .boolLit _, [] => some .bool
  | .intLit _, [] => some .int
  | .realLit _, [] => some .real
  | .bvLit w _, [] => some (.bitVec w)
  | .strLit _, [] => some .string
  | .rmLit _, [] => some .roundingMode
  | .fpLit e s _, [] => some (.float e s)
  | .eq, [a, b] => if a == b then some .bool else none
  | .distinct, ss => if !ss.isEmpty && allSame ss then some .bool else none
  | .ite, [.bool, a, b] => if a == b then some a else none
  | .and, ss | .or, ss => if !ss.isEmpty && ss.all (· == .bool) then some .bool else none
  | .not, [.bool] => some .bool
  | .xor, [.bool, .bool] | .implies, [.bool, .bool] => some .bool
  | .add, ss@(s :: _) | .sub, ss@(s :: _) | .mul, ss@(s :: _) =>
    if s.isArith && allSame ss then some s else none
  | .intDiv, [.int, .int] | .mod, [.int, .int] => some .int
  | .div, [.real, .real] => some .real
  | .neg, [s] => if s.isArith then some s else none
  | .le, [a, b] | .lt, [a, b] | .ge, [a, b] | .gt, [a, b] =>
    if a.isArith && a == b then some .bool else none
  | .toReal, [.int] => some .real
  | .toInt, [.real] => some .int
  | .isInt, [.real] => some .bool
  | .select, .array d r :: idx => if idx == d then some r else none
  | .store, .array d r :: rest =>
    if rest.length == d.length + 1 && rest.take d.length == d && rest.getLast? == some r then
      some (.array d r) else none
  | .bvBinary _, [.bitVec a, .bitVec b] => if a == b then some (.bitVec a) else none
  | .bvBinary op, ss@(.bitVec a :: _ :: _ :: _) =>
    if op.isAssociative && ss.all (· == .bitVec a) then some (.bitVec a) else none
  | .bvCompare _, [.bitVec a, .bitVec b] => if a == b then some .bool else none
  | .bvNot, [.bitVec w] | .bvNeg, [.bitVec w] => some (.bitVec w)
  | .concat, [.bitVec a, .bitVec b] => some (.bitVec (a + b))
  | .bvRedAnd, [.bitVec _] | .bvRedOr, [.bitVec _] => some (.bitVec 1)
  | .extract h l, [.bitVec w] => if l ≤ h && h < w then some (.bitVec (h - l + 1)) else none
  | .repeat n, [.bitVec w] => if n ≥ 1 then some (.bitVec (w * n)) else none
  | .zeroExtend n, [.bitVec w] | .signExtend n, [.bitVec w] => some (.bitVec (w + n))
  | .rotateLeft _, [.bitVec w] | .rotateRight _, [.bitVec w] => some (.bitVec w)
  | .fpAbs, [.float e s] | .fpNeg, [.float e s] => some (.float e s)
  | .fpAdd, [.roundingMode, a, b] | .fpSub, [.roundingMode, a, b]
  | .fpMul, [.roundingMode, a, b] | .fpDiv, [.roundingMode, a, b] =>
    if a.isFloat && a == b then some a else none
  | .fpFma, [.roundingMode, a, b, c] => if a.isFloat && a == b && b == c then some a else none
  | .fpRem, [a, b] | .fpMin, [a, b] | .fpMax, [a, b] => if a.isFloat && a == b then some a else none
  | .fpSqrt, [.roundingMode, .float e s] | .fpRoundToIntegral, [.roundingMode, .float e s] =>
    some (.float e s)
  | .fpCompare _, [a, b] => if a.isFloat && a == b then some .bool else none
  | .fpClass _, [.float ..] => some .bool
  | .fpFields, [.bitVec 1, .bitVec e, .bitVec m] =>
    if e ≥ 2 && m ≥ 1 then some (.float e (m + 1)) else none
  | .toFp e s, [.bitVec w] => if w == e + s then some (.float e s) else none
  | .toFp e s, [.roundingMode, .float ..] | .toFp e s, [.roundingMode, .real]
  | .toFp e s, [.roundingMode, .bitVec _] => some (.float e s)
  | .toFpUnsigned e s, [.roundingMode, .bitVec _] => some (.float e s)
  | .fpToReal, [.float ..] => some .real
  | .fpToSbv n, [.roundingMode, .float ..] | .fpToUbv n, [.roundingMode, .float ..] =>
    if n ≥ 1 then some (.bitVec n) else none
  | .strConcat, ss => if !ss.isEmpty && ss.all (· == .string) then some .string else none
  | .strLen, [.string] => some .int
  | .strAt, [.string, .int] => some .string
  | .strSubstr, [.string, .int, .int] => some .string
  | .strContains, [.string, .string] | .strPrefixof, [.string, .string]
  | .strSuffixof, [.string, .string] => some .bool
  | .strIndexof, [.string, .string, .int] => some .int
  | .strReplace, [.string, .string, .string] => some .string
  | .strToInt, [.string] => some .int
  | .strFromInt, [.int] => some .string
  | .strLe, [.string, .string] | .strLt, [.string, .string] => some .bool
  | .element s _, [] => some (.named s)
  | .constArray (.array d r), [v] => if v == r then some (.array d r) else none
  | _, _ => none

/-- Whether a symbol is associative, so that nested applications of it
print as one application. -/
def isAssociative : Fn → Bool
  | .and | .or | .xor | .add | .mul | .concat | .strConcat => true
  | .bvBinary op => op.isAssociative
  | _ => false

/-- Whether a symbol is a literal (a value of its sort). -/
def isLiteral : Fn → Bool
  | .boolLit _ | .intLit _ | .realLit _ | .bvLit .. | .strLit _ | .rmLit _ | .fpLit .. => true
  | _ => false

end Fn

namespace Term

mutual
/-- The sort of a term; ill-formed applications get the Boolean sort. -/
def sort : Term → SmtSort
  | .var _ s => s
  | .app f args => ((f.result? (sortAll args)).getD .bool)
  | .bind .lambda decls body => .array (decls.map (·.2)) body.sort
  | .bind _ _ _ => .bool
/-- The sorts of a list of terms, in order. -/
def sortAll : List Term → List SmtSort
  | [] => []
  | t :: ts => t.sort :: sortAll ts
end

theorem sortAll_eq (ts : List Term) : sortAll ts = ts.map sort := by
  induction ts with
  | nil => rfl
  | cons t ts ih => simp [sortAll, ih]

/-- An uninterpreted constant. -/
def const (name : String) (s : SmtSort) : Term := .app (.const name s) []

/-- The Boolean literal. -/
def ofBool (b : Bool) : Term := .app (.boolLit b) []

/-- An integer literal. -/
def ofInt (v : Int) : Term := .app (.intLit v) []

/-- A real literal. -/
def ofRat (v : Rat) : Term := .app (.realLit v) []

/-- A bit-vector literal; the value is taken modulo two to the width. -/
def ofBits (width value : Nat) : Term := .app (.bvLit width (value % Nat.pow 2 width)) []

/-- A string literal of code points. -/
def ofCodes (cs : List Nat) : Term := .app (.strLit cs) []

/-- A string literal of the characters of a text. -/
def ofString (s : String) : Term := ofCodes (s.toList.map Char.toNat)

/-- Whether a term is a literal. -/
def isLiteral : Term → Bool
  | .app f [] => f.isLiteral
  | _ => false

/-- Whether a term is a binder (quantifier or lambda). -/
def isBinder : Term → Bool
  | .bind .. => true
  | _ => false

/-- Whether a term is an uninterpreted constant. -/
def isConst : Term → Bool
  | .app (.const ..) [] => true
  | _ => false

mutual
/-- Every occurrence of a free constant in a term, in reading order. -/
def constants : Term → List (String × SmtSort)
  | .var _ _ => []
  | .app (.const n s) [] => [(n, s)]
  | .app _ args => constantsAll args
  | .bind _ _ body => constants body
/-- `constants` over a list of terms, in order. -/
def constantsAll : List Term → List (String × SmtSort)
  | [] => []
  | t :: ts => constants t ++ constantsAll ts
end

mutual
/-- Replace the subterms outside binders that a list pairs with a
replacement, the outermost first. -/
def replace (pairs : List (Term × Term)) : Term → Term
  | .app f args =>
    match pairs.lookup (.app f args) with
    | some r => r
    | none => .app f (replaceAll pairs args)
  | t => t
/-- `replace` over a list of terms. -/
def replaceAll (pairs : List (Term × Term)) : List Term → List Term
  | [] => []
  | t :: ts => replace pairs t :: replaceAll pairs ts
end

end Term

end SmtBackend
