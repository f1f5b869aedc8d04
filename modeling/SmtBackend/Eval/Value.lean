import SmtBackend.Eval.Float

/-!
# Values

The values of the solver are the literals of each sort and the elements
of the universes of uninterpreted sorts. This module reads literals back
into numbers, bit-vectors, strings, rounding modes and floating-point
values, and gives the value that model completion assigns a constant of
each sort.
-/

namespace SmtBackend.Eval

open SmtBackend.Float (Format)

/-- The Boolean of a literal. -/
def asBool? : Term → Option Bool
  | .app (.boolLit b) [] => some b
  | _ => none

/-- The integer of a literal. -/
def asInt? : Term → Option Int
  | .app (.intLit v) [] => some v
  | _ => none

/-- The rational of a real literal. -/
def asRat? : Term → Option Rat
  | .app (.realLit v) [] => some v
  | _ => none

/-- Width and value of a bit-vector literal. -/
def asBits? : Term → Option (Nat × Nat)
  | .app (.bvLit w v) [] => some (w, v)
  | _ => none

/-- The code points of a string literal. -/
def asCodes? : Term → Option (List Nat)
  | .app (.strLit s) [] => some s
  | _ => none

/-- The rounding mode of a literal. -/
def asMode? : Term → Option RoundingMode
  | .app (.rmLit m) [] => some m
  | _ => none

/-- Format and value of a floating-point literal. -/
def asFloat? : Term → Option (Format × FloatValue)
  | .app (.fpLit e s v) [] => some (⟨e, s⟩, v)
  | _ => none

/-- Whether a term is a value: a literal or an element of a universe. -/
def isValue : Term → Bool
  | .app (.element ..) [] => true
  | t => t.isLiteral

/-- A floating-point literal of a format. -/
def ofFloat (f : Format) (v : FloatValue) : Term := .app (.fpLit f.exponent f.significand v) []

mutual
/-- The literals of a term, in reading order. -/
def literalsIn : Term → List Term
  | .var _ _ => []
  | .app f [] => if f.isLiteral then [.app f []] else []
  | .app _ args => literalsInAll args
  | .bind _ _ body => literalsIn body
/-- `literalsIn` over a list of terms. -/
def literalsInAll : List Term → List Term
  | [] => []
  | t :: ts => literalsIn t ++ literalsInAll ts
end

/-- The value that model completion gives a constant of a sort. -/
def defaultValue : SmtSort → Term
  | .bool => Term.ofBool false
  | .int => Term.ofInt 0
  | .real => Term.ofRat 0
  | .string => Term.ofString ""
  | .roundingMode => .app (.rmLit .towardZero) []
  | .bitVec w => Term.ofBits w 0
  | .float e s => .app (.fpLit e s .nan) []
  | .array d r => .app (.constArray (.array d r)) [defaultValue r]
  | .named n => .app (.element n 0) []

end SmtBackend.Eval
