import SmtBackend.Failure
import SmtBackend.Term.Print

/-!
# Sort and term handles

The harness holds sorts and terms through handles. A sort handle is a
solver sort together with the domain sorts it was made with, if it was made
as a function sort: functions are arrays to the solver, so only the handle
tells a function sort from an array sort. A term handle is a term together
with the function sort it is known to have, if any.

Identity, hashing and printing of handles are those of the solver sort or
term. The accessors fail with a contract failure on a sort of the wrong
kind.
-/

namespace SmtBackend

/-- A sort as the harness holds it. -/
structure SortHandle where
  native : SmtSort
  /-- The domain sorts, as they were given, for a sort made as a function
  sort. -/
  funDomain : Option (List SortHandle) := none
  deriving BEq, Repr, Inhabited

/-- A term as the harness holds it. -/
structure TermHandle where
  native : Term
  /-- The function sort the term is known to have. -/
  tracked : Option SortHandle := none
  deriving BEq, Repr, Inhabited

/-- A handle of either family. -/
inductive Handle where
  | sort (s : SortHandle)
  | term (t : TermHandle)
  deriving BEq, Repr, Inhabited

namespace SortHandle

/-- The SMT-LIB text of the sort. -/
def text (s : SortHandle) : String := Print.sortText s.native

/-- Whether the sort is a function sort. -/
def isFun (s : SortHandle) : Bool := s.native.isArray && s.funDomain.isSome

/-- Whether the sort is an array sort that is not a function sort. -/
def isArray (s : SortHandle) : Bool := s.native.isArray && s.funDomain.isNone

/-- Whether the sort is the Boolean sort. -/
def isBool (s : SortHandle) : Bool := s.native == .bool
/-- Whether the sort is a bit-vector sort. -/
def isBv (s : SortHandle) : Bool := s.native.isBitVec
/-- Whether the sort is a floating-point sort. -/
def isFp (s : SortHandle) : Bool := s.native.isFloat
/-- Whether the sort is the integer sort. -/
def isInt (s : SortHandle) : Bool := s.native == .int
/-- Whether the sort is the real sort. -/
def isReal (s : SortHandle) : Bool := s.native == .real
/-- Whether the sort is the rounding-mode sort. -/
def isRm (s : SortHandle) : Bool := s.native == .roundingMode
/-- Whether the sort is the string sort. -/
def isString (s : SortHandle) : Bool := s.native == .string
/-- Whether the sort is an uninterpreted sort. -/
def isUninterpreted (s : SortHandle) : Bool :=
  match s.native with
  | .named _ => true
  | _ => false

/-- Datatype sorts cannot be made through this backend. -/
def isDt (_ : SortHandle) : Bool := false

/-- The kind of the sort. -/
def kind (s : SortHandle) : SortKind := if s.isFun then .fun else s.native.kind

/-- The width of a bit-vector sort. -/
def bvSize (s : SortHandle) : Except Failure Nat := do
  checkContract s.isBv s!"Sort {s.text} is not a bit-vector sort"
  pure s.native.width

/-- The exponent width of a floating-point sort. -/
def fpExpSize (s : SortHandle) : Except Failure Nat :=
  match s.native with
  | .float e _ => pure e
  | _ => throw (.contract s!"Sort {s.text} is not a floating-point sort")

/-- The significand width of a floating-point sort. -/
def fpSigSize (s : SortHandle) : Except Failure Nat :=
  match s.native with
  | .float _ sb => pure sb
  | _ => throw (.contract s!"Sort {s.text} is not a floating-point sort")

/-- The name of a datatype sort. -/
def dtName (s : SortHandle) : Except Failure String :=
  throw (.contract s!"Sort {s.text} is not a datatype sort")

/-- The (first) index sort of an array sort. -/
def arrayIndexSort (s : SortHandle) : Except Failure SortHandle := do
  checkContract s.isArray s!"Sort {s.text} is not an array sort"
  pure ⟨s.native.domain.headD .bool, none⟩

/-- The element sort of an array sort. -/
def arrayElementSort (s : SortHandle) : Except Failure SortHandle := do
  checkContract s.isArray s!"Sort {s.text} is not an array sort"
  pure ⟨s.native.range, none⟩

/-- The number of arguments of a function sort. -/
def funArity (s : SortHandle) : Except Failure Nat := do
  checkContract s.isFun s!"Sort {s.text} is not a function sort"
  pure (s.funDomain.getD []).length

/-- The domain sorts of a function sort. -/
def funDomainSorts (s : SortHandle) : Except Failure (List SortHandle) := do
  checkContract s.isFun s!"Sort {s.text} is not a function sort"
  pure (s.funDomain.getD [])

/-- The codomain sort of a function sort. -/
def funCodomainSort (s : SortHandle) : Except Failure SortHandle := do
  checkContract s.isFun s!"Sort {s.text} is not a function sort"
  pure ⟨s.native.range, none⟩

end SortHandle

namespace TermHandle

/-- The SMT-LIB text of the term. -/
def text (t : TermHandle) : String := Print.termText t.native

/-- The sort of the term: the tracked function sort, else the solver's. -/
def sort (t : TermHandle) : SortHandle := t.tracked.getD ⟨t.native.sort, none⟩

/-- Whether the term carries a tracked sort. -/
def hasTrackedSort (t : TermHandle) : Bool := t.tracked.isSome

/-- The tracked sort, if it is a function sort. -/
def trackedFun (t : TermHandle) : Option SortHandle :=
  match t.tracked with
  | some s => if s.isFun then some s else none
  | none => none

end TermHandle

namespace Handle

/-- The name of the family of a handle, as contract failures name it. -/
def familyName : Handle → String
  | .sort _ => "Z3Sort"
  | .term _ => "Z3Term"

/-- The sort behind a handle when it is asked sort questions: a sort handle
itself, or the sort of a term handle. -/
def sortView : Handle → SortHandle
  | .sort s => s
  | .term t => t.sort

/-- The failure of asking a sort handle for its sort, which only terms
have. -/
def sortOfSortFailure : Failure :=
  .unchecked "AttributeError" "'Z3Sort' object has no attribute 'get_sort'"

/-- The sort of a term handle; a sort handle has none to give. -/
def termSort : Handle → Except Failure SortHandle
  | .term t => pure t.sort
  | .sort _ => throw sortOfSortFailure

/-- The sort handle, or a contract failure for a term handle. -/
def asSort : Handle → Except Failure SortHandle
  | .sort s => pure s
  | h => throw (.contract s!"Expected a Z3Sort, got {h.familyName}")

/-- The term handle, or a contract failure for a sort handle. -/
def asTerm : Handle → Except Failure TermHandle
  | .term t => pure t
  | h => throw (.contract s!"Expected a Z3Term, got {h.familyName}")

/-- The text of a handle. -/
def text : Handle → String
  | .sort s => s.text
  | .term t => t.text

/-- Whether two handles are the same: handles of one family whose solver
sorts or terms are equal (a function sort's domain is not compared). -/
def equals : Handle → Handle → Bool
  | .sort a, .sort b => a.native == b.native
  | .term a, .term b => a.native == b.native
  | _, _ => false

end Handle

/-- The magnitudes below this bound are small numbers, whose hash is the
magnitude itself; larger ones hash their digits. -/
def smallMagnitude : Nat := Nat.pow 2 31

/-- A number that decides the solver's hash of a rational numeral: a
rational hashes as its numerator's hash plus three times its
denominator's (in 32-bit words), so numerals with small parts share a hash
exactly when these sums agree. A numeral with a large part gets a key of
its own, the negated magnitude less one. -/
def numeralHashKey (q : Rat) : Rat :=
  let n := q.num.natAbs
  if n < smallMagnitude && q.den < smallMagnitude then
    (((n + 3 * q.den) % Nat.pow 2 32 : Nat) : Rat)
  else -(if q < 0 then -q else q) - 1

mutual
/-- The part of a term that the solver's hash of it depends on: a numeral
counts by its hash key. Equal terms have equal hash shapes. -/
def Term.hashShape : Term → Term
  | .app (.intLit v) [] => .app (.intLit (numeralHashKey (v : Rat)).num) []
  | .app (.realLit q) [] => .app (.realLit (numeralHashKey q)) []
  | .app f args => .app f (Term.hashShapeAll args)
  | .var i s => .var i s
  | .bind b ds body => .bind b ds (Term.hashShape body)
/-- `Term.hashShape` on each term of a list. -/
def Term.hashShapeAll : List Term → List Term
  | [] => []
  | t :: ts => Term.hashShape t :: Term.hashShapeAll ts
end

/-- Whether the solver's hashes of two handles agree. A sort and a term
never share a hash. -/
def Handle.hashEqual : Handle → Handle → Bool
  | .sort a, .sort b => a.native == b.native
  | .term a, .term b => a.native.hashShape == b.native.hashShape
  | _, _ => false

end SmtBackend
