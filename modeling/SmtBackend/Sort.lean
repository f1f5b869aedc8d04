import SmtBackend.Kinds

/-!
# Solver sorts

The sorts the solver knows: the Boolean, integer, real, string and
rounding-mode sorts, bit-vectors of a width, floating-point formats given by
exponent and significand width, arrays over one or more index sorts, and
uninterpreted sorts by name. Functions are arrays; whether an array sort
stands for a function is not a property of the sort but of how it was made,
so the sort kind is decided one level up.

A sort name that is empty is the solver's null name. Names reach the
solver as NUL-terminated text, so a name keeps only what comes before its
first NUL character.
-/

namespace SmtBackend

/-- The name the solver keeps for a given name: the text before its first
NUL character. -/
def keptName (name : String) : String :=
  String.ofList (name.toList.takeWhile (· != Char.ofNat 0))

/-- A solver sort. -/
inductive SmtSort where
  | bool
  | int
  | real
  | string
  | roundingMode
  | bitVec (width : Nat)
  | float (exponent significand : Nat)
  | array (domain : List SmtSort) (range : SmtSort)
  | named (name : String)
  deriving Repr, Hashable, Inhabited

namespace SmtSort

mutual
/-- Structural equality of sorts. -/
def beq : SmtSort → SmtSort → Bool
  | .bool, .bool | .int, .int | .real, .real | .string, .string
  | .roundingMode, .roundingMode => true
  | .bitVec w, .bitVec w' => w == w'
  | .float e s, .float e' s' => e == e' && s == s'
  | .array d r, .array d' r' => beqAll d d' && beq r r'
  | .named n, .named n' => n == n'
  | _, _ => false
/-- `beq` over two lists of sorts, position by position. -/
def beqAll : List SmtSort → List SmtSort → Bool
  | [], [] => true
  | s :: ss, s' :: ss' => beq s s' && beqAll ss ss'
  | _, _ => false
end

instance : BEq SmtSort := ⟨beq⟩

mutual
theorem beq_refl : ∀ s : SmtSort, beq s s = true
  | .bool | .int | .real | .string | .roundingMode => rfl
  | .bitVec w => by simp [beq]
  | .float e s => by simp [beq]
  | .array d r => by simp [beq, beqAll_refl d, beq_refl r]
  | .named n => by simp [beq]
theorem beqAll_refl : ∀ l : List SmtSort, beqAll l l = true
  | [] => rfl
  | s :: l => by simp [beqAll, beq_refl s, beqAll_refl l]
end

mutual
theorem eq_of_beq_true : ∀ s t : SmtSort, beq s t = true → s = t
  | .array d r, t, h => by
    cases t with
    | array d' r' =>
      simp only [beq, Bool.and_eq_true] at h
      rw [eqAll_of_beqAll_true d d' h.1, eq_of_beq_true r r' h.2]
    | _ => simp [beq] at h
  | .bool, t, h | .int, t, h | .real, t, h | .string, t, h | .roundingMode, t, h
  | .bitVec _, t, h | .float _ _, t, h | .named _, t, h => by
    cases t <;> simp_all [beq]
theorem eqAll_of_beqAll_true : ∀ l l' : List SmtSort, beqAll l l' = true → l = l'
  | [], [], _ => rfl
  | s :: l, s' :: l', h => by
    simp only [beqAll, Bool.and_eq_true] at h
    rw [eq_of_beq_true s s' h.1, eqAll_of_beqAll_true l l' h.2]
  | [], _ :: _, h | _ :: _, [], h => nomatch h
end

/-- Two sorts compare equal exactly when they are the same sort. -/
theorem beq_eq_true_iff {s t : SmtSort} : beq s t = true ↔ s = t :=
  ⟨eq_of_beq_true s t, fun h => h ▸ beq_refl s⟩

instance : DecidableEq SmtSort := fun s t => decidable_of_iff (beq s t) beq_eq_true_iff

instance : LawfulBEq SmtSort where
  rfl := beq_refl _
  eq_of_beq := eq_of_beq_true _ _

/-- Whether the sort is an array sort (functions included). -/
def isArray : SmtSort → Bool
  | .array .. => true
  | _ => false

/-- Whether the sort is the integer or the real sort. -/
def isArith : SmtSort → Bool
  | .int | .real => true
  | _ => false

/-- Whether the sort is a bit-vector sort. -/
def isBitVec : SmtSort → Bool
  | .bitVec _ => true
  | _ => false

/-- Whether the sort is a floating-point sort. -/
def isFloat : SmtSort → Bool
  | .float .. => true
  | _ => false

/-- Whether the sort is uninterpreted. -/
def isNamed : SmtSort → Bool
  | .named _ => true
  | _ => false

/-- The width of a bit-vector sort, zero for other sorts. -/
def width : SmtSort → Nat
  | .bitVec w => w
  | _ => 0

/-- The kind of a sort that was not made as a function sort. -/
def kind : SmtSort → SortKind
  | .bool => .bool
  | .int => .int
  | .real => .real
  | .string => .string
  | .roundingMode => .rm
  | .bitVec _ => .bv
  | .float .. => .fp
  | .array .. => .array
  | .named _ => .uninterpreted

/-- The index sorts of an array sort. -/
def domain : SmtSort → List SmtSort
  | .array d _ => d
  | _ => []

/-- The element sort of an array sort. -/
def range : SmtSort → SmtSort
  | .array _ r => r
  | s => s

end SmtSort

end SmtBackend
