/-!
# Literals of the propositional engine

The engine numbers its Boolean variables from zero; variable zero stands
for the constant `true`. A literal is a variable with a sign, coded as
twice the variable, plus one when negated. Negation flips the lowest bit
of the code, so the two literals of a variable have adjacent codes and
sorting literals by code puts a literal next to its negation.
-/

namespace SmtBackend.Sat

/-- A literal, by its code. -/
structure Lit where
  code : Nat
  deriving DecidableEq, BEq, Hashable, Repr, Inhabited

namespace Lit

/-- The literal of a variable with a sign. -/
def ofVar (v : Nat) (positive : Bool) : Lit := ⟨2 * v + if positive then 0 else 1⟩

/-- The variable of a literal. -/
def var (l : Lit) : Nat := l.code / 2

/-- Whether a literal is the variable itself rather than its negation. -/
def positive (l : Lit) : Bool := l.code % 2 == 0

/-- The negation of a literal. -/
def neg (l : Lit) : Lit := ⟨if l.code % 2 = 0 then l.code + 1 else l.code - 1⟩

/-- The literal that is always true. -/
def top : Lit := ⟨0⟩

/-- The literal that is always false. -/
def bot : Lit := ⟨1⟩

@[simp] theorem neg_neg (l : Lit) : l.neg.neg = l := by
  cases l with
  | mk c => simp only [neg, mk.injEq]; split <;> split <;> omega

@[simp] theorem var_neg (l : Lit) : l.neg.var = l.var := by
  cases l with
  | mk c => simp only [neg, var]; split <;> omega

@[simp] theorem var_ofVar (v : Nat) (positive : Bool) : (ofVar v positive).var = v := by
  cases positive <;> simp only [ofVar, var, Bool.false_eq_true, if_true, if_false] <;> omega

@[simp] theorem positive_ofVar (v : Nat) (positive : Bool) :
    (ofVar v positive).positive = positive := by
  cases positive <;> simp [ofVar, Lit.positive]

theorem neg_ne (l : Lit) : l.neg ≠ l := by
  cases l with
  | mk c => simp only [neg, ne_eq, mk.injEq]; split <;> omega

end Lit

end SmtBackend.Sat
