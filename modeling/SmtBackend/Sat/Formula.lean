import SmtBackend.Term.Basic

/-!
# Propositional formulas

The propositional engine reads formulas built from Boolean constants and
the truth values with negation, disjunction and implication. Before a
formula reaches the engine it is simplified bottom-up:

* a negation of a truth value is the other truth value, and a double
  negation cancels;
* a disjunction takes the disjuncts of the disjunctions among its
  arguments in their place, drops `false` and repeated disjuncts, is `true`
  when it holds `true` or a formula beside its negation, is `false` when
  nothing is left and is its only disjunct when one is left;
* an implication is the disjunction of the negated premise and the
  conclusion.

A formula is a clause when it is a truth value, a signed atom or a
disjunction of signed atoms; only clauses reach the engine.
-/

namespace SmtBackend.Sat

/-- A propositional formula over named atoms. -/
inductive Formula where
  | tt
  | ff
  | atom (name : String)
  | not (f : Formula)
  | or (args : List Formula)
  deriving Repr, Inhabited

namespace Formula

mutual
/-- Structural equality of formulas. -/
def beq : Formula → Formula → Bool
  | .tt, .tt | .ff, .ff => true
  | .atom a, .atom b => a == b
  | .not f, .not g => beq f g
  | .or fs, .or gs => beqAll fs gs
  | _, _ => false
/-- Structural equality of lists of formulas. -/
def beqAll : List Formula → List Formula → Bool
  | [], [] => true
  | f :: fs, g :: gs => beq f g && beqAll fs gs
  | _, _ => false
end

instance : BEq Formula := ⟨beq⟩

mutual
/-- The formula a term denotes, if the term is propositional: built from
Boolean constants and literals with negation, disjunction and
implication. -/
def ofTerm? : Term → Option Formula
  | .app (.const n .bool) [] => some (.atom n)
  | .app (.boolLit b) [] => some (if b then .tt else .ff)
  | .app .not [t] => (ofTerm? t).map .not
  | .app .or ts => (ofTerms? ts).map .or
  | .app .implies [a, b] =>
    match ofTerm? a, ofTerm? b with
    | some f, some g => some (.or [.not f, g])
    | _, _ => none
  | _ => none
/-- `ofTerm?` over a list. -/
def ofTerms? : List Term → Option (List Formula)
  | [] => some []
  | t :: ts =>
    match ofTerm? t, ofTerms? ts with
    | some f, some fs => some (f :: fs)
    | _, _ => none
end

/-- The negation of a formula, simplified. -/
def mkNot : Formula → Formula
  | .tt => .ff
  | .ff => .tt
  | .not f => f
  | f => .not f

/-- The arguments of a disjunction with the disjuncts of nested
disjunctions in their place. -/
def flatten : List Formula → List Formula
  | [] => []
  | .or gs :: rest => gs ++ flatten rest
  | f :: rest => f :: flatten rest

/-- Build a disjunction from the disjuncts still to read, given those kept
so far (last first) and the formulas seen positively and under a
negation. -/
def disjoin : List Formula → List Formula → List Formula → List Formula → Formula
  | [], kept, _, _ =>
    match kept.reverse with
    | [] => .ff
    | [f] => f
    | fs => .or fs
  | .tt :: _, _, _, _ => .tt
  | .ff :: rest, kept, pos, neg => disjoin rest kept pos neg
  | .not a :: rest, kept, pos, neg =>
    if neg.contains a then disjoin rest kept pos neg
    else if pos.contains a then .tt
    else disjoin rest (.not a :: kept) pos (a :: neg)
  | f :: rest, kept, pos, neg =>
    if pos.contains f then disjoin rest kept pos neg
    else if neg.contains f then .tt
    else disjoin rest (f :: kept) (f :: pos) neg

/-- The disjunction of formulas, simplified. -/
def mkOr (args : List Formula) : Formula := disjoin (flatten args) [] [] []

mutual
/-- Simplify a formula bottom-up. -/
def simplify : Formula → Formula
  | .not f => mkNot (simplify f)
  | .or fs => mkOr (simplifyAll fs)
  | f => f
/-- `simplify` over a list. -/
def simplifyAll : List Formula → List Formula
  | [] => []
  | f :: fs => simplify f :: simplifyAll fs
end

end Formula

/-- An atom with a sign. -/
structure Signed where
  name : String
  positive : Bool
  deriving DecidableEq, BEq, Repr, Inhabited

/-- Whether a signed atom comes before another in a disjunction in normal
form: atoms come before negated atoms, and atoms of one kind follow the
order of their names. -/
def Signed.before (a b : Signed) : Bool :=
  if a.positive != b.positive then a.positive else decide (a.name < b.name)

/-- A simplified assertion: a truth value or a clause, the disjunction of
signed atoms (one atom alone is a clause of one). -/
inductive Fact where
  | tt
  | ff
  | clause (lits : List Signed)
  deriving DecidableEq, BEq, Repr, Inhabited

namespace Formula

/-- The signed atom a formula is, if it is one. -/
def signed? : Formula → Option Signed
  | .atom n => some ⟨n, true⟩
  | .not (.atom n) => some ⟨n, false⟩
  | _ => none

/-- The fact a simplified formula states, if it is a clause. The disjuncts
of a clause are put in normal form order, so that the clause does not
depend on the order the formula lists them in. -/
def toFact? : Formula → Option Fact
  | .tt => some .tt
  | .ff => some .ff
  | .or fs => (fs.mapM signed?).map fun ls => .clause (ls.mergeSort Signed.before)
  | f => f.signed?.map fun l => .clause [l]

end Formula

end SmtBackend.Sat
