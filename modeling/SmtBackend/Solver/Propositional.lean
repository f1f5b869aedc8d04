import SmtBackend.Solver.Check
import SmtBackend.Sat.Search
import SmtBackend.Sat.Clausal

/-!
# Propositional checks

Formulas over Boolean constants built with negation, disjunction and
implication are decided by the propositional engines, provided each one
simplifies to a clause and each assumption to a truth value or a signed
constant: a one-shot check by the clause-set search, an incremental one
by the engine that keeps its state between checks. The answer becomes an
outcome: a model binding the atoms listed to their values, or the core of
assumption terms.
-/

namespace SmtBackend.Solver

open SmtBackend.Sat

/-- The fact a formula states, if it simplifies to a clause. -/
def factOf? (t : Term) : Option Fact :=
  (Formula.ofTerm? t).bind (·.simplify.toFact?)

/-- An assumption with the fact it states, if that is a truth value or one
signed constant. -/
def assumptionOf? (t : Term) : Option (Term × Fact) :=
  match factOf? t with
  | some (.clause [l]) => some (t, .clause [l])
  | some .tt => some (t, .tt)
  | some .ff => some (t, .ff)
  | _ => none

/-- The seed of the engine's random choices. -/
def seedOf (settings : Settings) : Nat := (settings.word? "random_seed").getD 0

/-- The outcome of a finished propositional search; without model
generation a satisfiable check has the empty model. -/
def outcomeOf (settings : Settings) (c : Context) : Answer → Option Outcome
  | .sat =>
    let bindings := c.model.map fun (n, b) => ({ name := n, sort := .bool, value := Term.ofBool b } : Binding)
    some { verdict := .sat, model := if settings.flag "model" true then { bindings := bindings } else {} }
  | .unsat => some { verdict := .unsat, core := c.core }
  | .exhausted => none

/-- The outcome of a finished search of a clause set; without model
generation a satisfiable check has the empty model. -/
def clausalOutcome (settings : Settings) (s : Clausal.Solver) : Clausal.Answer → Option Outcome
  | .sat =>
    let bindings := s.model.map fun (n, b) => ({ name := n, sort := .bool, value := Term.ofBool b } : Binding)
    some { verdict := .sat, model := if settings.flag "model" true then { bindings := bindings } else {} }
  | .unsat => some { verdict := .unsat }
  | .exhausted => none

/-- Check formulas once, if they are all clauses: the values they force
are first put into one another, then the clause-set search decides them. -/
def checkOnce (settings : Settings) (formulas : List Term) : Option Outcome :=
  (formulas.mapM factOf?).bind fun facts =>
    let kept := facts.filter (· != .tt)
    let (facts, bad) := Fact.propagate kept.toArray 0 (kept.contains .ff)
    if bad then some { verdict := .unsat }
    else
      let (s, answer) := Clausal.solve facts.toList (seedOf settings)
      clausalOutcome settings s answer

end SmtBackend.Solver
