import SmtBackend.Sat.Formula

/-!
# Propagating values between facts

Before new facts are handed to the engine, the values they force are put
into one another. A pass reads the facts in order: a fact of one signed
atom fixes the atom's value, and a longer clause, once seen, is known to
hold. Each fact read is first rewritten with what the facts before it in
the pass made known: an atom of known value becomes a truth value, a
clause already known becomes `true`, and the clause is simplified again.

A round is a pass forwards and a pass backwards over the new facts, each
starting from nothing known. Rounds repeat while the last one changed more
than a twentieth of the facts, and stop once some fact has become `false`.
-/

namespace SmtBackend.Sat

/-- What the facts read so far in a pass make known. -/
structure Known where
  /-- Atoms of known value. -/
  values : List (String × Bool) := []
  /-- Clauses of two or more literals known to hold. -/
  clauses : List (List Signed) := []
  deriving Repr, Inhabited

namespace Known

/-- The value an atom is known to have. -/
def value? (k : Known) (name : String) : Option Bool :=
  (k.values.find? (·.1 == name)).map (·.2)

/-- Learn what a fact states. -/
def record (k : Known) : Fact → Known
  | .clause [l] => { k with values := (l.name, l.positive) :: k.values }
  | .clause ls@(_ :: _ :: _) => { k with clauses := ls :: k.clauses }
  | _ => k

end Known

namespace Fact

/-- The literals of a clause that are not known to be false, or `none`
when one of them is known to be true. -/
def openLits (k : Known) : List Signed → Option (List Signed)
  | [] => some []
  | l :: ls =>
    match k.value? l.name with
    | some b => if b == l.positive then none else openLits k ls
    | none => (openLits k ls).map (l :: ·)

/-- A fact rewritten with what is known. -/
def substitute (k : Known) : Fact → Fact
  | .clause ls =>
    if k.clauses.contains ls then .tt
    else match openLits k ls with
      | none => .tt
      | some [] => .ff
      | some ls' => if k.clauses.contains ls' then .tt else .clause ls'
  | f => f

/-- The state of a pass: the facts, what is known, how many facts changed
and whether a fact became `false`. -/
structure Pass where
  facts : Array Fact
  known : Known := {}
  changed : Nat := 0
  inconsistent : Bool

/-- Rewrite the fact at an index with what is known and learn from it. -/
def Pass.step (p : Pass) (i : Nat) : Pass :=
  let f := p.facts.getD i .tt
  let f' := substitute p.known f
  { facts := p.facts.setIfInBounds i f', known := p.known.record f',
    changed := if f' == f then p.changed else p.changed + 1,
    inconsistent := p.inconsistent || f' == .ff }

/-- A pass over the facts at the given indices, in order. -/
def pass (facts : Array Fact) (inconsistent : Bool) (order : List Nat) : Pass :=
  order.foldl Pass.step { facts := facts, inconsistent := inconsistent }

/-- The size of a fact: one more than its literals for a clause. -/
def weight : Fact → Nat
  | .clause ls => ls.length + 1
  | _ => 0

/-- Rounds of propagation over the facts from index `start`, while the
last round changed more than a twentieth of `size` facts. -/
def rounds (start size : Nat) : Nat → Array Fact → Bool → Nat → Array Fact × Bool
  | 0, facts, bad, _ => (facts, bad)
  | fuel + 1, facts, bad, delta =>
    if bad || !(size / 20 < delta) then (facts, bad)
    else
      let order := (List.range (size - start)).map (start + ·)
      let fwd := pass facts bad order
      let bwd := pass fwd.facts fwd.inconsistent order.reverse
      rounds start size fuel bwd.facts bwd.inconsistent (fwd.changed + bwd.changed)

/-- Propagate values among the facts from index `start` on; the flag says
whether the facts are already known inconsistent, and the result whether
they are afterwards. Every round but the last changes some fact, and each
change makes a fact lighter, so the total weight bounds the rounds. -/
def propagate (facts : Array Fact) (start : Nat) (inconsistent : Bool) : Array Fact × Bool :=
  if start ≥ facts.size then (facts, inconsistent)
  else
    let fuel := (facts.toList.map weight).foldl (· + ·) 0 + 1
    rounds start facts.size fuel facts inconsistent facts.size

end Fact

end SmtBackend.Sat
