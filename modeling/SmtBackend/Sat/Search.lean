import SmtBackend.Sat.Conflict

/-!
# Checks

Facts reach the engine as they are asserted and wait until the next check
or user scope. Then values are propagated among the waiting facts and each
becomes clauses: a fact of one literal is assigned (and its atom made
relevant), a longer clause is added and, with relevancy on, tracked.

A check closes the scopes above the user's, takes in the waiting facts
and, under assumptions, opens one scope in which each assumption is
assigned in turn, until one conflicts. An atom first met in an
assumption gets its variable in that scope, so the variable is dropped
when the scope closes. The search then alternates propagation with
decisions, resolving each conflict, until every variable is assigned
(satisfiable) or a conflict reaches the search level (unsatisfiable).

Every assignment is remembered as the variable's phase, and a conflict
forgets the phases of the variables assigned at its level. A decision
takes, with a chance of 327 in 32768, a random variable if it is
unassigned, and otherwise the most active unassigned variable of the
queue. It assigns the variable its phase, `false` if it has none.
-/

namespace SmtBackend.Sat

/-- The answer of a search. -/
inductive Answer where
  | sat
  | unsat
  /-- The search ran out of steps. -/
  | exhausted
  deriving DecidableEq, Repr

namespace Context

/-- Seed the random generator, the first time only. -/
def setup (c : Context) (seed : Nat) : Context :=
  if c.configured then c else { c with configured := true, rand := Lcg.seeded seed }

/-- Turn a fact into clauses. -/
def internalize (c : Context) : Fact → Context
  | .tt => c
  | .ff | .clause [] => c.setConflict .given none
  | .clause [l] =>
    let (c, lit) := c.litOf l
    let c := c.addClause [lit]
    if c.relevancy then c.mark lit.var else c
  | .clause ls =>
    let (c, lits) := c.litsOf ls
    let c := c.addClause lits
    if c.relevancy then
      let oid := c.ors.size
      let c := { c with
        ors := c.ors.push (some (lits, c.scopeLvl)),
        orWatches := lits.foldl (fun ws (l : Lit) => ws.modify l.code (·.push oid)) c.orWatches }
      c.relevateClause oid
    else c

/-- Propagate values among the waiting facts and turn them into clauses. -/
def internalizeFacts (c : Context) : Context :=
  let (facts, bad) := Fact.propagate c.facts c.factHead c.inconsistent
  let c := { c with facts := facts, inconsistent := bad }
  if bad then { c with factHead := facts.size }.setConflict .given none
  else
    let c := (facts.extract c.factHead facts.size).foldl internalize c
    { c with factHead := facts.size }

/-- Assert a fact. Nothing is added once the facts are inconsistent. -/
def assertFact (c : Context) (f : Fact) : Context :=
  let c := c.popToBase
  if c.inconsistent || f == .tt then c
  else { c with facts := c.facts.push f, inconsistent := f == .ff }

/-- Open a user scope. -/
def userPush (c : Context) (seed : Nat) : Context :=
  let c := (c.popToBase.setup seed).internalizeFacts
  let c := c.propagate.1.pushScope
  { c with
    userFrames := c.userFrames.push ⟨c.lemmas.size, c.conflict, c.facts.size, c.inconsistent⟩,
    baseLvl := c.baseLvl + 1, searchLvl := c.searchLvl + 1 }

/-- Close the innermost user scope. -/
def userPop (c : Context) : Context :=
  let c := c.popToBase
  let uf := c.userFrames.getD (c.userFrames.size - 1) default
  let c := c.popScope 1
  { c with facts := c.facts.extract 0 uf.facts, factHead := min c.factHead uf.facts,
           inconsistent := uf.inconsistent }

/-- Of a chance of one in a hundred, the draws below which a decision
takes a random variable. -/
def randomDecisionBound : Nat := Lcg.maxDraw / 100

/-- The most active unassigned variable, taken out of the queue with the
assigned ones before it. -/
def popQueue (c : Context) : Nat → Context × Option Nat
  | 0 => (c, none)
  | fuel + 1 =>
    match c.heap.eraseMin c.activity with
    | none => (c, none)
    | some (v, h) =>
      let c := { c with heap := h }
      if c.unassigned v then (c, some v) else c.popQueue fuel

/-- The variable to decide next, if any is unassigned. -/
def nextVar (c : Context) : Context × Option Nat :=
  let (r, c) := c.draw
  let (c, pick) :=
    if r < randomDecisionBound then
      let (r2, c) := c.draw
      let v := r2 % c.numVars
      (c, if c.unassigned v then some v else none)
    else (c, none)
  match pick with
  | some v => (c, some v)
  | none => c.popQueue c.heap.slots.size

/-- Decide a variable. The flag is `false` when every variable is
assigned. -/
def decide (c : Context) : Context × Bool :=
  match c.nextVar with
  | (c, none) => (c, false)
  | (c, some v) =>
    let c := c.pushScope
    (c.assign (Lit.ofVar v ((c.phase.getD v none).getD false)) .given, true)

/-- Propagate, resolve conflicts and decide, at most `fuel` times. -/
def searchLoop (c : Context) : Nat → Context × Answer
  | 0 => (c, .exhausted)
  | fuel + 1 =>
    match c.propagate with
    | (c, false) =>
      match c.resolveConflict with
      | (c, true) => c.searchLoop fuel
      | (c, false) => (c, .unsat)
    | (c, true) =>
      match c.decide with
      | (c, true) => c.searchLoop fuel
      | (c, false) => (c, .sat)

/-- The number of steps a search may take. -/
def searchBudget : Nat := 1000000

/-- Search from the current state. -/
def search (c : Context) : Context × Answer :=
  if c.conflict.isSome && c.conflictLevel ≤ c.searchLvl then (c.resolveConflict.1, .unsat)
  else c.searchLoop searchBudget

/-- Assign the assumptions in turn, each with its term, until one
conflicts. -/
def assume (c : Context) : List (Term × Fact) → Context
  | [] => c
  | (t, f) :: rest =>
    if c.conflict.isSome then c
    else match f with
      | .tt => c.assume rest
      | .clause [l] =>
        let c := c.internalize f
        let (c, lit) := c.litOf l
        let c := { c with
          assumed := if (c.assumed.lookup lit).isSome then c.assumed else c.assumed ++ [(lit, t)],
          assumedVars := if c.assumedVars.contains lit.var then c.assumedVars
            else c.assumedVars ++ [lit.var] }
        c.assume rest
      | _ => c.internalize .ff

/-- Check the facts under assumptions, each a term with the fact it
states: `true`, `false` or one literal. -/
def check (c : Context) (seed : Nat) (assumptions : List (Term × Fact)) : Context × Answer :=
  let c := (c.popToBase.setup seed).internalizeFacts
  let c := { c with core := [], assumed := [], assumedVars := [] }
  let c :=
    if assumptions.isEmpty then c
    else
      let c := c.propagate.1
      if c.conflict.isSome then c
      else
        c.pushScope.assume assumptions
  { c with searchLvl := c.scopeLvl }.search

/-- The atoms a model gives values to, with their values, in the order
they were assigned: every assigned atom, or with relevancy only the
relevant ones. -/
def model (c : Context) : List (String × Bool) :=
  (c.trail.toList.map (·.var)).filterMap fun v =>
    match c.value.getD v none with
    | none => none
    | some b =>
      if c.relevancy && !c.isRelevant v then none else some (c.atoms.getD v "", b)

end Context

end SmtBackend.Sat
