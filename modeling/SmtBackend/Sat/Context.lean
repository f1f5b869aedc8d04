import SmtBackend.Sat.Lit
import SmtBackend.Sat.Random
import SmtBackend.Sat.Heap
import SmtBackend.Sat.Fact
import SmtBackend.Term.Basic

/-!
# The state of the propositional engine

The engine keeps one Boolean variable per atom it has met, numbered in the
order met after the constant `true` at zero, and assigns them along a trail.
Every assigned variable has a level, the number of scopes open when it was
assigned (by the user, by a check's assumptions and by each decision), and
a reason. Clauses of three or more literals live in a store, listed under
the negation of each of the two literals they watch; a clause of two
literals added and made with no scope open is kept as two implications.

With relevancy on (the incremental engine), a model lists only relevant
atoms: the atom of a one-literal fact, and one true literal of each clause
of the facts once it holds. The one-shot engine has no relevancy and gives
new variables a random activity. This module holds the state and its
elementary steps: making and dropping variables, assigning literals, and
adding clauses.
-/

namespace SmtBackend.Sat

/-- Why a variable holds its value. -/
inductive Reason where
  /-- A decision, an assumption, a fact of one literal or a learned unit. -/
  | given
  /-- A clause that was unit when it was added: the negations of the
  literals that were false then. -/
  | units (lits : List Lit)
  /-- A clause of the store, by its number. -/
  | clause (id : Nat)
  /-- A clause of two literals, made unit when the given literal became
  true. -/
  | binary (l : Lit)
  deriving Repr, Inhabited

/-- A conflict: the reason that would force a literal already false, and,
for a clause of two literals, the negation of the literal it forced. -/
structure Conflict where
  reason : Reason
  opposite : Option Lit
  deriving Repr, Inhabited

/-- A clause of the store; its first two literals are watched. -/
structure StoredClause where
  lits : Array Lit
  learned : Bool
  deriving Repr, Inhabited

/-- Where the trail, the auxiliary clauses and the variables stood when a
scope was opened. -/
structure Frame where
  trail : Nat
  aux : Nat
  vars : Nat
  deriving Repr, Inhabited

/-- What a scope opened by the user restores when it is closed: the
learned clauses, the conflict, the facts and whether they were
inconsistent. -/
structure UserFrame where
  lemmas : Nat
  conflict : Option Conflict
  facts : Nat
  inconsistent : Bool
  deriving Repr, Inhabited

/-- The state of the engine. -/
structure Context where
  /-- Whether the engine serves one check only. -/
  oneShot : Bool
  /-- Whether the random generator has been seeded. -/
  configured : Bool := false
  rand : Lcg := Lcg.seeded 0
  /-- The atom of each variable; variable zero is the constant `true`. -/
  atoms : Array String := #[""]
  activity : Array Float := #[0]
  value : Array (Option Bool) := #[some true]
  level : Array Nat := #[0]
  reason : Array Reason := #[.given]
  /-- The value a variable last took during a search. -/
  phase : Array (Option Bool) := #[none]
  /-- The scope level at which each variable was made. -/
  birth : Array Nat := #[0]
  /-- The scope level at which each variable became relevant. -/
  relevant : Array (Option Nat) := #[none]
  heap : VarHeap := ⟨#[0, 0], #[1]⟩
  trail : Array Lit := #[]
  /-- The next trail position whose clauses are to be visited. -/
  qhead : Nat := 0
  /-- The next trail position whose relevancy is to be propagated. -/
  relHead : Nat := 0
  scopeLvl : Nat := 0
  /-- The number of scopes opened by the user. -/
  baseLvl : Nat := 0
  /-- The level below which a check does not undo assignments. -/
  searchLvl : Nat := 0
  frames : Array Frame := #[]
  userFrames : Array UserFrame := #[]
  store : Array StoredClause := #[]
  /-- The stored clauses listed under each literal code. -/
  watches : Array (Array Nat) := #[#[], #[]]
  /-- The implications of two-literal clauses under each literal code. -/
  implications : Array (List Lit) := #[[], []]
  /-- Stored clauses of the facts and assumptions. -/
  aux : Array Nat := #[]
  /-- Stored learned clauses. -/
  lemmas : Array Nat := #[]
  /-- What a variable's activity grows by when it takes part in a conflict. -/
  bump : Float := 1
  conflict : Option Conflict := none
  /-- The facts asserted in the open user scopes. -/
  facts : Array Fact := #[]
  /-- The number of facts already turned into clauses. -/
  factHead : Nat := 0
  /-- Whether some fact is `false`. -/
  inconsistent : Bool := false
  /-- The literal of each assumption of the current check with its term. -/
  assumed : List (Lit × Term) := []
  assumedVars : List Nat := []
  /-- The assumptions in the core of the last unsatisfiable check. -/
  core : List Term := []
  /-- The clauses of the facts whose relevancy is tracked, with the level
  they were added at; `none` once dropped. -/
  ors : Array (Option (List Lit × Nat)) := #[]
  /-- The tracked clauses listed under each literal code. -/
  orWatches : Array (Array Nat) := #[#[], #[]]
  deriving Inhabited

namespace Context

/-- An engine with no variable but `true`. -/
def empty (oneShot : Bool) : Context := { oneShot := oneShot }

/-- Whether the engine tracks relevancy. -/
def relevancy (c : Context) : Bool := !c.oneShot

/-- The number of variables. -/
def numVars (c : Context) : Nat := c.atoms.size

/-- The value of a literal. -/
def litValue (c : Context) (l : Lit) : Option Bool :=
  (c.value.getD l.var none).map fun b => if l.positive then b else !b

/-- Whether a literal is false. -/
def isFalse (c : Context) (l : Lit) : Bool := c.litValue l == some false

/-- Whether a literal is true. -/
def isTrue (c : Context) (l : Lit) : Bool := c.litValue l == some true

/-- Whether a variable is unassigned. -/
def unassigned (c : Context) (v : Nat) : Bool := (c.value.getD v none).isNone

/-- The level of a variable. -/
def levelOf (c : Context) (v : Nat) : Nat := c.level.getD v 0

/-- Whether a variable is relevant. -/
def isRelevant (c : Context) (v : Nat) : Bool := (c.relevant.getD v none).isSome

/-- Draw a random number. -/
def draw (c : Context) : Nat × Context :=
  let (n, g) := c.rand.next
  (n, { c with rand := g })

/-- Make a variable for an atom. In the one-shot engine, once seeded, its
activity is a random multiple of a thousandth below one. -/
def mkVar (c : Context) (name : String) : Context × Nat :=
  let v := c.numVars
  let (a, c) : Float × Context :=
    if c.oneShot && c.configured then
      let (n, c) := c.draw
      ((n % 1000).toFloat / 1000, c)
    else (0, c)
  let activity := c.activity.push a
  ({ c with
    atoms := c.atoms.push name, activity := activity, value := c.value.push none,
    level := c.level.push 0, reason := c.reason.push .given, phase := c.phase.push none,
    birth := c.birth.push c.scopeLvl, relevant := c.relevant.push none,
    watches := (c.watches.push #[]).push #[],
    implications := (c.implications.push []).push [],
    orWatches := (c.orWatches.push #[]).push #[],
    heap := c.heap.grow.insert activity v }, v)

/-- Drop the last variable. -/
def dropVar (c : Context) : Context :=
  let v := c.numVars - 1
  if v = 0 then c
  else
    { c with
      heap := (c.heap.erase c.activity v).shrink,
      atoms := c.atoms.pop, activity := c.activity.pop, value := c.value.pop,
      level := c.level.pop, reason := c.reason.pop, phase := c.phase.pop,
      birth := c.birth.pop, relevant := c.relevant.pop,
      watches := c.watches.pop.pop, implications := c.implications.pop.pop,
      orWatches := c.orWatches.pop.pop }

/-- Drop variables until `n` are left. -/
def dropVarsTo (c : Context) (n : Nat) : Context :=
  Nat.repeat dropVar (c.numVars - n) c

/-- The variable of an atom, if it has one. -/
def varOf? (c : Context) (name : String) : Option Nat :=
  ((c.atoms.toList.drop 1).findIdx? (· == name)).map (· + 1)

/-- The literal of a signed atom, making its variable if needed. -/
def litOf (c : Context) (l : Signed) : Context × Lit :=
  match c.varOf? l.name with
  | some v => (c, Lit.ofVar v l.positive)
  | none =>
    let (c, v) := c.mkVar l.name
    (c, Lit.ofVar v l.positive)

/-- The literals of signed atoms, in order. -/
def litsOf (c : Context) (ls : List Signed) : Context × List Lit :=
  ls.foldl (fun (c, acc) l => let (c, lit) := c.litOf l; (c, acc ++ [lit])) (c, [])

/-- Make a literal true for a reason, at the current level. The value is
also remembered as the variable's phase. -/
def assign (c : Context) (l : Lit) (r : Reason) : Context :=
  let v := l.var
  { c with
    trail := c.trail.push l, value := c.value.setIfInBounds v (some l.positive),
    level := c.level.setIfInBounds v c.scopeLvl, reason := c.reason.setIfInBounds v r,
    phase := c.phase.setIfInBounds v (some l.positive) }

/-- Record a conflict, unless one is recorded already. -/
def setConflict (c : Context) (r : Reason) (opposite : Option Lit) : Context :=
  match c.conflict with
  | some _ => c
  | none => { c with conflict := some ⟨r, opposite⟩ }

/-- Make a variable relevant, at the current level. -/
def mark (c : Context) (v : Nat) : Context :=
  if c.isRelevant v then c else { c with relevant := c.relevant.setIfInBounds v (some c.scopeLvl) }

/-! ## Adding clauses -/

/-- Read the sorted literals of a new clause: drop the false ones, keeping
their negations, and keep one copy of each other. The result is `none`
when the clause holds already, by a true literal or a literal beside its
negation. -/
def sortOut (c : Context) : List Lit → Option Lit → List Lit → List Lit →
    Option (List Lit × List Lit)
  | [], _, kept, dropped => some (kept.reverse, dropped.reverse)
  | l :: ls, prev, kept, dropped =>
    match c.litValue l with
    | some false => c.sortOut ls prev kept (l.neg :: dropped)
    | some true => none
    | none =>
      if prev == some l.neg then none
      else if prev == some l then c.sortOut ls prev kept dropped
      else c.sortOut ls (some l) (l :: kept) dropped

/-- The literals of a new clause sorted by code and sorted out. -/
def prepare (c : Context) (lits : List Lit) : Option (List Lit × List Lit) :=
  c.sortOut (lits.mergeSort fun a b => a.code ≤ b.code) none [] []

/-- Add the two implications of a two-literal clause. -/
def addImplications (c : Context) (l1 l2 : Lit) : Context :=
  let imps := c.implications.modify l1.neg.code (l2 :: ·)
  { c with implications := imps.modify l2.neg.code (l1 :: ·) }

/-- Put a clause in the store, watching its first two literals. -/
def addStored (c : Context) (lits : Array Lit) (learned : Bool) : Context × Nat :=
  let id := c.store.size
  let w0 := (lits.getD 0 default).neg.code
  let w1 := (lits.getD 1 default).neg.code
  ({ c with store := c.store.push ⟨lits, learned⟩,
            watches := (c.watches.modify w0 (·.push id)).modify w1 (·.push id) }, id)

/-- Whether a two-literal clause is kept as implications: only with no
scope open, over variables made with no scope open. -/
def keepsAsImplications (c : Context) (l1 l2 : Lit) : Bool :=
  c.baseLvl == 0 && c.scopeLvl == 0 && c.birth.getD l1.var 0 == 0 && c.birth.getD l2.var 0 == 0

/-- Add a clause of the facts or assumptions. False literals are dropped;
a clause left with one literal assigns it, and one left with none is a
conflict. -/
def addClause (c : Context) (lits : List Lit) : Context :=
  match c.prepare lits with
  | none => c
  | some (kept, dropped) =>
    let r : Reason := if dropped.isEmpty then .given else .units dropped
    let stored : Unit → Context := fun _ =>
      let (c, id) := c.addStored kept.toArray false
      { c with aux := c.aux.push id }
    match kept with
    | [] => c.setConflict r none
    | [l] => c.assign l r
    | [l1, l2] => if c.keepsAsImplications l1 l2 then c.addImplications l1 l2 else stored ()
    | _ => stored ()

/-- The position, from one on, of the literal assigned at the highest
level; the first of them on a tie. -/
def deepest (c : Context) (lits : Array Lit) : Nat :=
  ((List.range lits.size).drop 1).foldl (fun best i =>
    if best == 0 || c.levelOf (lits.getD i default).var > c.levelOf (lits.getD best default).var
    then i else best) 0

/-- Store a learned clause: it watches its first literal and the deepest
of the others, and assigns its first literal at once when the watched
other is false. -/
def addStoredLearned (c : Context) (arr : Array Lit) : Context :=
  let best := c.deepest arr
  let arr := (arr.setIfInBounds 1 (arr.getD best default)).setIfInBounds best (arr.getD 1 default)
  let (c, id) := c.addStored arr true
  let c := { c with lemmas := c.lemmas.push id }
  let l0 := arr.getD 0 default
  if c.isFalse l0 then c.setConflict (.clause id) none
  else if c.isFalse (arr.getD 1 default) then
    let c := c.assign l0 (.clause id)
    if c.relevancy then c.mark l0.var else c
  else c

/-- Add a learned clause, its first literal the one it asserts. A unit is
assigned; a clause of two literals is kept as implications where an
auxiliary clause would be, in the one-shot engine only. -/
def addLearned (c : Context) : List Lit → Context
  | [] => c
  | [l] => c.assign l .given
  | lits@(l0 :: rest) =>
    match rest with
    | [l1] =>
      if c.oneShot && c.baseLvl == 0 && c.birth.getD l0.var 0 == 0 && c.birth.getD l1.var 0 == 0
      then
        let c := c.addImplications l0 l1
        if c.isFalse l1 then c.assign l0 (.binary l1.neg) else c
      else c.addStoredLearned lits.toArray
    | _ => c.addStoredLearned lits.toArray

/-- Stop listing a stored clause under its watched literals. -/
def detach (c : Context) (id : Nat) : Context :=
  let lits := (c.store.getD id default).lits
  let w0 := (lits.getD 0 default).neg.code
  let w1 := (lits.getD 1 default).neg.code
  { c with watches := (c.watches.modify w0 (·.erase id)).modify w1 (·.erase id) }

end Context

end SmtBackend.Sat
