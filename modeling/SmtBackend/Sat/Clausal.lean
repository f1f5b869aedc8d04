import SmtBackend.Sat.Heap
import SmtBackend.Sat.Random
import SmtBackend.Sat.Lit
import SmtBackend.Sat.Formula

/-!
# Search over a clause set

A one-shot check of clauses runs a search built for clauses alone, the way a
dedicated propositional solver does. Variables are numbered in the order
their atoms first occur (variable zero stands for `true`) and start at
activity zero and phase `false`. The heap of variables to decide keeps ties
in place, and one decision in a hundred goes to a variable drawn at random.
A clause of two literals is watched as an implication, a longer one by its
first two literals with a blocking literal. A conflict whose deepest level
holds one literal backtracks below it; any other is traced back to the first
unique implication point, and the lemma is minimized through the levels it
has (compared modulo 32) and through binary clauses before the search jumps
back and asserts it. The variables met gain activity, the gain growing by a
tenth per conflict, scaled down when one passes 2^24.
-/

namespace SmtBackend.Sat.Clausal

/-- Why a variable holds its value. -/
inductive Why where
  /-- A decision, an input unit or the constant `true`. -/
  | none
  /-- A binary clause, by its other literal, which is false. -/
  | binary (other : Lit)
  /-- A stored clause, by its index, whose other literals are false. -/
  | clause (index : Nat)
  deriving Repr, Inhabited, BEq

/-- An entry of a watch list. -/
inductive Watch where
  /-- A binary clause, by its other literal. -/
  | binary (other : Lit)
  /-- A stored clause, by its index, with its blocking literal. -/
  | clause (blocker : Lit) (index : Nat)
  deriving Repr, Inhabited, BEq

/-- A conflict: the clause that is false and, for a binary clause found
false while propagating, the literal the propagation would have made
true, negated. -/
structure Conflict where
  why : Why
  opposite : Option Lit
  deriving Repr, Inhabited

/-- The state of the search. -/
structure Solver where
  atoms : Array String := #[""]
  value : Array (Option Bool) := #[some true]
  level : Array Nat := #[0]
  why : Array Why := #[.none]
  phase : Array Bool := #[true]
  activity : Array Float := #[0]
  heap : VarHeap := ⟨#[0, 0], #[1]⟩
  clauses : Array (Array Lit) := #[]
  /-- The watches of each literal, by code: the clauses that its truth may
  make unit. -/
  watches : Array (Array Watch) := #[#[], #[]]
  trail : Array Lit := #[Lit.top]
  qhead : Nat := 0
  /-- The trail size at each decision level. -/
  scopes : Array Nat := #[]
  gain : Nat := 128
  rand : Lcg := Lcg.seeded 0
  conflict : Option Conflict := none
  /-- Whether the last conflict had one deepest literal, so that the next
  one is analysed whatever its shape. -/
  forced : Bool := false
  inconsistent : Bool := false
  deriving Inhabited

/-- The answer of a search. -/
inductive Answer where
  | sat
  | unsat
  /-- The search ran out of steps. -/
  | exhausted
  deriving DecidableEq, Repr

namespace Solver

/-- The number of variables, the constant included. -/
def numVars (s : Solver) : Nat := s.atoms.size

/-- The value of a literal. -/
def litValue (s : Solver) (l : Lit) : Option Bool :=
  (s.value.getD l.var none).map fun b => if l.positive then b else !b

/-- The level of a literal's variable. -/
def levelOf (s : Solver) (l : Lit) : Nat := s.level.getD l.var 0

/-- The current decision level. -/
def scopeLvl (s : Solver) : Nat := s.scopes.size

/-- The watches of a literal. -/
def watchesOf (s : Solver) (l : Lit) : Array Watch := s.watches.getD l.code #[]

/-- Add a watch to a literal's list. -/
def addWatch (s : Solver) (l : Lit) (w : Watch) : Solver :=
  { s with watches := s.watches.modify l.code (·.push w) }

/-- The variable of an atom, made when the atom is new. -/
def varOf (s : Solver) (name : String) : Solver × Nat :=
  match (s.atoms.toList.drop 1).findIdx? (· == name) with
  | some i => (s, i + 1)
  | none =>
    let v := s.atoms.size
    let s := { s with
      atoms := s.atoms.push name, value := s.value.push none, level := s.level.push 0,
      why := s.why.push .none, phase := s.phase.push false, activity := s.activity.push 0,
      watches := (s.watches.push #[]).push #[] }
    ({ s with heap := s.heap.grow.insert s.activity v }, v)

/-- The literal of a signed atom. -/
def litOf (s : Solver) (l : Signed) : Solver × Lit :=
  let (s, v) := s.varOf l.name
  (s, Lit.ofVar v l.positive)

/-- Make a literal true at a level, for a reason; the variable keeps the
value as its phase. -/
def assign (s : Solver) (l : Lit) (lvl : Nat) (why : Why) : Solver :=
  { s with value := s.value.setIfInBounds l.var (some l.positive),
           level := s.level.setIfInBounds l.var lvl,
           why := s.why.setIfInBounds l.var why,
           phase := s.phase.setIfInBounds l.var l.positive,
           trail := s.trail.push l }

/-- Swap two literals of a clause. -/
def swapLits (c : Array Lit) (i j : Nat) : Array Lit :=
  let a := c.getD i default
  let b := c.getD j default
  (c.setIfInBounds i b).setIfInBounds j a

/-! ## Clauses -/

/-- The literals of a sorted input clause that are not false, repeats
removed; `none` when one is true or two are opposite. -/
def simplifyClause (s : Solver) : List Lit → Option Lit → List Lit → Option (List Lit)
  | [], _, acc => some acc.reverse
  | l :: ls, prev, acc =>
    match s.litValue l with
    | some false => simplifyClause s ls prev acc
    | some true => none
    | none =>
      if prev == some l.neg then none
      else if prev == some l then simplifyClause s ls prev acc
      else simplifyClause s ls (some l) (l :: acc)

/-- Watch a binary clause from both sides. -/
def addBinary (s : Solver) (a b : Lit) : Solver :=
  (s.addWatch a.neg (.binary b)).addWatch b.neg (.binary a)

/-- Store a clause of three or more literals and watch its first two, the
literal in the middle blocking. -/
def attach (s : Solver) (c : Array Lit) : Solver × Nat :=
  let idx := s.clauses.size
  let blocker := c.getD (c.size / 2) default
  let s := { s with clauses := s.clauses.push c }
  (((s.addWatch (c.getD 0 default).neg (.clause blocker idx)).addWatch
    (c.getD 1 default).neg (.clause blocker idx)), idx)

/-- Add an input clause. -/
def addInput (s : Solver) (lits : List Lit) : Solver :=
  match s.simplifyClause (lits.mergeSort fun a b => a.code ≤ b.code) none [] with
  | none => s
  | some [] => { s with inconsistent := true }
  | some [l] =>
    match s.litValue l with
    | none => s.assign l 0 .none
    | some true => s
    | some false => { s with inconsistent := true }
  | some [a, b] => s.addBinary a b
  | some ls => (s.attach ls.toArray).1

/-- Add a clause from its signed atoms. -/
def addSigned (s : Solver) (ls : List Signed) : Solver :=
  let (s, lits) := ls.foldl (fun (s, acc) l => let (s, x) := s.litOf l; (s, acc ++ [x])) (s, [])
  s.addInput lits

/-! ## Propagation -/

/-- What a look past the first two literals of a clause finds: a true
literal, or the last open literal, how many open ones (at most two), and
the deepest false literal with its level. -/
inductive Scan where
  | satisfied (lit : Lit)
  | looked (openAt opens deepestLevel deepestAt : Nat)

/-- Look through the literals of a clause from the third on. -/
def scan (s : Solver) : List (Lit × Nat) → Nat → Nat → Nat → Nat → Scan
  | [], u, n, al, mi => .looked u n al mi
  | (lit, k) :: rest, u, n, al, mi =>
    if n > 1 then .looked u n al mi
    else
      match s.litValue lit with
      | some true => .satisfied lit
      | none => scan s rest k (n + 1) al mi
      | some false =>
        let lv := s.levelOf lit
        if lv > al then scan s rest u n lv k else scan s rest u n al mi

/-- Move the second watch of a clause to its literal at `i`. -/
def setWatch (s : Solver) (idx i : Nat) : Solver :=
  let c := swapLits (s.clauses.getD idx #[]) 1 i
  let s := { s with clauses := s.clauses.setIfInBounds idx c }
  s.addWatch (c.getD 1 default).neg (.clause (c.getD 0 default) idx)

/-- Visit the watches of the true literal `l`, assigned at level `curr`,
keeping those that stay. On a conflict the rest is kept as it is and the
flag is `false`. -/
def visit (l : Lit) (curr : Nat) : Solver → List Watch → Array Watch → Solver × Array Watch × Bool
  | s, [], keep => (s, keep, true)
  | s, w :: rest, keep =>
    let notL := l.neg
    match w with
    | .binary l1 =>
      match s.litValue l1 with
      | some false =>
        ({ s with conflict := some ⟨.binary notL, some l1.neg⟩ }, (keep.push w) ++ rest.toArray, false)
      | none => visit l curr (s.assign l1 curr (.binary notL)) rest (keep.push w)
      | some true => visit l curr s rest (keep.push w)
    | .clause blk idx =>
      if s.litValue blk == some true then visit l curr s rest (keep.push w)
      else
        let c0 := s.clauses.getD idx #[]
        let c := if c0.getD 0 default == notL then swapLits c0 0 1 else c0
        let s := { s with clauses := s.clauses.setIfInBounds idx c }
        let first := c.getD 0 default
        if c.getD 1 default != notL then visit l curr s rest (keep.push w)
        else if s.litValue first == some true then visit l curr s rest (keep.push (.clause first idx))
        else
          match s.scan ((c.toList.zipIdx).drop 2) 0 0 curr 1 with
          | .satisfied lit => visit l curr s rest (keep.push (.clause lit idx))
          | .looked u n al mi =>
            let firstFalse := s.litValue first == some false
            let al := if firstFalse then max al (s.levelOf first) else al
            if u != 0 then
              let s := s.setWatch idx u
              if firstFalse && n == 1 then
                let c := swapLits (s.clauses.getD idx #[]) 0 1
                let s := { s with clauses := s.clauses.setIfInBounds idx c }
                visit l curr (s.assign (c.getD 0 default) al (.clause idx)) rest keep
              else visit l curr s rest keep
            else if firstFalse then
              ({ s with conflict := some ⟨.clause idx, none⟩ }, (keep.push w) ++ rest.toArray, false)
            else
              let (s, keep) := if mi != 1 then (s.setWatch idx mi, keep) else (s, keep.push w)
              visit l curr (s.assign first al (.clause idx)) rest keep

/-- Propagate one true literal; `false` on a conflict. -/
def propagateLit (s : Solver) (l : Lit) : Solver × Bool :=
  let ws := s.watchesOf l
  let s := { s with watches := s.watches.setIfInBounds l.code #[] }
  let (s, keep, ok) := visit l (s.levelOf l) s ws.toList #[]
  ({ s with watches := s.watches.setIfInBounds l.code keep }, ok)

/-- Propagate the trail from its head, at most `fuel` literals; `false`
on a conflict. -/
def propagate (s : Solver) : Nat → Solver × Bool
  | 0 => (s, true)
  | fuel + 1 =>
    if s.qhead < s.trail.size then
      let l := s.trail.getD s.qhead default
      match { s with qhead := s.qhead + 1 }.propagateLit l with
      | (s, true) => propagate s fuel
      | (s, false) => (s, false)
    else (s, true)

/-! ## Levels -/

/-- Open a decision level. -/
def push (s : Solver) : Solver := { s with scopes := s.scopes.push s.trail.size }

/-- Undo the assignment of a variable and queue it again. -/
def unassign (s : Solver) (v : Nat) : Solver :=
  let s := { s with value := s.value.setIfInBounds v none }
  if s.heap.contains v then s else { s with heap := s.heap.insert s.activity v }

/-- Close `n` decision levels. The literals above the level kept are
undone from the top, except those of a level kept, which go back on the
trail in their order; propagation resumes where the kept trail ends. -/
def pop (s : Solver) (n : Nat) : Solver :=
  if n == 0 then s
  else
    let newLvl := s.scopeLvl - n
    let oldSz := s.scopes.getD newLvl s.trail.size
    let above := (s.trail.extract oldSz s.trail.size).toList.reverse
    let (s, replay) := above.foldl (fun (acc : Solver × List Lit) l =>
      if acc.1.levelOf l ≤ newLvl then (acc.1, l :: acc.2) else (acc.1.unassign l.var, acc.2)) (s, [])
    { s with trail := s.trail.extract 0 oldSz ++ replay.toArray,
             scopes := s.scopes.extract 0 newLvl, qhead := oldSz }

/-! ## Decisions -/

/-- A draw below this bound makes the next decision random. -/
def randomDecisionBound : Nat := Lcg.maxDraw / 100

/-- The most active unassigned variable, taken out of the queue with the
assigned ones before it. -/
def popQueue (s : Solver) : Nat → Solver × Option Nat
  | 0 => (s, none)
  | fuel + 1 =>
    match s.heap.eraseMin s.activity with
    | none => (s, none)
    | some (v, h) =>
      let s := { s with heap := h }
      if (s.value.getD v none).isNone then (s, some v) else s.popQueue fuel

/-- The variable to decide next, if any is unassigned. -/
def nextVar (s : Solver) : Solver × Option Nat :=
  let (r, g) := s.rand.next
  let s := { s with rand := g }
  let (s, pick) :=
    if r < randomDecisionBound then
      let (r2, g) := s.rand.next
      let v := r2 % s.numVars
      ({ s with rand := g }, if (s.value.getD v none).isNone then some v else none)
    else (s, none)
  match pick with
  | some v => (s, some v)
  | none => s.popQueue s.heap.slots.size

/-- Decide a variable by its phase; `false` when all are assigned. -/
def decide (s : Solver) : Solver × Bool :=
  match s.nextVar with
  | (s, none) => (s, false)
  | (s, some v) =>
    let s := s.push
    (s.assign (Lit.ofVar v (s.phase.getD v false)) s.scopeLvl .none, true)

/-! ## Conflicts -/

/-- The literals of the conflict clause, all false. -/
def conflictLits (s : Solver) : List Lit :=
  match s.conflict with
  | some ⟨.binary x, _⟩ => [x]
  | some ⟨.clause idx, _⟩ => (s.clauses.getD idx #[]).toList
  | _ => []

/-- The deepest level of the conflict and whether one literal alone is
there. -/
def conflictLevel (s : Solver) : Nat × Bool :=
  let start := match s.conflict with
    | some ⟨_, some y⟩ => s.levelOf y
    | _ => 0
  s.conflictLits.foldl (fun (lvl, unique) l =>
    let l1 := s.levelOf l
    if l1 < lvl then (lvl, unique) else if l1 > lvl then (l1, true) else (l1, false)) (start, true)

/-- Raise the activity of a variable by the gain, rescaling all when it
passes 2^24. -/
def bumpVar (s : Solver) (v : Nat) : Solver :=
  let act := s.activity.getD v 0 + s.gain.toFloat
  let s := { s with activity := s.activity.setIfInBounds v act }
  let s := if s.heap.contains v then { s with heap := s.heap.moveUp s.activity (s.heap.position.getD v 0) } else s
  if act > (Nat.pow 2 24).toFloat then
    { s with activity := s.activity.map (fun a => (a.toUInt64.toNat / Nat.pow 2 14).toFloat),
             gain := s.gain / Nat.pow 2 14 }
  else s

/-- The analysis of a conflict: the variables marked, how many of them
are on the conflict level, and the lemma's literals below it. -/
structure Analysis where
  marked : List Nat := []
  open_ : Nat := 0
  learnt : List Lit := []

/-- Meet the true literal `ante` in the analysis of a conflict at level
`clvl`: an unmarked variable above level zero is marked and bumped, and
counted on the conflict level or put in the lemma below it. -/
def meet (clvl : Nat) (sa : Solver × Analysis) (ante : Lit) : Solver × Analysis :=
  let (s, a) := sa
  let v := ante.var
  let vl := s.level.getD v 0
  if a.marked.contains v || vl == 0 then (s, a)
  else
    let s := s.bumpVar v
    let a := { a with marked := v :: a.marked }
    if vl == clvl then (s, { a with open_ := a.open_ + 1 })
    else (s, { a with learnt := a.learnt ++ [ante.neg] })

/-- Meet the literals a reason holds against the consequent. -/
def meetReason (clvl : Nat) (sa : Solver × Analysis) (why : Why) (consequent : Option Lit) :
    Solver × Analysis :=
  match why with
  | .binary x => meet clvl sa x.neg
  | .clause idx =>
    let c := sa.1.clauses.getD idx #[]
    let rest := match consequent with
      | none => c.toList
      | some q => if c.getD 0 default == q then c.toList.drop 1
        else (c.getD 0 default) :: c.toList.drop 2
    rest.foldl (fun sa x => meet clvl sa x.neg) sa
  | .none => sa

/-- The index of the last trail literal on a marked variable at or below
`idx`. -/
def lastMarked (s : Solver) (marked : List Nat) : Nat → Nat → Nat
  | 0, idx => idx
  | fuel + 1, idx =>
    if marked.contains (s.trail.getD idx default).var || idx == 0 then idx
    else lastMarked s marked fuel (idx - 1)

/-- Trace a conflict back along the trail from index `idx` until one
literal of the conflict level is left: the result is the lemma's first
literal, negated, and the analysis. -/
def trace (clvl : Nat) : Nat → Solver × Analysis → Why → Option Lit → Nat → Solver × Analysis × Lit
  | 0, (s, a), _, q, _ => (s, a, q.getD default)
  | fuel + 1, (s, a), why, q, idx =>
    let (s, a) := meetReason clvl (s, a) why q
    let at_ := lastMarked s a.marked s.trail.size idx
    let lit := s.trail.getD at_ default
    let a := { a with marked := a.marked.erase lit.var, open_ := a.open_ - 1 }
    if a.open_ == 0 then (s, a, lit)
    else trace clvl fuel (s, a) (s.why.getD lit.var .none) (some lit) (at_ - 1)

/-- Whether the false literal `lit` of the lemma follows from marked
variables: every reason on the way is traced through variables on levels
in `levels` (modulo 32) until marked ones or level zero. The variables
found are marked too. -/
def impliedBy (s : Solver) (levels : Nat) : Nat → List Nat → List Nat → Option (List Nat)
  | 0, _, _ => none
  | _ + 1, [], marked => some marked
  | fuel + 1, v :: stack, marked =>
    let antes := match s.why.getD v .none with
      | .none => if s.level.getD v 0 > 0 then none else some []
      | .binary x => some [x]
      | .clause idx => some ((s.clauses.getD idx #[]).toList.filter (·.var != v))
    match antes with
    | none => none
    | some xs =>
      let step := xs.foldl (fun (acc : Option (List Nat × List Nat)) x =>
        acc.bind fun (stack, marked) =>
          let av := x.var
          let lv := s.level.getD av 0
          if marked.contains av || lv == 0 then some (stack, marked)
          else if (levels / Nat.pow 2 (lv % 32)) % 2 == 1 then some (av :: stack, av :: marked)
          else none) (some (stack, marked))
      match step with
      | none => none
      | some (stack, marked) => impliedBy s levels fuel stack marked

/-- The lemma without the literals after the first that marked variables
imply. -/
def minimize (s : Solver) (learnt : List Lit) (marked : List Nat) : List Lit :=
  let levels := (learnt.drop 1).foldl (fun acc l =>
    let bit := Nat.pow 2 (s.levelOf l % 32)
    if (acc / bit) % 2 == 1 then acc else acc + bit) 0
  let fuel := s.numVars * s.numVars + 1
  let (kept, _) := (learnt.drop 1).foldl (fun (acc : List Lit × List Nat) l =>
    match s.impliedBy levels fuel [l.var] acc.2 with
    | some marked => (acc.1, marked)
    | none => (acc.1 ++ [l], acc.2)) ([], marked)
  learnt.take 1 ++ kept

/-- The lemma without the literals that a binary clause with another
literal of the lemma resolves away; the first literal stays. -/
def resolveBinaries (s : Solver) (learnt : List Lit) : List Lit :=
  let first := learnt.headD default
  let kept := learnt.foldl (fun kept l =>
    if !kept.contains l then kept
    else
      let binaries := (s.watchesOf l.neg).toList.takeWhile fun | .binary _ => true | _ => false
      binaries.foldl (fun kept w => match w with
        | .binary l2 => if kept.contains l2.neg && first != l2.neg then kept.erase l2.neg else kept
        | _ => kept) kept) learnt
  learnt.filter kept.contains

/-- Whether a binary clause of `a` with `b` is watched. -/
def hasBinary (s : Solver) (a b : Lit) : Bool :=
  (s.watchesOf a.neg).contains (.binary b)

/-- Learn a lemma at the level the search jumped back to: a unit at level
zero; a binary clause, which propagates its open literal; or a stored
clause watching its first literal and its deepest other one. -/
def learn (s : Solver) : List Lit → Solver
  | [] => { s with inconsistent := true }
  | [l] => s.assign l 0 .none
  | [l1, l2] =>
    if s.hasBinary l1 l2.neg && s.litValue l1 == none then s.assign l1 0 .none
    else if s.hasBinary l2 l1.neg && s.litValue l2 == none then s.assign l2 0 .none
    else
      let s := if s.litValue l2 == some false then s.assign l1 (s.levelOf l2) (.binary l2)
        else if s.litValue l1 == some false then s.assign l2 (s.levelOf l1) (.binary l1)
        else s
      s.addBinary l1 l2
  | learnt =>
    let arr := learnt.toArray
    let deepest := (List.range arr.size).foldl (fun k i =>
      if i ≥ 1 && s.levelOf (arr.getD i default) > s.levelOf (arr.getD k default) then i else k) 1
    let c := swapLits arr 1 deepest
    let s := if s.litValue (c.getD 0 default) == some false then
        s.assign (c.getD 1 default) (c.toList.foldl (fun m x => max m (s.levelOf x)) 0) (.clause s.clauses.size)
      else if s.litValue (c.getD 1 default) == some false then
        s.assign (c.getD 0 default) ((c.toList.drop 1).foldl (fun m x => max m (s.levelOf x)) 0)
          (.clause s.clauses.size)
      else s
    (s.attach c).1

/-- Resolve the conflict; `false` when it holds at level zero. -/
def resolveConflict (s : Solver) : Solver × Bool :=
  let (clvl, unique) := s.conflictLevel
  if clvl == 0 then (s, false)
  else if unique && !s.forced then
    ({ s.pop (s.scopeLvl - clvl + 1) with forced := true, conflict := none }, true)
  else
    let s := { s with forced := false }
    let top := (List.range s.trail.size).reverse.find? (fun i => s.levelOf (s.trail.getD i default) ≤ clvl)
    let idx := top.getD 0
    let (s, a) := match s.conflict with
      | some ⟨_, some y⟩ => meet clvl (s, {}) y
      | _ => (s, {})
    let consequent := match s.conflict with
      | some ⟨_, some y⟩ => some y.neg
      | _ => none
    let why := (s.conflict.map (·.why)).getD .none
    let (s, a, uip) := trace clvl (s.trail.size + 1) (s, a) why consequent idx
    let learnt := uip.neg :: a.learnt
    let learnt := s.resolveBinaries (s.minimize learnt a.marked)
    let back := (learnt.drop 1).foldl (fun m l => max m (s.levelOf l)) 0
    let s := s.pop (s.scopeLvl - back)
    let s := s.learn learnt
    ({ s with gain := s.gain * 110 / 100, conflict := none }, true)

/-! ## Search -/

/-- Propagate, resolve conflicts and decide, at most `fuel` times. -/
def searchLoop (s : Solver) : Nat → Solver × Answer
  | 0 => (s, .exhausted)
  | fuel + 1 =>
    match s.propagate (s.numVars + 1) with
    | (s, false) =>
      match s.resolveConflict with
      | (s, true) => if s.inconsistent then (s, .unsat) else searchLoop s fuel
      | (s, false) => (s, .unsat)
    | (s, true) =>
      match s.decide with
      | (s, true) => searchLoop s fuel
      | (s, false) => (s, .sat)

/-- The steps a search may take. -/
def searchBudget : Nat := 1000000

/-- Search the clauses added so far, the generator started from `seed`. -/
def check (s : Solver) (seed : Nat) : Solver × Answer :=
  if s.inconsistent then (s, .unsat)
  else { s with rand := Lcg.seeded seed }.searchLoop searchBudget

/-- The atoms with their values, in the order of their variables. -/
def model (s : Solver) : List (String × Bool) :=
  ((List.range s.numVars).drop 1).filterMap fun v =>
    (s.value.getD v none).map fun b => (s.atoms.getD v "", b)

end Solver

/-- Search a list of facts, each a clause of signed atoms or a truth value. -/
def solve (facts : List Fact) (seed : Nat) : Solver × Answer :=
  let s := facts.foldl (fun (s : Solver) f => match f with
    | .tt => s
    | .ff => { s with inconsistent := true }
    | .clause ls => s.addSigned ls) {}
  s.check seed

end SmtBackend.Sat.Clausal
