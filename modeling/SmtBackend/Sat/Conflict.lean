import SmtBackend.Sat.Scope

/-!
# Conflicts: learning and cores

A conflict at a level above the search level is analysed: walking the
trail backwards from the conflict, the literals it rests on at the
conflict level are resolved away until one is left (the first unique
implication point), and the literals below that level are kept. Every
variable met gets more active. The learned clause is the negation of the
point followed by the kept literals, less those implied by the others;
the engine backjumps to the deepest level among the kept literals (at
least the search level) and adds the clause, which then asserts the
negated point.

A conflict at or below the search level ends the check as unsatisfiable.
Its core is found by walking the trail back through the search level from
the conflict: the assumptions met on the way, in the order met, each
mapped back to the assumption term that introduced it.
-/

namespace SmtBackend.Sat

namespace Context

/-- The false literals of a reason other than the literal it forced. -/
def reasonLits (c : Context) (r : Reason) (forced : Option Lit) : List Lit :=
  match r with
  | .clause id => (c.store.getD id default).lits.toList.filter (some · != forced)
  | .binary l => [l.neg]
  | .units ls => ls.map Lit.neg
  | .given => []

/-- The level of the conflict: the deepest level among its literals. -/
def conflictLevel (c : Context) : Nat :=
  match c.conflict with
  | none => 0
  | some k =>
    let forced := k.opposite.map Lit.neg
    (c.reasonLits k.reason forced ++ forced.toList).foldl (fun m l => max m (c.levelOf l.var)) 0

/-- The true literals a reason rests on, in the order they are visited,
for the reason of a forced literal (`none` for the conflict itself). -/
def antecedents (c : Context) (r : Reason) (forced : Option Lit) : List Lit :=
  match r with
  | .clause id =>
    let lits := (c.store.getD id default).lits.toList
    match forced, lits with
    | some k, l0 :: rest =>
      if l0 == k then rest.map Lit.neg else l0.neg :: (rest.drop 1).map Lit.neg
    | _, _ => lits.map Lit.neg
  | .binary l => [l]
  | .units ls => ls
  | .given => []

/-- The largest activity before all activities are scaled down. -/
def activityLimit : Float := 1e100

/-- Make a variable more active, scaling all activities down when it
passes the limit, and move it up in the queue. -/
def bumpActivity (c : Context) (v : Nat) : Context :=
  let act := c.activity.modify v (· + c.bump)
  let c :=
    if act.getD v 0 > activityLimit then
      { c with activity := act.map (· * 1e-100), bump := c.bump * 1e-100 }
    else { c with activity := act }
  if c.heap.contains v then
    { c with heap := c.heap.moveUp c.activity (c.heap.position.getD v 0) }
  else c

/-- The decay of activities: the bump grows by this factor per conflict. -/
def bumpGrowth : Float := 1.052

/-! ## Learning -/

/-- The state of a conflict analysis. -/
structure Analysis where
  ctx : Context
  marked : Array Bool
  /-- Marked variables at the conflict level not yet resolved away. -/
  pending : Nat := 0
  /-- The learned literals below the conflict level. -/
  kept : Array Lit := #[]

/-- Visit a true literal the conflict rests on. -/
def Analysis.visit (clvl : Nat) (a : Analysis) (ante : Lit) : Analysis :=
  let v := ante.var
  let lv := a.ctx.levelOf v
  if !a.marked.getD v false && lv > a.ctx.baseLvl then
    let a := { a with marked := a.marked.setIfInBounds v true, ctx := a.ctx.bumpActivity v }
    if lv == clvl then { a with pending := a.pending + 1 } else { a with kept := a.kept.push ante.neg }
  else a

/-- The last trail position at or below `idx` of a marked variable. -/
def lastMarked (c : Context) (marked : Array Bool) : Nat → Option Nat
  | 0 => if marked.getD (c.trail.getD 0 default).var false then some 0 else none
  | i + 1 =>
    if marked.getD (c.trail.getD (i + 1) default).var false then some (i + 1)
    else lastMarked c marked i

/-- Resolve along the trail from position `idx` down until one marked
literal of the conflict level is left; that literal is returned. -/
def Analysis.walk (clvl : Nat) : Nat → Analysis → Nat → Reason → Option Lit → Analysis × Lit
  | 0, a, _, _, _ => (a, default)
  | fuel + 1, a, idx, r, forced =>
    let a := (a.ctx.antecedents r forced).foldl (visit clvl) a
    match lastMarked a.ctx a.marked idx with
    | none => (a, default)
    | some i =>
      let l := a.ctx.trail.getD i default
      let a := { a with marked := a.marked.setIfInBounds l.var false, pending := a.pending - 1 }
      if a.pending == 0 then (a, l)
      else walk clvl fuel a (i - 1) (a.ctx.reason.getD l.var .given) (some l)

/-- A set of levels kept as a mask of their residues modulo 32, so that it
may contain levels never inserted. -/
def levelMask (c : Context) (lits : List Lit) : Nat :=
  lits.foldl (fun m l => m ||| (1 <<< (c.levelOf l.var % 32))) 0

/-- Whether a level may be in a level mask. -/
def mayContain (mask lvl : Nat) : Bool := (mask >>> (lvl % 32)) % 2 == 1

/-- The state of the search for literals implied by marked ones: the
marks and the variables still to explain. -/
structure Implied where
  marked : Array Bool
  todo : List Nat

/-- Explain the true literals of a variable's reason by marked literals,
marking and queueing the unmarked ones; `none` when one of them is
unassignable to the lemma's levels or a decision stands in the way. -/
def explainStep (c : Context) (mask : Nat) (s : Implied) (v : Nat) : Option Implied :=
  let r := c.reason.getD v .given
  let antes : Option (List Lit) :=
    match r with
    | .given => none
    | .clause id =>
      let lits := (c.store.getD id default).lits.toList
      some ((lits.filter (·.var != v)).map Lit.neg)
    | .binary l => some [l]
    | .units ls => some ls
  antes.bind fun ls => ls.foldlM (fun s ante =>
    let w := ante.var
    let lw := c.levelOf w
    if !s.marked.getD w false && lw > c.baseLvl then
      if mayContain mask lw then
        some { s with marked := s.marked.setIfInBounds w true, todo := w :: s.todo }
      else none
    else some s) s

/-- Run the explanation queue, at most `fuel` steps. -/
def explainAll (c : Context) (mask : Nat) : Nat → Implied → Option Implied
  | 0, _ => none
  | fuel + 1, s =>
    match s.todo with
    | [] => some s
    | v :: rest =>
      (c.explainStep mask { s with todo := rest } v).bind (explainAll c mask fuel)

/-- Whether a kept literal is implied by the marked ones; if so the marks
made on the way stay, and otherwise they are undone. -/
def impliedByMarked (c : Context) (mask : Nat) (marked : Array Bool) (l : Lit) :
    Bool × Array Bool :=
  match c.explainAll mask (c.numVars + 1) { marked := marked, todo := [l.var] } with
  | some s => (true, s.marked)
  | none => (false, marked)

/-- Drop the kept literals implied by the others. -/
def minimize (c : Context) (mask : Nat) (marked : Array Bool) (kept : List Lit) : List Lit :=
  (kept.foldl (fun (acc, marked) l =>
    let (implied, marked) := c.impliedByMarked mask marked l
    (if implied then acc else acc ++ [l], marked)) ([], marked)).1

/-- Forget the phases of the variables assigned at the current level. -/
def forgetCurrentPhases (c : Context) : Context :=
  let head := if c.scopeLvl == 0 then 0 else (c.frames.getD (c.scopeLvl - 1) default).trail
  let phase := (c.trail.extract head c.trail.size).foldl
    (fun ph l => ph.setIfInBounds l.var none) c.phase
  { c with phase := phase }

/-! ## Cores -/

/-- The state of a core walk: marks of variables at the search level and
the assumption literals met. -/
structure CoreWalk where
  marked : Array Bool
  met : List Lit := []

/-- Visit a literal on the core walk. -/
def CoreWalk.visit (c : Context) (w : CoreWalk) (ante : Lit) : CoreWalk :=
  let v := ante.var
  let w := if !w.marked.getD v false && c.levelOf v == c.searchLvl
    then { w with marked := w.marked.setIfInBounds v true } else w
  if c.assumedVars.contains v then { w with met := w.met ++ [ante] } else w

/-- The next trail position at or below `idx` of a marked variable at the
search level, if the walk has not left it. -/
def nextCoreStep (c : Context) (marked : Array Bool) : Nat → Option Nat
  | 0 =>
    let l := c.trail.getD 0 default
    if c.levelOf l.var < c.searchLvl then none
    else if marked.getD l.var false then some 0 else none
  | i + 1 =>
    let l := c.trail.getD (i + 1) default
    if c.levelOf l.var < c.searchLvl then none
    else if marked.getD l.var false then some (i + 1) else nextCoreStep c marked i

/-- Walk the trail back from position `idx` through the search level. -/
def coreWalk (c : Context) : Nat → CoreWalk → Option Nat → Reason → Option Lit → CoreWalk
  | 0, w, _, _, _ => w
  | fuel + 1, w, idx, r, forced =>
    let w := (c.antecedents r forced).foldl (CoreWalk.visit c) w
    let w := match forced with
      | some k => if c.assumedVars.contains k.var then { w with met := w.met ++ [k] } else w
      | none => w
    match idx.bind (nextCoreStep c w.marked) with
    | none => w
    | some i =>
      let l := c.trail.getD i default
      c.coreWalk fuel w (if i == 0 then none else some (i - 1)) (c.reason.getD l.var .given) (some l)

/-- The last trail position at or below the conflict level. -/
def lastAtOrBelow (c : Context) (lvl : Nat) : Option Nat :=
  ((List.range c.trail.size).reverse).find? fun i => c.levelOf (c.trail.getD i default).var ≤ lvl

/-- Record the core of the conflict: the assumption terms of the
assumption literals met, or of their negations, each once, in the order
met. -/
def recordCore (c : Context) : Context :=
  match c.conflict with
  | none => c
  | some k =>
    if c.assumedVars.isEmpty then c
    else
      let w0 : CoreWalk := { marked := Array.replicate c.numVars false }
      let (w0, forced) := match k.opposite with
        | some o => (CoreWalk.visit c w0 o.neg, some o.neg)
        | none => (w0, none)
      let w := c.coreWalk (c.trail.size + 1) w0 (c.lastAtOrBelow c.conflictLevel) k.reason forced
      let terms := w.met.foldl (fun (acc : List Lit × List Term) l =>
        let l := if (c.assumed.lookup l).isSome then l else l.neg
        match c.assumed.lookup l with
        | some t => if acc.1.contains l then acc else (acc.1 ++ [l], acc.2 ++ [t])
        | none => acc) ([], [])
      { c with core := c.core ++ terms.2 }

/-! ## Resolving a conflict -/

/-- Resolve the conflict. The phases of the variables assigned at the
current level are forgotten first, whatever the conflict leads to. The
flag is `false` when the conflict ends the check, with its core recorded;
otherwise a clause has been learned. -/
def resolveConflict (c : Context) : Context × Bool :=
  match c.conflict with
  | none => (c, false)
  | some k =>
    let clvl := c.conflictLevel
    let c := c.forgetCurrentPhases
    if clvl ≤ c.searchLvl then (c.recordCore, false)
    else
      let a : Analysis := { ctx := c, marked := Array.replicate c.numVars false }
      let a := match k.opposite with
        | some o => Analysis.visit clvl a o
        | none => a
      let start := ((List.range c.trail.size).reverse).find? fun i =>
        c.levelOf (c.trail.getD i default).var ≤ clvl
      let forced := k.opposite.map Lit.neg
      let (a, uip) := Analysis.walk clvl (c.trail.size + 1) a (start.getD 0) k.reason forced
      let c := a.ctx
      let mask := c.levelMask (uip.neg :: a.kept.toList)
      let kept := c.minimize mask a.marked a.kept.toList
      let newLvl := kept.foldl (fun m l => max m (c.levelOf l.var)) c.searchLvl
      let c := c.popScope (c.scopeLvl - newLvl)
      let c := c.addLearned (uip.neg :: kept)
      ({ c with bump := c.bump * bumpGrowth }, true)

end Context

end SmtBackend.Sat
