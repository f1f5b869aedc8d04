import SmtBackend.Sat.Context

/-!
# Unit propagation

Each literal put on the trail is visited once, in trail order. First the
implications listed under it are followed: an implied literal that is
false is a conflict, an unassigned one is assigned. Then each stored
clause listed under it is visited: the clause now has a false watched
literal, which it moves to its second place. If its first literal is true
the clause stays listed; otherwise it looks, from its third literal on,
for a literal that is not false, watches it instead and leaves the list.
With none found, the clause stays listed and is unit (its first literal is
assigned) or false (a conflict, which ends the propagation).

With relevancy on, each trail literal then makes one of the tracked
clauses it belongs to relevant: a clause that holds and has no relevant
true literal makes the atom of its first true literal relevant.
-/

namespace SmtBackend.Sat

namespace Context

/-- Follow the implications of a literal that became true. The flag is
`false` on a conflict. -/
def followImplications (c : Context) (l : Lit) : List Lit → Context × Bool
  | [] => (c, true)
  | l2 :: rest =>
    match c.litValue l2 with
    | some false => (c.setConflict (.binary l) (some l2.neg), false)
    | none => (c.assign l2 (.binary l)).followImplications l rest
    | some true => c.followImplications l rest

/-- The first position from `k` on of a literal that is not false. -/
def firstNotFalse (c : Context) (lits : Array Lit) (k : Nat) : Option Nat :=
  ((List.range (lits.size - k)).map (· + k)).find? fun j => !c.isFalse (lits.getD j default)

/-- Visit the stored clauses listed under a literal that became true,
collecting those that stay listed. The flag is `false` on a conflict. -/
def visitWatches (l : Lit) : List Nat → Context → Array Nat → Context × Bool
  | [], c, keep => ({ c with watches := c.watches.setIfInBounds l.code keep }, true)
  | id :: rest, c, keep =>
    let notL := l.neg
    let cl := c.store.getD id default
    let lits :=
      if cl.lits.getD 0 default == notL then
        (cl.lits.setIfInBounds 0 (cl.lits.getD 1 default)).setIfInBounds 1 notL
      else cl.lits
    let c := { c with store := c.store.setIfInBounds id { cl with lits := lits } }
    let first := lits.getD 0 default
    let fv := c.litValue first
    if fv == some true then visitWatches l rest c (keep.push id)
    else
      match c.firstNotFalse lits 2 with
      | some k =>
        let nl := lits.getD k default
        let lits := (lits.setIfInBounds 1 nl).setIfInBounds k notL
        let c := { c with
          store := c.store.setIfInBounds id { cl with lits := lits },
          watches := c.watches.modify nl.neg.code (·.push id) }
        visitWatches l rest c keep
      | none =>
        let keep := keep.push id
        if fv == some false then
          ({ (c.setConflict (.clause id) none) with
            watches := c.watches.setIfInBounds l.code (keep ++ rest.toArray) }, false)
        else
          let c := c.assign first (.clause id)
          let c := if cl.learned && c.relevancy then c.mark first.var else c
          visitWatches l rest c keep

/-- Visit the trail from the propagation head, at most `fuel` literals.
The flag is `false` on a conflict. -/
def bcp (c : Context) : Nat → Context × Bool
  | 0 => (c, true)
  | fuel + 1 =>
    if c.qhead < c.trail.size then
      let l := c.trail.getD c.qhead default
      let c := { c with qhead := c.qhead + 1 }
      match c.followImplications l (c.implications.getD l.code []) with
      | (c, false) => (c, false)
      | (c, true) =>
        match visitWatches l (c.watches.getD l.code #[]).toList c #[] with
        | (c, false) => (c, false)
        | (c, true) => c.bcp fuel
    else (c, true)

/-- Make a tracked clause that holds relevant through its first true
literal, unless one of its true literals is relevant already. -/
def relevateClause (c : Context) (oid : Nat) : Context :=
  match c.ors.getD oid none with
  | none => c
  | some (lits, _) =>
    let trueLits := lits.filter c.isTrue
    if trueLits.any fun l => c.isRelevant l.var then c
    else match trueLits with
      | l :: _ => c.mark l.var
      | [] => c

/-- Propagate relevancy along the trail from its head, at most `fuel`
literals. -/
def propagateRelevancy (c : Context) : Nat → Context
  | 0 => c
  | fuel + 1 =>
    if c.relHead < c.trail.size then
      let l := c.trail.getD c.relHead default
      let c := { c with relHead := c.relHead + 1 }
      let c := (c.orWatches.getD l.code #[]).foldl relevateClause c
      c.propagateRelevancy fuel
    else c

/-- Propagate to a fixed point. The flag is `false` when there is a
conflict, found now or before. Each variable is on the trail at most once,
so twice the number of variables bounds the visits. -/
def propagate (c : Context) : Context × Bool :=
  if c.conflict.isSome then (c, false)
  else
    let fuel := 2 * c.numVars + c.trail.size + 1
    match c.bcp fuel with
    | (c, false) => (c, false)
    | (c, true) => (if c.relevancy then c.propagateRelevancy fuel else c, true)

end Context

end SmtBackend.Sat
