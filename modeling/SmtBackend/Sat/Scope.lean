import SmtBackend.Sat.Propagate

/-!
# Opening and closing scopes

Opening a scope records where the trail, the auxiliary clauses and the
variables stand. Closing scopes down to a level undoes everything recorded
since: the auxiliary clauses added are dropped, the assignments made are
undone in trail order (each variable going back into the decision queue),
the variables made are dropped with every learned clause that mentions
them, and relevancy and tracked clauses of the closed levels are
forgotten.

Closing a scope the user opened also drops the clauses learned since and
brings back the conflict that stood when it was opened; any other close
clears the conflict.
-/

namespace SmtBackend.Sat

namespace Context

/-- Open a scope. -/
def pushScope (c : Context) : Context :=
  { c with scopeLvl := c.scopeLvl + 1,
           frames := c.frames.push ⟨c.trail.size, c.aux.size, c.numVars⟩ }

/-- Undo the assignment of a variable and put it back into the queue. -/
def unassign (c : Context) (l : Lit) : Context :=
  let v := l.var
  let c := { c with value := c.value.setIfInBounds v none }
  if c.heap.contains v then c else { c with heap := c.heap.insert c.activity v }

/-- Close `n` scopes. Assignments are undone from the last made back, so
the variables return to the queue in that order. -/
def popScope (c : Context) (n : Nat) : Context :=
  if n = 0 then c
  else
    let newLvl := c.scopeLvl - n
    let f := c.frames.getD newLvl default
    let (c, restored) :=
      if newLvl < c.baseLvl then
        let uf := c.userFrames.getD newLvl default
        let c := (c.lemmas.extract uf.lemmas c.lemmas.size).foldl detach c
        ({ c with lemmas := c.lemmas.extract 0 uf.lemmas,
                  userFrames := c.userFrames.extract 0 newLvl }, uf.conflict)
      else (c, none)
    let c := { c with conflict := restored }
    let c := (c.aux.extract f.aux c.aux.size).foldl detach c
    let c := { c with aux := c.aux.extract 0 f.aux }
    let c := (c.trail.extract f.trail c.trail.size).foldr (fun l c => c.unassign l) c
    let c := { c with trail := c.trail.extract 0 f.trail, qhead := f.trail }
    let c := c.dropVarsTo f.vars
    let nv := c.numVars
    let mentionsDropped : Nat → Bool := fun id => (c.store.getD id default).lits.any (·.var ≥ nv)
    let c := (c.lemmas.filter mentionsDropped).foldl detach c
    let c := { c with lemmas := c.lemmas.filter (!mentionsDropped ·) }
    { c with
      frames := c.frames.extract 0 newLvl, scopeLvl := newLvl,
      relHead := min c.relHead c.trail.size,
      relevant := c.relevant.map (·.filter (· ≤ newLvl)),
      ors := c.ors.map (·.filter (·.2 ≤ newLvl)),
      baseLvl := if newLvl < c.baseLvl then newLvl else c.baseLvl,
      searchLvl := if newLvl < c.baseLvl then newLvl else c.searchLvl }

/-- Close the scopes above the user's. -/
def popToBase (c : Context) : Context :=
  if c.scopeLvl > c.baseLvl then c.popScope (c.scopeLvl - c.baseLvl) else c

end Context

end SmtBackend.Sat
