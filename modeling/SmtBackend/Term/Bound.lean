import SmtBackend.Term.Basic

/-!
# Bound variables

Variables are de Bruijn indices: inside a binder the last declared
variable is index zero, and an index at or above the number of variables
bound between the variable and the top of a term refers outside the term.
Moving a term under binders lifts its free indices; putting values for the
variables of a binder, or dropping variables from it, lowers the indices
above them.
-/

namespace SmtBackend.Term

mutual
/-- Shift the variables at or above `cutoff` up by `k`. -/
def lift (k cutoff : Nat) : Term → Term
  | .var i s => if i ≥ cutoff then .var (i + k) s else .var i s
  | .app f args => .app f (liftAll k cutoff args)
  | .bind b ds body => .bind b ds (lift k (cutoff + ds.length) body)
/-- `lift` on each term of a list. -/
def liftAll (k cutoff : Nat) : List Term → List Term
  | [] => []
  | t :: ts => lift k cutoff t :: liftAll k cutoff ts
end

mutual
/-- Put the values of the declarations of a binder, in declaration order,
for its variables, `depth` binders below it. -/
def instantiate (vals : List Term) (depth : Nat) : Term → Term
  | .var i s =>
    if i < depth then .var i s
    else if i < depth + vals.length then
      match vals[vals.length - 1 - (i - depth)]? with
      | some v => lift depth 0 v
      | none => .var i s
    else .var (i - vals.length) s
  | .app f args => .app f (instantiateAll vals depth args)
  | .bind b ds body => .bind b ds (instantiate vals (depth + ds.length) body)
/-- `instantiate` on each term of a list. -/
def instantiateAll (vals : List Term) (depth : Nat) : List Term → List Term
  | [] => []
  | t :: ts => instantiate vals depth t :: instantiateAll vals depth ts
end

mutual
/-- Whether the variable of index `i`, counted from `depth` binders up,
occurs in a term. -/
def occurs (i depth : Nat) : Term → Bool
  | .var j _ => j == i + depth
  | .app _ args => occursAll i depth args
  | .bind _ ds body => occurs i (depth + ds.length) body
/-- `occurs` in some term of a list. -/
def occursAll (i depth : Nat) : List Term → Bool
  | [] => false
  | t :: ts => occurs i depth t || occursAll i depth ts
end

mutual
/-- Replace each variable that refers above `depth` binders: `f d r s`
gives the term for the variable of sort `s` whose index, counted from the
top of the term, is `r`, seen under `d` binders. -/
def mapFree (f : Nat → Nat → SmtSort → Term) (depth : Nat) : Term → Term
  | .var i s => if i < depth then .var i s else f depth (i - depth) s
  | .app g args => .app g (mapFreeAll f depth args)
  | .bind b ds body => .bind b ds (mapFree f (depth + ds.length) body)
/-- `mapFree` on each term of a list. -/
def mapFreeAll (f : Nat → Nat → SmtSort → Term) (depth : Nat) : List Term → List Term
  | [] => []
  | t :: ts => mapFree f depth t :: mapFreeAll f depth ts
end

/-- Renumber the free variables of a term. -/
def renumber (f : Nat → Nat) (t : Term) : Term :=
  mapFree (fun d r s => .var (d + f r) s) 0 t

/-- The term without the variable of index `i`, which must not occur in
it: the indices above `i` move down by one. -/
def dropVar (i : Nat) (t : Term) : Term := renumber (fun r => if r > i then r - 1 else r) t

/-- Put `u` for the variable of index `i` and drop that variable; `u` is
a term at the level of the variable, which must not occur in it. -/
def substVar (i : Nat) (u : Term) (t : Term) : Term :=
  let u := dropVar i u
  mapFree (fun d r s =>
    if r == i then lift d 0 u else .var (d + if r > i then r - 1 else r) s) 0 t

end SmtBackend.Term
