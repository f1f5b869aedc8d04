import SmtBackend.Eval.Value

/-!
# Array values

An array value is a constant array under a chain of stores. Evaluation
keeps such chains short: a store at an index that an earlier store of the
chain already wrote drops the earlier store (the stores below it are put
back in order), and a store of the constant array's own value directly on
the constant array is no store at all. A later store stays above the
earlier ones, so a chain lists its indices in the order they were last
written.

Two array values are equal when their constant arrays hold the same value
and they agree at every index either chain writes.
-/

namespace SmtBackend.Eval.Arrays

/-- One store of a chain: its indices and the value it writes. -/
abbrev Entry := List Term × Term

/-- The constant array under a chain of stores and the stores, innermost
first; `none` for any other term. -/
def chain? : Term → Option (Term × List Entry)
  | .app (.constArray s) [v] => some (.app (.constArray s) [v], [])
  | .app .store (a :: rest) =>
    match rest.reverse with
    | v :: idx => (chain? a).map fun (base, entries) => (base, entries ++ [(idx.reverse, v)])
    | [] => none
  | _ => none

/-- Put one store on an array: a store of the constant array's own value
on the constant array is dropped. -/
def put (arr : Term) (e : Entry) : Term :=
  match arr with
  | .app (.constArray _) [w] => if w == e.2 then arr else .app .store (arr :: e.1 ++ [e.2])
  | _ => .app .store (arr :: e.1 ++ [e.2])

/-- The array value of a store on an array value at value indices; `none`
when the array is not a chain whose indices are all values. -/
def store (arr : Term) (e : Entry) : Option Term :=
  match chain? arr with
  | some (base, entries) =>
    if e.1.all isValue && entries.all (·.1.all isValue) then
      some (put ((entries.filter (·.1 != e.1)).foldl put base) e)
    else none
  | none => none

/-- The value an array value holds at value indices. -/
def read (base : Term) (entries : List Entry) (idx : List Term) : Term :=
  match entries.reverse.find? (·.1 == idx) with
  | some e => e.2
  | none => match base with
    | .app (.constArray _) [v] => v
    | _ => base

/-- Whether two array values are equal, when both are chains over
constant arrays whose indices and values are all values. -/
def equal? (a b : Term) : Option Bool :=
  match chain? a, chain? b with
  | some (ba, ea), some (bb, eb) =>
    match ba, bb with
    | .app (.constArray _) [da], .app (.constArray _) [db] =>
      let entries := ea ++ eb
      if isValue da && isValue db && entries.all (fun e => e.1.all isValue && isValue e.2) then
        some (da == db && entries.all fun e => read ba ea e.1 == read bb eb e.1)
      else none
    | _, _ => none
  | _, _ => none

end SmtBackend.Eval.Arrays
