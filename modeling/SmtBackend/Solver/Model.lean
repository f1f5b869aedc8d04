import SmtBackend.Eval.Reduce
import SmtBackend.Term.Print
import SmtBackend.Hash.Bytes
import SmtBackend.Hash.Table

/-!
# Models

A model gives values to constants. Terms are evaluated in a model with
completion: a constant the model does not mention takes the default value
of its sort. A model prints as one `define-fun` per constant, the value
indented on the line below.

A model over uninterpreted sorts also lists the universe of each sort, in
comment lines before the constants: its elements, a declaration of each
and the constraint that every element of the sort is one of them.
-/

namespace SmtBackend.Solver

open SmtBackend.Eval SmtBackend.Layout

/-- One constant of a model with its value. -/
structure Binding where
  name : String
  sort : SmtSort
  value : Term
  deriving BEq, Repr

/-- A model: the constants it defines, in the order it lists them, and the
elements of each uninterpreted sort, by number, in the order it lists
them. -/
structure Model where
  bindings : List Binding := []
  universes : List (String × List Nat) := []
  /-- The values chosen for applications outside their symbol's domain. -/
  unspecified : List (Term × Term) := []
  deriving BEq, Repr, Inhabited

namespace Model

/-- The value a model gives a constant. -/
def value? (m : Model) (name : String) (s : SmtSort) : Option Term :=
  (m.bindings.find? fun b => b.name == name && b.sort == s).map (·.value)

/-- The first element of the universe of an uninterpreted sort, if the
model lists one. -/
def firstElement? (m : Model) : SmtSort → Option Term
  | .named n => ((m.universes.lookup n).bind List.head?).map fun e => .app (.element n e) []
  | _ => none

/-- The environment of a model, with completion: a constant of an
uninterpreted sort that the model does not define takes the first element
of the sort's universe. Open terms, in the bodies of binders, are put in
normal form. -/
def env (m : Model) : Env :=
  { value? := fun n s => (m.value? n s).orElse fun _ => m.firstElement? s, complete := true,
    normalize := true }

/-- The model with its constants in the order a table keyed by their
symbols lists them, when inserted in the model's order. -/
def inTableOrder (m : Model) : Model :=
  { m with bindings := Hash.tableOrder (fun b => (Hash.symbolHash b.name).toNat) m.bindings }

/-- The model with a universe for each uninterpreted sort that some
constant takes an element of and that has no universe yet: the elements
its constants take, in increasing order. -/
def withUniverses (m : Model) : Model :=
  let used := m.bindings.filterMap fun b => match b.value with
    | .app (.element s k) [] => some (s, k)
    | _ => none
  let missing := (used.map (·.1)).eraseDups.filter fun s => (m.universes.lookup s).isNone
  { m with universes := m.universes ++ missing.map fun s =>
      (s, (((used.filter (·.1 == s)).map (·.2)).eraseDups.mergeSort fun a b => a ≤ b)) }

/-- The value of a term in a model, with completion: applications outside
their symbol's domain take the values the model chose for them. -/
def eval (m : Model) (t : Term) : Term := m.env.eval (t.replace m.unspecified)

/-- The model after evaluating a term with completion: the constants of
the term that it did not define are added, in the order evaluation meets
them, with the values completion gave them. -/
def completeWith (m : Model) (t : Term) : Model :=
  t.constants.foldl (fun m (n, s) =>
    if (m.value? n s).isSome then m
    else { m with bindings := m.bindings ++ [⟨n, s, m.env.lookup n s⟩] }) m

/-! ## Rebuilding a model -/

/-- The model with a constant bound to a value: in its place when the
model already binds it, last otherwise. -/
def bind (m : Model) (b : Binding) : Model :=
  let same := fun (c : Binding) => c.name == b.name && c.sort == b.sort
  if m.bindings.any same then { m with bindings := m.bindings.map fun c => if same c then b else c }
  else { m with bindings := m.bindings ++ [b] }

/-- The model without a constant: its last binding moves into the place
the constant leaves. -/
def hide (m : Model) (name : String) (s : SmtSort) : Model :=
  match m.bindings.findIdx? (fun b => b.name == name && b.sort == s), m.bindings.getLast? with
  | some i, some last => { m with bindings := (m.bindings.set i last).dropLast }
  | _, _ => m

end Model

/-- A step that rebuilds a model of a problem from a model of a simpler
problem: define a constant the simpler problem lost by a term over its
constants, or hide a constant that only the simpler problem has. -/
inductive Rebuild where
  | define (name : String) (sort : SmtSort) (value : Term)
  | hide (name : String) (sort : SmtSort)
  deriving Repr

namespace Model

/-- Take one step: a definition is evaluated with completion, so the
constants it meets that the model lacks come first, then the constant it
defines. -/
def step (m : Model) : Rebuild → Model
  | .define n s t => let m := m.completeWith t; m.bind ⟨n, s, m.eval t⟩
  | .hide n s => m.hide n s

/-- Rebuild a model: the steps are taken last first, undoing the
simplifications in the reverse of the order they were made. -/
def rebuild (m : Model) (steps : List Rebuild) : Model := steps.foldr (fun r m => m.step r) m

/-- The `define-fun` text of one binding. -/
def bindingText (b : Binding) : String :=
  let doc := Doc.cat [.text ("(define-fun " ++ Print.constName b.name ++ " () "),
    Print.sortDoc b.sort, .nest 2 (.cat [.line, Print.termDoc b.value, .text ")"])]
  Doc.render doc

/-- The document of the constraint that every element of a sort is one of
the listed elements. -/
def cardinalityDoc (sort : String) (names : List String) : Doc :=
  let eqs := names.map fun n => Doc.seq1 "=" [.text "x", .text n]
  let cond := match eqs with
    | [d] => d
    | ds => Doc.seq1 "or" ds
  Doc.seq1 "forall" [.text ("((x " ++ sort ++ "))"), cond]

/-- The text of the universe of a sort. -/
def universeText (sortName : String) (elements : List Nat) : String :=
  let sort := Print.sortText (.named sortName)
  let names := elements.map fun k => Doc.render (Print.termDoc (.app (.element sortName k) []))
  ";; universe for " ++ sort ++ ":\n" ++
  ";;   " ++ String.join (names.map (· ++ " ")) ++ "\n" ++
  ";; -----------\n" ++
  ";; definitions for universe elements:\n" ++
  String.join (names.map fun n => "(declare-fun " ++ n ++ " () " ++ sort ++ ")\n") ++
  ";; cardinality constraint:\n" ++
  Doc.render (cardinalityDoc sort names) ++ "\n" ++
  ";; -----------\n"

/-- The text of a model. -/
def text (m : Model) : String :=
  String.join (m.universes.map fun (s, es) => universeText s es) ++
    "\n".intercalate (m.bindings.map bindingText)

end Model

end SmtBackend.Solver
