import SmtBackend.Kinds

/-!
# Capability profile

The harness reads which theories and sort kinds the backend supports
before it starts, as a JSON document with two-space indentation.
-/

namespace SmtBackend.Profile

/-- Theories the backend supports. -/
def includedTheories : List Theory :=
  [.array, .bool, .bv, .fp, .int, .quant, .real, .string, .uf]

/-- Theories the backend does not support. -/
def excludedTheories : List Theory := [.bag, .dt, .ff, .seq, .set]

/-- Sort kinds the backend does not support. -/
def excludedSorts : List SortKind := [.bag, .dt, .ff, .reglan, .seq, .set]

/-- A JSON list of strings at the given indentation, one item a line. -/
def stringList (indent : Nat) (items : List String) : String :=
  let pad := String.ofList (List.replicate indent ' ')
  let inner := String.ofList (List.replicate (indent + 2) ' ')
  "[\n" ++ String.intercalate ",\n" (items.map (fun s => inner ++ "\"" ++ s ++ "\"")) ++
    "\n" ++ pad ++ "]"

/-- The profile document. -/
def document : String :=
  "\x7b\n  \"theories\": \x7b\n    \"include\": " ++
    stringList 4 (includedTheories.map Theory.name) ++
    ",\n    \"exclude\": " ++ stringList 4 (excludedTheories.map Theory.name) ++
    "\n  \x7d,\n  \"sorts\": \x7b\n    \"exclude\": " ++
    stringList 4 (excludedSorts.map SortKind.name) ++ "\n  \x7d\n\x7d"

end SmtBackend.Profile
