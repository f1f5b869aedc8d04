import Std.Data.HashMap
import SmtBackend.Term.Basic
import SmtBackend.Layout.Doc

/-!
# SMT-LIB text of sorts and terms

Sorts and terms print in SMT-LIB syntax, laid out in 80 columns.

Large or deep subterms are named and bound by `let`: a subterm other than
the whole term gets a name `a!n` when it is at least five applications deep,
or when it occurs more than once in the term (as a node of the term's DAG)
and weighs at least ten nodes or is a binder. A named subterm counts as a
leaf one level up, and `let` groups bind names level by level, innermost
first. The body of a binder is the root of its own scope: it is never
named itself, names made inside it are bound inside it, and they are
numbered from `a!1` again.

Nested applications of an associative symbol print as one application when
the inner one is not shared, and count as one node.

Symbols that are not simple SMT-LIB symbols are quoted with bars. Bound
variables whose name is already bound get the first free `name!k`.
-/

namespace SmtBackend.Print

open SmtBackend.Layout SmtBackend.Layout.Doc

/-! ## Symbols and literals -/

/-- Whether a character may occur in a simple symbol. -/
def isSimpleSymbolChar (c : Char) : Bool :=
  ('0' ≤ c && c ≤ '9') || ('a' ≤ c && c ≤ 'z') || ('A' ≤ c && c ≤ 'Z') ||
    "~!@$%^&*_-+=<>.?/".toList.contains c

/-- Whether the inside of a bar-quoted symbol has an unescaped bar or
backslash. -/
def hasLooseEscape : List Char → Bool
  | [] => false
  | [c] => c == '\\' || c == '|'
  | '\\' :: c :: rest => if c == '\\' || c == '|' then hasLooseEscape rest else true
  | c :: rest => c == '|' || hasLooseEscape rest

/-- Whether a symbol must be printed between bars: it starts with a digit,
or it has a character outside simple symbols (a symbol already between
bars, with its bars and backslashes escaped, prints as it is). -/
def needsBars (s : String) : Bool :=
  match s.toList with
  | [] => false
  | c :: _ =>
    if '0' ≤ c && c ≤ '9' then true
    else
      let cs := s.toList
      if cs.length ≥ 2 && cs.head? == some '|' && cs.getLast? == some '|' then
        hasLooseEscape ((cs.drop 1).dropLast)
      else !cs.all isSimpleSymbolChar

/-- A symbol between bars, with bars and backslashes escaped. -/
def withBars (s : String) : String :=
  "|" ++ String.ofList (s.toList.flatMap (fun c => if c == '|' || c == '\\' then ['\\', c] else [c]))
    ++ "|"

/-- The printed form of a symbol. -/
def symbol (s : String) : String := if needsBars s then withBars s else s

/-- The printed name of a constant; the null name prints as `null`. -/
def constName (s : String) : String := if s.isEmpty then "null" else symbol s

/-- The printed name of an uninterpreted sort; the null name prints as
`<null>`. -/
def sortName (s : String) : String := if s.isEmpty then "<null>" else symbol s

/-- Digits of a natural number in a radix, most significant first, padded
with zeros to a length. -/
def digitsPadded (radix : Nat) (len : Nat) (v : Nat) : String :=
  let rec go : Nat → Nat → List Char → List Char
    | 0, _, acc => acc
    | k + 1, x, acc =>
      let d := x % radix
      go k (x / radix) ((if d < 10 then Char.ofNat (48 + d) else Char.ofNat (87 + d)) :: acc)
  String.ofList (go len v [])

/-- A bit-vector literal: hexadecimal when the width is a multiple of four,
binary otherwise. -/
def bitsText (width value : Nat) : String :=
  if width % 4 == 0 then "#x" ++ digitsPadded 16 (width / 4) value
  else "#b" ++ digitsPadded 2 width value

/-- Lower-case hexadecimal digits of a natural number. -/
def hexDigits (n : Nat) : String := String.ofList (Nat.toDigits 16 n)

/-- The escape `\u{h}` of a code point. -/
def codeEscape (c : Nat) : String := "\\u" ++ "\x7b" ++ hexDigits c ++ "\x7d"

/-- The characters of a string literal's contents: printable ASCII as it
is with doubled quotes; a backslash before a `u` and every other code point
as its escape, so that the text reads back as the same code points. -/
def codesText : List Nat → String
  | [] => ""
  | c :: rest =>
    let piece :=
      if c < 32 || c ≥ 127 || (c == 92 && rest.head? == some 117) then codeEscape c
      else if c == 34 then "\"\""
      else String.singleton (Char.ofNat c)
    piece ++ codesText rest

/-- A string literal. -/
def stringText (s : List Nat) : String := "\"" ++ codesText s ++ "\""

/-- `(- d)`. -/
def negDoc (d : Doc) : Doc := seq1 "-" [d]

/-- An integer literal. -/
def intDoc (v : Int) : Doc :=
  if v ≥ 0 then .text (toString v) else negDoc (.text (toString v.natAbs))

/-- A real literal: `n.0` or `(/ n.0 d.0)`, negated with `(- …)`. -/
def realDoc (v : Rat) : Doc :=
  let mag := if v < 0 then -v else v
  let body :=
    if mag.den == 1 then Doc.text (toString mag.num ++ ".0")
    else seq1 "/" [.text (toString mag.num ++ ".0"), .text (toString mag.den ++ ".0")]
  if v < 0 then negDoc body else body

/-- A floating-point literal of a format. -/
def floatText (e s : Nat) : FloatValue → String
  | .nan => s!"(_ NaN {e} {s})"
  | .infinity neg => if neg then s!"(_ -oo {e} {s})" else s!"(_ +oo {e} {s})"
  | .zero neg => if neg then s!"(_ -zero {e} {s})" else s!"(_ +zero {e} {s})"
  | .finite neg be m =>
    "(fp #b" ++ (if neg then "1" else "0") ++ " " ++ bitsText e be ++ " " ++
      bitsText (s - 1) m ++ ")"

/-! ## Sorts -/

/-- The document of a sort. -/
def sortDoc : SmtSort → Doc
  | .bool => .text "Bool"
  | .int => .text "Int"
  | .real => .text "Real"
  | .string => .text "String"
  | .roundingMode => .text "RoundingMode"
  | .bitVec w => seq1 "_" [.text "BitVec", .text (toString w)]
  | .float e s => seq1 "_" [.text "FloatingPoint", .text (toString e), .text (toString s)]
  | .array d r => seq1 "Array" (d.attach.map (fun ⟨x, _⟩ => sortDoc x) ++ [sortDoc r])
  | .named n => .text (sortName n)

/-- The text of a sort. -/
def sortText (s : SmtSort) : String := render (sortDoc s)

/-! ## Function symbols -/

/-- The printed name of a symbol, with its indices if it has any. -/
def fnName : Fn → Sum String (String × List Nat)
  | .const n _ => .inl (constName n)
  | .boolLit b => .inl (if b then "true" else "false")
  | .intLit v => .inl (toString v)
  | .realLit _ => .inl "real"
  | .bvLit w v => .inl (bitsText w v)
  | .strLit s => .inl (stringText s)
  | .rmLit m => .inl m.name
  | .fpLit e s v => .inl (floatText e s v)
  | .element s i => .inl (symbol (s ++ "!val!" ++ toString i))
  | .constArray s => .inl ("(as const " ++ sortText s ++ ")")
  | .eq => .inl "=" | .distinct => .inl "distinct" | .ite => .inl "ite"
  | .and => .inl "and" | .or => .inl "or" | .not => .inl "not" | .xor => .inl "xor"
  | .implies => .inl "=>"
  | .add => .inl "+" | .sub => .inl "-" | .mul => .inl "*" | .intDiv => .inl "div"
  | .div => .inl "/" | .mod => .inl "mod" | .neg => .inl "-"
  | .le => .inl "<=" | .lt => .inl "<" | .ge => .inl ">=" | .gt => .inl ">"
  | .toReal => .inl "to_real" | .toInt => .inl "to_int" | .isInt => .inl "is_int"
  | .select => .inl "select" | .store => .inl "store"
  | .bvBinary op => .inl op.name
  | .bvCompare op => .inl op.name
  | .bvNot => .inl "bvnot" | .bvNeg => .inl "bvneg" | .concat => .inl "concat"
  | .bvRedAnd => .inl "bvredand" | .bvRedOr => .inl "bvredor"
  | .extract h l => .inr ("extract", [h, l])
  | .repeat n => .inr ("repeat", [n])
  | .zeroExtend n => .inr ("zero_extend", [n])
  | .signExtend n => .inr ("sign_extend", [n])
  | .rotateLeft n => .inr ("rotate_left", [n])
  | .rotateRight n => .inr ("rotate_right", [n])
  | .fpAbs => .inl "fp.abs" | .fpNeg => .inl "fp.neg" | .fpAdd => .inl "fp.add"
  | .fpSub => .inl "fp.sub" | .fpMul => .inl "fp.mul" | .fpDiv => .inl "fp.div"
  | .fpFma => .inl "fp.fma" | .fpRem => .inl "fp.rem" | .fpSqrt => .inl "fp.sqrt"
  | .fpRoundToIntegral => .inl "fp.roundToIntegral"
  | .fpMin => .inl "fp.min" | .fpMax => .inl "fp.max"
  | .fpCompare op => .inl op.name
  | .fpClass op => .inl op.name
  | .fpFields => .inl "fp"
  | .toFp e s => .inr ("to_fp", [e, s])
  | .toFpUnsigned e s => .inr ("to_fp_unsigned", [e, s])
  | .fpToReal => .inl "fp.to_real"
  | .fpToSbv n => .inr ("fp.to_sbv", [n])
  | .fpToUbv n => .inr ("fp.to_ubv", [n])
  | .strConcat => .inl "str.++" | .strLen => .inl "str.len" | .strAt => .inl "str.at"
  | .strSubstr => .inl "str.substr" | .strContains => .inl "str.contains"
  | .strPrefixof => .inl "str.prefixof" | .strSuffixof => .inl "str.suffixof"
  | .strIndexof => .inl "str.indexof" | .strReplace => .inl "str.replace"
  | .strToInt => .inl "str.to_int" | .strFromInt => .inl "str.from_int"
  | .strLe => .inl "str.<=" | .strLt => .inl "str.<"

/-- The document of a nullary symbol. -/
def leafDoc : Fn → Doc
  | .intLit v => intDoc v
  | .realLit v => realDoc v
  | f => match fnName f with
    | .inl s => .text s
    | .inr (n, idx) => seq1 "_" (.text n :: idx.map (fun i => .text (toString i)))

/-- Names longer than this put every argument on its own line when broken. -/
def maxHeaderWidth : Nat := 16

/-- `(f a₁ … aₙ)`: broken, the arguments after the first align under it;
with a long or indexed head, every argument goes on its own line indented
by two. -/
def appDoc (f : Fn) (args : List Doc) : Doc :=
  let (head, width) : Doc × Option Nat := match fnName f with
    | .inl s => (.text s, some s.utf8ByteSize)
    | .inr (n, idx) => (seq1 "_" (.text n :: idx.map (fun i => .text (toString i))), none)
  match width, args with
  | some w, first :: rest =>
    if w ≤ maxHeaderWidth then
      group (.cat [.nest 1 (.cat [.text "(", head]),
        .nest (w + 2) (.cat [.text " ", first, lines rest, .text ")"])])
    else group (.cat [.nest 1 (.cat [.text "(", head]), .nest 2 (.cat [lines args, .text ")"])])
  | _, _ => group (.cat [.nest 1 (.cat [.text "(", head]), .nest 2 (.cat [lines args, .text ")"])])

/-- `(binder ((x S) …) body)`. -/
def binderDoc (keyword : String) (decls : List Doc) (body : Doc) : Doc :=
  group (.cat [.text "(", .text keyword,
    group (.nest (keyword.utf8ByteSize + 2) (.cat [.text " ", seq5 decls])),
    .nest 2 (.cat [.line, body, .text ")"])])

/-! ## Terms -/

/-- Size measures of a printed subterm: the `let` level it needs, its
weight in nodes and its depth. -/
structure Info where
  level : Nat
  weight : Nat
  depth : Nat
  deriving Repr, Inhabited

/-- A leaf. -/
def Info.leaf : Info := ⟨0, 1, 1⟩

/-- A name given to a subterm. -/
structure Alias where
  term : Term
  doc : Doc
  level : Nat
  name : String

/-- Printer state. -/
structure State where
  /-- How often each compound subterm occurs as an argument in the DAG. -/
  occurrences : Std.HashMap Term Nat
  /-- Names made so far that are still in scope, oldest first. -/
  aliases : Array Alias
  /-- Where the names of each open binder start, innermost first. -/
  scopes : List Nat
  /-- Number of the next name. -/
  next : Nat
  /-- Bound variable names, outermost first. -/
  vars : Array String

/-- The printer monad. -/
abbrev PrintM := StateM State

mutual
/-- Count how often each compound subterm occurs as an argument, visiting
the arguments of each distinct subterm once. -/
def tally : Term → Std.HashMap Term Nat → Std.HashMap Term Nat
  | .var .., m => m
  | .app _ args, m => tallyArgs args m
  | .bind _ _ body, m =>
    let n := m.getD body 0
    if n == 0 then tally body (m.insert body 1) else m.insert body (n + 1)
/-- `tally` over the arguments of an application. -/
def tallyArgs : List Term → Std.HashMap Term Nat → Std.HashMap Term Nat
  | [], m => m
  | c :: cs, m =>
    let n := m.getD c 0
    let m := if n == 0 then tally c (m.insert c 1) else m.insert c (n + 1)
    tallyArgs cs m
end

/-- Whether a subterm occurs more than once. -/
def isShared (t : Term) : PrintM Bool := do
  match t with
  | .app _ [] | .var .. => return false
  | _ => return ((← get).occurrences.getD t 0) > 1

/-- The name given to a term in the innermost scope, if any. -/
def aliasOf (t : Term) : PrintM (Option (String × Nat)) := do
  let st ← get
  let start := st.scopes.headD 0
  let found := (st.aliases.toList.drop start).find? (fun a => a.term == t)
  return found.map (fun a => (a.name, a.level))

/-- Keep a printed subterm, or name it if it is large, deep or shared. -/
def keep (t : Term) (isRoot : Bool) (d : Doc) (info : Info) : PrintM (Doc × Info) := do
  let shared ← isShared t
  if !isRoot && (info.depth ≥ 5 || ((info.weight ≥ 10 || t.isBinder) && shared)) then
    let st ← get
    let name := s!"a!{st.next}"
    set { st with aliases := st.aliases.push ⟨t, d, info.level, name⟩, next := st.next + 1 }
    return (.text name, ⟨info.level + 1, 1, 1⟩)
  else return (d, info)

/-- A binding `(name def)` of a `let`. -/
def bindingDoc (a : Alias) : Doc := seq1 a.name [a.doc]

/-- Bind the given names around a body, one `let` per level. -/
def letDoc (as : List Alias) (body : Doc) : Doc :=
  let top := as.foldl (fun m a => max m a.level) 0
  let levels := (List.range (top + 1)).filterMap (fun k =>
    match as.filter (·.level == k) with
    | [] => none
    | xs => some xs)
  if levels.isEmpty then body else
  let heads := levels.zipIdx.flatMap (fun (xs, i) =>
    (if i == 0 then [] else [Doc.line]) ++ [.text "(let ", .nest 5 (seq5 (xs.map bindingDoc))])
  .cat (heads ++ [.nest 2 (.cat [.line, body])] ++ List.replicate levels.length (.text ")"))

/-- The first name `base!k` (k ≥ 1) not among the given names. -/
def freshName (taken : Array String) (base : String) : String :=
  let rec go : Nat → Nat → String
    | 0, k => s!"{base}!{k}"
    | fuel + 1, k => if taken.contains s!"{base}!{k}" then go fuel (k + 1) else s!"{base}!{k}"
  go (taken.size + 1) 1

/-- Bind the names of a binder's variables, renaming clashes. -/
def bindNames (decls : List (String × SmtSort)) : PrintM (List String) := do
  let mut out := []
  for (n, _) in decls do
    let st ← get
    let base := symbol n
    let name := if st.vars.contains base then freshName st.vars base else base
    set { st with vars := st.vars.push name }
    out := out ++ [name]
  return out

/-- The name of a bound variable. -/
def varName (i : Nat) : PrintM String := do
  let vs := (← get).vars
  if i < vs.size then return vs[vs.size - 1 - i]! else return s!"(:var {i})"

mutual
/-- Print a subterm. -/
def term : Term → Bool → PrintM (Doc × Info)
  | .var i _, _ => return (.text (← varName i), Info.leaf)
  | .app f [], _ => return (leafDoc f, Info.leaf)
  | .app f (a :: as), isRoot => do
    match (← aliasOf (.app f (a :: as))) with
    | some (name, lvl) => return (.text name, ⟨lvl + 1, 1, 1⟩)
    | none =>
      let parts ← arguments f (a :: as)
      let info : Info := ⟨parts.foldl (fun m p => max m p.2.level) 0,
        1 + parts.foldl (fun s p => s + p.2.weight) 0,
        1 + parts.foldl (fun m p => max m p.2.depth) 0⟩
      keep (.app f (a :: as)) isRoot (appDoc f (parts.map (·.1))) info
  | .bind b decls body, isRoot => do
    match (← aliasOf (.bind b decls body)) with
    | some (name, lvl) => return (.text name, ⟨lvl + 1, 1, 1⟩)
    | none =>
      let st ← get
      let outerNext := st.next
      set { st with scopes := st.aliases.size :: st.scopes, next := 1 }
      let names ← bindNames decls
      let (bodyDoc, bodyInfo) ← term body true
      let st ← get
      let start := st.scopes.headD 0
      let inner := st.aliases.toList.drop start
      set { st with aliases := st.aliases.extract 0 start, scopes := st.scopes.drop 1,
                    vars := st.vars.extract 0 (st.vars.size - decls.length), next := outerNext }
      let declDocs := (names.zip decls).map (fun (n, _, s) => seq1 n [sortDoc s])
      let d := binderDoc b.keyword declDocs (letDoc inner bodyDoc)
      -- the names inside are bound inside, so the binder needs no `let` level;
      -- it weighs one node for itself and one per declared variable
      keep (.bind b decls body) isRoot d
        ⟨0, bodyInfo.weight + 1 + decls.length, bodyInfo.depth + 1⟩
/-- Print the arguments of an application of a symbol, merging unshared
nested applications of an associative symbol. -/
def arguments (f : Fn) : List Term → PrintM (List (Doc × Info))
  | [] => return []
  | .app g (b :: bs) :: rest => do
    let here ←
      if f.isAssociative && g == f && !(← isShared (.app g (b :: bs))) then arguments f (b :: bs)
      else do
        let one ← term (.app g (b :: bs)) false
        pure [one]
    let later ← arguments f rest
    return here ++ later
  | a :: rest => do
    let here ← term a false
    let later ← arguments f rest
    return here :: later
end

/-- The document of a term, with its `let` bindings. -/
def termDoc (t : Term) : Doc :=
  let init : State := ⟨tally t {}, #[], [], 1, #[]⟩
  let ((d, _), st) := (term t true).run init
  letDoc st.aliases.toList d

/-- The SMT-LIB text of a term. -/
def termText (t : Term) : String := render (termDoc t)

end SmtBackend.Print
