/-!
# Documents and their layout

Terms are printed through documents: text, line breaks, indentation
relative to the enclosing indentation, concatenation, and choices between
a flat and a broken alternative. The layout is greedy and left to right:
a choice takes its first alternative when that alternative's text up to
its first line break fits in what is left of the current line of 80
columns, and its second alternative otherwise. Only the choice itself is
measured, never the text that follows it. Widths count UTF-8 bytes.
-/

namespace SmtBackend.Layout

/-- A document. -/
inductive Doc where
  | text (s : String)
  | line
  | nest (indent : Nat) (d : Doc)
  | cat (ds : List Doc)
  | choice (flat broken : Doc)
  deriving Repr, Inhabited

/-- The line width of the layout. -/
def lineWidth : Nat := 80

namespace Doc

mutual
/-- The document with every line break replaced by a space and every
choice by its flat alternative. -/
def flatten : Doc → Doc
  | .text s => .text s
  | .line => .text " "
  | .nest n d => .nest n (flatten d)
  | .cat ds => .cat (flattenAll ds)
  | .choice f _ => flatten f
/-- `flatten` on each document of a list. -/
def flattenAll : List Doc → List Doc
  | [] => []
  | d :: ds => flatten d :: flattenAll ds
end

/-- A group: laid out flat if it fits, broken otherwise. -/
def group (d : Doc) : Doc := .choice (flatten d) d

mutual
/-- The width of a document up to its first line break, and whether it has
one (choices count by their first alternative). -/
def widthToBreak : Doc → Nat × Bool
  | .text s => (s.utf8ByteSize, false)
  | .line => (0, true)
  | .nest _ d => widthToBreak d
  | .cat ds => widthToBreakAll ds
  | .choice f _ => widthToBreak f
/-- `widthToBreak` of a concatenation. -/
def widthToBreakAll : List Doc → Nat × Bool
  | [] => (0, false)
  | d :: ds =>
    let (w, found) := widthToBreak d
    if found then (w, true) else
    let (w', found') := widthToBreakAll ds
    (w + w', found')
end

/-- Layout state: the current column and the text so far. -/
structure Cursor where
  column : Nat
  out : String
  deriving Inhabited

mutual
/-- Lay out a document at an indentation, continuing from a cursor. -/
def place : Doc → Nat → Cursor → Cursor
  | .text s, _, c => ⟨c.column + s.utf8ByteSize, c.out ++ s⟩
  | .line, i, c => ⟨i, c.out ++ "\n" ++ String.ofList (List.replicate i ' ')⟩
  | .nest n d, i, c => place d (i + n) c
  | .cat ds, i, c => placeAll ds i c
  | .choice f b, i, c =>
    if c.column < lineWidth && (widthToBreak f).1 ≤ lineWidth - c.column then place f i c
    else place b i c
/-- Lay out the documents of a concatenation in order. -/
def placeAll : List Doc → Nat → Cursor → Cursor
  | [], _, c => c
  | d :: ds, i, c => placeAll ds i (place d i c)
end

/-- The text of a document laid out from column zero. -/
def render (d : Doc) : String := (place d 0 ⟨0, ""⟩).out

/-- Concatenation of a list of documents, each after a line break. -/
def lines (ds : List Doc) : Doc := .cat (ds.flatMap (fun d => [.line, d]))

/-- `(header a₁ a₂ …)` where the arguments after the first go below the
first, aligned one column after the header, when the group is broken. -/
def seq1 (header : String) (args : List Doc) : Doc :=
  match args with
  | [] => .cat [.text "(", .text header, .text ")"]
  | first :: rest =>
    group (.cat [.text "(", .text header,
      .nest (header.utf8ByteSize + 2) (.cat [.text " ", first, lines rest, .text ")"])])

/-- `(d₁ d₂ …)` with the documents below each other one column in, when
the group is broken. -/
def seq5 (ds : List Doc) : Doc :=
  match ds with
  | [] => .text "()"
  | first :: rest => group (.cat [.text "(", .nest 1 (.cat [first, lines rest, .text ")"])])

end Doc

end SmtBackend.Layout
