import SmtBackend.Failure
import SmtBackend.Kinds
import SmtBackend.Text.Unicode

/-!
# Numeral text

Bit-vector numerals are digit strings in a base; their value is range
checked against the bit-width, and a negative decimal numeral stands for
its two's complement. Integer and real numerals are also accepted in the
SMT-LIB form values are printed in, so that printed values read back:
`(- 42)`, `(/ 1.0 3.0)`, `(- (/ 1.0 3.0))`, as well as `n/d` and `n.m`.
Only ASCII digits count in numerals.
-/

namespace SmtBackend

open SmtBackend.Text

/-- Whether a character is a hexadecimal digit. -/
def isHexDigit (c : Char) : Bool :=
  isAsciiDigit c || ('a' ≤ c && c ≤ 'f') || ('A' ≤ c && c ≤ 'F')

/-- Value of a hexadecimal digit. -/
def hexValue (c : Char) : Nat :=
  if isAsciiDigit c then c.toNat - '0'.toNat
  else if 'a' ≤ c && c ≤ 'f' then c.toNat - 'a'.toNat + 10
  else c.toNat - 'A'.toNat + 10

/-- Value of a digit run in a radix. -/
def runValue (radix : Nat) (cs : List Char) : Nat :=
  cs.foldl (fun acc c => acc * radix + hexValue c) 0

/-- Whether text is a well-formed numeral of a base: binary and
hexadecimal digits, or decimal digits with an optional minus sign. -/
def Base.accepts : Base → List Char → Bool
  | .bin => allOf (fun c => c == '0' || c == '1')
  | .dec => signedRunOf isAsciiDigit
  | .hex => allOf isHexDigit

/-- Signed value of a numeral accepted by its base. -/
def Base.value (b : Base) : List Char → Int
  | '-' :: rest => -(runValue b.radix rest : Int)
  | cs => (runValue b.radix cs : Int)

namespace Numeral

/-- The unsigned value at `width` bits of a bit-vector numeral given in a
base. Blanks around the digits are ignored; a negative decimal numeral
must fit the signed range and stands for its two's complement. -/
def bvNumeralValue (value : String) (base : KindArg Base) (width : Int) :
    Except Failure Nat := do
  let b ← match base with
    | .known b => pure b
    | .unknown t => throw (.config s!"Unsupported numeral base '{t}'")
  checkConfig (width > 0) s!"Invalid bit-width {width}"
  let text := trimChars value.toList
  checkConfig (b.accepts text)
    s!"Malformed {b.name} numeral '{value}' for bit-vector of width {width}"
  let n := b.value text
  let w := width.toNat
  let tooWide := s!"Numeral '{value}' does not fit into a bit-vector of width {width}"
  if n < 0 then
    checkConfig (n ≥ -((Nat.pow 2 (w - 1) : Nat) : Int)) tooWide
    pure (n + ((Nat.pow 2 w : Nat) : Int)).toNat
  else
    checkConfig (n < ((Nat.pow 2 w : Nat) : Int)) tooWide
    pure n.toNat

/-- The stripped operand of text of the form `( - x)`: an opening
parenthesis, optional blanks, a minus, at least one blank, an operand
without line feeds, and a closing parenthesis. -/
def negatedOperand? (cs : List Char) : Option (List Char) :=
  match cs with
  | '(' :: rest =>
    match rest.dropWhile isBlank with
    | '-' :: after =>
      if after.getLast? != some ')' then none else
      let inner := after.dropLast
      match inner with
      | c :: _ =>
        if !isBlank c then none else
        let body := inner.dropWhile isBlank
        if body.isEmpty then
          if inner.length ≥ 2 && inner.getLast? != some '\n' then some [] else none
        else if body.contains '\n' then none
        else some (trimChars body)
      | [] => none
    | _ => none
  | _ => none

/-- Whether text is an optionally negated run of ASCII digits. -/
def isIntegerText (cs : List Char) : Bool := signedRunOf isAsciiDigit cs

/-- Value of an optionally negated run of ASCII digits. -/
def integerValue : List Char → Int
  | '-' :: rest => -(runValue 10 rest : Int)
  | cs => (runValue 10 cs : Int)

/-- An integer numeral: `n`, `-n`, or `(- x)` around an integer numeral. -/
def parseInteger : Nat → List Char → Option Int
  | 0, _ => none
  | fuel + 1, cs =>
    match negatedOperand? cs with
    | some inner => (parseInteger fuel inner).map (- ·)
    | none => if isIntegerText cs then some (integerValue cs) else none

/-- Read an integer numeral (already trimmed). -/
def integerNumeral (cs : List Char) : Option Int := parseInteger (cs.length + 1) cs

/-- Whether text is a decimal `-?d+(.d+)?` with ASCII digits. -/
def isDecimalText (cs : List Char) : Bool :=
  let body := match cs with
    | '-' :: rest => rest
    | _ => cs
  let whole := body.takeWhile isAsciiDigit
  !whole.isEmpty &&
    match body.drop whole.length with
    | [] => true
    | '.' :: frac => allOf isAsciiDigit frac
    | _ => false

/-- Value of a decimal accepted by `isDecimalText`. -/
def decimalValue (cs : List Char) : Rat :=
  let (neg, body) := match cs with
    | '-' :: rest => (true, rest)
    | _ => (false, cs)
  let whole := body.takeWhile isAsciiDigit
  let frac := (body.drop (whole.length + 1))
  let mag : Rat := (runValue 10 (whole ++ frac) : Rat) / ((Nat.pow 10 frac.length : Nat) : Rat)
  if neg then -mag else mag

/-- Whether a character may occur in an operand of `(/ a b)`. -/
def isDecimalChar (c : Char) : Bool := isAsciiDigit c || c == '.'

/-- The two operands of text of the form `(/ a b)`, each a run of digits
and points, with blanks as in SMT-LIB. -/
def quotientOperands? (cs : List Char) : Option (List Char × List Char) :=
  match cs with
  | '(' :: rest =>
    match rest.dropWhile isBlank with
    | '/' :: after =>
      let sp1 := after.takeWhile isBlank
      let r1 := after.drop sp1.length
      let a := r1.takeWhile isDecimalChar
      let r2 := r1.drop a.length
      let sp2 := r2.takeWhile isBlank
      let r3 := r2.drop sp2.length
      let b := r3.takeWhile isDecimalChar
      let r4 := (r3.drop b.length).dropWhile isBlank
      if !sp1.isEmpty && !a.isEmpty && !sp2.isEmpty && !b.isEmpty && r4 == [')'] then
        some (a, b)
      else none
    | _ => none
  | _ => none

/-- The numerator and denominator digits of text of the form `-?d+/d+`. -/
def fractionParts? (cs : List Char) : Option (List Char × List Char) :=
  match cs.splitOn '/' with
  | [n, d] => if isIntegerText n && allOf isAsciiDigit d then some (n, d) else none
  | _ => none

/-- A real numeral: `(- x)` around a real numeral, `(/ a b)` of two
decimals, `n/d`, or a decimal. A zero denominator is an error that quotes
the numeral it occurs in. -/
def parseReal : Nat → List Char → Except Failure (Option Rat)
  | 0, _ => .ok none
  | fuel + 1, cs =>
    let zero := Failure.config s!"Division by zero in real numeral '{String.ofList cs}'"
    match negatedOperand? cs with
    | some inner => do
      let r ← parseReal fuel inner
      pure (r.map (- ·))
    | none =>
      match quotientOperands? cs with
      | some (a, b) =>
        if !(isDecimalText a && isDecimalText b) then .ok none
        else if decimalValue b == 0 then .error zero
        else .ok (some (decimalValue a / decimalValue b))
      | none =>
        match fractionParts? cs with
        | some (n, d) =>
          if runValue 10 d == 0 then .error zero
          else .ok (some ((integerValue n : Rat) / (runValue 10 d : Rat)))
        | none => .ok (if isDecimalText cs then some (decimalValue cs) else none)

/-- Read a real numeral (already trimmed). -/
def realNumeral (cs : List Char) : Except Failure (Option Rat) := parseReal (cs.length + 1) cs

end Numeral

end SmtBackend
