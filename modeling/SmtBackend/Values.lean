import SmtBackend.Handle
import SmtBackend.Numeral

/-!
# Literals and special values

Literals are made from text in the sort's own syntax: `true`/`false`,
integer and real numerals (also in the SMT-LIB form the solver prints them
in), string contents, and bit-vector numerals either in an explicit base or
as `#b…`, `#x…` or `(_ bvN w)` literals. Special values are the named
constants of the bit-vector, floating-point and rounding-mode sorts.

The sort argument may be any handle: a term handle answers sort questions
through its sort, and only the places that need the solver sort itself
insist on a sort handle.

String contents may use the escapes `\u{h}` (one to five hexadecimal
digits) and `\uhhhh` for a character.
-/

namespace SmtBackend.Values

open SmtBackend.Text SmtBackend.Numeral

/-- The value argument of a literal request. -/
inductive ValueArg where
  | flag (b : Bool)
  | text (s : String)
  deriving BEq, Repr

/-- The text of a value as messages quote it. -/
def ValueArg.quoted : ValueArg → String
  | .flag b => if b then "True" else "False"
  | .text s => s

/-- The largest character code the solver's strings hold. -/
def maxCharCode : Nat := 0x2FFFF

/-- Value of a hexadecimal digit, if the character is one. -/
def hexDigit? (c : Char) : Option Nat :=
  if isHexDigit c then some (hexValue c) else none

/-- Read `\u{h…}` (one to five digits) or `\uhhhh` at the start of a text:
the character and the rest of the text. -/
def escapeAt? : List Char → Option (Nat × List Char)
  | '\\' :: 'u' :: '{' :: rest =>
    let ds := rest.takeWhile isHexDigit
    match rest.drop ds.length with
    | '}' :: after =>
      if 1 ≤ ds.length && ds.length ≤ 5 then
        let v := runValue 16 ds
        if v ≤ maxCharCode then some (v, after) else none
      else none
    | _ => none
  | '\\' :: 'u' :: a :: b :: c :: d :: rest =>
    match hexDigit? a, hexDigit? b, hexDigit? c, hexDigit? d with
    | some x, some y, some z, some w =>
      let v := ((x * 16 + y) * 16 + z) * 16 + w
      if v ≤ maxCharCode then some (v, rest) else none
    | _, _, _, _ => none
  | _ => none

/-- The characters of a string literal's contents, escapes decoded. A
character beyond the solver's range stays as the text of its escape. -/
def decodeString : Nat → List Char → List Nat
  | 0, _ => []
  | _, [] => []
  | fuel + 1, c :: rest =>
    match escapeAt? (c :: rest) with
    | some (v, after) => v :: decodeString fuel after
    | none =>
      if c.toNat > maxCharCode then
        (Print.codeEscape c.toNat).toList.map Char.toNat ++ decodeString fuel rest
      else c.toNat :: decodeString fuel rest

/-- The string literal with the given contents. -/
def stringLiteral (s : String) : Term :=
  Term.ofCodes (decodeString (s.length + 1) s.toList)

/-- The failure for a sort of the wrong kind. -/
def unexpectedSort (s : SortHandle) (expected : String) : Failure :=
  .config s!"Unexpected sort of kind '{s.kind.name}' as argument to mk_value, expected {expected}"

/-- A bit-vector literal from a numeral in a base. -/
def bvValue (sort : Handle) (value : ValueArg) (base : KindArg Base) :
    Except Failure TermHandle := do
  let view := sort.sortView
  unless view.isBv do throw (unexpectedSort view "bit-vector sort")
  let n ← bvNumeralValue value.quoted base (view.native.width : Int)
  let s ← sort.asSort
  pure ⟨Term.ofBits s.native.width n, none⟩

/-- Whether text is `(_ bvN w)` with blanks as in SMT-LIB; if so, the digits
of `N` and of `w`. -/
def indexedBits? (cs : List Char) : Option (List Char × List Char) :=
  match cs with
  | '(' :: rest =>
    match rest.dropWhile isBlank with
    | '_' :: after =>
      let sp := after.takeWhile isBlank
      match after.drop sp.length with
      | 'b' :: 'v' :: r =>
        let n := r.takeWhile isAsciiDigit
        let r2 := r.drop n.length
        let sp2 := r2.takeWhile isBlank
        let r3 := r2.drop sp2.length
        let w := r3.takeWhile isAsciiDigit
        let r4 := (r3.drop w.length).dropWhile isBlank
        if !sp.isEmpty && !n.isEmpty && !sp2.isEmpty && !w.isEmpty && r4 == [')'] then
          some (n, w) else none
      | _ => none
    | _ => none
  | _ => none

/-- A bit-vector literal from its SMT-LIB text: `#b` with as many digits as
the width, `#x` with a quarter as many, or `(_ bvN w)` with the sort's
width. -/
def bvLiteral (sort : Handle) (value : String) : Except Failure TermHandle := do
  let view := sort.sortView
  unless view.isBv do throw (unexpectedSort view "bit-vector sort")
  let width := view.native.width
  let text := trimChars value.toList
  match text with
  | '#' :: 'b' :: digits =>
    checkConfig (digits.length == width) s!"Expected {width} binary digits in '{value}'"
    bvValue sort (.text (String.ofList digits)) (.known .bin)
  | '#' :: 'x' :: digits =>
    checkConfig (width % 4 == 0 && digits.length == width / 4)
      s!"Hexadecimal literal '{value}' does not match bit-width {width}"
    bvValue sort (.text (String.ofList digits)) (.known .hex)
  | _ =>
    match indexedBits? text with
    | none =>
      throw (.config
        s!"Missing numeral base for bit-vector value '{value}' of sort kind '{view.kind.name}'")
    | some (n, w) =>
      checkConfig (runValue 10 w == width)
        s!"Bit-vector literal '{value}' does not match bit-width {width}"
      bvValue sort (.text (String.ofList n)) (.known .dec)

/-- A Boolean, integer, real or string literal. -/
def plainValue (sort : Handle) (value : ValueArg) : Except Failure TermHandle := do
  let view := sort.sortView
  match value with
  | .flag b =>
    unless view.isBool do throw (unexpectedSort view "Boolean sort")
    pure ⟨Term.ofBool b, none⟩
  | .text s =>
    if view.isBool then
      let t := trimChars s.toList
      checkConfig (t == "true".toList || t == "false".toList) s!"Malformed Boolean value '{s}'"
      pure ⟨Term.ofBool (t == "true".toList), none⟩
    else if view.isInt then
      match integerNumeral (trimChars s.toList) with
      | some n => pure ⟨Term.ofInt n, none⟩
      | none => throw (.config s!"Malformed integer numeral '{s}'")
    else if view.isReal then
      match ← realNumeral (trimChars s.toList) with
      | some r => pure ⟨Term.ofRat r, none⟩
      | none => throw (.config s!"Malformed real numeral '{s}'")
    else if view.isString then
      pure ⟨stringLiteral s, none⟩
    else throw (unexpectedSort view "Integer, Real or String sort")

/-- A literal: in an explicit base for bit-vectors when a base is given,
from its SMT-LIB text for other bit-vector values, and from its text in the
sort's syntax otherwise. -/
def mkValue (sort : Handle) (value : ValueArg) (base : Option (KindArg Base)) :
    Except Failure TermHandle :=
  match base, value with
  | some b, _ => bvValue sort value b
  | none, .text s => if sort.sortView.isBv then bvLiteral sort s else plainValue sort value
  | none, .flag _ => plainValue sort value

/-- The real quotient of two integer numerals, as the quotient of their
conversions to reals. -/
def mkRational (sort : Handle) (num den : String) : Except Failure TermHandle := do
  let view := sort.sortView
  unless view.isReal do throw (unexpectedSort view "Real sort")
  for part in [num, den] do
    checkConfig (isIntegerText (trimChars part.toList))
      s!"Malformed integer numeral '{part}' in rational value"
  let n := integerValue (trimChars num.toList)
  let d := integerValue (trimChars den.toList)
  pure ⟨.app .div [.app .toReal [Term.ofInt n], .app .toReal [Term.ofInt d]], none⟩

/-- The digits of a bit-vector special value of a width. -/
def bvSpecialDigits (width : Nat) : SpecialValue → Option String
  | .bvZero => some "0"
  | .bvOne => some "1"
  | .bvOnes => some (String.ofList (List.replicate width '1'))
  | .bvMinSigned => some ("1" ++ String.ofList (List.replicate (width - 1) '0'))
  | .bvMaxSigned => some ("0" ++ String.ofList (List.replicate (width - 1) '1'))
  | _ => none

/-- The floating-point special value of a kind. -/
def fpSpecial : SpecialValue → Option FloatValue
  | .fpNan => some .nan
  | .fpPosInf => some (.infinity false)
  | .fpNegInf => some (.infinity true)
  | .fpPosZero => some (.zero false)
  | .fpNegZero => some (.zero true)
  | _ => none

/-- The rounding mode of a special value kind. -/
def rmSpecial : SpecialValue → Option RoundingMode
  | .rmRna => some .nearestAway
  | .rmRne => some .nearestEven
  | .rmRtn => some .towardNegative
  | .rmRtp => some .towardPositive
  | .rmRtz => some .towardZero
  | _ => none

/-- A special value of a bit-vector, floating-point or rounding-mode sort. -/
def mkSpecial (sort : Handle) (value : KindArg SpecialValue) : Except Failure TermHandle := do
  let view := sort.sortView
  let text := value.text SpecialValue.name
  let unsupported := Failure.config s!"Unsupported special value kind '{text}' for {view.kind.name}"
  if view.isBv then
    match value with
    | .known v =>
      match bvSpecialDigits view.native.width v with
      | some ds => bvValue sort (.text ds) (.known .bin)
      | none => throw unsupported
    | .unknown _ => throw unsupported
  else if view.isFp then
    let s ← sort.asSort
    match value, s.native with
    | .known v, .float e sb =>
      match fpSpecial v with
      | some fv => pure ⟨.app (.fpLit e sb fv) [], none⟩
      | none => throw unsupported
    | _, _ => throw unsupported
  else if view.isRm then
    match value with
    | .known v =>
      match rmSpecial v with
      | some m => pure ⟨.app (.rmLit m) [], none⟩
      | none => throw (.config s!"Unsupported special value kind '{text}' for rounding mode sort")
    | .unknown _ => throw (.config s!"Unsupported special value kind '{text}' for rounding mode sort")
  else throw (.config s!"Unsupported sort of kind '{view.kind.name}' for special value '{text}'")

end SmtBackend.Values
