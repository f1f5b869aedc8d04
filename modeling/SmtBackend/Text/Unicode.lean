/-!
# Unicode character classes of option and numeral text

Option values and numerals arrive as free text. Surrounding blanks are
trimmed with the full Unicode notion of white space, and option values
accept decimal digits of every script (category `Nd`), while SMT-LIB
numerals accept ASCII digits only. This module fixes both classes as
explicit tables so that they can be evaluated and reasoned about.
-/

namespace SmtBackend.Text

/-- Code points that count as white space when trimming text: the ASCII
controls `\t`..`\r`, the information separators `0x1c`..`0x1f`, the space,
next-line, no-break space and the Unicode space separators. -/
def isBlank (c : Char) : Bool :=
  let n := c.toNat
  (0x09 ≤ n && n ≤ 0x0d) || (0x1c ≤ n && n ≤ 0x20) || n == 0x85 || n == 0xa0 ||
    n == 0x1680 || (0x2000 ≤ n && n ≤ 0x200a) || n == 0x2028 || n == 0x2029 ||
    n == 0x202f || n == 0x205f || n == 0x3000

/-- The code point of digit zero of every script whose ten decimal digits
are consecutive code points; these runs make up the category `Nd` of
Unicode 14, so the digits of Kawi and Nag Mundari (added later) are not
among them. -/
def digitZeros : List Nat :=
  [0x30, 0x660, 0x6f0, 0x7c0, 0x966, 0x9e6, 0xa66, 0xae6, 0xb66, 0xbe6, 0xc66,
   0xce6, 0xd66, 0xde6, 0xe50, 0xed0, 0xf20, 0x1040, 0x1090, 0x17e0, 0x1810,
   0x1946, 0x19d0, 0x1a80, 0x1a90, 0x1b50, 0x1bb0, 0x1c40, 0x1c50, 0xa620,
   0xa8d0, 0xa900, 0xa9d0, 0xa9f0, 0xaa50, 0xabf0, 0xff10, 0x104a0, 0x10d30,
   0x11066, 0x110f0, 0x11136, 0x111d0, 0x112f0, 0x11450, 0x114d0, 0x11650,
   0x116c0, 0x11730, 0x118e0, 0x11950, 0x11c50, 0x11d50, 0x11da0,
   0x16a60, 0x16ac0, 0x16b50, 0x1d7ce, 0x1d7d8, 0x1d7e2, 0x1d7ec, 0x1d7f6,
   0x1e140, 0x1e2f0, 0x1e950, 0x1fbf0]

/-- The value of a decimal digit of any script, if the character is one. -/
def digitValue? (c : Char) : Option Nat :=
  let n := c.toNat
  (digitZeros.find? (fun z => z ≤ n && n < z + 10)).map (n - ·)

/-- Whether a character is a decimal digit of some script. -/
def isUnicodeDigit (c : Char) : Bool := (digitValue? c).isSome

/-- Whether a character is one of the ASCII digits `0`..`9`. -/
def isAsciiDigit (c : Char) : Bool := '0' ≤ c && c ≤ '9'

/-- Drop blanks at both ends of a character list. -/
def trimChars (cs : List Char) : List Char :=
  ((cs.dropWhile isBlank).reverse.dropWhile isBlank).reverse

/-- Drop blanks at both ends of a string. -/
def trim (s : String) : String := String.ofList (trimChars s.toList)

/-- Whether the text is a nonempty run of characters of one class. -/
def allOf (p : Char → Bool) (cs : List Char) : Bool := !cs.isEmpty && cs.all p

/-- Whether the text is an optionally negated nonempty run of characters of
one class (the shape `-?d+`). -/
def signedRunOf (p : Char → Bool) : List Char → Bool
  | '-' :: rest => allOf p rest
  | cs => allOf p cs

/-- The value of a nonempty run of digits, read most significant first. -/
def digitsValue (cs : List Char) : Nat :=
  cs.foldl (fun acc c => acc * 10 + (digitValue? c).getD 0) 0

/-- The value of text of the shape `-?d+`, with `d` any decimal digit. -/
def signedValue : List Char → Int
  | '-' :: rest => -(digitsValue rest : Int)
  | cs => (digitsValue cs : Int)

/-- Text of a list of characters between two positions. -/
def slice (cs : List Char) (start stop : Nat) : List Char := (cs.drop start).take (stop - start)

end SmtBackend.Text
