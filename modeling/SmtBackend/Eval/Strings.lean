/-!
# String functions

Strings are sequences of code points (natural numbers, so that the
surrogate range is representable), indexed from zero. The functions
are total: an index or length outside the string gives the empty string
or `-1`, as SMT-LIB prescribes, and the order of strings is the
lexicographic order of their code points.
-/

namespace SmtBackend.Strings

/-- The character at a position, or the empty string outside the string. -/
def charAt (s : List Nat) (i : Int) : List Nat :=
  if 0 ≤ i && i < s.length then s.drop i.toNat |>.take 1 else []

/-- The substring of at most `n` characters from position `i`; empty when
the position is outside the string or the length is not positive. -/
def substr (s : List Nat) (i n : Int) : List Nat :=
  if 0 ≤ i && i < s.length && 0 < n then (s.drop i.toNat).take n.toNat else []

/-- Whether `p` is a prefix of `s`. -/
def isPrefix : List Nat → List Nat → Bool
  | [], _ => true
  | _, [] => false
  | a :: p, b :: s => a == b && isPrefix p s

/-- Whether `p` is a suffix of `s`. -/
def isSuffix (p s : List Nat) : Bool := isPrefix p.reverse s.reverse

/-- The first position at or after `i` where `t` occurs in `s`. -/
def findFrom (s t : List Nat) (i : Nat) : Option Nat :=
  go (s.drop i) i (s.length + 1 - i)
where
  /-- Search the rest `r`, which starts at position `pos`, for `fuel` steps. -/
  go (r : List Nat) (pos : Nat) : Nat → Option Nat
    | 0 => none
    | fuel + 1 =>
      if isPrefix t r then some pos
      else match r with
        | [] => none
        | _ :: rest => go rest (pos + 1) fuel

/-- Whether `t` occurs in `s`. -/
def contains (s t : List Nat) : Bool := (findFrom s t 0).isSome

/-- The position of the first occurrence of `t` in `s` at or after `i`, or
`-1`; `-1` also when `i` lies outside `0 … |s|`. -/
def indexOf (s t : List Nat) (i : Int) : Int :=
  if i < 0 || i > s.length then -1
  else match findFrom s t i.toNat with
    | some p => p
    | none => -1

/-- `s` with the first occurrence of `t` replaced by `u`; an empty `t`
occurs at the front. -/
def replace (s t u : List Nat) : List Nat :=
  match findFrom s t 0 with
  | some p => s.take p ++ u ++ s.drop (p + t.length)
  | none => s

/-- The value of a string of decimal digits, or `-1` for any other
string, the empty one included. -/
def toInt (s : List Nat) : Int :=
  if !s.isEmpty && s.all (fun c => 48 ≤ c && c ≤ 57) then
    (s.foldl (fun acc c => 10 * acc + (c - 48)) 0 : Nat)
  else -1

/-- The decimal digits of a nonnegative integer, empty for a negative one. -/
def fromInt (i : Int) : List Nat :=
  if i < 0 then [] else (Nat.toDigits 10 i.toNat).map Char.toNat

/-- Lexicographic strict order by code points. -/
def lt : List Nat → List Nat → Bool
  | [], [] => false
  | [], _ :: _ => true
  | _ :: _, [] => false
  | a :: s, b :: t => if a == b then lt s t else a < b

/-- Lexicographic order by code points. -/
def le (s t : List Nat) : Bool := s == t || lt s t

end SmtBackend.Strings
