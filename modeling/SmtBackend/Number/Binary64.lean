/-!
# Double-precision numbers and their shortest decimal text

Option values such as `2.5` are read as IEEE 754 binary64 numbers (rounded
to nearest, ties to even) and reported back in the shortest decimal text
that reads back to the same number: up to sixteen digits before the point
in positional form, otherwise scientific form with a signed two-digit
exponent (`1e+23`, `1e-05`).

All arithmetic is exact on natural numbers, so the rounding is the one
IEEE 754 prescribes for the exact rational value of the text.
-/

namespace SmtBackend.Number

/-- A binary64 number that is not a NaN: a signed infinity, or a signed
finite value `mantissa * 2 ^ exponent` (a zero has mantissa zero). -/
inductive Binary64 where
  | finite (negative : Bool) (mantissa : Nat) (exponent : Int)
  | infinite (negative : Bool)
  deriving DecidableEq, Repr

/-- `n * 2 ^ k` for an integer `k`, as a fraction of naturals. -/
def scaleByTwo (n : Nat) (k : Int) : Nat × Nat :=
  if 0 ≤ k then (n * Nat.pow 2 k.toNat, 1) else (n, Nat.pow 2 (-k).toNat)

/-- `⌊log₂ (n / d)⌋` for positive `n` and `d`. -/
def floorLog2 (n d : Nat) : Int :=
  let t : Int := (Nat.log2 n : Int) - (Nat.log2 d : Int)
  let (a, b) := scaleByTwo d t
  -- `n / d ≥ 2 ^ t` iff `n * b ≥ a`
  if n * b ≥ a then t else t - 1

/-- Round `n / d` to the nearest natural number, ties to even. -/
def roundHalfEven (n d : Nat) : Nat :=
  let q := n / d
  let r := n % d
  if 2 * r > d || (2 * r == d && q % 2 == 1) then q + 1 else q

/-- The binary64 number nearest to the nonnegative rational `n / d`
(`d > 0`), with the given sign. -/
def Binary64.nearest (negative : Bool) (n d : Nat) : Binary64 :=
  if n = 0 then .finite negative 0 0 else
  let e : Int := max (floorLog2 n d - 52) (-1074)
  let (a, b) := scaleByTwo d e
  -- the value is `n / (d * 2 ^ e)` = `(n * b) / a`
  let m := roundHalfEven (n * b) a
  let (m, e) := if m = Nat.pow 2 53 then (Nat.pow 2 52, e + 1) else (m, e)
  if e > 971 then .infinite negative else .finite negative m e

/-- The exact value of a finite binary64 magnitude as a fraction. -/
def magnitude (m : Nat) (e : Int) : Nat × Nat := scaleByTwo m e

/-- `n * 10 ^ k` for an integer `k`, as a fraction of naturals. -/
def scaleByTen (n : Nat) (k : Int) : Nat × Nat :=
  if 0 ≤ k then (n * Nat.pow 10 k.toNat, 1) else (n, Nat.pow 10 (-k).toNat)

/-- Number of decimal digits of a positive natural number. -/
def decimalLength (n : Nat) : Nat := (toString n).length

/-- `⌊log₁₀ (a / b)⌋` for positive `a`, `b`; below one the search is
bounded by 400 steps, past the smallest binary64 magnitude. -/
def floorLog10 (a b : Nat) : Int :=
  if a ≥ b then (decimalLength (a / b) : Int) - 1 else go 1 400
where
  go (j : Nat) : Nat → Int
    | 0 => -(j : Int)
    | fuel + 1 => if a * Nat.pow 10 j ≥ b then -(j : Int) else go (j + 1) fuel

/-- Shortest decimal digits `ds` and point position `p` with
`0.ds * 10 ^ p` reading back to the finite positive binary64 `m * 2 ^ e`.
Among the shortest candidates the one nearest the exact value is taken. -/
def shortestDigits (m : Nat) (e : Int) : String × Int :=
  let (a, b) := magnitude m e
  let k := floorLog10 a b
  let target : Binary64 := .finite false m e
  let pick (p : Nat) : Option (Nat × Int) :=
    let sc : Int := k - (p : Int) + 1
    -- `a / b / 10 ^ sc` as the fraction `x / y`
    let (u, w) := scaleByTen 1 sc
    let x := a * w
    let y := b * u
    let lo := x / y
    let hi := if x % y == 0 then lo else lo + 1
    let reads (f : Nat) : Bool :=
      let (fn, fd) := scaleByTen f sc
      Binary64.nearest false fn fd == target
    -- distances to the exact value, scaled by `y`
    let dLo := x - lo * y
    let dHi := hi * y - x
    match reads lo, reads hi with
    | true, true =>
      if dLo < dHi || (dLo == dHi && lo % 2 == 0) then some (lo, sc) else some (hi, sc)
    | true, false => some (lo, sc)
    | false, true => some (hi, sc)
    | false, false => none
  let found := (List.range 17).findSome? (fun i => pick (i + 1))
  let (f, sc) := found.getD (a / b, 0)
  let full := toString f
  let ds := String.ofList ((full.toList.reverse.dropWhile (· == '0')).reverse)
  (ds, sc + (full.length : Int))

/-- The shortest text of a binary64 number, in positional form for point
positions `-3..16` and in scientific form otherwise. -/
def Binary64.toText : Binary64 → String
  | .infinite negative => if negative then "-inf" else "inf"
  | .finite negative m e =>
    let sign := if negative then "-" else ""
    if m = 0 then sign ++ "0.0" else
    let (ds, p) := shortestDigits m e
    let n := ds.length
    if p ≤ -4 || p > 16 then
      let x := p - 1
      let mant := if n > 1 then String.ofList (ds.toList.take 1) ++ "." ++ String.ofList (ds.toList.drop 1)
        else ds
      let xs := toString x.natAbs
      let xs := if xs.length < 2 then "0" ++ xs else xs
      sign ++ mant ++ "e" ++ (if x < 0 then "-" else "+") ++ xs
    else if p ≤ 0 then
      sign ++ "0." ++ String.ofList (List.replicate p.natAbs '0') ++ ds
    else if p.toNat ≥ n then
      sign ++ ds ++ String.ofList (List.replicate (p.toNat - n) '0') ++ ".0"
    else
      sign ++ String.ofList (ds.toList.take p.toNat) ++ "." ++ String.ofList (ds.toList.drop p.toNat)

end SmtBackend.Number
