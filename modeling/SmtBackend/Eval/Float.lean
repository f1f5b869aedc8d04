import SmtBackend.Term.Basic
import SmtBackend.Eval.Bits

/-!
# IEEE 754 arithmetic in any format

A format has `e` exponent bits and a significand of `s` bits counting the
hidden bit. Finite values are exact rationals; an operation computes its
exact result and rounds it once, by the rounding mode, to the nearest
representable value in the chosen direction. Results that overflow become
infinities or the largest finite value, as the mode directs; the sign of
an exact zero follows IEEE 754 (the sum of opposite numbers is positive,
negative only when rounding toward negative).

Some results are left open by the standard: the minimum and maximum of two
zeros of opposite sign, and conversions of NaN, infinities and
out-of-range numbers to reals and bit-vectors. Those are answered by
`none` here; the evaluator decides what stands in for them.
-/

namespace SmtBackend.Float

/-- A floating-point format: exponent bits and significand bits. -/
structure Format where
  exponent : Nat
  significand : Nat
  deriving DecidableEq, Repr

namespace Format

/-- The exponent bias. -/
def bias (f : Format) : Int := (Nat.pow 2 (f.exponent - 1) : Nat) - 1

/-- The least exponent of a normal number. -/
def minExponent (f : Format) : Int := 1 - f.bias

/-- The greatest exponent of a finite number. -/
def maxExponent (f : Format) : Int := f.bias

/-- The number of trailing significand bits. -/
def fraction (f : Format) : Nat := f.significand - 1

end Format

/-- Two to an integer power, as a rational. -/
def pow2 (k : Int) : Rat :=
  if k ≥ 0 then ((Nat.pow 2 k.toNat : Nat) : Rat) else 1 / ((Nat.pow 2 (-k).toNat : Nat) : Rat)

/-- The exact value of finite fields. -/
def fieldsValue (f : Format) (negative : Bool) (biased significand : Nat) : Rat :=
  let magnitude : Rat :=
    if biased == 0 then (significand : Rat) * pow2 (f.minExponent - f.fraction)
    else ((Nat.pow 2 f.fraction + significand : Nat) : Rat) *
      pow2 ((biased : Int) - f.bias - f.fraction)
  if negative then -magnitude else magnitude

/-- The exact value of a finite number (zero for zeros), or `none` for NaN
and infinities. -/
def toRat? (f : Format) : FloatValue → Option Rat
  | .zero _ => some 0
  | .finite neg be m => some (fieldsValue f neg be m)
  | _ => none

/-- The sign bit of a value (NaN has none). -/
def isNegative : FloatValue → Bool
  | .infinity n | .zero n | .finite n _ _ => n
  | .nan => false

/-- A value with its sign bit replaced. -/
def withSign (negative : Bool) : FloatValue → FloatValue
  | .infinity _ => .infinity negative
  | .zero _ => .zero negative
  | .finite _ be m => .finite negative be m
  | .nan => .nan

/-- The floor of the binary logarithm of a positive rational. -/
def floorLog2 (a : Rat) : Int :=
  let k : Int := (a.num.natAbs.log2 : Int) - (a.den.log2 : Int)
  if a ≥ pow2 k then k else k - 1

/-- Round a nonnegative rational to an integer: `up` says, from the
quotient, remainder and divisor, whether to take the next integer. -/
def roundNat (a : Rat) (up : Nat → Nat → Nat → Bool) : Nat :=
  let n := a.num.natAbs
  let d := a.den
  let q := n / d
  let r := n % d
  if r == 0 then q else if up q r d then q + 1 else q

/-- The rounding rule of a mode for a magnitude of the given sign: whether
to round up, from quotient, remainder and divisor. -/
def roundsUp (mode : RoundingMode) (negative : Bool) (q r d : Nat) : Bool :=
  match mode with
  | .nearestEven => 2 * r > d || (2 * r == d && q % 2 == 1)
  | .nearestAway => 2 * r ≥ d
  | .towardPositive => !negative
  | .towardNegative => negative
  | .towardZero => false

/-- The largest finite value of a format. -/
def maxFinite (f : Format) (negative : Bool) : FloatValue :=
  .finite negative (Nat.pow 2 f.exponent - 2) (Nat.pow 2 f.fraction - 1)

/-- The value of an overflowing result. -/
def overflow (f : Format) (mode : RoundingMode) (negative : Bool) : FloatValue :=
  match mode with
  | .nearestEven | .nearestAway => .infinity negative
  | .towardZero => maxFinite f negative
  | .towardPositive => if negative then maxFinite f true else .infinity false
  | .towardNegative => if negative then .infinity true else maxFinite f false

/-- Round a rational to a format. A result that rounds to zero keeps the
sign of the rational; the rational zero gives positive zero. -/
def round (f : Format) (mode : RoundingMode) (x : Rat) : FloatValue :=
  if x == 0 then .zero false
  else
    let negative := x < 0
    let a := if negative then -x else x
    let e := max (floorLog2 a) f.minExponent
    let quantum := e - f.fraction
    let n := roundNat (a / pow2 quantum) (roundsUp mode negative)
    -- a carry into a new binade moves the exponent up by one
    let (n, e) := if n == Nat.pow 2 f.significand then (Nat.pow 2 f.fraction, e + 1) else (n, e)
    if n == 0 then .zero negative
    else if e > f.maxExponent then overflow f mode negative
    else if n < Nat.pow 2 f.fraction then .finite negative 0 n
    else .finite negative (e + f.bias).toNat (n - Nat.pow 2 f.fraction)

/-- The value of a bit pattern: sign, then exponent, then trailing
significand. -/
def ofBits (f : Format) (bits : Nat) : FloatValue :=
  let m := bits % Nat.pow 2 f.fraction
  let be := (bits / Nat.pow 2 f.fraction) % Nat.pow 2 f.exponent
  let negative := bits / Nat.pow 2 (f.fraction + f.exponent) % 2 == 1
  ofFields f negative be m
where
  /-- The value of sign, biased exponent and trailing significand. -/
  ofFields (f : Format) (negative : Bool) (be m : Nat) : FloatValue :=
    if be == Nat.pow 2 f.exponent - 1 then (if m == 0 then .infinity negative else .nan)
    else if be == 0 && m == 0 then .zero negative
    else .finite negative be m

/-- A bit pattern of a value, inverse to `ofBits`: sign, then exponent,
then trailing significand. NaN, which has many patterns, takes the
positive one whose significand is two, the least with its lowest bit
clear. -/
def toBits (f : Format) (v : FloatValue) : Nat :=
  let top := Nat.pow 2 (f.fraction + f.exponent)
  let sign := if isNegative v then top else 0
  let infinite := (Nat.pow 2 f.exponent - 1) * Nat.pow 2 f.fraction
  match v with
  | .zero _ => sign
  | .finite _ be m => sign + be * Nat.pow 2 f.fraction + m
  | .infinity _ => sign + infinite
  | .nan => infinite + 2

/-- Negation. -/
def negate : FloatValue → FloatValue
  | .nan => .nan
  | v => withSign (!isNegative v) v

/-- Absolute value. -/
def abs : FloatValue → FloatValue
  | .nan => .nan
  | v => withSign false v

/-- The zero that an exact zero sum takes: the common sign of two zero
addends, else positive, or negative when rounding toward negative. -/
def zeroSum (mode : RoundingMode) (x y : FloatValue) : FloatValue :=
  match x, y with
  | .zero a, .zero b => if a == b then .zero a else .zero (mode == .towardNegative)
  | _, _ => .zero (mode == .towardNegative)

/-- Addition. -/
def add (f : Format) (mode : RoundingMode) (x y : FloatValue) : FloatValue :=
  match x, y with
  | .nan, _ | _, .nan => .nan
  | .infinity a, .infinity b => if a == b then .infinity a else .nan
  | .infinity a, _ | _, .infinity a => .infinity a
  | _, _ =>
    let sum := (toRat? f x).getD 0 + (toRat? f y).getD 0
    if sum == 0 then zeroSum mode x y else round f mode sum

/-- Subtraction. -/
def sub (f : Format) (mode : RoundingMode) (x y : FloatValue) : FloatValue :=
  add f mode x (negate y)

/-- Whether a value is a zero. -/
def isZero : FloatValue → Bool
  | .zero _ => true
  | _ => false

/-- Whether a value is an infinity. -/
def isInfinite : FloatValue → Bool
  | .infinity _ => true
  | _ => false

/-- Whether a value is NaN. -/
def isNaN : FloatValue → Bool
  | .nan => true
  | _ => false

/-- Multiplication. -/
def mul (f : Format) (mode : RoundingMode) (x y : FloatValue) : FloatValue :=
  let sign := isNegative x != isNegative y
  if isNaN x || isNaN y then .nan
  else if isInfinite x || isInfinite y then
    (if isZero x || isZero y then .nan else .infinity sign)
  else if isZero x || isZero y then .zero sign
  else round f mode ((toRat? f x).getD 0 * (toRat? f y).getD 0)

/-- Division. -/
def div (f : Format) (mode : RoundingMode) (x y : FloatValue) : FloatValue :=
  let sign := isNegative x != isNegative y
  if isNaN x || isNaN y then .nan
  else if isInfinite x then (if isInfinite y then .nan else .infinity sign)
  else if isInfinite y then .zero sign
  else if isZero y then (if isZero x then .nan else .infinity sign)
  else if isZero x then .zero sign
  else round f mode ((toRat? f x).getD 0 / (toRat? f y).getD 0)

/-- Fused multiply-add: `x * y + z` rounded once. -/
def fma (f : Format) (mode : RoundingMode) (x y z : FloatValue) : FloatValue :=
  let sign := isNegative x != isNegative y
  if isNaN x || isNaN y || isNaN z then .nan
  else if isInfinite x || isInfinite y then
    if isZero x || isZero y then .nan
    else match z with
      | .infinity b => if b == sign then .infinity sign else .nan
      | _ => .infinity sign
  else if isInfinite z then z
  else
    let product := (toRat? f x).getD 0 * (toRat? f y).getD 0
    let sum := product + (toRat? f z).getD 0
    if sum == 0 then
      (if product == 0 then zeroSum mode (.zero sign) z else .zero (mode == .towardNegative))
    else round f mode sum

/-- Square root, correctly rounded. The root of `m · 2^k` is taken as the
integer root of `m · 2^(k + 2t)` scaled back by `2^t`, with `t` large
enough for two bits beyond the format; an inexact root is nudged half a
unit up, which lies strictly between the neighbours that matter. -/
def sqrt (f : Format) (mode : RoundingMode) (x : FloatValue) : FloatValue :=
  match x with
  | .nan => .nan
  | .zero n => .zero n
  | .infinity n => if n then .nan else .infinity false
  | .finite true _ _ => .nan
  | .finite false _ _ =>
    let a := (toRat? f x).getD 0
    -- choose t so that the root has at least significand + 2 bits
    let t : Nat := f.significand + 4 + (a.den.log2 + 1)
    let scaled := a * pow2 (2 * (t : Int))
    let n := scaled.num.natAbs / scaled.den
    let r := Nat.sqrt n
    let exact := r * r == n && scaled.den == 1
    let root : Rat := if exact then (r : Rat) else (r : Rat) + 1 / 2
    round f mode (root / pow2 t)

/-- The integer nearest to a rational, ties to even. -/
def nearestEvenInt (q : Rat) : Int :=
  let fl := q.floor
  let frac := q - fl
  if frac > 1 / 2 then fl + 1
  else if frac < 1 / 2 then fl
  else if fl % 2 == 0 then fl else fl + 1

/-- The IEEE remainder `x - y · n`, `n` the integer nearest to `x / y`. -/
def rem (f : Format) (x y : FloatValue) : FloatValue :=
  if isNaN x || isNaN y || isInfinite x || isZero y then .nan
  else if isInfinite y then x
  else if isZero x then x
  else
    let a := (toRat? f x).getD 0
    let b := (toRat? f y).getD 0
    let r := a - b * (nearestEvenInt (a / b) : Rat)
    if r == 0 then .zero (isNegative x) else round f .nearestEven r

/-- Round a rational to an integer by a rounding mode. -/
def roundInt (mode : RoundingMode) (q : Rat) : Int :=
  match mode with
  | .nearestEven => nearestEvenInt q
  | .nearestAway =>
    let fl := q.floor
    let frac := q - fl
    if frac > 1 / 2 || (frac == 1 / 2 && q > 0) then fl + 1 else fl
  | .towardPositive => q.ceil
  | .towardNegative => q.floor
  | .towardZero => if q ≥ 0 then q.floor else q.ceil

/-- Rounding to an integral value in the same format. -/
def roundToIntegral (f : Format) (mode : RoundingMode) (x : FloatValue) : FloatValue :=
  match toRat? f x with
  | some a =>
    if isZero x then x
    else
      let i := roundInt mode a
      if i == 0 then .zero (isNegative x) else round f mode i
  | none => x

/-- The order of two numbers that are not NaN: negative, zero or positive
as `x` is below, equal to or above `y`. -/
def order (f : Format) (x y : FloatValue) : Ordering :=
  match x, y with
  | .infinity a, .infinity b => if a == b then .eq else if a then .lt else .gt
  | .infinity a, _ => if a then .lt else .gt
  | _, .infinity b => if b then .gt else .lt
  | _, _ =>
    let a := (toRat? f x).getD 0
    let b := (toRat? f y).getD 0
    if a < b then .lt else if a == b then .eq else .gt

/-- The truth of a floating-point comparison; NaN compares false. -/
def compare (f : Format) (op : FpCompare) (x y : FloatValue) : Bool :=
  if isNaN x || isNaN y then false
  else
    let o := order f x y
    match op with
    | .eq => o == .eq
    | .lt => o == .lt
    | .leq => o != .gt
    | .gt => o == .gt
    | .geq => o != .lt

/-- Minimum; `none` for two zeros of opposite sign. -/
def min? (f : Format) (x y : FloatValue) : Option FloatValue :=
  match x, y with
  | .nan, _ => some y
  | _, .nan => some x
  | .zero a, .zero b => if a == b then some x else none
  | _, _ => some (if order f x y == .gt then y else x)

/-- Maximum; `none` for two zeros of opposite sign. -/
def max? (f : Format) (x y : FloatValue) : Option FloatValue :=
  match x, y with
  | .nan, _ => some y
  | _, .nan => some x
  | .zero a, .zero b => if a == b then some x else none
  | _, _ => some (if order f x y == .lt then y else x)

/-- The truth of a classification test. -/
def classify (op : FpClass) (x : FloatValue) : Bool :=
  match op, x with
  | .isInfinite, .infinity _ => true
  | .isNaN, .nan => true
  | .isNegative, v => !isNaN v && isNegative v
  | .isPositive, v => !isNaN v && !isNegative v
  | .isNormal, .finite _ be _ => be != 0
  | .isSubnormal, .finite _ be _ => be == 0
  | .isZero, .zero _ => true
  | _, _ => false

/-- Conversion into another format. -/
def convert (target : Format) (mode : RoundingMode) (source : Format) (x : FloatValue) :
    FloatValue :=
  match x with
  | .finite .. => round target mode ((toRat? source x).getD 0)
  | v => v

/-- The exact real value; `none` for NaN and infinities. -/
def toReal? (f : Format) (x : FloatValue) : Option Rat := toRat? f x

/-- Conversion to a signed bit-vector of width `w` (rounded by the mode);
`none` for NaN, infinities and values out of range. -/
def toSigned? (f : Format) (mode : RoundingMode) (w : Nat) (x : FloatValue) : Option Nat :=
  match toRat? f x with
  | some a =>
    let i := roundInt mode a
    if -((Nat.pow 2 (w - 1) : Nat) : Int) ≤ i && i < ((Nat.pow 2 (w - 1) : Nat) : Int) then
      some (Bits.ofInt w i)
    else none
  | none => none

/-- Conversion to an unsigned bit-vector of width `w`; `none` for NaN,
infinities and values out of range. -/
def toUnsigned? (f : Format) (mode : RoundingMode) (w : Nat) (x : FloatValue) : Option Nat :=
  match toRat? f x with
  | some a =>
    let i := roundInt mode a
    if 0 ≤ i && i < ((Nat.pow 2 w : Nat) : Int) then some i.toNat else none
  | none => none

end SmtBackend.Float
