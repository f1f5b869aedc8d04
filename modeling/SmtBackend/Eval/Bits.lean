import SmtBackend.Term.Basic

/-!
# Bit-vector arithmetic

Bit-vectors of width `w` are natural numbers below `2 ^ w`. Arithmetic
wraps modulo `2 ^ w`; the signed reading of a vector takes its top bit as
the sign. Division by zero follows SMT-LIB: unsigned quotient by zero is
all ones, unsigned remainder by zero is the dividend, and the signed
operations reduce to the unsigned ones on magnitudes.
-/

namespace SmtBackend.Bits

/-- The vector of width `w` holding `v` modulo `2 ^ w`. -/
def wrap (w v : Nat) : Nat := v % Nat.pow 2 w

/-- The vector of width `w` holding an integer modulo `2 ^ w`. -/
def ofInt (w : Nat) (i : Int) : Nat := (i % (Nat.pow 2 w : Nat)).toNat

/-- The all-ones vector. -/
def ones (w : Nat) : Nat := Nat.pow 2 w - 1

/-- Whether the top bit is set. -/
def msb (w v : Nat) : Bool := w > 0 && v ≥ Nat.pow 2 (w - 1)

/-- The signed reading of a vector. -/
def signed (w v : Nat) : Int := if msb w v then (v : Int) - (Nat.pow 2 w : Nat) else v

/-- Two's complement negation. -/
def neg (w v : Nat) : Nat := wrap w (Nat.pow 2 w - v)

/-- Bitwise complement. -/
def complement (w v : Nat) : Nat := ones w - wrap w v

/-- Unsigned quotient; all ones for a zero divisor. -/
def udiv (w a b : Nat) : Nat := if b == 0 then ones w else a / b

/-- Unsigned remainder; the dividend for a zero divisor. -/
def urem (a b : Nat) : Nat := if b == 0 then a else a % b

/-- The magnitude of a vector read as signed. -/
def magnitude (w v : Nat) : Nat := if msb w v then neg w v else v

/-- Signed quotient, rounding toward zero, on magnitudes. -/
def sdiv (w a b : Nat) : Nat :=
  let q := udiv w (magnitude w a) (magnitude w b)
  if msb w a == msb w b then q else neg w q

/-- Signed remainder, with the sign of the dividend. -/
def srem (w a b : Nat) : Nat :=
  let r := urem (magnitude w a) (magnitude w b)
  if msb w a then neg w r else r

/-- Signed remainder, with the sign of the divisor. -/
def smod (w a b : Nat) : Nat :=
  let u := urem (magnitude w a) (magnitude w b)
  if u == 0 then u
  else match msb w a, msb w b with
    | false, false => u
    | true, false => wrap w (neg w u + b)
    | false, true => wrap w (u + b)
    | true, true => neg w u

/-- Left shift; zero once the amount reaches the width. -/
def shl (w a b : Nat) : Nat := if b ≥ w then 0 else wrap w (a * Nat.pow 2 b)

/-- Logical right shift. -/
def lshr (w a b : Nat) : Nat := if b ≥ w then 0 else a / Nat.pow 2 b

/-- Arithmetic right shift: the sign bit fills in from the left. -/
def ashr (w a b : Nat) : Nat :=
  if !msb w a then lshr w a b
  else if b ≥ w then ones w
  else complement w (complement w a / Nat.pow 2 b)

/-- Rotation to the left by `k` places. -/
def rotateLeft (w a k : Nat) : Nat :=
  if w == 0 then a
  else
    let k := k % w
    wrap w (a * Nat.pow 2 k) + a / Nat.pow 2 (w - k)

/-- Rotation to the right by `k` places. -/
def rotateRight (w a k : Nat) : Nat :=
  if w == 0 then a else rotateLeft w a (w - k % w)

/-- Bits `high` down to `low`. -/
def extract (high low a : Nat) : Nat := (a / Nat.pow 2 low) % Nat.pow 2 (high + 1 - low)

/-- `a` in the high bits and `b`, of width `wb`, in the low bits. -/
def concat (wb a b : Nat) : Nat := a * Nat.pow 2 wb + b

/-- `n` copies of a vector of width `w`. -/
def repeatBits (w a : Nat) : Nat → Nat
  | 0 => 0
  | n + 1 => concat w (repeatBits w a n) a

/-- Extension by `k` copies of the sign bit. -/
def signExtend (w k a : Nat) : Nat :=
  if msb w a then (Nat.pow 2 k - 1) * Nat.pow 2 w + a else a

/-- Bitwise combination by a Boolean function, bit by bit. -/
def bitwise (f : Bool → Bool → Bool) : Nat → Nat → Nat → Nat
  | 0, _, _ => 0
  | w + 1, a, b =>
    2 * bitwise f w (a / 2) (b / 2) + (if f (a % 2 == 1) (b % 2 == 1) then 1 else 0)

/-- The result of a binary operator on two vectors of width `w`. -/
def binary (w : Nat) : BvBinary → Nat → Nat → Nat
  | .add, a, b => wrap w (a + b)
  | .sub, a, b => wrap w (a + neg w b)
  | .mul, a, b => wrap w (a * b)
  | .udiv, a, b => udiv w a b
  | .sdiv, a, b => sdiv w a b
  | .urem, a, b => urem a b
  | .srem, a, b => srem w a b
  | .smod, a, b => smod w a b
  | .and, a, b => bitwise (· && ·) w a b
  | .or, a, b => bitwise (· || ·) w a b
  | .xor, a, b => bitwise (· != ·) w a b
  | .nand, a, b => bitwise (fun x y => !(x && y)) w a b
  | .nor, a, b => bitwise (fun x y => !(x || y)) w a b
  | .xnor, a, b => bitwise (· == ·) w a b
  | .shl, a, b => shl w a b
  | .lshr, a, b => lshr w a b
  | .ashr, a, b => ashr w a b
  | .extRotateLeft, a, b => rotateLeft w a b
  | .extRotateRight, a, b => rotateRight w a b

/-- The truth of a comparison of two vectors of width `w`. -/
def compare (w : Nat) : BvCompare → Nat → Nat → Bool
  | .ule, a, b => a ≤ b
  | .ult, a, b => a < b
  | .uge, a, b => a ≥ b
  | .ugt, a, b => a > b
  | .sle, a, b => signed w a ≤ signed w b
  | .slt, a, b => signed w a < signed w b
  | .sge, a, b => signed w a ≥ signed w b
  | .sgt, a, b => signed w a > signed w b

end SmtBackend.Bits
