import SmtBackend.Eval.Reduce

/-!
# Bit-level search

A solver that turns bit-vectors into bits decides the bits one at a time,
each `false` first, in the order a heap of equal priorities gives them:
the first bit made, then the others from the last made back. With the
vectors made in the order their constants first occur, that is the
lowest bit of the first vector, then every other vector from its highest
bit down, the last vector first, and last the remaining bits of the first
vector from the highest down. The values it meets first are the least in
that order that satisfy the formulas. This module finds them by a
depth-first search over the bits in that order that abandons a branch as
soon as a formula is false whatever the undecided bits are, or the
comparisons the formulas state leave some constant no number.

A formula is read three-valued over vectors whose bits may be unknown:
bitwise operations, sums, shifts by known amounts, slices and comparisons
work bit by bit or on the least and greatest numbers a vector can hold;
any other operation is evaluated once all its arguments are known.
Comparisons narrow an interval of numbers for each constant, in the
unsigned and in the signed order, until the intervals settle.
-/

namespace SmtBackend.Solver.BitSearch

open SmtBackend.Eval

/-- A vector whose bits may be unknown, the lowest first. -/
abbrev Partial := List (Option Bool)

/-- The bits of a known vector of width `w`. -/
def known (w v : Nat) : Partial := (List.range w).map fun i => some (v / Nat.pow 2 i % 2 == 1)

/-- A vector of width `w` with no bit known. -/
def unknown (w : Nat) : Partial := List.replicate w none

/-- The least number a vector can hold: its unknown bits clear. -/
def lowest (p : Partial) : Nat := p.foldr (fun b acc => 2 * acc + (if b == some true then 1 else 0)) 0

/-- The greatest number a vector can hold: its unknown bits set. -/
def highest (p : Partial) : Nat := p.foldr (fun b acc => 2 * acc + (if b == some false then 0 else 1)) 0

/-- The number a vector holds when every bit is known. -/
def held? (p : Partial) : Option Nat := if p.all Option.isSome then some (lowest p) else none

/-- Three-valued conjunction: false as soon as one side is. -/
def and3 : Option Bool → Option Bool → Option Bool
  | some false, _ | _, some false => some false
  | some true, some true => some true
  | _, _ => none

/-- Three-valued disjunction: true as soon as one side is. -/
def or3 : Option Bool → Option Bool → Option Bool
  | some true, _ | _, some true => some true
  | some false, some false => some false
  | _, _ => none

/-- Three-valued exclusive or: known when both sides are. -/
def xor3 : Option Bool → Option Bool → Option Bool
  | some a, some b => some (a != b)
  | _, _ => none

/-- The majority of three bits, known when two known ones agree. -/
def majority (a b c : Option Bool) : Option Bool :=
  let bits := [a, b, c]
  if (bits.filter (· == some true)).length ≥ 2 then some true
  else if (bits.filter (· == some false)).length ≥ 2 then some false
  else none

/-- The sum of two vectors and a carry into the lowest bit, each sum bit
known when its inputs are. -/
def addCarry : Partial → Partial → Option Bool → Partial
  | a :: as, b :: bs, c => xor3 (xor3 a b) c :: addCarry as bs (majority a b c)
  | _, _, _ => []

/-- Bitwise complement. -/
def complement (p : Partial) : Partial := p.map (·.map (!·))

/-- Both vectors the same where known: a bit is known when it is the same
known bit in both. -/
def merge (a b : Partial) : Partial := List.zipWith (fun x y => if x == y then x else none) a b

/-- Whether two vectors are equal: false when some bit is known to differ,
true when all bits are known and agree. -/
def equal (a b : Partial) : Option Bool :=
  let pairs := List.zip a b
  if pairs.any (fun (x, y) => x.isSome && y.isSome && x != y) then some false
  else if pairs.all (fun (x, y) => x.isSome && x == y) then some true
  else none

/-- Whether `a ≤ b` unsigned, from the least and greatest numbers each can
hold. -/
def atMost (a b : Partial) : Option Bool :=
  if highest a ≤ lowest b then some true
  else if lowest a > highest b then some false
  else none

/-- The vector with its top bit flipped, which turns the signed order into
the unsigned one. -/
def flipTop (p : Partial) : Partial := p.dropLast ++ (p.getLast?.map (·.map (!·))).toList

/-- A comparison of two vectors. -/
def compare (op : BvCompare) (a b : Partial) : Option Bool :=
  match op with
  | .ule => atMost a b
  | .uge => atMost b a
  | .ult => (atMost b a).map (!·)
  | .ugt => (atMost a b).map (!·)
  | .sle => atMost (flipTop a) (flipTop b)
  | .sge => atMost (flipTop b) (flipTop a)
  | .slt => (atMost (flipTop b) (flipTop a)).map (!·)
  | .sgt => (atMost (flipTop a) (flipTop b)).map (!·)

/-- A vector shifted towards its high end by `k`, zeros coming in. -/
def shiftUp (k : Nat) (p : Partial) : Partial :=
  (List.replicate k (some false) ++ p).take p.length

/-- A vector shifted towards its low end by `k`, copies of `fill` coming
in. -/
def shiftDown (fill : Option Bool) (k : Nat) (p : Partial) : Partial :=
  p.drop k ++ List.replicate (min k p.length) fill

/-- A vector rotated towards its high end by `k`. -/
def rotateUp (k : Nat) (p : Partial) : Partial :=
  let n := p.length
  if n == 0 then p else
  let k := k % n
  p.drop (n - k) ++ p.take (n - k)

/-- A known term for a known argument: the vector or truth value it holds. -/
def asValue (s : SmtSort) (v : Partial) (b : Option Bool) : Option Term :=
  match s with
  | .bitVec w => (held? v).map (Term.ofBits w)
  | .bool => b.map Term.ofBool
  | _ => none

/-- What some constants hold: the partial vectors of the bit-vector
constants the search has started on. -/
abbrev Lookup := String → SmtSort → Option Partial

mutual
/-- The bits of a bit-vector term when constants hold what `look` gives
them; the others are unknown. `fuel` bounds the depth. -/
def vector (look : Lookup) : Nat → Term → Partial
  | 0, t => unknown t.sort.width
  | _ + 1, .app (.bvLit w v) [] => known w v
  | _ + 1, .app (.const n s) [] => (look n s).getD (unknown s.width)
  | fuel + 1, .app .bvNot [a] => complement (vector look fuel a)
  | fuel + 1, .app .bvNeg [a] =>
    let v := vector look fuel a
    addCarry (complement v) (known v.length 0) (some true)
  | fuel + 1, .app (.bvBinary .and) [a, b] =>
    List.zipWith and3 (vector look fuel a) (vector look fuel b)
  | fuel + 1, .app (.bvBinary .or) [a, b] =>
    List.zipWith or3 (vector look fuel a) (vector look fuel b)
  | fuel + 1, .app (.bvBinary .xor) [a, b] =>
    List.zipWith xor3 (vector look fuel a) (vector look fuel b)
  | fuel + 1, .app (.bvBinary .add) [a, b] =>
    addCarry (vector look fuel a) (vector look fuel b) (some false)
  | fuel + 1, .app (.bvBinary .sub) [a, b] =>
    addCarry (vector look fuel a) (complement (vector look fuel b)) (some true)
  | fuel + 1, .app (.bvBinary .shl) [a, b] =>
    let v := vector look fuel a
    match held? (vector look fuel b) with
    | some k => shiftUp (min k v.length) v
    | none => unknown v.length
  | fuel + 1, .app (.bvBinary .lshr) [a, b] =>
    let v := vector look fuel a
    match held? (vector look fuel b) with
    | some k => shiftDown (some false) (min k v.length) v
    | none => unknown v.length
  | fuel + 1, .app (.bvBinary .ashr) [a, b] =>
    let v := vector look fuel a
    match held? (vector look fuel b) with
    | some k => shiftDown (v.getLast?.getD none) (min k v.length) v
    | none => unknown v.length
  | fuel + 1, .app .concat args =>
    (args.reverse.map (vector look fuel)).flatten
  | fuel + 1, .app (.extract hi lo) [a] =>
    ((vector look fuel a).drop lo).take (hi + 1 - lo)
  | fuel + 1, .app (.zeroExtend k) [a] => vector look fuel a ++ List.replicate k (some false)
  | fuel + 1, .app (.signExtend k) [a] =>
    let v := vector look fuel a
    v ++ List.replicate k (v.getLast?.getD none)
  | fuel + 1, .app (.repeat k) [a] => (List.replicate k (vector look fuel a)).flatten
  | fuel + 1, .app (.rotateLeft k) [a] => rotateUp k (vector look fuel a)
  | fuel + 1, .app (.rotateRight k) [a] =>
    let v := vector look fuel a
    rotateUp (v.length - k % (max v.length 1)) v
  | fuel + 1, .app .bvRedOr [a] => [(vector look fuel a).foldl or3 (some false)]
  | fuel + 1, .app .bvRedAnd [a] => [(vector look fuel a).foldl and3 (some true)]
  | fuel + 1, .app .ite [c, a, b] =>
    match truth look fuel c with
    | some true => vector look fuel a
    | some false => vector look fuel b
    | none => merge (vector look fuel a) (vector look fuel b)
  | fuel + 1, t@(.app f args) =>
    match t.sort with
    | .bitVec w =>
      match args.mapM (fun a => asValue a.sort (vector look fuel a) (truth look fuel a)) with
      | some vs => match asBits? (evaluate f vs) with
        | some (_, v) => known w v
        | none => unknown w
      | none => unknown w
    | _ => []
  | _ + 1, t => unknown t.sort.width
/-- The truth of a formula when constants hold what `look` gives them, if
the known bits decide it. -/
def truth (look : Lookup) : Nat → Term → Option Bool
  | 0, _ => none
  | _ + 1, .app (.boolLit b) [] => some b
  | fuel + 1, .app .not [a] => (truth look fuel a).map (!·)
  | fuel + 1, .app .and args => (args.map (truth look fuel)).foldl and3 (some true)
  | fuel + 1, .app .or args => (args.map (truth look fuel)).foldl or3 (some false)
  | fuel + 1, .app .implies [a, b] => or3 ((truth look fuel a).map (!·)) (truth look fuel b)
  | fuel + 1, .app .xor [a, b] => xor3 (truth look fuel a) (truth look fuel b)
  | fuel + 1, .app .ite [c, a, b] =>
    match truth look fuel c with
    | some true => truth look fuel a
    | some false => truth look fuel b
    | none =>
      let (u, v) := (truth look fuel a, truth look fuel b)
      if u == v then u else none
  | fuel + 1, .app .eq [a, b] =>
    match a.sort with
    | .bitVec _ => equal (vector look fuel a) (vector look fuel b)
    | .bool => (xor3 (truth look fuel a) (truth look fuel b)).map (!·)
    | _ => none
  | fuel + 1, .app .distinct [a, b] =>
    match a.sort with
    | .bitVec _ => (equal (vector look fuel a) (vector look fuel b)).map (!·)
    | .bool => xor3 (truth look fuel a) (truth look fuel b)
    | _ => none
  | fuel + 1, .app (.bvCompare op) [a, b] => compare op (vector look fuel a) (vector look fuel b)
  | _ + 1, _ => none
end

/-- The depth to which formulas are read. -/
def readingDepth : Nat := 200

/-! ## Bounds -/

/-- A comparison that a formula states: `left ≤ right`, or `left < right`
when strict, in the unsigned order or, when signed, in the signed one. -/
structure Bound where
  left : Term
  right : Term
  strict : Bool
  signed : Bool

/-- The bound a comparison states, or its negation states. -/
def compareBound (op : BvCompare) (a b : Term) (negated : Bool) : Bound :=
  let signed := match op with | .sle | .slt | .sge | .sgt => true | _ => false
  match op, negated with
  | .ule, false | .sle, false => ⟨a, b, false, signed⟩
  | .ule, true | .sle, true => ⟨b, a, true, signed⟩
  | .ult, false | .slt, false => ⟨a, b, true, signed⟩
  | .ult, true | .slt, true => ⟨b, a, false, signed⟩
  | .uge, false | .sge, false => ⟨b, a, false, signed⟩
  | .uge, true | .sge, true => ⟨a, b, true, signed⟩
  | .ugt, false | .sgt, false => ⟨b, a, true, signed⟩
  | .ugt, true | .sgt, true => ⟨a, b, false, signed⟩

/-- The bounds a formula states at its top, through conjunctions: its
comparisons of vectors, negated or not, and its equations of vectors as
two bounds. -/
def boundsOf : Nat → Term → List Bound
  | 0, _ => []
  | fuel + 1, .app .and args => args.flatMap (boundsOf fuel)
  | _ + 1, .app (.bvCompare op) [a, b] => [compareBound op a b false]
  | _ + 1, .app .not [.app (.bvCompare op) [a, b]] => [compareBound op a b true]
  | _ + 1, .app .eq [a, b] =>
    if a.sort.isBitVec then [⟨a, b, false, false⟩, ⟨b, a, false, false⟩] else []
  | _ + 1, _ => []

/-- The least number of the remaining bits, the highest first. -/
def lowestHighFirst (bs : List (Option Bool)) : Nat :=
  bs.foldl (fun acc b => 2 * acc + if b == some true then 1 else 0) 0

/-- The least number whose bits, the highest first, agree with the known
bits of `bs` and that is at least the number of the bits `ls`, if any. -/
def leastFrom : List (Option Bool) → List Bool → Option Nat
  | b :: bs, l :: ls =>
    let weight := Nat.pow 2 bs.length
    let above := weight + lowestHighFirst bs
    match b, l with
    | some true, true => (leastFrom bs ls).map (weight + ·)
    | some true, false => some above
    | some false, true => none
    | some false, false => leastFrom bs ls
    | none, true => (leastFrom bs ls).map (weight + ·)
    | none, false => (leastFrom bs ls).orElse fun _ => some above
  | _, _ => some 0

/-- The least number at least `lo` that agrees with the known bits of a
vector, if any. -/
def leastAtLeast (p : Partial) (lo : Int) : Option Nat :=
  let w := p.length
  if lo ≥ (Nat.pow 2 w : Nat) then none
  else
    let lo := lo.toNat
    leastFrom p.reverse ((List.range w).reverse.map fun i => lo / Nat.pow 2 i % 2 == 1)

/-- An interval of numbers, empty when its low end passes its high end. -/
abbrev Interval := Int × Int

/-- A vector read in the order of a bound: the signed order is the unsigned
order of the vector with its top bit flipped. -/
def inOrder (signed : Bool) (p : Partial) : Partial := if signed then flipTop p else p

/-- A side of a bound: the place of a constant of the list, or the fixed
interval of numbers that the known bits of another term allow. -/
inductive Side where
  | place (k : Nat)
  | fixed (i : Interval)

/-- The side of a bound that a term is. -/
def sideOf (consts : List (String × SmtSort)) (look : Lookup) (signed : Bool) (t : Term) : Side :=
  let place := match t with
    | .app (.const n s) [] => consts.findIdx? fun c => c.1 == n && c.2 == s
    | _ => none
  match place with
  | some k => .place k
  | none =>
    let v := inOrder signed (vector look readingDepth t)
    .fixed ((lowest v : Int), (highest v : Int))

/-- The interval of a side. -/
def Side.interval (iv : List Interval) : Side → Interval
  | .place k => iv.getD k (0, -1)
  | .fixed i => i

/-- The interval of a side narrowed by `f`, when the side is a constant. -/
def Side.narrow (f : Interval → Interval) (iv : List Interval) : Side → List Interval
  | .place k => iv.modify k f
  | .fixed _ => iv

/-- One bound `l ≤ r - step` applied to the intervals: the right side is at
least the least of the left, and the left at most the greatest of the
right. -/
def tighten (iv : List Interval) (b : Side × Side × Int) : List Interval :=
  let (l, r, step) := b
  let iv := r.narrow (fun (lo, hi) => (max lo ((l.interval iv).1 + step), hi)) iv
  l.narrow (fun (lo, hi) => (lo, min hi ((r.interval iv).2 - step))) iv

/-- Apply `f` until nothing changes, at most `fuel` times. -/
def settle (f : List Interval → List Interval) : Nat → List Interval → List Interval
  | 0, iv => iv
  | fuel + 1, iv =>
    let next := f iv
    if next == iv then iv else settle f fuel next

/-- Whether the bounds of one order leave every constant a number that
agrees with its known bits, after narrowing the intervals the known bits
allow by every bound, round after round until they settle, as many rounds
as there are bounds and two more at most. -/
def boundsFit (consts : List (String × SmtSort)) (look : Lookup) (signed : Bool)
    (bounds : List Bound) : Bool :=
  let own := bounds.filter (·.signed == signed)
  if own.isEmpty then true
  else
    let bits := consts.map fun c => inOrder signed ((look c.1 c.2).getD (unknown c.2.width))
    let start := bits.map fun p => ((lowest p : Int), (highest p : Int))
    let sides := own.map fun b =>
      (sideOf consts look signed b.left, sideOf consts look signed b.right,
        (if b.strict then 1 else 0 : Int))
    let final := settle (fun iv => sides.foldl tighten iv) (own.length + 2) start
    let sidesFit := sides.all fun (l, r, step) => (l.interval final).1 + step ≤ (r.interval final).2
    sidesFit && (List.zip bits final).all fun (p, (lo, hi)) =>
      lo ≤ hi && (leastAtLeast p lo).any fun v => (v : Int) ≤ hi

/-! ## Several vectors -/

/-- A bit to decide: the place of its constant in a list, and the bit. -/
abbrev Position := Nat × Nat

/-- The order in which the bits of several vectors, made in the order of
their widths, are decided: the lowest bit of the first vector, then every
bit of the others, the vector made last first and each from its highest
bit down, and last the other bits of the first vector from the highest
down. A solver that keeps its undecided bits in a heap of equal
priorities meets them so: the first one made, then the rest from the last
made back. -/
def jointOrder : List Nat → List Position
  | [] => []
  | w :: rest =>
    let down := fun (k w : Nat) => (List.range w).reverse.map fun b => (k, b)
    let others := ((List.range rest.length).reverse.map fun k => down (k + 1) (rest.getD k 0)).flatten
    (if w == 0 then [] else [(0, 0)]) ++ others ++ ((down 0 w).filter (·.2 != 0))

/-- The lookup that gives each constant of a list its partial vector. -/
def jointLookup (consts : List (String × SmtSort)) (ps : List Partial) : Lookup :=
  fun n s => ((consts.zip ps).find? fun (c, _) => c.1 == n && c.2 == s).map (·.2)

/-- The first completion of the partial vectors `ps`, deciding the bits
of `order` in turn, that `accept` takes; each bit is tried first with the
value `phase` gives it, and a branch is abandoned on which a formula is
false or the bounds leave some constant no number. The search stops when its budget of decisions runs out.
Returns the vectors, if found, and the budget left. -/
def firstJoint (consts : List (String × SmtSort)) (formulas : List Term) (bounds : List Bound)
    (phase : Position → Bool) (accept : List Partial → Bool) :
    List Position → List Partial → Nat → Option (List Partial) × Nat
  | [], ps, budget => (if accept ps then some ps else none, budget)
  | (k, i) :: rest, ps, budget =>
    let branch := fun (b : Bool) (budget : Nat) =>
      if budget == 0 then (none, 0)
      else
        let qs := ps.set k ((ps.getD k []).set i (some b))
        let look := jointLookup consts qs
        if formulas.all (fun f => truth look readingDepth f != some false) &&
            boundsFit consts look false bounds && boundsFit consts look true bounds then
          firstJoint consts formulas bounds phase accept rest qs (budget - 1)
        else (none, budget - 1)
    match branch (phase (k, i)) budget with
    | (some m, b) => (some m, b)
    | (none, b) => branch (!phase (k, i)) b

/-- The decisions a search of several vectors together may make. -/
def jointBudget : Nat := 2000

/-- The values that bit-vector constants, made in the order of the list,
take first among those that `accept` takes, their bits decided in the
order of `jointOrder`, each first with the value `phase` gives it. -/
def firstVectors (consts : List (String × SmtSort)) (formulas : List Term)
    (phase : Position → Bool) (accept : List Term → Bool) : Option (List Term) :=
  let widths := consts.map (·.2.width)
  let values := fun (ps : List Partial) =>
    (List.zip widths ps).map fun (w, p) => Term.ofBits w (lowest p)
  let start := widths.map unknown
  let bounds := formulas.flatMap (boundsOf readingDepth)
  ((firstJoint consts formulas bounds phase (fun ps => accept (values ps)) (jointOrder widths) start
    jointBudget).1).map values

end SmtBackend.Solver.BitSearch
