/-!
# The queue of variables to decide

The engine decides the most active unassigned variable first. Variables
wait in a binary heap ordered by activity, the most active at the root.
Slot zero of the heap is unused, the root is slot one and the parent of
slot `i` is slot `i / 2`. Beside the slots the heap keeps each variable's
slot, zero for a variable that is not in the heap, so that membership is a
look-up and a variable can be moved or removed where it stands.

Ties keep their places: an entry moves past another only when it is
strictly more active. Activities are given to each operation, since the
engine owns them.
-/

namespace SmtBackend.Sat

/-- A binary heap of variables with the slot of each variable. -/
structure VarHeap where
  /-- The entries; slot zero is unused. -/
  slots : Array Nat := #[0]
  /-- The slot of each variable, zero when it is not in the heap. -/
  position : Array Nat := #[]
  deriving Repr, Inhabited

namespace VarHeap

/-- Whether the first variable is strictly more active than the second. -/
def before (act : Array Float) (a b : Nat) : Bool := act.getD a 0 > act.getD b 0

/-- Whether a variable is in the heap. -/
def contains (h : VarHeap) (v : Nat) : Bool := h.position.getD v 0 != 0

/-- Whether the heap holds no variable. -/
def isEmpty (h : VarHeap) : Bool := h.slots.size ≤ 1

/-- Put a variable in a slot and record its slot. -/
def place (h : VarHeap) (i v : Nat) : VarHeap :=
  { slots := h.slots.setIfInBounds i v, position := h.position.setIfInBounds v i }

@[simp] theorem size_place (h : VarHeap) (i v : Nat) :
    (h.place i v).slots.size = h.slots.size := by
  simp [place]

/-- Carry a variable from slot `i` towards the root, past every ancestor
that is less active, and leave it in the slot it reaches. -/
def siftUp (act : Array Float) (h : VarHeap) (i v : Nat) : VarHeap :=
  if hp : i / 2 = 0 then h.place i v
  else
    let pv := h.slots.getD (i / 2) 0
    if before act v pv then siftUp act (h.place i pv) (i / 2) v else h.place i v
termination_by i
decreasing_by omega

/-- Carry a variable from slot `i` towards the leaves, past every child
more active than it (the more active child of two, the left one on a
tie), and leave it in the slot it reaches. -/
def siftDown (act : Array Float) (h : VarHeap) (i v : Nat) : VarHeap :=
  if hi : i = 0 ∨ 2 * i ≥ h.slots.size then h.place i v
  else
    let l := 2 * i
    let m := if l + 1 < h.slots.size && before act (h.slots.getD (l + 1) 0) (h.slots.getD l 0)
      then l + 1 else l
    let mv := h.slots.getD m 0
    if before act mv v then siftDown act (h.place i mv) m v else h.place i v
termination_by h.slots.size - i
decreasing_by simp only [size_place]; split <;> omega

/-- Move the variable in slot `i` towards the root as far as its activity
allows. -/
def moveUp (act : Array Float) (h : VarHeap) (i : Nat) : VarHeap :=
  h.siftUp act i (h.slots.getD i 0)

/-- Move the variable in slot `i` towards the leaves as far as its
activity allows. -/
def moveDown (act : Array Float) (h : VarHeap) (i : Nat) : VarHeap :=
  h.siftDown act i (h.slots.getD i 0)

/-- Add a variable, which must not be in the heap. -/
def insert (act : Array Float) (h : VarHeap) (v : Nat) : VarHeap :=
  let i := h.slots.size
  let h : VarHeap := { slots := h.slots.push v, position := h.position.setIfInBounds v i }
  h.moveUp act i

/-- Remove the variable in the last slot, which is `v`. -/
def dropLast (h : VarHeap) (v : Nat) : VarHeap :=
  { slots := h.slots.pop, position := h.position.setIfInBounds v 0 }

/-- Remove a variable from the slot `i` it stands in: the last entry takes
its slot and moves up or down from there. -/
def removeAt (act : Array Float) (h : VarHeap) (i v : Nat) : VarHeap :=
  if i + 1 == h.slots.size then h.dropLast v
  else
    let last := h.slots.getD (h.slots.size - 1) 0
    let h : VarHeap := { slots := (h.slots.setIfInBounds i last).pop,
                         position := (h.position.setIfInBounds last i).setIfInBounds v 0 }
    if i / 2 != 0 && before act last (h.slots.getD (i / 2) 0) then h.moveUp act i
    else h.moveDown act i

/-- Take the most active variable out of the heap. -/
def eraseMin (act : Array Float) (h : VarHeap) : Option (Nat × VarHeap) :=
  if h.isEmpty then none
  else
    let r := h.slots.getD 1 0
    some (r, h.removeAt act 1 r)

/-- Take a variable out of the heap, if it is there. -/
def erase (act : Array Float) (h : VarHeap) (v : Nat) : VarHeap :=
  if h.contains v then h.removeAt act (h.position.getD v 0) v else h

/-- Make room for one more variable, not yet in the heap. -/
def grow (h : VarHeap) : VarHeap := { h with position := h.position.push 0 }

/-- Forget the last variable, which must not be in the heap. -/
def shrink (h : VarHeap) : VarHeap := { h with position := h.position.pop }

end VarHeap

end SmtBackend.Sat
