/-!
# The order of an open-addressing hash table

A table of keys kept in an array of slots whose size is a power of two.
A key goes to the slot its hash selects (the hash modulo the size) or, if
that slot is taken, to the next free slot after it, wrapping around.
Before an insertion that finds the table more than three quarters full,
the table doubles, and the keys move to the larger table in the order of
their old slots. The table starts with eight slots.

Listing the table reads the slots in order, so the order of the keys
depends on their hashes and, where hashes meet, on the order they came in.
-/

namespace SmtBackend.Hash

/-- Slots of a table. -/
abbrev Slots (α : Type) := Array (Option α)

/-- Put a key in the first free slot at or after `home`, wrapping around;
a full table is left as it is. -/
def Slots.place {α : Type} (slots : Slots α) (home : Nat) (k : α) : Slots α :=
  let n := slots.size
  match (List.range n).find? fun d => (slots.getD ((home + d) % n) none).isNone with
  | some d => slots.setIfInBounds ((home + d) % n) (some k)
  | none => slots

/-- Put a key at the slot its hash selects. -/
def Slots.insert {α : Type} (hash : α → Nat) (slots : Slots α) (k : α) : Slots α :=
  slots.place (hash k % slots.size) k

/-- The keys in slot order. -/
def Slots.keys {α : Type} (slots : Slots α) : List α := slots.toList.filterMap id

/-- The table with twice the slots, its keys moved in slot order. -/
def Slots.grow {α : Type} (hash : α → Nat) (slots : Slots α) : Slots α :=
  slots.keys.foldl (Slots.insert hash) (Array.replicate (2 * slots.size) none)

/-- The slots a table starts with. -/
def initialSlots : Nat := 8

/-- Insert keys in order into an empty table. -/
def fill {α : Type} (hash : α → Nat) (keys : List α) : Slots α :=
  (keys.foldl (fun (t : Slots α × Nat) k =>
    let slots := if t.2 * 4 > t.1.size * 3 then t.1.grow hash else t.1
    (slots.insert hash k, t.2 + 1)) (Array.replicate initialSlots none, 0)).1

/-- The order in which a table lists keys inserted in the given order. -/
def tableOrder {α : Type} (hash : α → Nat) (keys : List α) : List α := (fill hash keys).keys

end SmtBackend.Hash
