/-!
# Shelves

Things that were made in the course of a rehearsal. A thing keeps its number for good; a name goes
with the thing that got it last, so a thing that lost its name is still used by whoever holds it.
-/

namespace TimedLock.Rehearsal

/-- Things by number, and numbers by name. -/
structure Shelf (α : Type) where
  items : Array α
  names : List (String × Nat)

namespace Shelf

variable {α : Type}

/-- A shelf with nothing on it. -/
def empty : Shelf α := ⟨#[], []⟩

/-- The number that the next thing gets. -/
def nextNumber (shelf : Shelf α) : Nat := shelf.items.size

/-- Puts a thing on the shelf. -/
def add (shelf : Shelf α) (a : α) : Shelf α := { shelf with items := shelf.items.push a }

/-- Puts a thing on the shelf under a name. -/
def addNamed (shelf : Shelf α) (name : String) (a : α) : Shelf α :=
  ⟨shelf.items.push a, shelf.names.filter (·.1 ≠ name) ++ [(name, shelf.items.size)]⟩

/-- The thing with a number. -/
def get? (shelf : Shelf α) (number : Nat) : Option α := shelf.items[number]?

/-- The number of a name. -/
def number? (shelf : Shelf α) (name : String) : Option Nat :=
  (shelf.names.find? (·.1 = name)).map (·.2)

/-- Changes the thing with a number. -/
def modify (shelf : Shelf α) (number : Nat) (f : α → α) : Shelf α :=
  { shelf with items := shelf.items.modify number f }

/-- The things that have a name. -/
def named (shelf : Shelf α) : List (String × α) :=
  shelf.names.filterMap fun (name, number) => (shelf.get? number).map (name, ·)

end Shelf

end TimedLock.Rehearsal
