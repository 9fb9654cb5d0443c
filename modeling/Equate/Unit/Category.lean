import Equate.Name.Basic

/-!
# Categories of units

A category lists unit symbols with their factors, units per reference unit of the
category, so that `factor b / factor a` carries a value in `a` to one in `b`. Symbols
keep the order of their first insertion; inserting a symbol again replaces its factor in
place. The index gives the place of each symbol.
-/
namespace Equate.Unit

/-- A named group of units that convert into each other. -/
structure Category where
  name : Text
  units : Array (Text × Float)
  index : NameMap Nat

namespace Category

/-- A category without units. -/
def empty (name : Text) : Category := ⟨name, #[], ∅⟩

/-- A symbol with its factor: in its old place, or behind all others if it is new. -/
def insert (c : Category) (symbol : Text) (factor : Float) : Category :=
  match c.index[symbol]? with
  | some place => { c with units := c.units.modify place fun (s, _) => (s, factor) }
  | none =>
    { c with units := c.units.push (symbol, factor), index := c.index.insert symbol c.units.size }

/-- Several symbols, one after the other. -/
def insertAll (c : Category) (entries : List (Text × Float)) : Category :=
  entries.foldl (fun c (symbol, factor) => c.insert symbol factor) c

/-- The factor of a symbol. -/
def factor? (c : Category) (symbol : Text) : Option Float := do
  let place ← c.index[symbol]?
  let (_, factor) ← c.units[place]?
  return factor

/-- The category has the symbol. -/
def contains (c : Category) (symbol : Text) : Bool := c.index.contains symbol

/-- The symbols and factors in the order of insertion. -/
def toList (c : Category) : List (Text × Float) := c.units.toList

/-- The number of units. -/
def size (c : Category) : Nat := c.units.size

end Category
end Equate.Unit
