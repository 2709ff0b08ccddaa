/-!
# Sets of characters

A set of characters is a list of ranges of code points, in increasing order and with both
ends included.  In a table each range has a value, which is that of its characters.
-/

namespace SqlGateway

/-- Ranges of code points. -/
abbrev Ranges := List (Nat × Nat)

/-- A character is in one of the ranges. -/
def Ranges.has (rs : Ranges) (c : Char) : Bool :=
  rs.any fun r => r.1 ≤ c.toNat && c.toNat ≤ r.2

/-- Ranges of code points with a value for each. -/
abbrev RangeTable (α : Type) := List (Nat × Nat × α)

/-- The value of a character, if it is in one of the ranges. -/
def RangeTable.find? {α : Type} (t : RangeTable α) (c : Char) : Option α :=
  match t with
  | [] => none
  | (low, high, a) :: t =>
      if low ≤ c.toNat && c.toNat ≤ high then some a else RangeTable.find? t c

end SqlGateway
