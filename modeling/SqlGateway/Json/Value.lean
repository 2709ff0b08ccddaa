/-!
# JSON values

A `Json` value is what a document says once its spelling is forgotten.  An object is a
list of members, in the order in which they are written.

A reader builds objects with `Members.insert`, which keeps the members in increasing
order of their names, one member a name.  `Json.Ordered` says that every object of a
value is like that, and `Json.sorted` makes it so.  Records written by this library
list their members in the order of their declaration and are sorted only where they
are used as values.

A number is an integer of at most 64 bits, signed or not, or a double.
-/

namespace SqlGateway

/-! ## Numbers -/

/-- An integer that 64 bits hold, signed or unsigned. -/
structure Integer where
  /-- The integer. -/
  val : Int
  /-- It is not below the least signed integer. -/
  lower : -0x8000000000000000 ≤ val := by decide
  /-- It is not above the greatest unsigned integer. -/
  upper : val < 0x10000000000000000 := by decide
deriving DecidableEq

/-- An integer as one of 64 bits, if it is one. -/
def Integer.ofInt? (n : Int) : Option Integer :=
  if h : -0x8000000000000000 ≤ n ∧ n < 0x10000000000000000 then some ⟨n, h.1, h.2⟩ else none

/-- An integer of 64 bits is read back from its value. -/
theorem Integer.ofInt?_val (n : Integer) : Integer.ofInt? n.val = some n := by
  rw [Integer.ofInt?, dif_pos ⟨n.lower, n.upper⟩]

/-- An unsigned word as an integer. -/
def Integer.ofUInt64 (n : UInt64) : Integer where
  val := n.toNat
  lower := Int.le_trans (by decide) (Int.natCast_nonneg n.toNat)
  upper := Int.ofNat_lt.2 n.toNat_lt

/-- A signed word as an integer. -/
def Integer.ofInt64 (n : Int64) : Integer where
  val := n.toInt
  lower := n.le_toInt
  upper := Int.lt_trans n.toInt_lt (by decide)

/-- A number: an integer or a double. -/
inductive Number where
  /-- An integer. -/
  | integer (n : Integer)
  /-- A double. -/
  | float (x : Float)

/-! ## Values -/

/-- A JSON value. -/
inductive Json where
  /-- The value `null`. -/
  | null
  /-- A truth value. -/
  | bool (b : Bool)
  /-- A number. -/
  | number (n : Number)
  /-- A string. -/
  | string (s : String)
  /-- A list of values. -/
  | array (items : List Json)
  /-- Named values, in the order in which they are written. -/
  | object (members : List (String × Json))

/-- The members of an object. -/
abbrev Members := List (String × Json)

namespace Json

instance : Inhabited Json := ⟨.null⟩

/-- An integer as a value. -/
def int (n : Integer) : Json := .number (.integer n)

/-- A natural number as a value, as a double where 64 bits do not hold it. -/
def nat (n : Nat) : Json :=
  match Integer.ofInt? n with
  | some i => int i
  | none => .number (.float n.toFloat)

/-- A list of strings as a value. -/
def strings (l : List String) : Json := .array (l.map .string)

/-- A value that may be absent, as `null` where it is. -/
def option {α : Type} (f : α → Json) : Option α → Json
  | none => .null
  | some a => f a

/-- A value other than `null`. -/
def isSome : Json → Bool
  | .null => false
  | _ => true

end Json

/-! ## Members -/

namespace Members

/-- The value of the first member of a name. -/
def get? : Members → String → Option Json
  | [], _ => none
  | (k, v) :: ms, name => if k = name then some v else get? ms name

/-- Every member but those of a name. -/
def erase (ms : Members) (name : String) : Members := ms.filter fun m => m.1 ≠ name

/-- Put a member in its place in increasing order of names.  It replaces a member of the
same name. -/
def insert (name : String) (value : Json) : Members → Members
  | [] => [(name, value)]
  | (k, v) :: ms =>
      if name < k then (name, value) :: (k, v) :: ms
      else if name = k then (name, value) :: ms
      else (k, v) :: insert name value ms

/-- Members in increasing order of names, the last of each name. -/
def ofList (ms : Members) : Members := ms.foldl (fun acc m => acc.insert m.1 m.2) []

/-- Names that increase strictly. -/
def Increasing (ms : Members) : Prop := (ms.map Prod.fst).Pairwise (· < ·)

end Members

/-! ## Order inside values -/

namespace Json

mutual

/-- A value with the members of every object in increasing order of names. -/
def sorted : Json → Json
  | .array items => .array (sortedItems items)
  | .object ms => .object (Members.ofList (sortedMembers ms))
  | .null => .null
  | .bool b => .bool b
  | .number n => .number n
  | .string s => .string s

/-- The items of a list, each sorted. -/
def sortedItems : List Json → List Json
  | [] => []
  | v :: vs => sorted v :: sortedItems vs

/-- The members of an object, each value sorted. -/
def sortedMembers : List (String × Json) → List (String × Json)
  | [] => []
  | (k, v) :: ms => (k, sorted v) :: sortedMembers ms

end

mutual

/-- Every object of a value lists its members in strictly increasing order of names. -/
def Ordered : Json → Prop
  | .array items => OrderedItems items
  | .object ms => Members.Increasing ms ∧ OrderedMembers ms
  | _ => True

/-- `Ordered` for every item of a list. -/
def OrderedItems : List Json → Prop
  | [] => True
  | v :: vs => Ordered v ∧ OrderedItems vs

/-- `Ordered` for the value of every member. -/
def OrderedMembers : List (String × Json) → Prop
  | [] => True
  | (_, v) :: ms => Ordered v ∧ OrderedMembers ms

end

end Json

end SqlGateway
