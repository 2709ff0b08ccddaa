import SqlGateway.Json.Reader

/-!
# Decoders

A `Decoder α` reads a shape in two ways: out of a value in hand, or straight off a text.
The two agree on well-formed documents whose objects repeat no name.  They differ in the
order of events.  A value is looked at in the order of its member names and a text in
the order in which it is written, and a text can also fail to be JSON before or after
the place where its shape goes wrong.

A record is decoded from an object, member by member, or from a list of its members in
the order of their declaration.  Members of an object that the record does not know are
skipped, unless the record is strict.
-/

namespace SqlGateway.Json

/-- A reader of a shape. -/
structure Decoder (α : Type) where
  /-- Read the shape out of a value. -/
  ofJson : Json → Except Mismatch α
  /-- Read the shape off a text, with at most so many levels of lists and objects. -/
  scan : (depth : Nat) → Scan α

namespace Decoder

/-- Read the shape off a whole text. -/
def ofBytes {α : Type} (d : Decoder α) (text : Bytes) : Except ReadError α :=
  runScan (d.scan depthLimit) text

/-- Read the shape off a whole text. -/
def ofText {α : Type} (d : Decoder α) (text : String) : Except ReadError α :=
  d.ofBytes (Utf8.encode text)

/-- Decode, then apply a function. -/
def map {α β : Type} (f : α → β) (d : Decoder α) : Decoder β where
  ofJson v := (d.ofJson v).map f
  scan depth bs := (d.scan depth bs).map (·.map f)

/-- Any value. -/
def any : Decoder Json where
  ofJson v := .ok v
  scan := value

/-! ## Failures of shape in a text -/

/-- A mismatch in front of `rest`. -/
def mismatchBefore {α : Type} (m : Mismatch) (rest : Bytes) : Except Failure α :=
  .error ⟨.mismatch m, rest.length⟩

/-- Reject the value in front: a scalar is read, since the text may end in the middle of
it, and of a list or an object the bracket is seen. -/
def reject {α : Type} (expected : String) (bs : Bytes) : Except Failure α :=
  match bs with
  | [] => .error (.on .expectedValue [])
  | b :: rest =>
      let found (f : Found) (rest : Bytes) : Except Failure α :=
        mismatchBefore (.wrongType f expected) rest
      let constant (letters : List Char) (f : Found) : Except Failure α :=
        match word letters rest with
        | .error e => .error e
        | .ok r => found f r.1
      match Char.ofUInt8 b with
      | 'n' => constant ['u', 'l', 'l'] .null
      | 't' => constant ['r', 'u', 'e'] (.bool true)
      | 'f' => constant ['a', 'l', 's', 'e'] (.bool false)
      | '"' =>
          match stringBody [] rest with
          | .error e => .error e
          | .ok t => found (.string t.value) t.rest
      | '[' => found .sequence (b :: rest)
      | '{' => found .map (b :: rest)
      | c =>
          if c = '-' || isDigit b then
            match numeral (b :: rest) with
            | .error e => .error e
            | .ok t => found (.ofNumber t.value) t.rest
          else .error (.on .expectedValue (b :: rest))

/-- Look at the first byte that is no space. -/
def atValue {α : Type} (bs : Bytes)
    (k : (b : UInt8) → (rest : Bytes) → rest.length < bs.length → Except Failure (Taken α bs)) :
    Except Failure (Taken α bs) :=
  match h : skipSpace bs with
  | [] => .error (.before .eofInValue [])
  | b :: rest => k b rest (length_lt_of_skipSpace h)

/-! ## Scalars -/

/-- A string. -/
def string : Decoder String where
  ofJson
    | .string s => .ok s
    | v => .error (.wrongType (.ofJson v) "a string")
  scan _ bs :=
    atValue bs fun b rest h =>
      if b = 34 then
        match stringBody [] rest with
        | .error e => .error e
        | .ok t => .ok (t.behind h)
      else reject "a string" (b :: rest)

/-- A truth value. -/
def bool : Decoder Bool where
  ofJson
    | .bool b => .ok b
    | v => .error (.wrongType (.ofJson v) "a boolean")
  scan _ bs :=
    atValue bs fun b rest h =>
      match Char.ofUInt8 b with
      | 't' => constant ['r', 'u', 'e'] true h
      | 'f' => constant ['a', 'l', 's', 'e'] false h
      | _ => reject "a boolean" (b :: rest)

/-- The value `null`. -/
def unit : Decoder Unit where
  ofJson
    | .null => .ok ()
    | v => .error (.wrongType (.ofJson v) "unit")
  scan _ bs :=
    atValue bs fun b rest h =>
      match Char.ofUInt8 b with
      | 'n' => constant ['u', 'l', 'l'] () h
      | _ => reject "unit" (b :: rest)

/-- A number that `accept` takes. -/
def number {α : Type} (expected : String) (accept : Number → Except Mismatch α) :
    Decoder α where
  ofJson
    | .number n => accept n
    | v => .error (.wrongType (.ofJson v) expected)
  scan _ bs :=
    atValue bs fun b rest h =>
      if b = 45 || isDigit b then
        match numeral (b :: rest) with
        | .error e => .error e
        | .ok t =>
            match accept t.value with
            | .ok a => .ok ⟨a, t.rest, Nat.lt_of_lt_of_le t.shorter h⟩
            | .error m => mismatchBefore m t.rest
      else reject expected (b :: rest)

/-- An integer that `fit` takes, of the type called `expected`. -/
def integer {α : Type} (expected : String) (fit : Int → Option α) : Decoder α :=
  number expected fun
    | .integer n =>
        match fit n.val with
        | some a => .ok a
        | none => .error (.wrongValue (.integer n.val) expected)
    | .float x => .error (.wrongType (.float x) expected)

/-- An integer from `low` to `high`. -/
def integerWithin (expected : String) (low high : Int) : Decoder Int :=
  integer expected fun n => if low ≤ n ∧ n ≤ high then some n else none

/-- An unsigned integer of 64 bits. -/
def uint64 : Decoder UInt64 :=
  integer "u64" fun n =>
    if 0 ≤ n ∧ n < 0x10000000000000000 then some (UInt64.ofNat n.toNat) else none

/-- A signed integer of 64 bits. -/
def int64 : Decoder Int64 :=
  integer "i64" fun n =>
    if -0x8000000000000000 ≤ n ∧ n < 0x8000000000000000 then some (Int64.ofInt n) else none

/-- A number as a double. -/
def float : Decoder Float :=
  number "f64" fun
    | .integer n =>
        .ok (if n.val < 0 then -n.val.natAbs.toUInt64.toFloat else n.val.toNat.toUInt64.toFloat)
    | .float x => .ok x

/-- A value, or `null` for none. -/
def option {α : Type} (d : Decoder α) : Decoder (Option α) where
  ofJson
    | .null => .ok none
    | v => (d.ofJson v).map some
  scan depth bs :=
    match h : skipSpace bs with
    | [] => (d.scan depth bs).map (·.map some)
    | b :: rest =>
        have hr : rest.length < bs.length := length_lt_of_skipSpace h
        if Char.ofUInt8 b = 'n' then constant ['u', 'l', 'l'] none hr
        else
          match d.scan depth (b :: rest) with
          | .error e => .error e
          | .ok t => .ok ((t.map some).widen hr)

/-! ## Lists and maps -/

/-- Decode every item of a list, up to the first that does not fit. -/
def itemsOfJson {α : Type} (d : Decoder α) : List Json → Except Mismatch (List α)
  | [] => .ok []
  | v :: vs =>
      match d.ofJson v with
      | .error e => .error e
      | .ok a => (itemsOfJson d vs).map (a :: ·)

/-- Decode the value of every member, up to the first that does not fit. -/
def membersOfJson {α : Type} (d : Decoder α) :
    List (String × Json) → Except Mismatch (List (String × α))
  | [] => .ok []
  | (k, v) :: ms =>
      match d.ofJson v with
      | .error e => .error e
      | .ok a => (membersOfJson d ms).map ((k, a) :: ·)

/-- A list of values of one shape. -/
def list {α : Type} (d : Decoder α) : Decoder (List α) where
  ofJson
    | .array vs => itemsOfJson d vs
    | v => .error (.wrongType (.ofJson v) "a sequence")
  scan depth bs :=
    atValue bs fun b rest h =>
      if b = 91 then
        match depth with
        | 0 => .error (.on .recursionLimitExceeded (b :: rest))
        | depth + 1 =>
            match items (d.scan depth) true rest with
            | .error e => .error e
            | .ok t => .ok (t.behind h)
      else reject "a sequence" (b :: rest)

/-- Named values of one shape. -/
def dict {α : Type} (d : Decoder α) : Decoder (List (String × α)) where
  ofJson
    | .object ms => membersOfJson d ms
    | v => .error (.wrongType (.ofJson v) "a map")
  scan depth bs :=
    atValue bs fun b rest h =>
      if b = 123 then
        match depth with
        | 0 => .error (.on .recursionLimitExceeded (b :: rest))
        | depth + 1 =>
            match members (d.scan depth) true rest with
            | .error e => .error e
            | .ok t => .ok (t.behind h)
      else reject "a map" (b :: rest)

/-- The members of an object. -/
def object : Decoder Members where
  ofJson
    | .object ms => .ok ms
    | v => .error (.wrongType (.ofJson v) "a map")
  scan depth bs := ((dict any).scan depth bs).map (·.map Members.ofList)

end Decoder

end SqlGateway.Json
