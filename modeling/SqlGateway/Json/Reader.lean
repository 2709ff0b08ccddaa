import SqlGateway.Json.Scan

/-!
# Reading JSON

`Json.read` and `Json.readBytes` read a document.  Names may repeat inside an object,
and the last value of a name counts.  Lists and objects nest up to `depthLimit` levels.

`skipValue` reads a value for nobody.  It knows no limit of depth, does not look at the
bytes of strings, and at a comma that nothing follows it misses the next item rather
than blaming the comma.
-/

namespace SqlGateway.Json

/-! ## Values -/

/-- The levels of lists and objects a document may have. -/
def depthLimit : Nat := 127

/-- A value whose items and members are read by `inner`, or one that may have none. -/
def valueWith (inner : Option (Scan Json)) : Scan Json := fun bs =>
  match h : skipSpace bs with
  | [] => .error (.before .eofInValue [])
  | b :: rest =>
      have hr : rest.length < bs.length := length_lt_of_skipSpace h
      let nested (read : Scan Json → Except Failure (Taken Json rest)) :
          Except Failure (Taken Json bs) :=
        match inner with
        | none => .error (.on .recursionLimitExceeded (b :: rest))
        | some item =>
            match read item with
            | .error e => .error e
            | .ok t => .ok (t.behind hr)
      match Char.ofUInt8 b with
      | 'n' => constant ['u', 'l', 'l'] .null hr
      | 't' => constant ['r', 'u', 'e'] (.bool true) hr
      | 'f' => constant ['a', 'l', 's', 'e'] (.bool false) hr
      | '"' =>
          match stringBody [] rest with
          | .error e => .error e
          | .ok t => .ok ((t.map Json.string).behind hr)
      | '[' => nested fun item => (items item true rest).map (·.map Json.array)
      | '{' =>
          nested fun item =>
            (members item true rest).map (·.map fun ms => Json.object (Members.ofList ms))
      | c =>
          if c = '-' || isDigit b then
            match numeral (b :: rest) with
            | .error e => .error e
            | .ok t => .ok ((t.map Json.number).widen hr)
          else .error (.on .expectedValue (b :: rest))

/-- A value with at most `depth` levels of lists and objects. -/
def value : (depth : Nat) → Scan Json
  | 0 => valueWith none
  | depth + 1 => valueWith (some (value depth))

/-! ## Documents -/

/-- A document that could not be read. -/
structure ReadError where
  /-- Why. -/
  cause : Cause
  /-- The line, counted from one. -/
  line : Nat
  /-- The bytes of the line up to the place. -/
  column : Nat

/-- The words for a document that could not be read. -/
def ReadError.message (e : ReadError) : String :=
  s!"{e.cause.message} at line {e.line} column {e.column}"

/-- A failure to read a text, at its place in the text. -/
def Failure.locate (text : Bytes) (f : Failure) : ReadError :=
  ⟨f.cause, (position text f.left).1, (position text f.left).2⟩

/-- A whole text that a scan reads. -/
def runScan {α : Type} (scan : Scan α) (text : Bytes) : Except ReadError α :=
  match (scan text).bind finish with
  | .ok a => .ok a
  | .error f => .error (f.locate text)

/-- Read a document from bytes. -/
def readBytes (text : Bytes) : Except ReadError Json := runScan (value depthLimit) text

/-- Read a document. -/
def read (text : String) : Except ReadError Json := readBytes (Utf8.encode text)

/-! ## Skipping a value -/

/-- Bytes left behind something that took at least one. -/
abbrev Skipped (bs : Bytes) := Except Failure { rest : Bytes // rest.length < bs.length }

/-- The bytes from the first that is no digit. -/
def skipDigitRun (bs : Bytes) : Rest bs :=
  ⟨bs.dropWhile isDigit, (List.dropWhile_suffix isDigit).length_le⟩

/-- Skip the digits of an exponent. -/
def skipExponentDigits (bs : Bytes) : Except Failure (Rest bs) :=
  match bs with
  | [] => .error (.before .invalidNumber [])
  | b :: rest =>
      if isDigit b then .ok ((skipDigitRun rest).cons b)
      else .error (.before .invalidNumber rest)

/-- Skip an exponent behind its mark. -/
def skipExponent (bs : Bytes) : Except Failure (Rest bs) :=
  match bs with
  | [] => .error (.before .invalidNumber [])
  | b :: rest =>
      if b = 43 || b = 45 then (skipExponentDigits rest).map (Rest.cons b)
      else skipExponentDigits (b :: rest)

/-- Skip a fraction behind its point, and the exponent after it. -/
def skipFraction (bs : Bytes) : Except Failure (Rest bs) :=
  if startsWithDigit bs then
    match h : (skipDigitRun bs).1 with
    | [] => .ok ⟨[], Nat.zero_le _⟩
    | b :: rest =>
        have hr : rest.length + 1 ≤ bs.length := by
          have := (skipDigitRun bs).2
          rw [h] at this
          exact this
        if isExponentMark b then
          (skipExponent rest).map fun r => ⟨r.1, Nat.le_trans r.2 (Nat.le_of_succ_le hr)⟩
        else .ok ⟨b :: rest, hr⟩
  else .error (.on .invalidNumber bs)

/-- Skip what may follow the digits of a number. -/
def skipAfterDigits (bs : Bytes) : Except Failure (Rest bs) :=
  match bs with
  | [] => .ok (.all [])
  | b :: rest =>
      if b = 46 then (skipFraction rest).map (Rest.cons b)
      else if isExponentMark b then (skipExponent rest).map (Rest.cons b)
      else .ok (.all (b :: rest))

/-- Skip a number behind its sign. -/
def skipUnsigned (bs : Bytes) : Skipped bs :=
  match bs with
  | [] => .error (.before .invalidNumber [])
  | b :: rest =>
      if b = 48 then
        if startsWithDigit rest then .error (.on .invalidNumber rest)
        else (skipAfterDigits rest).map fun r => ⟨r.1, Nat.lt_succ_of_le r.2⟩
      else if isDigit b then
        (skipAfterDigits (skipDigitRun rest).1).map fun r =>
          ⟨r.1, Nat.lt_succ_of_le (Nat.le_trans r.2 (skipDigitRun rest).2)⟩
      else .error (.before .invalidNumber rest)

/-- Skip a string behind its opening quote. -/
def skipString (bs : Bytes) : Skipped bs :=
  match bs with
  | [] => .error (.before .eofInString [])
  | b :: rest =>
      if b = 34 then .ok ⟨rest, Nat.lt_succ_self _⟩
      else if b = 92 then
        match rest with
        | [] => .error (.before .eofInString [])
        | c :: rest' =>
            if c = 117 then
              match hexEscape rest' with
              | .error e => .error e
              | .ok t =>
                  (skipString t.rest).map fun r =>
                    ⟨r.1, Nat.lt_succ_of_lt (Nat.lt_succ_of_lt (Nat.lt_trans r.2 t.shorter))⟩
            else if "\"\\/bfnrt".toList.contains (Char.ofUInt8 c) then
              (skipString rest').map fun r =>
                ⟨r.1, Nat.lt_succ_of_lt (Nat.lt_succ_of_lt r.2)⟩
            else .error (.before .invalidEscape rest')
      else if b < 32 then .error (.before .controlCharacter (b :: rest))
      else (skipString rest).map fun r => ⟨r.1, Nat.lt_succ_of_lt r.2⟩
termination_by bs.length
decreasing_by
  · exact Nat.lt_succ_of_lt (Nat.lt_succ_of_lt t.shorter)
  · exact Nat.lt_succ_of_lt (Nat.lt_succ_self _)
  · exact Nat.lt_succ_self _

/-- The two kinds of bracket that may be open. -/
inductive Bracket where
  /-- A list. -/
  | list
  /-- An object. -/
  | object
deriving DecidableEq, Repr

/-- The byte that closes a bracket. -/
def Bracket.close : Bracket → UInt8
  | .list => 93
  | .object => 125

/-- What is missing where the text ends inside a bracket. -/
def Bracket.eof : Bracket → Malformed
  | .list => .eofInList
  | .object => .eofInObject

/-- What is missing where neither a comma nor the end follows. -/
def Bracket.commaOrEnd : Bracket → Malformed
  | .list => .expectedListCommaOrEnd
  | .object => .expectedObjectCommaOrEnd

mutual

/-- Skip a value inside the brackets `stack`, innermost first, and all that closes them. -/
def skipInside (stack : List Bracket) (bs : Bytes) : Skipped bs :=
  match h : skipSpace bs with
  | [] => .error (.before .eofInValue [])
  | b :: rest =>
      have hr : rest.length < bs.length := length_lt_of_skipSpace h
      let after (front : Bytes) (hf : front.length < bs.length) : Skipped bs :=
        (skipAfter stack true front).map fun r => ⟨r.1, Nat.lt_of_le_of_lt r.2 hf⟩
      let known (letters : List Char) : Skipped bs :=
        match constant letters () hr with
        | .error e => .error e
        | .ok t => after t.rest t.shorter
      let opened (bracket : Bracket) : Skipped bs :=
        (skipAfter (bracket :: stack) false rest).map fun r => ⟨r.1, Nat.lt_of_le_of_lt r.2 hr⟩
      match Char.ofUInt8 b with
      | 'n' => known ['u', 'l', 'l']
      | 't' => known ['r', 'u', 'e']
      | 'f' => known ['a', 'l', 's', 'e']
      | '-' =>
          match skipUnsigned rest with
          | .error e => .error e
          | .ok ⟨rest', h'⟩ => after rest' (Nat.lt_trans h' hr)
      | '"' =>
          match skipString rest with
          | .error e => .error e
          | .ok ⟨rest', h'⟩ => after rest' (Nat.lt_trans h' hr)
      | '[' => opened .list
      | '{' => opened .object
      | _ =>
          if isDigit b then
            match skipUnsigned (b :: rest) with
            | .error e => .error e
            | .ok ⟨rest', h'⟩ => after rest' (Nat.lt_of_lt_of_le h' hr)
          else .error (.on .expectedValue (b :: rest))
termination_by 3 * bs.length + 0

/-- Skip what follows a value, or an opening bracket where `comma` is false, up to the end
of the brackets `stack`. -/
def skipAfter (stack : List Bracket) (comma : Bool) (bs : Bytes) : Except Failure (Rest bs) :=
  match stack with
  | [] => .ok (.all bs)
  | bracket :: outer =>
      match h : skipSpace bs with
      | [] => .error (.before bracket.eof [])
      | b :: rest =>
          have hr : rest.length < bs.length := length_lt_of_skipSpace h
          if comma && b = 44 then
            (skipEntry bracket outer rest).map fun r =>
              ⟨r.1, Nat.le_of_lt (Nat.lt_trans r.2 hr)⟩
          else if b = bracket.close then
            (skipAfter outer true rest).map fun r =>
              ⟨r.1, Nat.le_of_lt (Nat.lt_of_le_of_lt r.2 hr)⟩
          else if comma then .error (.on bracket.commaOrEnd (b :: rest))
          else
            (skipEntry bracket outer (b :: rest)).map fun r =>
              ⟨r.1, Nat.le_trans (Nat.le_of_lt_succ r.2) (Nat.le_of_lt hr)⟩
termination_by 3 * bs.length + 2

/-- Skip an item, or a name, a colon and a value, and what closes the brackets around. -/
def skipEntry (bracket : Bracket) (outer : List Bracket) (bs : Bytes) : Skipped bs :=
  match bracket with
  | .list => skipInside (.list :: outer) bs
  | .object =>
      match h : skipSpace bs with
      | [] => .error (.before .eofInObject [])
      | b :: rest =>
          have hr : rest.length < bs.length := length_lt_of_skipSpace h
          if b = 34 then
            match skipString rest with
            | .error e => .error e
            | .ok ⟨rest', h'⟩ =>
                match colon rest' with
                | .error e => .error e
                | .ok ⟨front, hf⟩ =>
                    (skipInside (.object :: outer) front).map fun r =>
                      ⟨r.1, Nat.lt_trans r.2 (Nat.lt_trans hf (Nat.lt_trans h' hr))⟩
          else .error (.on .keyMustBeString (b :: rest))
termination_by 3 * bs.length + 1

end

/-- Skip one value. -/
def skipValue (bs : Bytes) : Skipped bs := skipInside [] bs

end SqlGateway.Json
