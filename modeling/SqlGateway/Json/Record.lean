import SqlGateway.Json.Decoder

/-!
# Decoding records and choices

A record is described by its members.  A member knows its name, whether it must be
there, and how its value changes the record under construction, which starts out with
every default in place.

A choice among names is decoded from the name as a string, or from an object with the
name as its only member and `null` as its value.
-/

namespace SqlGateway.Json

/-! ## Records -/

/-- A member of a record under construction `σ`. -/
structure Member (σ : Type) where
  /-- Its name. -/
  name : String
  /-- It must be there. -/
  required : Bool
  /-- What its value does to the record. -/
  decode : Decoder (σ → σ)

/-- A member that must be there. -/
def Member.needed {σ α : Type} (name : String) (d : Decoder α) (set : α → σ → σ) : Member σ :=
  ⟨name, true, d.map set⟩

/-- A member that may be absent, which leaves its default in place. -/
def Member.optional {σ α : Type} (name : String) (d : Decoder α) (set : α → σ → σ) :
    Member σ :=
  ⟨name, false, d.map set⟩

/-- A description of a record. -/
structure RecordShape (σ : Type) where
  /-- What messages call the record. -/
  name : String
  /-- Its members, in the order of their declaration. -/
  members : List (Member σ)
  /-- The record before any member is read. -/
  blank : σ
  /-- A member that is not described is refused. -/
  strict : Bool := false

namespace RecordShape

variable {σ : Type}

/-- The member of a name. -/
def find? (r : RecordShape σ) (name : String) : Option (Member σ) :=
  r.members.find? fun m => m.name = name

/-- The first member that must be there and was not seen. -/
def missing? (r : RecordShape σ) (seen : List String) : Option String :=
  (r.members.find? fun m => m.required && !seen.contains m.name).map (·.name)

/-- What messages expect in place of the record. -/
def expected (r : RecordShape σ) : String := s!"struct {r.name}"

/-- What messages expect of a list in place of the record. -/
def expectedLength (r : RecordShape σ) : String :=
  let n := r.members.length
  if n = 1 then s!"struct {r.name} with {n} element" else s!"struct {r.name} with {n} elements"

/-- The mismatch for a member that is not described. -/
def unknown (r : RecordShape σ) (name : String) : Mismatch :=
  .unknownField name (r.members.map (·.name))

/-- Read the members of an object into the record. -/
def ofMembers (r : RecordShape σ) (seen : List String) (state : σ) :
    List (String × Json) → Except Mismatch σ
  | [] =>
      match r.missing? seen with
      | some name => .error (.missingField name)
      | none => .ok state
  | (k, v) :: ms =>
      match r.find? k with
      | none => if r.strict then .error (r.unknown k) else ofMembers r seen state ms
      | some m =>
          if seen.contains k then .error (.duplicateField k)
          else
            match m.decode.ofJson v with
            | .error e => .error e
            | .ok f => ofMembers r (k :: seen) (f state) ms

/-- Read the items of a list into the members of the record.  `length` is the length of the
whole list and `index` the number of members read. -/
def ofItems (r : RecordShape σ) (length : Nat) (index : Nat) (state : σ) :
    List (Member σ) → List Json → Except Mismatch σ
  | [], [] => .ok state
  | [], _ :: _ => .error (.wrongLength length "fewer elements in array")
  | m :: ms, [] =>
      if m.required then .error (.wrongLength index r.expectedLength)
      else ofItems r length (index + 1) state ms []
  | m :: ms, v :: vs =>
      match m.decode.ofJson v with
      | .error e => .error e
      | .ok f => ofItems r length (index + 1) (f state) ms vs

/-- Read the members of an object off a text, and its closing brace. -/
def scanMembers (r : RecordShape σ) (depth : Nat) (seen : List String) (state : σ)
    (first : Bool) (bs : Bytes) : Except Failure (Taken σ bs) :=
  match nextMember first bs with
  | .error e => .error e
  | .ok none =>
      match r.missing? seen with
      | some name => .error ⟨.mismatch (.missingField name), (closeObject bs).left⟩
      | none =>
          match (closeObject bs).result with
          | .error e => .error e
          | .ok ⟨rest, h⟩ => .ok ⟨state, rest, h⟩
  | .ok (some ⟨front, hf⟩) =>
      match stringBody [] front with
      | .error e => .error e
      | .ok key =>
          have hk := key.shorter
          match r.find? key.value with
          | none =>
              if r.strict then
                .error ⟨.mismatch (r.unknown key.value), (closeObject key.rest).left⟩
              else
                match colon key.rest with
                | .error e => .error e
                | .ok ⟨front', hc⟩ =>
                    match skipValue front' with
                    | .error e => .error e
                    | .ok ⟨rest, hs⟩ =>
                        match scanMembers r depth seen state false rest with
                        | .error e => .error e
                        | .ok t => .ok ((((t.behind hs).behind hc).behind hk).behind hf)
          | some m =>
              if seen.contains key.value then
                .error ⟨.mismatch (.duplicateField key.value), (closeObject key.rest).left⟩
              else
                match colon key.rest with
                | .error e => .error e
                | .ok ⟨front', hc⟩ =>
                    match m.decode.scan depth front' with
                    | .error e => .error e
                    | .ok v =>
                        have hv := v.shorter
                        match scanMembers r depth (key.value :: seen) (v.value state) false
                            v.rest with
                        | .error e => .error e
                        | .ok t => .ok ((((t.behind hv).behind hc).behind hk).behind hf)
termination_by bs.length

/-- Read the items of a list off a text into the members of the record, and the closing
bracket. -/
def scanItems (r : RecordShape σ) (depth : Nat) (index : Nat) (state : σ) (first : Bool) :
    List (Member σ) → (bs : Bytes) → Except Failure (Taken σ bs)
  | [], bs =>
      match (closeList bs).result with
      | .error e => .error e
      | .ok ⟨rest, h⟩ => .ok ⟨state, rest, h⟩
  | m :: ms, bs =>
      match nextItem first bs with
      | .error e => .error e
      | .ok none =>
          if m.required then
            .error ⟨.mismatch (.wrongLength index r.expectedLength), (closeList bs).left⟩
          else scanItems r depth (index + 1) state first ms bs
      | .ok (some ⟨front, hf⟩) =>
          match m.decode.scan depth front with
          | .error e => .error e
          | .ok v =>
              match scanItems r depth (index + 1) (v.value state) false ms v.rest with
              | .error e => .error e
              | .ok t => .ok ((t.behind v.shorter).widen hf)

/-- The decoder of a record. -/
def decoder (r : RecordShape σ) : Decoder σ where
  ofJson
    | .object ms => r.ofMembers [] r.blank ms
    | .array vs => r.ofItems vs.length 0 r.blank r.members vs
    | v => .error (.wrongType (.ofJson v) r.expected)
  scan depth bs :=
    Decoder.atValue bs fun b rest h =>
      if b = 91 then
        match depth with
        | 0 => .error (.on .recursionLimitExceeded (b :: rest))
        | depth + 1 =>
            match r.scanItems depth 0 r.blank true r.members rest with
            | .error e => .error e
            | .ok t => .ok (t.behind h)
      else if b = 123 then
        match depth with
        | 0 => .error (.on .recursionLimitExceeded (b :: rest))
        | depth + 1 =>
            match r.scanMembers depth [] r.blank true rest with
            | .error e => .error e
            | .ok t => .ok (t.behind h)
      else Decoder.reject r.expected (b :: rest)

end RecordShape

/-! ## Choices -/

namespace Decoder

/-- The choice of a name. -/
def pick {α : Type} (choices : List (String × α)) (name : String) : Except Mismatch α :=
  match choices.lookup name with
  | some a => .ok a
  | none => .error (.unknownVariant name (choices.map Prod.fst))

/-- The name of a choice behind its opening quote, off a text. -/
def scanChoice {α : Type} (choices : List (String × α)) : Scan α := fun bs =>
  match stringBody [] bs with
  | .error e => .error e
  | .ok t =>
      match pick choices t.value with
      | .ok a => .ok ⟨a, t.rest, t.shorter⟩
      | .error m => mismatchBefore m t.rest

/-- The name of a choice behind an opening brace, off a text. -/
def scanChosen {α : Type} (choices : List (String × α)) : Scan α := fun bs =>
  match h : skipSpace bs with
  | [] => .error (.before .eofInObject [])
  | b :: rest =>
      if b = 34 then
        match scanChoice choices rest with
        | .error e => .error e
        | .ok t => .ok (t.behind (length_lt_of_skipSpace h))
      else if b = 125 then .error (.on .expectedValue (b :: rest))
      else .error (.on .keyMustBeString (b :: rest))

/-- A choice among names. -/
def choice {α : Type} (choices : List (String × α)) : Decoder α where
  ofJson
    | .string s => pick choices s
    | .object [(k, v)] =>
        match pick choices k with
        | .error e => .error e
        | .ok a => (unit.ofJson v).map fun _ => a
    | .object _ => .error (.wrongValue .map "map with a single key")
    | v => .error (.wrongType (.ofJson v) "string or map")
  scan depth bs :=
    atValue bs fun b rest h =>
      if b = 34 then
        match scanChoice choices rest with
        | .error e => .error e
        | .ok t => .ok (t.behind h)
      else if b = 123 then
        match depth with
        | 0 => .error (.on .recursionLimitExceeded (b :: rest))
        | depth + 1 =>
            match scanChosen choices rest with
            | .error e => .error e
            | .ok t =>
                have ht := t.shorter
                match colon t.rest with
                | .error e => .error e
                | .ok ⟨front, hc⟩ =>
                    match unit.scan depth front with
                    | .error e => .error e
                    | .ok u =>
                        have hu := u.shorter
                        match hs : skipSpace u.rest with
                        | [] => .error (.before .eofInObject [])
                        | c :: rest' =>
                            have hr : rest'.length < u.rest.length := length_lt_of_skipSpace hs
                            if c = 125 then
                              .ok ⟨t.value, rest', Nat.lt_trans hr (Nat.lt_trans hu
                                (Nat.lt_trans hc (Nat.lt_trans ht h)))⟩
                            else .error (.before .expectedValue (c :: rest'))
      else .error (.on .expectedValue (b :: rest))

end Decoder

end SqlGateway.Json
