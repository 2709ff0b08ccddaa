import SqlGateway.Environment
import SqlGateway.Log
import SqlGateway.Text.Blank
import SqlGateway.Text.Letter
import SqlGateway.Text.Numeral
import SqlGateway.Text.Parts
import SqlGateway.Text.Pattern.Reader

/-!
# Which events are shown

A `Filter` is a list of directives.  A directive speaks of some events, by their origin, and
says how much such an event must matter to be shown.  Of the directives that speak of an
event the most exact one decides, and among equals the last.  An event that no directive
speaks of is hidden.

The text of a directive has up to three parts, in this order.

* The name of an origin, or its beginning.  Without it, every origin is meant.
* Brackets, with the name of a piece of work and behind it, in braces, the name of a detail.
  No event belongs to a piece of work, so only the detail can choose one.  Behind an equals
  sign the detail has a value, which is a number or a pattern.  Such a directive is about a
  piece of work, so it matters only that the value can be read.
* A level, behind an equals sign or alone.  Without it, every level is shown.

Every text of a directive is read or refused: it is assumed that no text stops the program.
Places in a text are counted in characters.  Where blanks stand in front of a directive with
characters beyond ASCII, a cut at a place that is counted in bytes may fall elsewhere, or inside
a character, and such texts are not spoken of.

The environment says which filter to use.  If it does not, or says it badly, the flags of
the command line choose a level for all events.
-/

namespace SqlGateway.Log

/-! ## Directives -/

/-- Which events are meant, and which of them are shown. -/
structure Directive where
  /-- The beginning of the name of the origin. -/
  origin : String := ""
  /-- A detail that must be there, if one is named. -/
  detail : Option String := none
  /-- The directive is about a piece of work, and about no event. -/
  aboutWork : Bool := false
  /-- The last level that is shown.  Without one, none is. -/
  level : Option Level := some .trace
deriving DecidableEq

namespace Directive

/-- An event has a detail.  Its message is one. -/
def hasDetail (e : Event) (name : String) : Bool :=
  name = "message" || e.details.any fun d => d.1 = name

/-- A directive speaks of an event. -/
def speaksOf (d : Directive) (e : Event) : Bool :=
  !d.aboutWork && e.origin.name.startsWith d.origin && d.detail.all (hasDetail e)

/-- A directive, deciding, shows an event. -/
def shows (d : Directive) (e : Event) : Bool := d.level.any fun l => e.level.rank ≤ l.rank

/-- Of two directives that speak of one event, the first is at least as exact as the second:
it names more of the origin, or as much and no less of a detail. -/
def isAsExactAs (d b : Directive) : Bool :=
  if d.origin.length = b.origin.length then
    match b.detail, d.detail with
    | none, _ => true
    | some _, none => false
    | some x, some y => x ≤ y
  else b.origin.length < d.origin.length

end Directive

/-! ## Filters -/

/-- The directives by which events are shown. -/
abbrev Filter := List Directive

namespace Filter

/-- The more exact of a directive found so far and one behind it. -/
def prefer (found : Option Directive) (d : Directive) : Option Directive :=
  match found with
  | none => some d
  | some b => if d.isAsExactAs b then some d else some b

/-- The directive that decides about an event. -/
def deciding? (f : Filter) (e : Event) : Option Directive :=
  (f.filter fun d => d.speaksOf e).foldl prefer none

/-- A filter shows an event. -/
def shows (f : Filter) (e : Event) : Bool := (f.deciding? e).any fun d => d.shows e

/-- Show the events of every origin, up to a level. -/
def upTo (l : Level) : Filter := [{ level := some l }]

/-- The filter that the flags of the command line choose. -/
def ofFlags (verbose : Nat) (quiet : Bool) : Filter :=
  upTo
    (if quiet then .error
    else
      match verbose with
      | 0 => .info
      | 1 => .debug
      | _ => .trace)

end Filter

/-! ## Reading -/

/-- Read a level, by name or rank.  Nothing is shown up to the level `off`. -/
def readLevel? (cs : List Char) : Option (Option Level) :=
  match Numeral.read UInt64.size cs with
  | .ok 0 => some none
  | .ok n => (Level.all.find? fun l => l.rank = n).map some
  | .error _ =>
      let lower := String.ofList (cs.map Char.toLower)
      if lower = "off" then some none else (Level.all.find? fun l => l.name = lower).map some

namespace Directive

/-- Read the level behind the equals sign at a place of a text. -/
def levelBehind? (text : List Char) (place : Nat) : Option (Option Level) :=
  match text.drop (place + 1) with
  | [] => some (some .trace)
  | cs => readLevel? cs

/-- Read what is behind the brackets of a directive: nothing, or a level. -/
def afterBrackets? (text : List Char) (place : Nat) (d : Directive) :
    List Char → Option Directive
  | [] => some d
  | '=' :: _ => (levelBehind? text place).map fun l => { d with level := l }
  | _ => none

/-- Digits, at least one. -/
def areDigits (cs : List Char) : Bool := cs ≠ [] && cs.all Char.isDigit

/-- Nothing, or the exponent of a number behind its mark. -/
def isExponent : List Char → Bool
  | [] => true
  | mark :: cs =>
      (mark = 'e' || mark = 'E') &&
        match cs with
        | '+' :: ds | '-' :: ds => areDigits ds
        | ds => areDigits ds

/-- A number behind its sign. -/
def isMagnitude (cs : List Char) : Bool :=
  let whole := cs.takeWhile Char.isDigit
  let (part, rest) :=
    match cs.drop whole.length with
    | '.' :: ds => (ds.takeWhile Char.isDigit, ds.dropWhile Char.isDigit)
    | ds => ([], ds)
  ["inf", "infinity", "nan"].contains (String.ofList (cs.map Char.toLower)) ||
    (areDigits (whole ++ part) && isExponent rest)

/-- A value can be read.  A number that no plus sign begins is a pattern as well. -/
def isValue (cs : List Char) : Bool :=
  Pattern.isReadable cs ||
    match cs with
    | '+' :: ds => isMagnitude ds
    | _ => false

/-- The value that a detail is given, if any, can be read.  A second equals sign and what is
behind it count for nothing. -/
def isDetail (detail : List Char) : Bool :=
  match splitWhere (· = '=') detail with
  | _ :: value :: _ => isValue value
  | _ => true

/-- Read the brackets of a directive that begin at a place, of which the rest is `rest`. -/
def brackets? (text : List Char) (origin : String) (place : Nat) (rest : List Char) :
    Option Directive :=
  let work := rest.takeWhile fun c => c ≠ ']' && c ≠ '{'
  let place := place + 1 + work.length
  match rest.drop work.length with
  | ']' :: tail => afterBrackets? text (place + 1) { origin, aboutWork := true } tail
  | '{' :: tail =>
      let length := (tail.takeWhile (· ≠ '}')).length
      match tail.drop length with
      | '}' :: ']' :: tail =>
          let detail := (text.drop (place + 1)).take length
          let d : Directive :=
            { origin
              detail := some (.ofList detail)
              aboutWork := work ≠ [] || detail.contains '=' }
          if length = 0 || !isDetail detail then none
          else afterBrackets? text (place + length + 3) d tail
      | _ => none
  | _ => none

/-- A character with which the name of an origin may begin. -/
def beginsName (c : Char) : Bool := c = '-' || c = ':' || c = '_' || isAlphanumeric c

/-- Read a directive, or refuse it.  Blanks around it count for nothing while its parts are
found, but the parts are then taken from the same places of the text with them. -/
def read? (text : List Char) : Option Directive :=
  match trimBoth isBlank text with
  | [] => none
  | '[' :: rest => brackets? text "" 0 rest
  | c :: cs =>
      let length := ((c :: cs).takeWhile fun c => c ≠ '=' && c ≠ '[').length
      let origin := String.ofList (text.take length)
      if !beginsName c then none
      else
        match (c :: cs).drop length with
        | [] =>
            match readLevel? text with
            | some level => some { level }
            | none => some { origin := .ofList text }
        | '=' :: _ => (levelBehind? text length).map fun level => { origin, level }
        | _ :: rest => brackets? text origin length rest

end Directive

namespace Filter

/-- Read a filter.  Its directives have commas between them. -/
def read? (s : String) : Option Filter :=
  ((splitWhere (· = ',') s.toList).filter (· ≠ [])).mapM Directive.read?

/-- The variable that chooses a filter. -/
def variableName : String := "RUST_LOG"

/-- The filter of an environment, or else that of the flags of the command line. -/
def choose (env : Environment) (verbose : Nat) (quiet : Bool) : Filter :=
  ((env.get? variableName).bind read?).getD (ofFlags verbose quiet)

end Filter

end SqlGateway.Log
