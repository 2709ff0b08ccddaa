import SqlGateway.Text.Parts
import SqlGateway.Url.Percent

/-!
# Parameters in a query

A query may list parameters as names and values, `a=1&b=2`.  A plus sign stands for a
space, and what does not spell a text is read as far as it does.
-/

namespace SqlGateway.Url

/-- The text a name or a value of a parameter spells. -/
def formText (cs : List Char) : String :=
  Utf8.lossy (decode (cs.map fun c => if c = '+' then ' ' else c))

/-- The parameters of a query, first to last. -/
def parameters (query : List Char) : List (String × String) :=
  ((splitWhere (· = '&') query).filter fun part => !part.isEmpty).map fun part =>
    (formText (part.takeWhile (· ≠ '=')), formText ((part.dropWhile (· ≠ '=')).drop 1))

end SqlGateway.Url
