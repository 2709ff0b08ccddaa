/-!
# The environment

The variables a program is started with, by name.  Where a name is there twice, the first
one counts.
-/

namespace SqlGateway

/-- Variables and their values. -/
structure Environment where
  /-- The variables, by name. -/
  entries : List (String × String) := []

/-- The value of a variable, if it is set. -/
def Environment.get? (env : Environment) (name : String) : Option String :=
  env.entries.lookup name

end SqlGateway
