/-!
# The program

What the program calls itself, to its users and to servers.
-/

namespace SqlGateway.Program

/-- The name of the program. -/
def name : String := "madatdata"

/-- The version of the program. -/
def version : String := "0.1.0"

end SqlGateway.Program
