/-!
# Connections to a database

What a runner asks of a connection, and how a connection answers. A connection may answer by what
has been asked of it so far; it refuses a request by a failure, which may be one that nothing is to
stop on its way out.
-/

namespace ScriptReplay

/-- A request to a connection, or to the cursor it has opened. -/
inductive Call
  | cursor
  | execute (statement : String)
  | close
  | commit
  | rollback
  deriving Repr, DecidableEq

/-- A refused request. A failure that aborts is to end the whole run. -/
structure Failure where
  message : String
  aborts : Bool := false
  deriving Repr, DecidableEq

/-- A request that was made, with the failure it met, if it met one. -/
structure Exchange where
  call : Call
  failure : Option Failure
  deriving Repr, DecidableEq

/-- A connection: its answer to a request, given all that went before. -/
structure Connection where
  answer : List Exchange → Call → Option Failure

end ScriptReplay
