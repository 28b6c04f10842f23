/-! What can go wrong in a request, and how it is worded. -/
namespace Telemetry

/-- The cause of a failed operation. -/
inductive Failure
  | invalidArgument (detail : String)
  | config (detail : String)
  | parse (detail : String)
  | storage (detail : String)
  /-- the thing that was asked for does not exist -/
  | notFound (what : String)
  /-- the operation ran on a closed store -/
  | connectionClosed (operation : String)
  /-- the operation was cancelled before it began -/
  | cancelled (operation : String)
  | internal (detail : String)
deriving DecidableEq, Repr

namespace Failure

/-- The text shown for a failure. -/
def message : Failure → String
  | .invalidArgument detail => "invalid argument: " ++ detail
  | .config detail => "configuration error: " ++ detail
  | .parse detail => "parse error: " ++ detail
  | .storage detail => "storage error: " ++ detail
  | .notFound what => what ++ " not found"
  | .connectionClosed operation => operation ++ ": store connection is closed"
  | .cancelled operation => operation ++ ": operation cancelled"
  | .internal detail => "internal error: " ++ detail

def isNotFound : Failure → Bool
  | .notFound _ => true
  | _ => false

def isConnectionClosed : Failure → Bool
  | .connectionClosed _ => true
  | _ => false

end Failure
end Telemetry
