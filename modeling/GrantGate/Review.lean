import GrantGate.Json
import GrantGate.Snapshot

namespace GrantGate

inductive Operation where
  | create
  | update
  | delete
  deriving DecidableEq, Repr, Inhabited

def Operation.render : Operation → String
  | create => "CREATE"
  | update => "UPDATE"
  | delete => "DELETE"

/-- Asks whether one write may go ahead. -/
structure Review where
  uid : String
  operation : Operation
  user : Subject
  inNamespace : Option String := none
  /-- The object as it would be stored. -/
  object : Option Json := none
  /-- The stored object that is replaced or deleted. -/
  oldObject : Option Json := none

inductive ReviewKind where
  | bindings
  | templates
  deriving DecidableEq, Repr, Inhabited

namespace ReviewKind

def render : ReviewKind → String
  | bindings => "templatebindings"
  | templates => "permissiontemplates"

def ofName? (name : String) : Option ReviewKind :=
  if name = bindings.render then some bindings
  else if name = templates.render then some templates
  else none

end ReviewKind

structure Response where
  uid : String
  allowed : Bool
  message : Option String := none
  code : UInt16
  deriving DecidableEq, Repr

/-- The body of an answer to a request that could not be reviewed. -/
structure ErrorBody where
  code : String
  message : String
  requestId : Option String := none
  deriving DecidableEq, Repr

end GrantGate
