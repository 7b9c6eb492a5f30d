import GrantGate.Rule
import GrantGate.Snapshot
import GrantGate.Text

namespace GrantGate

inductive ObjectKind where
  | template
  | binding
  deriving DecidableEq, Repr

def ObjectKind.render : ObjectKind → String
  | template => "template"
  | binding => "binding"

/-- A refused attempt to hand out permissions, with everything needed to explain it. -/
structure Denial where
  username : String
  groups : List String
  uncovered : List Rule
  incompleteReason : Option String
  deriving DecidableEq, Repr

/-- The requester, then one rule a line, then what is known to be missing from the picture. -/
def Denial.message (d : Denial) : String :=
  "user " ++ Text.quote d.username ++ " (groups [" ++ ", ".intercalate d.groups ++
    "]) is attempting to grant permissions they do not hold" ++
    (if d.uncovered.isEmpty then ":" else ", uncovered rules:") ++
    String.join (d.uncovered.map fun rule => "\n  " ++ rule.render) ++
    match d.incompleteReason with
    | some reason => "\npermission resolution incomplete: " ++ reason
    | none => ""

/-- Why a question about templates or permissions got no for an answer. -/
inductive Refusal where
  | notFound (kind : ObjectKind) (name : String)
  | escalation (denial : Denial)
  | templateLocked (name : String)
  | reachMismatch (name : String) (reach : Reach) (scope : Scope)
  | builtinImmutable (name : String)
  | builtinFlag (name : String)
  | builtinUndeletable (name : String)
  | inUse (name : String) (heirs : List String)
  | cancelled
  | deadlineExceeded
  | backend (text : String)
  deriving DecidableEq, Repr

namespace Refusal

def message : Refusal → String
  | notFound kind name => kind.render ++ " " ++ Text.quote name ++ " not found"
  | escalation denial => denial.message
  | templateLocked name =>
    "template " ++ Text.quote name ++ " is locked and cannot be referenced by new bindings"
  | reachMismatch name reach scope =>
    "template " ++ Text.quote name ++ " is a " ++ reach.render ++
      " template and cannot be bound at " ++ scope.render ++ " scope"
  | builtinImmutable name =>
    "builtin template " ++ Text.quote name ++ " may only have its locked flag changed"
  | builtinFlag name =>
    "builtin flag cannot be set or cleared on template " ++ Text.quote name
  | builtinUndeletable name => "builtin template " ++ Text.quote name ++ " cannot be deleted"
  | inUse name heirs =>
    "template " ++ Text.quote name ++ " is still inherited by " ++ Text.quoteList heirs
  | cancelled => "request cancelled"
  | deadlineExceeded => "request deadline exceeded"
  | backend text => text

def isNotFound : Refusal → Bool
  | notFound .. => true
  | _ => false

/-- Whether a rule of this library says no, rather than a look-up or a backend. -/
def isPolicyRejection : Refusal → Bool
  | escalation _ | templateLocked _ | builtinImmutable _ | builtinFlag _ | builtinUndeletable _
  | inUse .. => true
  | _ => false

end Refusal

end GrantGate
