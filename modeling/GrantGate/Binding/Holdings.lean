import GrantGate.Snapshot
import GrantGate.Template.Inheritance

namespace GrantGate

/-- The rules a subject is known to hold, and whether they are all there is. -/
structure Resolution where
  rules : List Rule
  complete : Bool
  incompleteReason : Option String
  deriving DecidableEq, Repr

namespace Resolution

def full (rules : List Rule) : Resolution := ⟨rules, true, none⟩

def partly (rules : List Rule) (reason : String) : Resolution := ⟨rules, false, some reason⟩

end Resolution

structure Skipped where
  binding : String
  reason : Refusal

def Skipped.render (s : Skipped) : String :=
  "binding " ++ Text.quote s.binding ++ ": " ++ s.reason.message

namespace Catalog

/-- The rules of each binding in turn, with the bindings left out; any refusal but a missing
template ends it. -/
def gather (c : Catalog) : List Binding → Inquiry Refusal (List Rule × List Skipped)
  | [] => pure ([], [])
  | b :: rest => do
    match ← (c.resolve b.template).attempt with
    | .ok set =>
      let (rules, skipped) ← c.gather rest
      return (set.rules ++ rules, skipped)
    | .error e =>
      if e.isNotFound then
        let (rules, skipped) ← c.gather rest
        return (rules, ⟨b.name, e⟩ :: skipped)
      else .refuse e

/-- What the bindings that apply in a scope grant a subject. One whose template is not to be found
is left out, and the picture is then known to be incomplete. -/
def holdings (c : Catalog) (bindings : List Binding) (subject : Subject) (scope : Scope) :
    Inquiry Refusal Resolution := do
  let (rules, skipped) ← c.gather (bindings.filter (·.appliesTo subject scope))
  if skipped.isEmpty then return .full rules
  else return .partly rules ("; ".intercalate (skipped.map Skipped.render))

end Catalog

end GrantGate
