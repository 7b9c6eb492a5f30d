import GrantGate.Roster
import GrantGate.Rule

namespace GrantGate

/-- A named list of rules that may take over the rules of others. -/
structure Template where
  name : String
  displayName : String := ""
  reach : Reach := .cluster
  rules : List Rule := []
  inherits : List String := []
  locked : Bool := false
  builtin : Bool := false
  deriving DecidableEq, Repr, Inhabited

namespace Template

def inheritsFrom (t : Template) (name : String) : Bool := t.inherits.contains name

end Template

/-- Stored templates, at most one of a name. -/
abbrev TemplateStore := Roster Template Template.name

/-- Names without repetition, in increasing order. -/
abbrev NameSet := Roster String id

namespace NameSet

def contains (s : NameSet) (name : String) : Bool := s.items.contains name

end NameSet

/-- Facts an authenticator attached to a subject, by key. -/
abbrev Extras := Roster (String × List String) Prod.fst

/-- Who makes a request. -/
structure Subject where
  username : String
  groups : NameSet := .empty
  extra : Extras := .empty
  uid : String := ""
  deriving DecidableEq, Inhabited

def Subject.inGroup (s : Subject) (group : String) : Bool := s.groups.contains group

inductive Grantee where
  | user (name : String)
  | group (name : String)
  deriving DecidableEq, Repr, Inhabited

def Grantee.covers : Grantee → Subject → Bool
  | user name, s => s.username == name
  | group name, s => s.inGroup name

/-- Grants one template to one user or group, everywhere or in one namespace. -/
structure Binding where
  name : String
  grantee : Grantee
  template : String
  inNamespace : Option String := none
  deriving DecidableEq, Repr, Inhabited

namespace Binding

/-- Without a namespace, or with the empty one, a binding holds in every scope. -/
def holdsIn (b : Binding) (scope : Scope) : Bool :=
  match Scope.ofNamespace? b.inNamespace with
  | .cluster => true
  | .namespaced ns => scope.namespace? == some ns

def appliesTo (b : Binding) (subject : Subject) (scope : Scope) : Bool :=
  b.grantee.covers subject && b.holdsIn scope

end Binding

/-- The templates and bindings that a service starts with. No two templates of it, and no two
bindings, may have one name. -/
structure Snapshot where
  templates : List Template := []
  bindings : List Binding := []
  deriving DecidableEq, Repr, Inhabited

namespace Snapshot

/-- The first name that occurs earlier in the list. -/
def firstRepeated? : List String → List String → Option String
  | _, [] => none
  | seen, name :: rest =>
    if seen.contains name then some name else firstRepeated? (name :: seen) rest

inductive Duplicate where
  | template (name : String)
  | binding (name : String)
  deriving DecidableEq, Repr

/-- The first duplicate, templates before bindings. -/
def duplicate? (s : Snapshot) : Option Duplicate :=
  match firstRepeated? [] (s.templates.map Template.name) with
  | some name => some (.template name)
  | none => (firstRepeated? [] (s.bindings.map Binding.name)).map .binding

end Snapshot

end GrantGate
