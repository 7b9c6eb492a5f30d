namespace GrantGate

/-- Where a permission holds. -/
inductive Scope where
  | cluster
  | namespaced (name : String)
  deriving DecidableEq, Repr, Inhabited

namespace Scope

def namespace? : Scope → Option String
  | cluster => none
  | namespaced name => some name

/-- No namespace and the empty one both mean the whole cluster. -/
def ofNamespace? : Option String → Scope
  | none => cluster
  | some name => if name.isEmpty then cluster else namespaced name

def render : Scope → String
  | cluster => "cluster"
  | namespaced name => "namespace/" ++ name

end Scope

/-- Where a template may be bound. -/
inductive Reach where
  | cluster
  | project
  deriving DecidableEq, Repr, Inhabited

namespace Reach

def render : Reach → String
  | cluster => "cluster"
  | project => "project"

end Reach

def Scope.reach : Scope → Reach
  | .cluster => .cluster
  | .namespaced _ => .project

/-- The entry that stands for every value. -/
def wildcard : String := "*"

/-- Permits verbs on the resources of some groups, or verbs on URLs, in every combination of its
entries. No `names` means every name. -/
structure Rule where
  verbs : List String := []
  groups : List String := []
  resources : List String := []
  names : List String := []
  urls : List String := []
  deriving DecidableEq, Repr, Inhabited

namespace Rule

def everything : Rule :=
  { verbs := [wildcard], groups := [wildcard], resources := [wildcard] }

/-- Whether the rule reaches every resource there is, whatever its verbs. -/
def grantsAllResources (r : Rule) : Bool :=
  r.groups.contains wildcard && r.resources.contains wildcard &&
    (r.names.isEmpty || r.names.contains wildcard)

def isNonResource (r : Rule) : Bool := r.resources.isEmpty && !r.urls.isEmpty

/-- An entry as shown; the empty text is shown by two quotes. -/
def renderEntry (value : String) : String := if value.isEmpty then "\"\"" else value

def renderDimension (label : String) (values : List String) : String :=
  label ++ "=[" ++ ", ".intercalate (values.map renderEntry) ++ "]"

/-- A dimension after the verbs, shown only if it has entries. -/
def renderOptional (label : String) (values : List String) : String :=
  if values.isEmpty then "" else " " ++ renderDimension label values

def render (r : Rule) : String :=
  renderDimension "verbs" r.verbs ++ renderOptional "apiGroups" r.groups ++
    renderOptional "resources" r.resources ++ renderOptional "resourceNames" r.names ++
    renderOptional "nonResourceURLs" r.urls

end Rule

/-- One concrete request on one object: the smallest thing that can be permitted. -/
structure Access where
  verb : String
  group : String
  resource : String
  name : String
  inNamespace : Option String := none
  deriving DecidableEq, Repr, Inhabited

namespace Access

def scope (a : Access) : Scope := .ofNamespace? a.inNamespace

/-- The rule that permits this access and no other. -/
def toRule (a : Access) : Rule :=
  { verbs := [a.verb], groups := [a.group], resources := [a.resource], names := [a.name] }

/-- The empty group is shown as `core`. -/
def render (a : Access) : String :=
  a.verb ++ " " ++ (if a.group.isEmpty then "core" else a.group) ++ "/" ++ a.resource ++ " " ++
    match a.inNamespace with
    | some ns => ns ++ "/" ++ a.name
    | none => a.name

end Access

end GrantGate
