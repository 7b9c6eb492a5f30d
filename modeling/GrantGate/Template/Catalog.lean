import GrantGate.Inquiry

namespace GrantGate

/-- Answers for stored templates by name. The backend may fail for some names, or when it is asked
for the whole list. -/
structure Catalog where
  templates : TemplateStore
  /-- Names whose look-up fails, each with the backend's words. -/
  outages : List (String × String) := []
  listOutage : Option String := none
  /-- Whether the list comes in decreasing order of names. -/
  descending : Bool := false

namespace Catalog

def ofStore (templates : TemplateStore) : Catalog := { templates }

def lookup (c : Catalog) (name : String) : Except Refusal Template :=
  match c.outages.lookup name with
  | some text => .error (.backend text)
  | none =>
    match c.templates.find? name with
    | some t => .ok t
    | none => .error (.notFound .template name)

theorem mem_of_lookup {c : Catalog} {name : String} {t : Template} (h : c.lookup name = .ok t) :
    t ∈ c.templates.items := by
  unfold lookup at h
  split at h
  · cases h
  · split at h
    · cases h
      rename_i found
      exact Roster.mem_of_find? found
    · cases h

theorem name_of_lookup {c : Catalog} {name : String} {t : Template} (h : c.lookup name = .ok t) :
    t.name = name := by
  unfold lookup at h
  split at h
  · cases h
  · split at h
    · cases h
      rename_i found
      exact Roster.key_of_find? found
    · cases h

def get (c : Catalog) (name : String) : Inquiry Refusal Template :=
  .ask (.get name) (c.lookup name)

def list (c : Catalog) : Inquiry Refusal (List Template) :=
  .ask .list <|
    match c.listOutage with
    | some text => .error (.backend text)
    | none => .ok (if c.descending then c.templates.items.reverse else c.templates.items)

end Catalog

/-- A locked template takes no new bindings. -/
def Catalog.bindable (c : Catalog) (name : String) : Inquiry Refusal Template := do
  let t ← c.get name
  if t.locked then .refuse (.templateLocked t.name) else pure t

/-- A template goes only while no other one inherits from it, and a builtin one never. -/
def Catalog.deletable (c : Catalog) (name : String) : Inquiry Refusal Unit := do
  let t ← c.get name
  if t.builtin then
    .refuse (.builtinUndeletable t.name)
  else
    let all ← c.list
    let heirs := all.filter fun other => other.name != name && other.inheritsFrom name
    if heirs.isEmpty then pure ()
    else .refuse (.inUse t.name ((heirs.map Template.name).mergeSort fun a b => decide (a ≤ b)))

namespace Template

def fits (t : Template) (scope : Scope) : Except Refusal Unit :=
  if t.reach = scope.reach then .ok () else .error (.reachMismatch t.name t.reach scope)

/-- Nobody makes or unmakes a builtin template, and of one that exists only the lock may move. -/
def mayReplace (new : Template) : Option Template → Except Refusal Unit
  | none => if new.builtin then .error (.builtinFlag new.name) else .ok ()
  | some old =>
    if old.builtin ≠ new.builtin then .error (.builtinFlag new.name)
    else if old.builtin ∧ { old with locked := new.locked } ≠ new then
      .error (.builtinImmutable new.name)
    else .ok ()

end Template

end GrantGate
