import GrantGate.Escalation.Check
import GrantGate.Review
import GrantGate.Review.Fault
import GrantGate.Template.Catalog
import GrantGate.Wire.Formats

namespace GrantGate

open Wire

def managementGroup : String := "management.warden.io"

/-- The permission to use a verb on one template, asked where the write takes effect. -/
def bypassAccess (verb template : String) (scope : Scope) : Access :=
  ⟨verb, managementGroup, ReviewKind.templates.render, template, scope.namespace?⟩

/-- What remains to be checked of the requester: nothing, or a grant. Everything that can be refused
without looking at the requester is refused here. -/
abbrev Plan := Inquiry Fault (Option Grant)

namespace Plan

def invalid {α : Type} (c : Complaint) : Inquiry Fault α := .refuse (.invalid c)

def guarded {α : Type} (x : Inquiry Refusal α) : Inquiry Fault α := x.mapError .refused

def guardedBy {α : Type} (x : Except Refusal α) : Inquiry Fault α := guarded (.ofExcept x)

def object {α : Type} (decode : Decoder Json α) (field : String) (j : Option Json) :
    Inquiry Fault α :=
  match j with
  | none => invalid (.missing field)
  | some j =>
    match decode j with
    | .ok a => pure a
    | .error e => invalid (.undecodable field e)

end Plan

namespace Binding

/-- Where a binding will be checked: in its own namespace or, if it names none, in that of the
review. -/
def reviewScope (b : Binding) (r : Review) : Scope := .ofNamespace? (b.inNamespace.or r.inNamespace)

def planCreate (b : Binding) (c : Catalog) (r : Review) : Plan :=
  if b.template.isEmpty then Plan.invalid .noBindingTemplate
  else do
    let t ← Plan.guarded (c.bindable b.template)
    let scope := b.reviewScope r
    Plan.guardedBy (t.fits scope)
    let set ← Plan.guarded (c.resolveDraft t)
    return some ⟨set.rules, scope, some (bypassAccess "bind" t.name scope)⟩

/-- What a binding grants, to whom and where never changes. -/
def planUpdate (new old : Binding) : Plan :=
  if old.template ≠ new.template ∨ old.grantee ≠ new.grantee ∨ old.inNamespace ≠ new.inNamespace
  then Plan.invalid (.bindingImmutable new.name)
  else pure none

end Binding

namespace Rule

def flaw? (r : Rule) : Option RuleFlaw :=
  if r.verbs.isEmpty then some .noVerbs
  else if r.resources.isEmpty && r.urls.isEmpty then some .noTarget
  else if !r.resources.isEmpty && !r.urls.isEmpty then some .mixedTargets
  else if r.isNonResource && !r.names.isEmpty then some .namesWithoutResources
  else none

end Rule

def firstFlaw? : Nat → List Rule → Option (Nat × RuleFlaw)
  | _, [] => none
  | n, r :: rs =>
    match r.flaw? with
    | some flaw => some (n, flaw)
    | none => firstFlaw? (n + 1) rs

namespace Template

/-- A template has a name, and no rule of it could never match anything. -/
def shapeComplaint? (t : Template) : Option Complaint :=
  if t.name.isEmpty then some .noTemplateName
  else (firstFlaw? 0 t.rules).map fun (n, flaw) => .flawedRule t.name n flaw

def ensureShape (t : Template) : Inquiry Fault Unit :=
  match t.shapeComplaint? with
  | some complaint => Plan.invalid complaint
  | none => pure ()

/-- Writing a template hands out, everywhere, all that it stands for. -/
def planGrant (t : Template) (c : Catalog) : Plan := do
  let set ← Plan.guarded (c.resolveDraft t)
  return some ⟨set.rules, .cluster, some (bypassAccess "escalate" t.name .cluster)⟩

def planCreate (t : Template) (c : Catalog) : Plan := do
  t.ensureShape
  Plan.guardedBy (t.mayReplace none)
  t.planGrant c

/-- An update that leaves rules and parents alone hands out nothing. -/
def planUpdate (new old : Template) (c : Catalog) : Plan := do
  new.ensureShape
  if old.name ≠ new.name then Plan.invalid (.templateRenamed old.name new.name)
  else
    Plan.guardedBy (new.mayReplace (some old))
    if old.rules = new.rules ∧ old.inherits = new.inherits then return none
    else new.planGrant c

/-- A template that is not there needs no protection. -/
def planDelete (t : Template) (c : Catalog) : Plan := do
  match ← Plan.guarded (c.deletable t.name).attempt with
  | .ok () => return none
  | .error e => if e.isNotFound then return none else .refuse (.refused e)

end Template

namespace Review

def planBinding (r : Review) (c : Catalog) : Plan := do
  match r.operation with
  | .create =>
    let b ← Plan.object Binding.decode "object" r.object
    b.planCreate c r
  | .update =>
    let new ← Plan.object Binding.decode "object" r.object
    let old ← Plan.object Binding.decode "old_object" r.oldObject
    new.planUpdate old
  | .delete => return none

def planTemplate (r : Review) (c : Catalog) : Plan := do
  match r.operation with
  | .create =>
    let t ← Plan.object Template.decode "object" r.object
    t.planCreate c
  | .update =>
    let new ← Plan.object Template.decode "object" r.object
    let old ← Plan.object Template.decode "old_object" r.oldObject
    new.planUpdate old c
  | .delete =>
    let t ← Plan.object Template.decode "old_object" (r.oldObject.or r.object)
    t.planDelete c

def plan (r : Review) (kind : ReviewKind) (c : Catalog) : Plan :=
  match kind with
  | .bindings => r.planBinding c
  | .templates => r.planTemplate c

end Review

end GrantGate
