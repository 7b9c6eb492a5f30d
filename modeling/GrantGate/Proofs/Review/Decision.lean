import GrantGate.Proofs.Escalation.Entitlement
import GrantGate.Proofs.Review.Admission
import GrantGate.Proofs.Review.Shape
import GrantGate.Proofs.Snapshot

namespace GrantGate.State

variable {s : State} {kind : ReviewKind} {r : Review} {b : Binding} {t : Template}

theorem respond_allowed_iff : (s.respond kind r).allowed = true ↔ s.Admits kind r := by
  unfold respond Admits
  cases (s.validate kind r).result <;> simp

/-- A binding that can be read is admitted on what is stored under the name of its template, and on
what the requester may hand out. -/
theorem admits_create_binding_iff_entitled (up : s.shutDown = false) (create : r.operation = .create)
    (reads : r.newBinding? = some b) : s.Admits .bindings r ↔ b.template ≠ "" ∧
      (∃ t, s.templates.find? b.template = some t ∧ t.locked = false ∧
        t.reach = (b.reviewScope r).reach) ∧
      s.catalog.Resolves b.template ∧
      s.Entitled r.user (b.reviewScope r) (s.catalog.Declares b.template)
        (bypassAccess "bind" b.template (b.reviewScope r)).toRule := by
  -- the bypass names the namespace of the scope, which is read as that scope again
  have here : (bypassAccess "bind" b.template (b.reviewScope r)).scope = b.reviewScope r :=
    Scope.ofNamespace?_namespace? _
  rw [admits_create_binding_iff create]
  constructor
  · intro h
    obtain ⟨b', t, set, hb, named, stored, unlocked, fits, resolves, settled⟩ := h
    obtain rfl : b = b' := Option.some_inj.1 (reads.symm.trans hb)
    exact ⟨named, ⟨t, stored, unlocked, fits⟩, Catalog.resolve_ok_iff.1 ⟨set, resolves⟩,
      (settle_resolved_iff_entitled up resolves here).1 settled⟩
  · intro h
    obtain ⟨named, ⟨t, stored, unlocked, fits⟩, hresolves, entitled⟩ := h
    obtain ⟨set, resolves⟩ := Catalog.resolve_ok_iff.2 hresolves
    exact ⟨b, t, set, reads, named, stored, unlocked, fits, resolves,
      (settle_resolved_iff_entitled up resolves here).2 entitled⟩

/-- The catalog in which a template stands in for a stored one of its name. -/
def drafted (s : State) (t : Template) : Catalog := .ofStore (s.templates.insert t)

/-- A requester may write a template that resolves if they are entitled to hand out, everywhere, all
that it stands for. -/
theorem admitsGrant_iff_entitled (up : s.shutDown = false) : s.AdmitsGrant r t ↔
    (s.drafted t).Resolves t.name ∧
      s.Entitled r.user .cluster ((s.drafted t).Declares t.name)
        (bypassAccess "escalate" t.name .cluster).toRule := by
  have hdraft : (s.catalog.resolveDraft t).result = ((s.drafted t).resolve t.name).result :=
    Catalog.result_resolveDraft s.templates t
  have here : (bypassAccess "escalate" t.name .cluster).scope = .cluster := rfl
  rw [AdmitsGrant, hdraft, ← Catalog.resolve_ok_iff]
  constructor
  · intro h
    obtain ⟨set, resolves, settled⟩ := h
    exact ⟨⟨set, resolves⟩, (settle_resolved_iff_entitled up resolves here).1 settled⟩
  · intro h
    obtain ⟨⟨set, resolves⟩, entitled⟩ := h
    exact ⟨set, resolves, (settle_resolved_iff_entitled up resolves here).2 entitled⟩

/-- All within reach of a stored name is listed in the snapshot that the service has started from. -/
private theorem resolves_ofSnapshot_iff {snap : Snapshot} {oracleEnabled : Bool} {timeout : Nat}
    {root : String} : (State.ofSnapshot snap oracleEnabled timeout).catalog.Resolves root ↔
      ∀ name, (State.ofSnapshot snap oracleEnabled timeout).catalog.Reaches root name →
        ∃ t ∈ snap.templates, t.name = name := by
  rw [catalog, Catalog.resolves_ofStore_iff]
  simp only [ofSnapshot, Roster.mem_names_ofList]

/-- The draft itself need not be listed. -/
private theorem drafted_resolves_ofSnapshot_iff {snap : Snapshot} {oracleEnabled : Bool}
    {timeout : Nat} :
    ((State.ofSnapshot snap oracleEnabled timeout).drafted t).Resolves t.name ↔
      ∀ name, ((State.ofSnapshot snap oracleEnabled timeout).drafted t).Reaches t.name name →
        name = t.name ∨ ∃ u ∈ snap.templates, u.name = name := by
  rw [drafted, Catalog.resolves_ofStore_iff]
  simp only [Roster.mem_names_insert, ofSnapshot, Roster.mem_names_ofList, eq_comm]

/-- A service that has started from a snapshot lets a binding be created if its template is listed,
unlocked and made for such a scope, all that this one inherits from is listed, and the requester is
entitled, in the scope, to what they declare. -/
theorem allowed_create_binding_iff {snap : Snapshot} (unique : snap.duplicate? = none)
    (oracleEnabled : Bool) (timeout : Nat) {r : Review} {b : Binding}
    (create : r.operation = .create) (reads : r.newBinding? = some b) :
    let s := State.ofSnapshot snap oracleEnabled timeout
    let scope := Scope.ofNamespace? (b.inNamespace.or r.inNamespace)
    let bypass : Rule :=
      { verbs := ["bind"], groups := ["management.warden.io"],
        resources := ["permissiontemplates"], names := [b.template] }
    (s.respond .bindings r).allowed = true ↔ b.template ≠ "" ∧
      (∃ t ∈ snap.templates, t.name = b.template ∧ t.locked = false ∧ t.reach = scope.reach) ∧
      (∀ name, s.catalog.Reaches b.template name → ∃ t ∈ snap.templates, t.name = name) ∧
      s.Entitled r.user scope (s.catalog.Declares b.template) bypass := by
  intro s scope bypass
  have hstored : (∃ t, s.templates.find? b.template = some t ∧ t.locked = false ∧
      t.reach = scope.reach) ↔
      ∃ t ∈ snap.templates, t.name = b.template ∧ t.locked = false ∧ t.reach = scope.reach := by
    simp only [s, find?_ofSnapshot_iff unique, and_assoc]
  rw [respond_allowed_iff, admits_create_binding_iff_entitled rfl create reads, ← hstored,
    ← resolves_ofSnapshot_iff]
  exact Iff.rfl

/-- Alice, one of whose bindings has lost its template, may let Erin view since she may bind the
template in that team's namespace. -/
theorem allowed_create_binding_iff_waived :
    let pods : Rule := { verbs := ["get"], groups := [""], resources := ["pods"] }
    let logs : Rule := { verbs := ["get"], groups := [""], resources := ["pods/log"] }
    let binds : Rule :=
      { verbs := ["bind"], groups := ["*"], resources := ["permissiontemplates"],
        names := ["viewer"] }
    let snap : Snapshot :=
      { templates :=
          [{ name := "viewer", reach := .project, rules := [pods], inherits := ["logs"] },
            { name := "logs", rules := [logs], inherits := ["viewer", "logs"] },
            { name := "binder", reach := .project, rules := [binds] }],
        bindings :=
          [⟨"a", .user "alice", "ghost", none⟩, ⟨"b", .user "alice", "binder", "team-a"⟩] }
    let s := State.ofSnapshot snap true 2000
    let b : Binding := ⟨"c", .user "erin", "viewer", none⟩
    let r : Review :=
      { uid := "1", operation := .create, user := { username := "alice" },
        inNamespace := "team-a", object := b.toJson }
    let bypass : Rule :=
      { verbs := ["bind"], groups := ["management.warden.io"],
        resources := ["permissiontemplates"], names := ["viewer"] }
    snap.duplicate? = none ∧ r.operation = .create ∧ r.newBinding? = some b ∧
      (s.respond .bindings r).allowed = true ∧
      s.Entitled r.user (.namespaced "team-a") (s.catalog.Declares "viewer") bypass := by
  intro pods logs binds snap s b r bypass
  have unique : snap.duplicate? = none := by decide +kernel
  have create : r.operation = .create := rfl
  have reads : r.newBinding? = some b := by decide +kernel
  have allowed : (s.respond .bindings r).allowed = true := by decide +kernel
  obtain ⟨-, -, -, entitled⟩ :=
    (allowed_create_binding_iff unique true 2000 create reads).1 allowed
  exact ⟨unique, create, reads, allowed, entitled⟩

/-- A service that has started from a snapshot lets a template be written if it is well shaped, its
builtin flag is not moved, nothing but the lock of a builtin one changes, and the requester is
entitled to what it stands for, read in place of a listed one of its name; an update that leaves
rules and parents alone hands out nothing. -/
theorem allowed_write_template_iff (snap : Snapshot) (oracleEnabled : Bool) (timeout : Nat)
    {r : Review} {t : Template} (reads : r.newTemplate? = some t) :
    let s := State.ofSnapshot snap oracleEnabled timeout
    let bypass : Rule :=
      { verbs := ["escalate"], groups := ["management.warden.io"],
        resources := ["permissiontemplates"], names := [t.name] }
    let grantable : Prop :=
      (∀ name, (s.drafted t).Reaches t.name name →
        name = t.name ∨ ∃ u ∈ snap.templates, u.name = name) ∧
      s.Entitled r.user .cluster ((s.drafted t).Declares t.name) bypass
    (r.operation = .create → ((s.respond .templates r).allowed = true ↔
      t.WellShaped ∧ t.builtin = false ∧ grantable)) ∧
    ∀ old, r.operation = .update → r.oldTemplate? = some old →
      ((s.respond .templates r).allowed = true ↔
        t.WellShaped ∧ old.name = t.name ∧ old.builtin = t.builtin ∧
        (t.builtin = true → { old with locked := t.locked } = t) ∧
        (t.rules = old.rules ∧ t.inherits = old.inherits ∨ grantable)) := by
  intro s bypass grantable
  have hgrantable : s.AdmitsGrant r t ↔ grantable := by
    rw [admitsGrant_iff_entitled rfl, drafted_resolves_ofSnapshot_iff]
    exact Iff.rfl
  constructor
  · intro create
    rw [respond_allowed_iff, admits_create_template_iff create, reads, ← hgrantable]
    simp only [Option.some_inj, exists_eq_left', Template.shapeComplaint?_eq_none_iff]
  · intro old update readsOld
    rw [respond_allowed_iff, admits_update_template_iff update, ← hgrantable]
    constructor
    · intro h
      obtain ⟨new, old', hnew, hold, shape, name, builtin, locked, grant⟩ := h
      obtain rfl : t = new := Option.some_inj.1 (reads.symm.trans hnew)
      obtain rfl : old = old' := Option.some_inj.1 (readsOld.symm.trans hold)
      exact ⟨Template.shapeComplaint?_eq_none_iff.1 shape, name, builtin, builtin ▸ locked,
        grant.imp_left fun same => ⟨same.1.symm, same.2.symm⟩⟩
    · intro h
      obtain ⟨shape, name, builtin, locked, grant⟩ := h
      exact ⟨t, old, reads, readsOld, Template.shapeComplaint?_eq_none_iff.2 shape, name, builtin,
        builtin ▸ locked, grant.imp_left fun same => ⟨same.1.symm, same.2.symm⟩⟩

/-- Alice, who may see pods and their logs, makes the viewers of pods see logs as well: the template
comes to inherit from one that inherits from it. -/
theorem allowed_write_template_iff_viewer :
    let pods : Rule := { verbs := ["get"], groups := [""], resources := ["pods"] }
    let logs : Rule := { verbs := ["get"], groups := [""], resources := ["pods/log"] }
    let viewer : Template := { name := "viewer", rules := [pods] }
    let wider : Template := { viewer with inherits := ["logs", "viewer"] }
    let snap : Snapshot :=
      { templates :=
          [viewer, { name := "logs", rules := [logs], inherits := ["viewer"] },
            { name := "reader", rules := [{ pods with resources := ["pods", "*/log"] }] }],
        bindings := [⟨"a", .group "readers", "reader", none⟩] }
    let s := State.ofSnapshot snap false 2000
    let alice : Subject := { username := "alice", groups := .ofList ["readers"] }
    let r : Review :=
      { uid := "1", operation := .update, user := alice, object := wider.toJson,
        oldObject := viewer.toJson }
    let bypass : Rule :=
      { verbs := ["escalate"], groups := ["management.warden.io"],
        resources := ["permissiontemplates"], names := ["viewer"] }
    r.newTemplate? = some wider ∧ r.operation = .update ∧ r.oldTemplate? = some viewer ∧
      (s.respond .templates r).allowed = true ∧
      s.Entitled alice .cluster ((s.drafted wider).Declares "viewer") bypass := by
  intro pods logs viewer wider snap s alice r bypass
  have reads : r.newTemplate? = some wider := by decide +kernel
  have update : r.operation = .update := rfl
  have readsOld : r.oldTemplate? = some viewer := by decide +kernel
  have allowed : (s.respond .templates r).allowed = true := by decide +kernel
  have changed : ¬ (wider.rules = viewer.rules ∧ wider.inherits = viewer.inherits) := by decide
  obtain ⟨-, -, -, -, grant⟩ :=
    ((allowed_write_template_iff snap false 2000 reads).2 viewer update readsOld).1 allowed
  exact ⟨reads, update, readsOld, allowed, (grant.resolve_left changed).2⟩

end GrantGate.State
