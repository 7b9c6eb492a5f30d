import GrantGate.Proofs.Review.Decision
import GrantGate.Proofs.Review.Guards

namespace GrantGate

/-- Where the requester of a review is asked for what they hold. -/
def Review.checkedScope (r : Review) : ReviewKind → Scope
  | .bindings => r.newBinding?.elim .cluster (·.reviewScope r)
  | .templates => .cluster

namespace State

/-- The names of templates that the answer to a review may depend on. -/
inductive Consults (s : State) : ReviewKind → Review → String → Prop
  /-- Within reach of a binding of the requester. -/
  | held {kind r b name} (mem : b ∈ s.bindings)
      (applies : b.appliesTo r.user (r.checkedScope kind) = true)
      (reaches : s.catalog.Reaches b.template name) : Consults s kind r name
  /-- Within reach of the template that is to be bound. -/
  | bound {r b name} (reads : r.newBinding? = some b)
      (reaches : s.catalog.Reaches b.template name) : Consults s .bindings r name
  /-- Within reach of the template that is to be written, read in place of a stored one. -/
  | written {r t name} (reads : r.newTemplate? = some t)
      (reaches : (s.drafted t).Reaches t.name name) (other : name ≠ t.name) :
      Consults s .templates r name

/-- Two states that look the same to a review, whatever else they hold. -/
structure Agrees (s s' : State) (kind : ReviewKind) (r : Review) : Prop where
  oracle : s'.oracleEnabled = s.oracleEnabled
  up : s'.shutDown = s.shutDown
  bindings : s'.bindings.filter (·.appliesTo r.user (r.checkedScope kind)) =
    s.bindings.filter (·.appliesTo r.user (r.checkedScope kind))
  templates : ∀ name, s.Consults kind r name → s'.templates.find? name = s.templates.find? name

variable {s s' : State} {kind : ReviewKind} {r : Review}

private theorem lookup_catalog_congr {name : String}
    (h : s'.templates.find? name = s.templates.find? name) :
    s'.catalog.lookup name = s.catalog.lookup name := by
  simp only [catalog, Catalog.lookup, Catalog.ofStore, h]

/-- A plan that grants anything asks for it, and for the bypass, in the scope of the review. -/
theorem scope_of_plan {g : Grant} (h : (r.plan kind s.catalog).result = .ok (some g)) :
    g.scope = r.checkedScope kind ∧ ∀ access ∈ g.bypass, access.scope = g.scope := by
  cases Review.grants_of_plan h with
  | @bind b t set create reads stored resolves =>
    refine ⟨by rw [Review.checkedScope, reads]; rfl, fun access haccess => ?_⟩
    obtain rfl : bypassAccess "bind" b.template (b.reviewScope r) = access :=
      Option.some_inj.1 haccess
    exact Scope.ofNamespace?_namespace? _
  | @write t old? set writes changed resolves =>
    refine ⟨rfl, fun access haccess => ?_⟩
    obtain rfl : bypassAccess "escalate" t.name .cluster = access := Option.some_inj.1 haccess
    rfl

namespace Agrees

theorem bindable (h : s.Agrees s' .bindings r) {b : Binding} (reads : r.newBinding? = some b) :
    s'.catalog.bindable b.template = s.catalog.bindable b.template := by
  have found : s'.catalog.lookup b.template = s.catalog.lookup b.template :=
    lookup_catalog_congr (h.templates _ (.bound reads .refl))
  simp only [Catalog.bindable, Catalog.get, found]

private theorem resolve_bound (h : s.Agrees s' .bindings r) {b : Binding}
    (reads : r.newBinding? = some b)
    {t : Template} (stored : s.catalog.lookup b.template = .ok t) :
    s'.catalog.resolveDraft t = s.catalog.resolveDraft t := by
  have hname : t.name = b.template := Catalog.name_of_lookup stored
  have hinsert : s.templates.insert t = s.templates :=
    Roster.insert_of_stored (hname ▸ Catalog.lookup_ofStore.1 stored)
  refine Catalog.resolveDraft_congr fun name hreaches _ => h.templates name (.bound reads ?_)
  rwa [hinsert, hname] at hreaches

private theorem resolve_written (h : s.Agrees s' .templates r) {t : Template}
    (reads : r.newTemplate? = some t) :
    s'.catalog.resolveDraft t = s.catalog.resolveDraft t :=
  Catalog.resolveDraft_congr fun name hreaches hother =>
    h.templates name (.written reads hreaches hother)

private theorem plan_grant (h : s.Agrees s' .templates r) {t : Template}
    (reads : r.newTemplate? = some t) : t.planGrant s'.catalog = t.planGrant s.catalog := by
  rw [Template.planGrant, h.resolve_written reads, Template.planGrant]

/-- Unless something is to be deleted, the plan is the same down to what is asked for it. -/
theorem plan (h : s.Agrees s' kind r) (write : r.operation ≠ .delete) :
    r.plan kind s'.catalog = r.plan kind s.catalog := by
  cases kind with
  | bindings =>
    cases hop : r.operation with
    | create =>
      simp only [Review.plan, Review.planBinding, hop]
      refine Inquiry.bind_congr fun b hb => ?_
      have reads : r.newBinding? = some b := Plan.object_ok_iff.1 hb
      rw [Binding.planCreate, Binding.planCreate, h.bindable reads]
      split
      · rfl
      refine Inquiry.bind_congr fun t ht => ?_
      obtain ⟨stored, -⟩ := Catalog.bindable_ok_iff.1 (Inquiry.mapError_ok_iff.1 ht)
      simp only [h.resolve_bound reads stored]
    | update => simp only [Review.plan, Review.planBinding, hop]
    | delete => exact absurd hop write
  | templates =>
    cases hop : r.operation with
    | create =>
      simp only [Review.plan, Review.planTemplate, hop]
      refine Inquiry.bind_congr fun t ht => ?_
      rw [Template.planCreate, h.plan_grant (Plan.object_ok_iff.1 ht), Template.planCreate]
    | update =>
      simp only [Review.plan, Review.planTemplate, hop]
      refine Inquiry.bind_congr fun t ht => ?_
      simp only [Template.planUpdate, h.plan_grant (Plan.object_ok_iff.1 ht)]
    | delete => exact absurd hop write

theorem picture (h : s.Agrees s' kind r) :
    s'.picture r.user (r.checkedScope kind) = s.picture r.user (r.checkedScope kind) := by
  refine Catalog.picture_congr h.bindings fun b hb happlies => Catalog.resolve_congr ?_
  intro name hreaches
  exact lookup_catalog_congr (h.templates name (.held hb happlies hreaches))

theorem result_settle (h : s.Agrees s' kind r) {g : Grant}
    (planned : (r.plan kind s.catalog).result = .ok (some g)) :
    (s'.settle r g).result = (s.settle r g).result := by
  obtain ⟨hscope, here⟩ := scope_of_plan planned
  exact result_settle_congr h.oracle h.up (by rw [hscope, h.picture]) here

theorem result_validate (h : s.Agrees s' kind r) (write : r.operation ≠ .delete) :
    (s'.validate kind r).result = (s.validate kind r).result := by
  rw [validate, h.plan write, validate, Inquiry.result_bind, Inquiry.result_bind]
  cases hplan : (r.plan kind s.catalog).result with
  | error e => rfl
  | ok p =>
    cases p with
    | none => rfl
    | some g =>
      simp only [Except.bind, Inquiry.mapError, h.result_settle hplan]

end Agrees

/-- What the user of a review is known by beside the name and the groups makes no difference. -/
theorem result_validate_of_same_user (s : State) (kind : ReviewKind) (r : Review) (uid : String)
    (extra : Extras) :
    (s.validate kind { r with user := { r.user with uid, extra } }).result =
      (s.validate kind r).result := by
  let r' : Review := { r with user := { r.user with uid, extra } }
  have hplan : r'.plan kind s.catalog = r.plan kind s.catalog :=
    r.plan_with_user _ kind s.catalog
  have hsettle (g : Grant) : (s.settle r' g).result = (s.settle r g).result :=
    result_settle_of_same_user rfl rfl
  change (s.validate kind r').result = (s.validate kind r).result
  rw [validate, hplan, validate, Inquiry.result_bind, Inquiry.result_bind]
  congr
  funext p
  cases p with
  | none => rfl
  | some g => simp only [Inquiry.mapError, hsettle]

private theorem respond_eq_of_validate {s' : State} {r' : Review} (uid : r'.uid = r.uid)
    (h : (s'.validate kind r').result = (s.validate kind r).result) :
    s'.respond kind r' = s.respond kind r := by
  rw [respond, h, uid, respond]

/-- Unless it is about a deletion, the whole answer to a review stays as it is whatever becomes of the
bindings that do not apply to the requester in its scope, of the templates that it does not consult,
and of the time that it may take; and it never depends on more of the requester than name and
groups. -/
theorem respond_isolated (s : State) (kind : ReviewKind) (r : Review) :
    (∀ (templates : TemplateStore) (bindings : List Binding) (capabilityTimeout : Nat),
      r.operation ≠ .delete →
      bindings.filter (·.appliesTo r.user (r.checkedScope kind)) =
        s.bindings.filter (·.appliesTo r.user (r.checkedScope kind)) →
      (∀ name, s.Consults kind r name → templates.find? name = s.templates.find? name) →
      { s with templates, bindings, capabilityTimeout }.respond kind r = s.respond kind r) ∧
    ∀ (uid : String) (extra : Extras),
      s.respond kind { r with user := { r.user with uid, extra } } = s.respond kind r := by
  constructor
  · intro templates bindings capabilityTimeout write sameBindings sameTemplates
    have agrees : s.Agrees { s with templates, bindings, capabilityTimeout } kind r :=
      ⟨rfl, rfl, sameBindings, sameTemplates⟩
    exact respond_eq_of_validate rfl (agrees.result_validate write)
  · intro uid extra
    exact respond_eq_of_validate rfl (result_validate_of_same_user s kind r uid extra)

/-- Carol, who may see pods in one team and has lost another template, may not let Erin see logs
there. What she holds in another team, what Mallory holds, and templates that neither she nor Erin's
reach do not come up. -/
theorem respond_isolated_viewer :
    let pods : Rule := { verbs := ["get"], groups := [""], resources := ["pods"] }
    let logs : Rule := { verbs := ["get"], groups := [""], resources := ["pods/log"] }
    let viewer : Template :=
      { name := "viewer", reach := .project, rules := [pods], inherits := ["logs"] }
    let reader : Template := { name := "reader", rules := [pods], inherits := ["reader"] }
    let logger : Template := { name := "logs", rules := [logs], inherits := ["viewer"] }
    let root : Template := { name := "root", rules := [.everything], inherits := ["viewer"] }
    let carols : List Binding :=
      [⟨"a", .user "carol", "reader", "team-a"⟩, ⟨"b", .group "staff", "ghost", none⟩]
    let s : State := { templates := .ofList [viewer, reader, logger], bindings := carols }
    let templates : TemplateStore := .ofList [root, viewer, reader, logger]
    let bindings : List Binding :=
      [⟨"c", .user "mallory", "root", none⟩] ++ carols ++ [⟨"d", .user "carol", "root", "team-b"⟩]
    let carol : Subject := { username := "carol", groups := .ofList ["staff"] }
    let r : Review :=
      { uid := "1", operation := .create, user := carol, inNamespace := "team-a",
        object := (⟨"e", .user "erin", "viewer", none⟩ : Binding).toJson }
    r.checkedScope .bindings = .namespaced "team-a" ∧ r.operation ≠ .delete ∧
      bindings.filter (·.appliesTo carol (.namespaced "team-a")) =
        s.bindings.filter (·.appliesTo carol (.namespaced "team-a")) ∧
      (∀ name, s.Consults .bindings r name → templates.find? name = s.templates.find? name) ∧
      (s.respond .bindings r).code = 403 ∧
      { s with templates, bindings }.respond .bindings r = s.respond .bindings r := by
  intro pods logs viewer reader logger root carols s templates bindings carol r
  have scope : r.checkedScope .bindings = .namespaced "team-a" := by decide +kernel
  have write : r.operation ≠ .delete := by decide
  have same : bindings.filter (·.appliesTo carol (.namespaced "team-a")) =
      s.bindings.filter (·.appliesTo carol (.namespaced "team-a")) := by decide +kernel
  have kept : ∀ name ∈ ["viewer", "logs", "reader", "ghost"],
      templates.find? name = s.templates.find? name := by decide +kernel
  have closed : ∀ child ∈ ["viewer", "logs", "reader", "ghost"],
      ∀ t ∈ s.templates.find? child, ∀ parent ∈ t.inherits,
        parent ∈ ["viewer", "logs", "reader", "ghost"] := by decide +kernel
  have consulted : ∀ name, s.Consults .bindings r name →
      templates.find? name = s.templates.find? name := by
    intro name h
    refine kept name ?_
    cases h with
    | @held _ _ b _ mem applies reaches =>
      have hroot : ∀ b ∈ s.bindings, b.template ∈ ["viewer", "logs", "reader", "ghost"] := by
        decide
      exact Catalog.mem_of_reaches closed (hroot b mem) reaches
    | @bound _ b _ reads reaches =>
      have hroot : ∀ b ∈ r.newBinding?, b.template ∈ ["viewer", "logs", "reader", "ghost"] := by
        decide +kernel
      exact Catalog.mem_of_reaches closed (hroot b reads) reaches
  have denied : (s.respond .bindings r).code = 403 := by decide +kernel
  obtain ⟨isolated, -⟩ := respond_isolated s .bindings r
  exact ⟨scope, write, same, consulted, denied,
    isolated templates bindings s.capabilityTimeout write (scope ▸ same) consulted⟩

end State

end GrantGate
