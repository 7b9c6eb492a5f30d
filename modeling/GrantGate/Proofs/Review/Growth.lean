import GrantGate.Proofs.Review.Decision

namespace GrantGate.State

/-- A state extends another one if it stores the same templates and nobody is worse off in it:
everybody is known to hold everywhere what they are known to hold in the other one, and all of what
they hold is known where all of it is known in the other one. -/
structure Extends (s' s : State) : Prop where
  templates : s'.templates = s.templates
  oracle : s.oracleEnabled = true → s'.oracleEnabled = true
  up : s.shutDown = false → s'.shutDown = false
  held : ∀ subject scope, (s.picture subject scope).rules ⊆ (s'.picture subject scope).rules
  complete : ∀ subject scope,
    (s.picture subject scope).complete = true → (s'.picture subject scope).complete = true

variable {s s' : State} {kind : ReviewKind} {r : Review} {g : Grant} {subject : Subject}

namespace Extends

private theorem lacking_eq_nil (h : s'.Extends s) (hg : g.rules ≠ [])
    (nothing : s.lacking subject g = []) :
    s'.lacking subject g = [] := by
  obtain ⟨complete, covered⟩ := (lacking_eq_nil_iff hg).1 nothing
  refine (lacking_eq_nil_iff hg).2 ⟨h.complete _ _ complete, heldCoverAll_iff.2 ?_⟩
  intro rule hrule
  exact heldCover_of_subset (h.held _ _) (heldCoverAll_iff.1 covered rule hrule)

theorem waives (h : s'.Extends s) (waived : s.waives subject g = true) :
    s'.waives subject g = true := by
  rw [State.waives, Bool.and_eq_true, Option.any_eq_true] at waived ⊢
  obtain ⟨oracle, access, bypass, covered⟩ := waived
  exact ⟨h.oracle oracle, access, bypass, heldCover_of_subset (h.held _ _) covered⟩

theorem settle_ok (h : s'.Extends s) (ok : (s.settle r g).result = .ok ()) :
    (s'.settle r g).result = .ok () := by
  rw [settle_ok_iff] at ok ⊢
  by_cases hg : g.rules = []
  · exact .inl hg
  obtain ⟨up, settled⟩ := ok.resolve_left hg
  exact .inr ⟨h.up up, settled.imp (h.lacking_eq_nil hg) h.waives⟩

/-- What a state admits, each that extends it admits. -/
theorem admits (h : s'.Extends s) (admitted : s.Admits kind r) : s'.Admits kind r := by
  obtain ⟨p, hp, settled⟩ := admits_iff.1 admitted
  have hplan : (r.plan kind s'.catalog).result = .ok p := by
    rw [catalog, h.templates]
    exact hp
  exact admits_iff.2 ⟨p, hplan, fun g hg => h.settle_ok (settled g hg)⟩

theorem respond_allowed (h : s'.Extends s) (allowed : (s.respond kind r).allowed = true) :
    (s'.respond kind r).allowed = true :=
  respond_allowed_iff.2 (h.admits (respond_allowed_iff.1 allowed))

end Extends

section

variable {before after : List Binding} {b : Binding}

private theorem mem_append_cons {x : Binding} :
    x ∈ before ++ b :: after ↔ x = b ∨ x ∈ before ++ after := by
  simp only [List.mem_append, List.mem_cons]
  exact or_left_comm

/-- One more binding whose template resolves takes nothing from anybody. -/
theorem extends_of_resolves (resolves : s.catalog.Resolves b.template) :
    { s with bindings := before ++ b :: after }.Extends { s with bindings := before ++ after } := by
  refine ⟨rfl, id, id, fun subject scope rule hrule => ?_, fun subject scope complete => ?_⟩
  · obtain ⟨x, hx, held⟩ := Catalog.mem_picture_rules.1 hrule
    exact Catalog.mem_picture_rules.2 ⟨x, mem_append_cons.2 (.inr hx), held⟩
  · refine Catalog.picture_complete_iff.2 fun x hx happlies => ?_
    rcases mem_append_cons.1 hx with rfl | hx
    · exact resolves
    · exact Catalog.picture_complete_iff.1 complete x hx happlies

/-- One more binding whose template does not resolve gives nothing to anybody. -/
theorem extends_of_not_resolves (lost : ¬ s.catalog.Resolves b.template) :
    { s with bindings := before ++ after }.Extends { s with bindings := before ++ b :: after } := by
  refine ⟨rfl, id, id, fun subject scope rule hrule => ?_, fun subject scope complete => ?_⟩
  · obtain ⟨x, hx, happlies, hresolves, hdeclares⟩ := Catalog.mem_picture_rules.1 hrule
    rcases mem_append_cons.1 hx with rfl | hx
    · exact absurd hresolves lost
    · exact Catalog.mem_picture_rules.2 ⟨x, hx, happlies, hresolves, hdeclares⟩
  · refine Catalog.picture_complete_iff.2 fun x hx happlies => ?_
    exact Catalog.picture_complete_iff.1 complete x (mem_append_cons.2 (.inr hx)) happlies

end

/-- Wherever in the list it is put, one more binding whose template resolves makes no denied answer
of an allowed one, and one whose template does not resolve makes no allowed answer of a denied one,
with an oracle or without. -/
theorem respond_with_binding (s : State) (before after : List Binding) (b : Binding)
    (kind : ReviewKind) (r : Review) :
    let fewer : State := { s with bindings := before ++ after }
    let more : State := { s with bindings := before ++ b :: after }
    (s.catalog.Resolves b.template →
      (fewer.respond kind r).allowed = true → (more.respond kind r).allowed = true) ∧
    (¬ s.catalog.Resolves b.template →
      (fewer.respond kind r).allowed = false → (more.respond kind r).allowed = false) := by
  intro fewer more
  constructor
  · intro resolves allowed
    exact (extends_of_resolves resolves).respond_allowed allowed
  · intro lost denied
    rw [← Bool.not_eq_true] at denied ⊢
    exact mt (extends_of_not_resolves lost).respond_allowed denied

/-- Carol may let Erin read as she may herself, but not make her an admin. As an admin she may do
both; as the holder of a template that is gone she may do neither. -/
theorem respond_with_binding_carol :
    let pods : Rule := { verbs := ["get"], groups := [""], resources := ["pods"] }
    let reader : Template := { name := "reader", rules := [pods], inherits := ["reader"] }
    let admin : Template := { name := "admin", rules := [.everything], inherits := ["reader"] }
    let s : State := { templates := .ofList [reader, admin] }
    let carol : Subject := { username := "carol", groups := .ofList ["staff"] }
    let before : List Binding := [⟨"a", .group "staff", "reader", none⟩]
    let after : List Binding := [⟨"b", .user "erin", "ghost", none⟩]
    let toAdmins : Binding := ⟨"c", .user "carol", "admin", none⟩
    let toGhosts : Binding := ⟨"c", .user "carol", "ghost", none⟩
    let of (bindings : List Binding) : State := { s with bindings }
    let review (template : String) : Review :=
      { uid := "1", operation := .create, user := carol,
        object := (⟨"d", .user "erin", template, none⟩ : Binding).toJson }
    s.catalog.Resolves "admin" ∧ ¬ s.catalog.Resolves "ghost" ∧
      ((of (before ++ after)).respond .bindings (review "reader")).allowed = true ∧
      ((of (before ++ after)).respond .bindings (review "admin")).allowed = false ∧
      ((of (before ++ toAdmins :: after)).respond .bindings (review "reader")).allowed = true ∧
      ((of (before ++ toAdmins :: after)).respond .bindings (review "admin")).allowed = true ∧
      ((of (before ++ toGhosts :: after)).respond .bindings (review "reader")).allowed = false ∧
      ((of (before ++ toGhosts :: after)).respond .bindings (review "admin")).allowed = false := by
  intro pods reader admin s carol before after toAdmins toGhosts of review
  have resolves : s.catalog.Resolves "admin" :=
    Catalog.resolve_ok_iff.1 ⟨⟨[.everything, pods], ["admin", "reader"]⟩, by decide +kernel⟩
  have lost : ¬ s.catalog.Resolves "ghost" := by
    intro h
    obtain ⟨t, ht⟩ := h "ghost" .refl
    have missing : s.catalog.lookup "ghost" = .error (.notFound .template "ghost") := by
      decide +kernel
    rw [missing] at ht
    cases ht
  have allowed : ((of (before ++ after)).respond .bindings (review "reader")).allowed = true := by
    decide +kernel
  have denied : ((of (before ++ after)).respond .bindings (review "admin")).allowed = false := by
    decide +kernel
  have raised :
      ((of (before ++ toAdmins :: after)).respond .bindings (review "admin")).allowed = true :=
    by decide +kernel
  have unknown : ((of (before ++ toGhosts :: after)).respond .bindings (review "reader")).allowed =
      false := by decide +kernel
  obtain ⟨still, -⟩ := respond_with_binding s before after toAdmins .bindings (review "reader")
  obtain ⟨-, never⟩ := respond_with_binding s before after toGhosts .bindings (review "admin")
  exact ⟨resolves, lost, allowed, denied, still resolves allowed, raised, unknown,
    never lost denied⟩

end GrantGate.State
