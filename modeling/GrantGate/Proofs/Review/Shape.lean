import GrantGate.Proofs.Coverage.Requests
import GrantGate.Proofs.Review.Plan

namespace GrantGate

/-- Verbs on resources, perhaps of some names only, or verbs on URLs. -/
def Rule.WellShaped (r : Rule) : Prop :=
  r.verbs ≠ [] ∧ (r.resources ≠ [] ∧ r.urls = [] ∨ r.resources = [] ∧ r.urls ≠ [] ∧ r.names = [])

def Template.WellShaped (t : Template) : Prop :=
  t.name ≠ "" ∧ ∀ rule ∈ t.rules, rule.WellShaped

private theorem Rule.flaw?_eq_none_iff {r : Rule} : r.flaw? = none ↔ r.WellShaped := by
  unfold Rule.WellShaped
  by_cases hv : r.verbs = []
  · simp [flaw?, hv]
  by_cases hr : r.resources = []
  · by_cases hu : r.urls = []
    · simp [flaw?, hv, hr, hu]
    · simp [flaw?, isNonResource, hv, hr, hu]
  · by_cases hu : r.urls = []
    · simp [flaw?, isNonResource, hv, hr, hu]
    · simp [flaw?, hv, hr, hu]

private theorem firstFlaw?_eq_none_iff {n : Nat} {rules : List Rule} :
    firstFlaw? n rules = none ↔ ∀ rule ∈ rules, rule.WellShaped := by
  induction rules generalizing n with
  | nil => simp [firstFlaw?]
  | cons rule rest ih =>
    rw [firstFlaw?, List.forall_mem_cons, ← Rule.flaw?_eq_none_iff]
    cases hf : rule.flaw? with
    | none => simp [ih]
    | some flaw => simp

namespace Template

theorem shapeComplaint?_eq_none_iff {t : Template} :
    t.shapeComplaint? = none ↔ t.WellShaped := by
  rw [shapeComplaint?, WellShaped, ← firstFlaw?_eq_none_iff (n := 0)]
  by_cases hn : t.name = ""
  · simp [hn]
  · simp [hn]

/-- A rule that passes the check of its shape permits something exactly if it is about URLs or names
a group for its resources. -/
theorem permitsSome_of_shape_iff {t : Template} (shaped : t.ensureShape.result = .ok ())
    {rule : Rule} (declared : rule ∈ t.rules) :
    rule.PermitsSome ↔ rule.resources = [] ∨ rule.groups ≠ [] := by
  have hshape : t.WellShaped := shapeComplaint?_eq_none_iff.1 (ensureShape_ok_iff.1 shaped)
  obtain ⟨hv, ⟨hs, hu⟩ | ⟨hs, hu, hn⟩⟩ := hshape.2 rule declared
  · simp [Rule.permitsSome_iff, hv, hs, hu]
  · have everyName : allNames rule.names := .inl hn
    simp [Rule.permitsSome_iff, hv, hs, hu, everyName]

/-- One rule is about the `scale` of whatever is called web or api in a group, the other about the
health of the server; each permits something. -/
theorem permitsSome_of_shape_scale :
    let scale : Rule :=
      { verbs := ["*"], groups := ["apps"], resources := ["*/scale"], names := ["web", "api"] }
    let health : Rule := { verbs := ["get"], urls := ["/healthz*"] }
    let t : Template := { name := "operator", rules := [scale, health] }
    t.ensureShape.result = .ok () ∧ scale.PermitsSome ∧ health.PermitsSome := by
  intro scale health t
  have shaped : t.ensureShape.result = .ok () := by decide
  have first : scale ∈ t.rules := by decide
  have second : health ∈ t.rules := by decide
  exact ⟨shaped, (permitsSome_of_shape_iff shaped first).2 (by decide),
    (permitsSome_of_shape_iff shaped second).2 (by decide)⟩

/-- The check lets pass a rule on the pods of no group, which permits nothing. -/
theorem pods_of_no_group_permit_nothing :
    let pods : Rule := { verbs := ["get"], resources := ["pods"] }
    let t : Template := { name := "viewer", rules := [pods] }
    t.ensureShape.result = .ok () ∧ pods ∈ t.rules ∧ ¬ pods.PermitsSome := by
  intro pods t
  have nothing : ¬ pods.PermitsSome := by simp [Rule.permitsSome_iff, pods]
  exact ⟨by decide, by decide, nothing⟩

end Template

end GrantGate
