import GrantGate.Proofs.Coverage.Chains

namespace GrantGate

section Dimensions

variable {owned owned' requested requested' : List String}

private theorem dimensionCovers_of_perm {matching : String → String → Bool} (ho : owned.Perm owned')
    (hr : requested.Perm requested') :
    dimensionCovers matching owned requested = dimensionCovers matching owned' requested' := by
  simp only [dimensionCovers, ho.any_eq, hr.all_eq]

private theorem namesCovered_of_perm (ho : owned.Perm owned') (hr : requested.Perm requested') :
    namesCovered owned requested = namesCovered owned' requested' := by
  have contains : owned.contains = owned'.contains := funext fun _ => ho.contains_eq
  rw [namesCovered, contains, ho.isEmpty_eq, hr.isEmpty_eq, hr.all_eq, namesCovered]

end Dimensions

namespace Rule

/-- The rules list the same entries, in each dimension in any order. -/
structure Reordered (a b : Rule) : Prop where
  verbs : a.verbs.Perm b.verbs
  groups : a.groups.Perm b.groups
  resources : a.resources.Perm b.resources
  names : a.names.Perm b.names
  urls : a.urls.Perm b.urls

namespace Reordered

variable {a a' b b' : Rule}

theorem refl (a : Rule) : a.Reordered a := ⟨.refl _, .refl _, .refl _, .refl _, .refl _⟩

theorem symm (h : a.Reordered b) : b.Reordered a :=
  ⟨h.verbs.symm, h.groups.symm, h.resources.symm, h.names.symm, h.urls.symm⟩

private theorem grantsAllResources_eq (h : a.Reordered a') :
    a.grantsAllResources = a'.grantsAllResources := by
  simp only [grantsAllResources, h.groups.contains_eq, h.resources.contains_eq,
    h.names.isEmpty_eq, h.names.contains_eq]

theorem covers_eq (ha : a.Reordered a') (hb : b.Reordered b') : a.covers b = a'.covers b' := by
  simp only [covers, ha.grantsAllResources_eq, dimensionCovers_of_perm ha.verbs hb.verbs,
    dimensionCovers_of_perm ha.groups hb.groups,
    dimensionCovers_of_perm ha.resources hb.resources, namesCovered_of_perm ha.names hb.names,
    dimensionCovers_of_perm ha.urls hb.urls]

end Reordered

end Rule

/-- The lists name the same rules: each rule of one occurs in the other, perhaps reordered. -/
structure SameRules (rules rules' : List Rule) : Prop where
  left : ∀ rule ∈ rules, ∃ rule' ∈ rules', rule.Reordered rule'
  right : ∀ rule' ∈ rules', ∃ rule ∈ rules, rule.Reordered rule'

namespace SameRules

variable {held held' wanted wanted' : List Rule} {rule rule' : Rule}

theorem symm (h : SameRules held held') : SameRules held' held where
  left rule' hrule' := by
    obtain ⟨rule, hrule, same⟩ := h.right rule' hrule'
    exact ⟨rule, hrule, same.symm⟩
  right rule hrule := by
    obtain ⟨rule', hrule', same⟩ := h.left rule hrule
    exact ⟨rule', hrule', same.symm⟩

theorem eq_nil (h : SameRules held held') (nil : held = []) : held' = [] := by
  refine List.eq_nil_iff_forall_not_mem.2 fun rule' hrule' => ?_
  obtain ⟨rule, hrule, -⟩ := h.right rule' hrule'
  exact List.not_mem_nil (nil ▸ hrule)

theorem heldCover (h : SameRules held held') (same : rule.Reordered rule')
    (covered : heldCover held rule = true) : heldCover held' rule' = true := by
  obtain ⟨own, hown, hcovers⟩ := heldCover_iff.1 covered
  obtain ⟨own', hown', sameOwn⟩ := h.left own hown
  exact heldCover_iff.2 ⟨own', hown', sameOwn.covers_eq same ▸ hcovers⟩

theorem heldCoverAll (h : SameRules held held') (hw : SameRules wanted wanted')
    (covered : heldCoverAll held wanted = true) : heldCoverAll held' wanted' = true := by
  refine heldCoverAll_iff.2 fun rule' hrule' => ?_
  obtain ⟨rule, hrule, same⟩ := hw.right rule' hrule'
  exact h.heldCover same (heldCoverAll_iff.1 covered rule hrule)

end SameRules

end GrantGate
