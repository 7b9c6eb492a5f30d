import GrantGate.Proofs.Escalation.Settling

namespace GrantGate

theorem Scope.ofNamespace?_namespace? (ns : Option String) :
    ofNamespace? (ofNamespace? ns).namespace? = ofNamespace? ns := by
  cases ns with
  | none => rfl
  | some name => by_cases h : name = "" <;> simp [ofNamespace?, namespace?, h]

namespace State

/-- A template that declares the rule is within reach of a binding that applies there, and all
within its reach is stored. -/
def Holds (s : State) (subject : Subject) (scope : Scope) (rule : Rule) : Prop :=
  ∃ b ∈ s.bindings, b.appliesTo subject scope = true ∧ s.catalog.Resolves b.template ∧
    s.catalog.Declares b.template rule

inductive Entitled (s : State) (subject : Subject) (scope : Scope) (given : Rule → Prop)
    (bypass : Rule) : Prop
  /-- There is nothing to hand out. -/
  | nothing (none : ∀ rule, ¬ given rule)
  /-- No binding of the subject there is left out, and each rule is covered by a single one held. -/
  | held (known : ∀ b ∈ s.bindings, b.appliesTo subject scope = true →
        s.catalog.Resolves b.template)
      (covered : ∀ rule, given rule → ∃ own, s.Holds subject scope own ∧ own.covers rule = true)
  /-- There is an oracle, and what is known to be held covers the bypass. -/
  | waived (oracle : s.oracleEnabled = true)
      (covered : ∃ own, s.Holds subject scope own ∧ own.covers bypass = true)

variable {s : State} {subject : Subject} {scope : Scope} {rule : Rule} {g : Grant} {access : Access}

private theorem heldCover_picture_iff : heldCover (s.picture subject scope).rules rule = true ↔
    ∃ own, s.Holds subject scope own ∧ own.covers rule = true := by
  simp only [heldCover_iff, picture, Catalog.mem_picture_rules, Holds]

private theorem waives_iff (bypass : g.bypass = some access) (here : access.scope = scope) :
    s.waives subject g = true ↔ s.oracleEnabled = true ∧
      ∃ own, s.Holds subject scope own ∧ own.covers access.toRule = true := by
  rw [waives, bypass, Bool.and_eq_true, Option.any_some, here, heldCover_picture_iff]

private theorem lacking_eq_nil_iff_held (hg : g.rules ≠ []) : s.lacking subject g = [] ↔
    (∀ b ∈ s.bindings, b.appliesTo subject g.scope = true → s.catalog.Resolves b.template) ∧
      ∀ rule ∈ g.rules, ∃ own, s.Holds subject g.scope own ∧ own.covers rule = true := by
  have hcomplete : (s.picture subject g.scope).complete = true ↔
      ∀ b ∈ s.bindings, b.appliesTo subject g.scope = true → s.catalog.Resolves b.template :=
    Catalog.picture_complete_iff
  simp only [lacking_eq_nil_iff hg, hcomplete, heldCoverAll_iff, heldCover_picture_iff]

/-- Who may hand out the rules of a grant, if the bypass is asked for where the grant takes
effect. -/
theorem settle_ok_iff_entitled {r : Review} (up : s.shutDown = false)
    (bypass : g.bypass = some access) (here : access.scope = g.scope) :
    (s.settle r g).result = .ok () ↔
      s.Entitled r.user g.scope (fun rule => rule ∈ g.rules) access.toRule := by
  rw [settle_ok_iff, waives_iff bypass here]
  constructor
  · intro h
    by_cases hg : g.rules = []
    · exact .nothing fun rule hrule => by simp [hg] at hrule
    obtain ⟨-, hlacking | ⟨horacle, hwaived⟩⟩ := h.resolve_left hg
    · obtain ⟨known, covered⟩ := (lacking_eq_nil_iff_held hg).1 hlacking
      exact .held known covered
    · exact .waived horacle hwaived
  · intro h
    by_cases hg : g.rules = []
    · exact .inl hg
    refine .inr ⟨up, ?_⟩
    cases h with
    | nothing none => exact absurd (List.eq_nil_iff_forall_not_mem.2 none) hg
    | held known covered => exact .inl ((lacking_eq_nil_iff_held hg).2 ⟨known, covered⟩)
    | waived oracle covered => exact .inr ⟨oracle, covered⟩

/-- Who may hand out all that a template stands for, be the template stored or not. -/
theorem settle_resolved_iff_entitled {r : Review} {c : Catalog} {root : String} {set : RuleSet}
    (up : s.shutDown = false) (resolves : (c.resolve root).result = .ok set)
    (here : access.scope = scope) : (s.settle r ⟨set.rules, scope, some access⟩).result = .ok () ↔
      s.Entitled r.user scope (c.Declares root) access.toRule := by
  have hgiven : (fun rule => rule ∈ set.rules) = c.Declares root :=
    funext fun _ => propext (Catalog.mem_rules_of_resolve resolves)
  rw [← hgiven]
  exact settle_ok_iff_entitled up rfl here

end State

end GrantGate
