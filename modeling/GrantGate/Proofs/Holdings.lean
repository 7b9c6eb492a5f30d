import GrantGate.Binding.Holdings
import GrantGate.Proofs.Inheritance.Walk

namespace GrantGate

/-- One scope includes another if what holds in the first holds in the second. -/
def Scope.Includes (wide narrow : Scope) : Prop := wide = cluster ∨ wide = narrow

theorem Scope.includes_trans {a b c : Scope} (hab : a.Includes b) (hbc : b.Includes c) :
    a.Includes c := by
  rcases hab with rfl | rfl
  · exact .inl rfl
  · exact hbc

namespace Binding

/-- Where a binding says that it holds. -/
def ownScope (b : Binding) : Scope := .ofNamespace? b.inNamespace

private theorem holdsIn_iff {b : Binding} {scope : Scope} :
    b.holdsIn scope = true ↔ b.ownScope.Includes scope := by
  unfold holdsIn ownScope Scope.Includes
  cases Scope.ofNamespace? b.inNamespace with
  | cluster => simp
  | namespaced ns =>
    cases scope with
    | cluster => simp [Scope.namespace?]
    | namespaced n => simpa [Scope.namespace?] using eq_comm

theorem appliesTo_iff {b : Binding} {subject : Subject} {scope : Scope} :
    b.appliesTo subject scope = true ↔
      b.grantee.covers subject = true ∧ b.ownScope.Includes scope := by
  rw [appliesTo, Bool.and_eq_true, holdsIn_iff]

theorem appliesTo_of_includes {b : Binding} {subject : Subject} {wide narrow : Scope}
    (h : wide.Includes narrow) (happlies : b.appliesTo subject wide = true) :
    b.appliesTo subject narrow = true := by
  obtain ⟨covers, own⟩ := appliesTo_iff.1 happlies
  exact appliesTo_iff.2 ⟨covers, Scope.includes_trans own h⟩

/-- Of a subject only the name and the groups count. -/
theorem appliesTo_congr {subject subject' : Subject} (username : subject'.username = subject.username)
    (groups : subject'.groups = subject.groups) (b : Binding) (scope : Scope) :
    b.appliesTo subject' scope = b.appliesTo subject scope := by
  have covers : b.grantee.covers subject' = b.grantee.covers subject := by
    cases b.grantee with
    | user name => rw [Grantee.covers, Grantee.covers, username]
    | group name => rw [Grantee.covers, Grantee.covers, Subject.inGroup, Subject.inGroup, groups]
  rw [appliesTo, covers, appliesTo]

end Binding

namespace Catalog

/-- A look-up that fails has found no template. -/
def OnlyMisses (c : Catalog) : Prop := ∀ name e, c.lookup name = .error e → e.isNotFound = true

theorem onlyMisses_ofStore (ts : TemplateStore) : (ofStore ts).OnlyMisses := by
  intro name e h
  cases hf : ts.find? name with
  | none =>
    obtain rfl : Refusal.notFound .template name = e := by simpa [lookup, ofStore, hf] using h
    rfl
  | some t => simp [lookup, ofStore, hf] at h

variable {c : Catalog}

theorem OnlyMisses.isNotFound_of_resolve (h : c.OnlyMisses) {root : String} {e : Refusal}
    (he : (c.resolve root).result = .error e) : e.isNotFound = true := by
  cases hf : (c.trail [] [root]).failure with
  | none =>
    rw [result_resolve_of_done hf] at he
    cases he
  | some f =>
    obtain rfl : f.2 = e := by
      rw [result_resolve_of_failure hf] at he
      exact Except.error.inj he
    exact h f.1 f.2 (of_failure hf).1

/-- The rules that a template stands for; none if it does not resolve. -/
def rulesOf (c : Catalog) (root : String) : List Rule :=
  match (c.resolve root).result with
  | .ok set => set.rules
  | .error _ => []

/-- A binding that is left out, with the reason. -/
def skipped? (c : Catalog) (b : Binding) : Option Skipped :=
  match (c.resolve b.template).result with
  | .ok _ => none
  | .error e => some ⟨b.name, e⟩

private theorem mem_rulesOf {root : String} {rule : Rule} :
    rule ∈ c.rulesOf root ↔ c.Resolves root ∧ c.Declares root rule := by
  rw [← resolve_ok_iff, rulesOf]
  cases h : (c.resolve root).result with
  | ok set => simp [mem_rules_of_resolve h]
  | error e => simp

private theorem skipped?_eq_none_iff {b : Binding} :
    c.skipped? b = none ↔ c.Resolves b.template := by
  rw [← resolve_ok_iff, skipped?]
  cases h : (c.resolve b.template).result <;> simp

/-- Gathering goes past a binding whose template resolves or is not to be found. -/
def Tolerates (c : Catalog) (b : Binding) : Prop :=
  ∀ e, (c.resolve b.template).result = .error e → e.isNotFound = true

theorem result_gather {bindings : List Binding} (h : ∀ b ∈ bindings, c.Tolerates b) :
    (c.gather bindings).result =
      .ok (bindings.flatMap fun b => c.rulesOf b.template, bindings.filterMap c.skipped?) := by
  induction bindings with
  | nil => rfl
  | cons b rest ih =>
    have ih := ih fun b' hb' => h b' (List.mem_cons_of_mem b hb')
    rw [gather, Inquiry.result_bind]
    cases hr : (c.resolve b.template).result with
    | ok set => simp [Inquiry.attempt, hr, Except.bind, Inquiry.result_bind, ih, rulesOf, skipped?]
    | error e =>
      have he := h b List.mem_cons_self e hr
      simp [Inquiry.attempt, hr, he, Except.bind, Inquiry.result_bind, ih, rulesOf, skipped?]

/-- What a subject holds in a scope, as far as the bindings that apply there resolve. -/
def picture (c : Catalog) (bindings : List Binding) (subject : Subject) (scope : Scope) :
    Resolution :=
  let applicable := bindings.filter (·.appliesTo subject scope)
  let rules := applicable.flatMap fun b => c.rulesOf b.template
  let skipped := applicable.filterMap c.skipped?
  if skipped.isEmpty then .full rules
  else .partly rules ("; ".intercalate (skipped.map Skipped.render))

variable {bindings : List Binding} {subject : Subject} {scope : Scope}

theorem result_holdings_of_tolerated
    (h : ∀ b ∈ bindings.filter (·.appliesTo subject scope), c.Tolerates b) :
    (c.holdings bindings subject scope).result = .ok (c.picture bindings subject scope) := by
  rw [holdings, Inquiry.result_bind, result_gather h, picture]
  simp only [Except.bind]
  split <;> rfl

theorem result_holdings (h : c.OnlyMisses) :
    (c.holdings bindings subject scope).result = .ok (c.picture bindings subject scope) :=
  result_holdings_of_tolerated fun _ _ _ he => h.isNotFound_of_resolve he

/-- What is held is known from the bindings that apply and from what their templates resolve to. -/
theorem picture_congr {d : Catalog} {bindings' : List Binding}
    (applicable : bindings'.filter (·.appliesTo subject scope) =
      bindings.filter (·.appliesTo subject scope))
    (resolve : ∀ b ∈ bindings, b.appliesTo subject scope = true →
      d.resolve b.template = c.resolve b.template) :
    d.picture bindings' subject scope = c.picture bindings subject scope := by
  have same : ∀ b ∈ bindings.filter (·.appliesTo subject scope),
      d.resolve b.template = c.resolve b.template := by
    intro b hb
    obtain ⟨hmem, happlies⟩ := List.mem_filter.1 hb
    exact resolve b hmem happlies
  have rules : ((bindings.filter (·.appliesTo subject scope)).flatMap fun b => d.rulesOf b.template) =
      (bindings.filter (·.appliesTo subject scope)).flatMap fun b => c.rulesOf b.template := by
    refine List.flatMap_congr fun b hb => ?_
    rw [rulesOf, same b hb, rulesOf]
  have skipped : (bindings.filter (·.appliesTo subject scope)).filterMap d.skipped? =
      (bindings.filter (·.appliesTo subject scope)).filterMap c.skipped? := by
    refine List.filterMap_congr fun b hb => ?_
    rw [skipped?, same b hb, skipped?]
  simp only [picture, applicable, rules, skipped]

theorem picture_rules : (c.picture bindings subject scope).rules =
    (bindings.filter (·.appliesTo subject scope)).flatMap fun b => c.rulesOf b.template := by
  simp only [picture]
  split <;> rfl

theorem mem_picture_rules {rule : Rule} : rule ∈ (c.picture bindings subject scope).rules ↔
    ∃ b ∈ bindings, b.appliesTo subject scope = true ∧ c.Resolves b.template ∧
      c.Declares b.template rule := by
  simp only [picture_rules, List.mem_flatMap, List.mem_filter, mem_rulesOf, and_assoc]

/-- What is held in a scope is held in every scope that it includes. -/
theorem picture_rules_subset {wide narrow : Scope} (h : wide.Includes narrow) :
    (c.picture bindings subject wide).rules ⊆ (c.picture bindings subject narrow).rules := by
  intro rule hrule
  obtain ⟨b, hb, happlies, hresolves⟩ := mem_picture_rules.1 hrule
  exact mem_picture_rules.2 ⟨b, hb, Binding.appliesTo_of_includes h happlies, hresolves⟩

private theorem picture_complete : (c.picture bindings subject scope).complete =
    ((bindings.filter (·.appliesTo subject scope)).filterMap c.skipped?).isEmpty := by
  simp only [picture]
  split
  · simp_all [Resolution.full]
  · simp_all [Resolution.partly]

theorem picture_complete_iff : (c.picture bindings subject scope).complete = true ↔
    ∀ b ∈ bindings, b.appliesTo subject scope = true → c.Resolves b.template := by
  rw [picture_complete, List.isEmpty_iff, List.filterMap_eq_nil_iff]
  simp only [List.mem_filter, skipped?_eq_none_iff, and_imp]

end Catalog

end GrantGate
