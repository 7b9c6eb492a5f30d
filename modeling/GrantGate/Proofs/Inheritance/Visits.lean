import GrantGate.Proofs.Inheritance.Distance

namespace GrantGate

/-- The rules that the template of a name declares itself; none if there is no such template. -/
def TemplateStore.declared (ts : TemplateStore) (name : String) : List Rule :=
  ((ts.find? name).map Template.rules).getD []

namespace Catalog

variable {c : Catalog} {ts us : TemplateStore} {roots roots' : List String} {name : String}

private theorem resolveAll_ok_iff : (∃ set, (c.resolveAll roots).result = .ok set) ↔
    ∀ name, c.ComesBy roots name → ∃ t, c.lookup name = .ok t := by
  rw [← failure_eq_none_iff]
  cases hf : (c.trail [] roots).failure with
  | none => simp [result_resolveAll_of_done hf]
  | some f => simp [result_resolveAll_of_failure hf]

theorem resolveAll_ofStore_ok_iff : (∃ set, ((ofStore ts).resolveAll roots).result = .ok set) ↔
    ∀ name, (ofStore ts).ComesBy roots name → name ∈ ts.names := by
  simp only [resolveAll_ok_iff, lookup_ofStore, Roster.mem_names_iff]

theorem of_resolveAll_ok {set : RuleSet} (h : (c.resolveAll roots).result = .ok set) :
    (c.trail [] roots).failure = none ∧ .ofTemplates (c.trail [] roots).visited = set := by
  cases hf : (c.trail [] roots).failure with
  | none =>
    rw [result_resolveAll_of_done hf] at h
    exact ⟨rfl, Except.ok.inj h⟩
  | some f =>
    rw [result_resolveAll_of_failure hf] at h
    cases h

private theorem lookups_of_done {seen queue : List String}
    (h : (c.trail seen queue).failure = none) :
    (c.trail seen queue).lookups = (c.trail seen queue).visited.map Template.name := by
  simp [Trail.lookups, h]

theorem mem_templates_iff {set : RuleSet} (h : (c.resolveAll roots).result = .ok set) :
    name ∈ set.templates ↔ c.ComesBy roots name := by
  obtain ⟨done, rfl⟩ := of_resolveAll_ok h
  constructor
  · intro hname
    obtain ⟨t, ht, rfl⟩ := List.mem_map.1 hname
    exact (of_mem_visited ht).2.2
  · intro hname
    obtain ⟨t, ht, rfl⟩ := mem_visited_of_comesBy done hname
    exact List.mem_map.2 ⟨t, ht, rfl⟩

theorem nodup_templates {set : RuleSet} (h : (c.resolveAll roots).result = .ok set) :
    set.templates.Nodup := by
  obtain ⟨done, rfl⟩ := of_resolveAll_ok h
  change ((c.trail [] roots).visited.map Template.name).Nodup
  rw [← lookups_of_done done]
  exact nodup_lookups

theorem pairwise_templates {set : RuleSet} (h : (c.resolveAll roots).result = .ok set) :
    set.templates.Pairwise fun a b => c.distance roots a ≤ c.distance roots b := by
  obtain ⟨done, rfl⟩ := of_resolveAll_ok h
  change ((c.trail [] roots).visited.map Template.name).Pairwise _
  rw [← lookups_of_done done]
  exact pairwise_lookups (.start c roots)

theorem rules_eq_flatMap_declared {set : RuleSet}
    (h : ((ofStore ts).resolveAll roots).result = .ok set) :
    set.rules = set.templates.flatMap ts.declared := by
  obtain ⟨-, rfl⟩ := of_resolveAll_ok h
  simp only [RuleSet.ofTemplates, List.flatMap_map]
  refine List.flatMap_congr fun t ht => ?_
  rw [TemplateStore.declared, lookup_ofStore.1 (of_mem_visited ht).1]
  rfl

theorem mem_rules_iff {set : RuleSet} (h : ((ofStore ts).resolveAll roots).result = .ok set)
    {rule : Rule} : rule ∈ set.rules ↔
      ∃ name, (ofStore ts).ComesBy roots name ∧ rule ∈ ts.declared name := by
  simp only [rules_eq_flatMap_declared h, List.mem_flatMap, mem_templates_iff h]

/-- Where resolving fails, it is for want of a template, and at a nearest name that has none. -/
theorem of_resolveAll_error {e : Refusal}
    (h : ((ofStore ts).resolveAll roots).result = .error e) :
    ∃ name, e = .notFound .template name ∧ (ofStore ts).ComesBy roots name ∧ name ∉ ts.names ∧
      ∀ other, (ofStore ts).ComesBy roots other → other ∉ ts.names →
        (ofStore ts).distance roots name ≤ (ofStore ts).distance roots other := by
  cases hf : ((ofStore ts).trail [] roots).failure with
  | none =>
    rw [result_resolveAll_of_done hf] at h
    cases h
  | some f =>
    obtain rfl : f.2 = e := Except.error.inj ((result_resolveAll_of_failure hf).symm.trans h)
    obtain ⟨hl, -, hcomes⟩ := of_failure hf
    have missing : ts.find? f.1 = none := by
      cases ht : ts.find? f.1 with
      | none => rfl
      | some t =>
        rw [lookup_ofStore.2 ht] at hl
        cases hl
    have refusal : Refusal.notFound .template f.1 = f.2 := by
      simpa [lookup, ofStore, missing] using hl
    refine ⟨f.1, refusal.symm, hcomes, ?_, fun other hother hmissing => ?_⟩
    · rw [Roster.mem_names_iff, missing]
      rintro ⟨t, ht⟩
      cases ht
    · refine distance_le_of_failure (.start _ roots) hf hother List.not_mem_nil fun t ht => ?_
      exact hmissing (Roster.mem_names_iff.2 ⟨t, lookup_ofStore.1 ht⟩)

/-- The templates and roots on the right are those on the left with more parents and more roots, all
of which are within reach on the left already: such as a root once more, and for a template itself,
a parent once more, or a name on the way to it. -/
structure AddsNothing (ts : TemplateStore) (roots : List String) (us : TemplateStore)
    (roots' : List String) : Prop where
  kept : roots ⊆ roots'
  within : ∀ root ∈ roots', (ofStore ts).ComesBy roots root
  templates : ∀ name, (ofStore ts).ComesBy roots name →
    Option.Rel (fun t u => t.rules = u.rules ∧ t.inherits ⊆ u.inherits ∧
      ∀ parent ∈ u.inherits, (ofStore ts).ComesBy roots parent) (ts.find? name) (us.find? name)

namespace AddsNothing

theorem comesBy (h : AddsNothing ts roots us roots') (hname : (ofStore ts).ComesBy roots name) :
    (ofStore us).ComesBy roots' name := by
  obtain ⟨q, hq, hr⟩ := hname
  refine ⟨q, h.kept hq, ?_⟩
  induction hr with
  | refl => exact .refl
  | @tail child parent hchild step ih =>
    obtain ⟨t, ht, hp⟩ := step
    have hrel := h.templates child ⟨q, hq, hchild⟩
    rw [lookup_ofStore.1 ht] at hrel
    generalize hu : us.find? child = found at hrel
    cases hrel with
    | some hsame => exact ih.tail ⟨_, lookup_ofStore.2 hu, hsame.2.1 hp⟩

private theorem comesBy_of (h : AddsNothing ts roots us roots')
    (hname : (ofStore us).ComesBy roots' name) :
    (ofStore ts).ComesBy roots name := by
  obtain ⟨q, hq, hr⟩ := hname
  induction hr with
  | refl => exact h.within q hq
  | @tail child parent _ step ih =>
    obtain ⟨u, hu, hp⟩ := step
    have hrel := h.templates child ih
    rw [lookup_ofStore.1 hu] at hrel
    generalize ts.find? child = found at hrel
    cases hrel with
    | some hsame => exact hsame.2.2 parent hp

theorem comesBy_iff (h : AddsNothing ts roots us roots') :
    (ofStore us).ComesBy roots' name ↔ (ofStore ts).ComesBy roots name :=
  ⟨h.comesBy_of, h.comesBy⟩

theorem mem_names_iff (h : AddsNothing ts roots us roots')
    (hname : (ofStore ts).ComesBy roots name) : name ∈ us.names ↔ name ∈ ts.names := by
  rw [Roster.mem_names_iff, Roster.mem_names_iff]
  have hrel := h.templates name hname
  generalize us.find? name = u at hrel
  generalize ts.find? name = t at hrel
  cases hrel with
  | none => simp
  | some => simp

private theorem declared_eq (h : AddsNothing ts roots us roots')
    (hname : (ofStore ts).ComesBy roots name) : us.declared name = ts.declared name := by
  rw [TemplateStore.declared, TemplateStore.declared]
  have hrel := h.templates name hname
  generalize us.find? name = u at hrel ⊢
  generalize ts.find? name = t at hrel ⊢
  cases hrel with
  | none => rfl
  | some hsame => exact hsame.1.symm

theorem resolves_iff (h : AddsNothing ts roots us roots') :
    (∃ set, ((ofStore us).resolveAll roots').result = .ok set) ↔
      ∃ set, ((ofStore ts).resolveAll roots).result = .ok set := by
  rw [resolveAll_ofStore_ok_iff, resolveAll_ofStore_ok_iff]
  refine forall_congr' fun name => ?_
  rw [h.comesBy_iff]
  exact imp_congr_right fun hname => h.mem_names_iff hname

theorem sameRules (h : AddsNothing ts roots us roots') {set set' : RuleSet}
    (hs : ((ofStore ts).resolveAll roots).result = .ok set)
    (hs' : ((ofStore us).resolveAll roots').result = .ok set') : set.sameRules set' = true := by
  have same (rule : Rule) : rule ∈ set.rules ↔ rule ∈ set'.rules := by
    rw [mem_rules_iff hs, mem_rules_iff hs']
    refine exists_congr fun name => ?_
    rw [h.comesBy_iff]
    exact and_congr_right fun hname => by rw [h.declared_eq hname]
  simp only [RuleSet.sameRules, Bool.and_eq_true, List.all_eq_true, List.contains_iff_mem]
  exact ⟨fun rule => (same rule).1, fun rule => (same rule).2⟩

end AddsNothing

/-- Names resolve exactly if all within their reach are stored, and then to these, each once, the
nearer ones first, and to their rules in this order; otherwise a nearest missing one is named.
Parents and roots within reach anyway change neither whether they resolve nor to which rules. -/
theorem resolveAll_exact (ts : TemplateStore) (roots : List String) :
    ((∃ set, ((ofStore ts).resolveAll roots).result = .ok set) ↔
      ∀ name, (ofStore ts).ComesBy roots name → name ∈ ts.names) ∧
    (∀ set, ((ofStore ts).resolveAll roots).result = .ok set →
      set.templates.Nodup ∧
      (∀ name, name ∈ set.templates ↔ (ofStore ts).ComesBy roots name) ∧
      (set.templates.Pairwise fun a b =>
        (ofStore ts).distance roots a ≤ (ofStore ts).distance roots b) ∧
      set.rules = set.templates.flatMap ts.declared) ∧
    (∀ e, ((ofStore ts).resolveAll roots).result = .error e →
      ∃ name, e = .notFound .template name ∧ (ofStore ts).ComesBy roots name ∧ name ∉ ts.names ∧
        ∀ other, (ofStore ts).ComesBy roots other → other ∉ ts.names →
          (ofStore ts).distance roots name ≤ (ofStore ts).distance roots other) ∧
    (∀ us roots', AddsNothing ts roots us roots' →
      ((∃ set, ((ofStore us).resolveAll roots').result = .ok set) ↔
        ∃ set, ((ofStore ts).resolveAll roots).result = .ok set) ∧
      ∀ set set', ((ofStore ts).resolveAll roots).result = .ok set →
        ((ofStore us).resolveAll roots').result = .ok set' → set.sameRules set' = true) := by
  refine ⟨resolveAll_ofStore_ok_iff, fun set h => ?_, fun e h => of_resolveAll_error h,
    fun us roots' h => ?_⟩
  · exact ⟨nodup_templates h, fun name => mem_templates_iff h, pairwise_templates h,
      rules_eq_flatMap_declared h⟩
  · exact ⟨h.resolves_iff, fun set set' hs hs' => h.sameRules hs hs'⟩

/-- A self-reference, a repeated parent, a back edge and repeated roots. -/
theorem resolveAll_exact_of_cycle :
    let ts : TemplateStore := .ofList [{ name := "a", inherits := ["b"] }, { name := "b" }]
    let us : TemplateStore :=
      .ofList [{ name := "a", inherits := ["b", "a", "b"] }, { name := "b", inherits := ["a"] }]
    AddsNothing ts ["a"] us ["a", "b", "a"] ∧
    ((∃ set, ((ofStore us).resolveAll ["a", "b", "a"]).result = .ok set) ↔
      ∃ set, ((ofStore ts).resolveAll ["a"]).result = .ok set) := by
  intro ts us
  have a_comes : (ofStore ts).ComesBy ["a"] "a" := ⟨"a", by decide, .refl⟩
  have b_comes : (ofStore ts).ComesBy ["a"] "b" :=
    ⟨"a", by decide, .single ⟨_, lookup_ofStore.2 (by rfl), by decide⟩⟩
  have all_come {names : List String} (h : names ⊆ ["a", "b"]) :
      ∀ name ∈ names, (ofStore ts).ComesBy ["a"] name := by
    intro name hname
    rcases List.mem_pair.1 (h hname) with rfl | rfl
    · exact a_comes
    · exact b_comes
  have no_others {name : String} (h : (ofStore ts).ComesBy ["a"] name) : name ∈ ["a", "b"] := by
    obtain ⟨root, hroot, hr⟩ := h
    obtain rfl := List.mem_singleton.1 hroot
    exact mem_of_reaches (by decide +kernel) (by decide) hr
  have adds : AddsNothing ts ["a"] us ["a", "b", "a"] := by
    refine ⟨by decide, all_come (by decide), fun name hname => ?_⟩
    rcases List.mem_pair.1 (no_others hname) with rfl | rfl
    · exact .some ⟨rfl, by decide, all_come (by decide)⟩
    · exact .some ⟨rfl, by decide, all_come (by decide)⟩
  exact ⟨adds, ((resolveAll_exact ts ["a"]).2.2.2 us _ adds).1⟩

end Catalog

end GrantGate
