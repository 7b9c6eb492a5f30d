import GrantGate.Proofs.Coverage.Chains
import GrantGate.Rule
import Mathlib.Algebra.Order.BigOperators.Group.List
import Mathlib.Algebra.Order.Ring.Nat

namespace GrantGate

/-- A name that a list does not hold: it is longer than all of them together. -/
private theorem exists_not_mem (names : List String) : ∃ name : String, name ∉ names := by
  refine ⟨String.ofList (List.replicate ((names.map String.length).sum + 1) 'a'), fun h => ?_⟩
  have hle := List.le_sum_of_mem (List.mem_map_of_mem (f := String.length) h)
  simp at hle

namespace Rule

theorem covers_toRule_iff {c : Rule} {r : Access} :
    c.covers r.toRule = true ↔ (∃ v ∈ c.verbs, matchesExactly v r.verb = true) ∧
      (c.grantsAllResources = true ∨ (∃ g ∈ c.groups, matchesExactly g r.group = true) ∧
        (∃ s ∈ c.resources, matchesResource s r.resource = true) ∧
        (allNames c.names ∨ r.name ∈ c.names)) := by
  have hspan : c.Spans r.toRule ↔ (∃ g ∈ c.groups, matchesExactly g r.group = true) ∧
      (∃ s ∈ c.resources, matchesResource s r.resource = true) ∧
      (allNames c.names ∨ r.name ∈ c.names) := by
    have hn : namesCovered c.names r.toRule.names = true ↔ allNames c.names ∨ r.name ∈ c.names := by
      simp [namesCovered_iff, Access.toRule]
    constructor
    · intro h
      exact ⟨dimensionCovers_iff.1 h.groups r.group (by simp [Access.toRule]),
        dimensionCovers_iff.1 h.resources r.resource (by simp [Access.toRule]), hn.1 h.names⟩
    · intro h
      obtain ⟨hg, hs, h⟩ := h
      exact ⟨by simpa [dimensionCovers, Access.toRule] using hg,
        by simpa [dimensionCovers, Access.toRule] using hs, hn.2 h, rfl⟩
  rw [covers_iff, hspan]
  simp [dimensionCovers, Access.toRule]

/-- A rule permits each combination of its own entries, under any of its names. -/
theorem covers_toRule_of_mem {c : Rule} {r : Access} (hv : r.verb ∈ c.verbs)
    (hg : r.group ∈ c.groups) (hs : r.resource ∈ c.resources)
    (hn : allNames c.names ∨ r.name ∈ c.names) : c.covers r.toRule = true :=
  covers_toRule_iff.2 ⟨⟨_, hv, matchesExactly_refl _⟩,
    .inr ⟨⟨_, hg, matchesExactly_refl _⟩, ⟨_, hs, matchesResource_refl _⟩, hn⟩⟩

/-- Some name is wanted for certain. -/
private theorem exists_wanted_name (wanted : List String) :
    ∃ name, allNames wanted ∨ name ∈ wanted := by
  cases wanted with
  | nil => exact ⟨"", .inl (.inl rfl)⟩
  | cons name rest => exact ⟨name, .inr (by simp)⟩

/-- Names that are not covered show it on one of the names that are wanted. -/
private theorem exists_uncovered_name {owned wanted : List String}
    (h : namesCovered owned wanted ≠ true) :
    ∃ name, (allNames wanted ∨ name ∈ wanted) ∧ ¬ (allNames owned ∨ name ∈ owned) := by
  rw [Ne, namesCovered_iff, not_or] at h
  obtain ⟨ho, h⟩ := h
  by_cases hw : wanted = []
  · obtain ⟨name, hname⟩ := exists_not_mem owned
    exact ⟨name, .inl (.inl hw), not_or.2 ⟨ho, hname⟩⟩
  · have hex : ∃ name ∈ wanted, name ∉ owned := by simpa [hw] using h
    obtain ⟨name, mem, hname⟩ := hex
    exact ⟨name, .inr mem, not_or.2 ⟨ho, hname⟩⟩

/-- If every request that a resource rule permits is permitted, the rule is covered: each of its
entries occurs in a request, and so does a name that is not covered. -/
theorem covers_of_forall_toRule {o c : Rule} (hv : c.verbs ≠ []) (hg : c.groups ≠ [])
    (hs : c.resources ≠ []) (hu : c.urls = [])
    (h : ∀ r : Access, c.covers r.toRule = true → o.covers r.toRule = true) :
    o.covers c = true := by
  obtain ⟨v₀, hv₀⟩ := List.exists_mem_of_ne_nil _ hv
  obtain ⟨g₀, hg₀⟩ := List.exists_mem_of_ne_nil _ hg
  obtain ⟨s₀, hs₀⟩ := List.exists_mem_of_ne_nil _ hs
  obtain ⟨n₀, hn₀⟩ := exists_wanted_name c.names
  have probe (v g s n : String) (hv : v ∈ c.verbs) (hg : g ∈ c.groups) (hs : s ∈ c.resources)
      (hn : allNames c.names ∨ n ∈ c.names) :=
    covers_toRule_iff.1 (h ⟨v, g, s, n, none⟩ (covers_toRule_of_mem hv hg hs hn))
  refine covers_iff.2 ⟨dimensionCovers_iff.2 fun v hv => (probe v g₀ s₀ n₀ hv hg₀ hs₀ hn₀).1, ?_⟩
  by_cases ho : o.grantsAllResources = true
  · exact .inl ho
  refine .inr ⟨dimensionCovers_iff.2 fun g hg => ?_, dimensionCovers_iff.2 fun s hs => ?_, ?_, ?_⟩
  · exact ((probe v₀ g s₀ n₀ hv₀ hg hs₀ hn₀).2.resolve_left ho).1
  · exact ((probe v₀ g₀ s n₀ hv₀ hg₀ hs hn₀).2.resolve_left ho).2.1
  · by_contra hn
    obtain ⟨name, hname, hno⟩ := exists_uncovered_name hn
    exact hno ((probe v₀ g₀ s₀ name hv₀ hg₀ hs₀ hname).2.resolve_left ho).2.2
  · rw [hu]; rfl

/-- The rule for one verb on one URL. -/
def ofUrl (verb url : String) : Rule := { verbs := [verb], urls := [url] }

/-- Whether there is anything that a rule permits: a request on an object, or a verb on a URL. -/
def PermitsSome (r : Rule) : Prop :=
  (∃ a : Access, r.covers a.toRule = true) ∨ ∃ verb url, r.covers (ofUrl verb url) = true

theorem exists_covers_toRule_iff {r : Rule} : (∃ a : Access, r.covers a.toRule = true) ↔
    r.verbs ≠ [] ∧ r.groups ≠ [] ∧ r.resources ≠ [] := by
  constructor
  · intro h
    obtain ⟨a, ha⟩ := h
    obtain ⟨⟨v, hv, -⟩, hall | ⟨⟨g, hg, -⟩, ⟨s, hs, -⟩, -⟩⟩ := covers_toRule_iff.1 ha
    · obtain ⟨hg, hs, -⟩ := grantsAllResources_iff.1 hall
      exact ⟨List.ne_nil_of_mem hv, List.ne_nil_of_mem hg, List.ne_nil_of_mem hs⟩
    · exact ⟨List.ne_nil_of_mem hv, List.ne_nil_of_mem hg, List.ne_nil_of_mem hs⟩
  · intro h
    obtain ⟨hv, hg, hs⟩ := h
    obtain ⟨v, hv⟩ := List.exists_mem_of_ne_nil _ hv
    obtain ⟨g, hg⟩ := List.exists_mem_of_ne_nil _ hg
    obtain ⟨s, hs⟩ := List.exists_mem_of_ne_nil _ hs
    obtain ⟨n, hn⟩ := exists_wanted_name r.names
    exact ⟨⟨v, g, s, n, none⟩, covers_toRule_of_mem hv hg hs hn⟩

/-- A rule that grants all resources takes in the URLs. Any other one has to list some, and to leave
the names open, for a request on a URL has no name. -/
theorem exists_covers_ofUrl_iff {r : Rule} : (∃ verb url, r.covers (ofUrl verb url) = true) ↔
    r.verbs ≠ [] ∧ (r.grantsAllResources = true ∨ r.urls ≠ [] ∧ allNames r.names) := by
  have covered (verb url : String) : r.covers (ofUrl verb url) = true ↔
      (∃ v ∈ r.verbs, matchesExactly v verb = true) ∧ (r.grantsAllResources = true ∨
        allNames r.names ∧ ∃ u ∈ r.urls, matchesUrl u url = true) := by
    have hspan : r.Spans (ofUrl verb url) ↔
        allNames r.names ∧ ∃ u ∈ r.urls, matchesUrl u url = true := by
      have hn : namesCovered r.names (ofUrl verb url).names = true ↔ allNames r.names := by
        simp [namesCovered_iff, ofUrl]
      have hu : dimensionCovers matchesUrl r.urls (ofUrl verb url).urls = true ↔
          ∃ u ∈ r.urls, matchesUrl u url = true := by
        simp [dimensionCovers, ofUrl]
      exact ⟨fun h => ⟨hn.1 h.names, hu.1 h.urls⟩, fun h => ⟨rfl, rfl, hn.2 h.1, hu.2 h.2⟩⟩
    rw [covers_iff, hspan]
    simp [dimensionCovers, ofUrl]
  simp only [covered]
  constructor
  · intro h
    obtain ⟨verb, url, ⟨v, hv, -⟩, hall | ⟨hn, u, hu, -⟩⟩ := h
    · exact ⟨List.ne_nil_of_mem hv, .inl hall⟩
    · exact ⟨List.ne_nil_of_mem hv, .inr ⟨List.ne_nil_of_mem hu, hn⟩⟩
  · intro h
    obtain ⟨hv, h⟩ := h
    obtain ⟨v, hv⟩ := List.exists_mem_of_ne_nil _ hv
    rcases h with hall | ⟨hu, hn⟩
    · exact ⟨v, "", ⟨v, hv, matchesExactly_refl v⟩, .inl hall⟩
    · obtain ⟨u, hu⟩ := List.exists_mem_of_ne_nil _ hu
      exact ⟨v, u, ⟨v, hv, matchesExactly_refl v⟩, .inr ⟨hn, u, hu, matchesUrl_refl u⟩⟩

/-- What a rule has to say in order to permit anything. -/
theorem permitsSome_iff {r : Rule} : r.PermitsSome ↔ r.verbs ≠ [] ∧
    (r.groups ≠ [] ∧ r.resources ≠ [] ∨ r.urls ≠ [] ∧ allNames r.names) := by
  have hall (h : r.grantsAllResources = true) : r.groups ≠ [] ∧ r.resources ≠ [] := by
    obtain ⟨hg, hs, -⟩ := grantsAllResources_iff.1 h
    exact ⟨List.ne_nil_of_mem hg, List.ne_nil_of_mem hs⟩
  rw [PermitsSome, exists_covers_toRule_iff, exists_covers_ofUrl_iff]
  tauto

end Rule

/-- A covered rule permits no request that its owner does not permit; and a rule on resources that
asks for something in every dimension is covered exactly if that is so. -/
theorem covers_iff_forall_toRule (o c : Rule) :
    (o.covers c = true → ∀ r : Access, c.covers r.toRule = true → o.covers r.toRule = true) ∧
    (c.verbs ≠ [] → c.groups ≠ [] → c.resources ≠ [] → c.urls = [] →
      (o.covers c = true ↔ ∀ r : Access, c.covers r.toRule = true → o.covers r.toRule = true)) := by
  have hto : o.covers c = true → ∀ r : Access, c.covers r.toRule = true →
      o.covers r.toRule = true := by
    intro hoc r hcr
    exact Rule.covers_trans_of_no_urls rfl hoc hcr
  exact ⟨hto, fun hv hg hs hu => ⟨hto, Rule.covers_of_forall_toRule hv hg hs hu⟩⟩

/-- A rule for the `scale` of everything covers one for the `scale` of two kinds of objects. -/
theorem covers_iff_forall_toRule_scale :
    let held : Rule := { verbs := ["*"], groups := ["apps", "batch"], resources := ["*/scale"] }
    let given : Rule :=
      { verbs := ["get", "update"], groups := ["apps"],
        resources := ["deployments/scale", "replicasets/scale"], names := ["web"] }
    (given.verbs ≠ [] ∧ given.groups ≠ [] ∧ given.resources ≠ [] ∧ given.urls = []) ∧
      held.covers given = true ∧
      (held.covers given = true ↔
        ∀ r : Access, given.covers r.toRule = true → held.covers r.toRule = true) := by
  intro held given
  exact ⟨by decide, by decide, (covers_iff_forall_toRule held given).2 (by decide) (by decide)
    (by decide) (by decide)⟩

end GrantGate
