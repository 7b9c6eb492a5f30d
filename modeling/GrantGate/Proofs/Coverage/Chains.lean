import GrantGate.Proofs.Coverage.Matching
import Mathlib.Logic.Relation

namespace GrantGate

namespace Rule

/-- The comparison of two rules outside of their verbs, dimension by dimension. -/
structure Spans (a b : Rule) : Prop where
  groups : dimensionCovers matchesExactly a.groups b.groups = true
  resources : dimensionCovers matchesResource a.resources b.resources = true
  names : namesCovered a.names b.names = true
  urls : dimensionCovers matchesUrl a.urls b.urls = true

theorem covers_iff {a b : Rule} :
    a.covers b = true ↔ dimensionCovers matchesExactly a.verbs b.verbs = true ∧
      (a.grantsAllResources = true ∨ a.Spans b) := by
  simp only [covers, Bool.and_eq_true, Bool.or_eq_true]
  constructor
  · intro h
    obtain ⟨hv, h | ⟨⟨⟨hg, hr⟩, hn⟩, hu⟩⟩ := h
    · exact ⟨hv, .inl h⟩
    · exact ⟨hv, .inr ⟨hg, hr, hn, hu⟩⟩
  · intro h
    obtain ⟨hv, h | ⟨hg, hr, hn, hu⟩⟩ := h
    · exact ⟨hv, .inl h⟩
    · exact ⟨hv, .inr ⟨⟨⟨hg, hr⟩, hn⟩, hu⟩⟩

theorem grantsAllResources_iff {a : Rule} : a.grantsAllResources = true ↔
    wildcard ∈ a.groups ∧ wildcard ∈ a.resources ∧ allNames a.names := by
  simp [grantsAllResources, allNames, and_assoc]

theorem covers_refl (a : Rule) : a.covers a = true :=
  covers_iff.2 ⟨dimensionCovers_refl matchesExactly_refl _, .inr
    ⟨dimensionCovers_refl matchesExactly_refl _, dimensionCovers_refl matchesResource_refl _,
      namesCovered_refl _, dimensionCovers_refl matchesUrl_refl _⟩⟩

/-- Whoever reaches a rule for every resource reaches every resource. -/
private theorem grantsAllResources_of_spans {a b : Rule} (h : a.Spans b)
    (hb : b.grantsAllResources = true) : a.grantsAllResources = true := by
  obtain ⟨hg, hr, hn⟩ := grantsAllResources_iff.1 hb
  obtain ⟨g, hga, hgm⟩ := dimensionCovers_iff.1 h.groups wildcard hg
  obtain ⟨r, hra, hrm⟩ := dimensionCovers_iff.1 h.resources wildcard hr
  have hgw : g = wildcard := (matchesExactly_iff.1 hgm).elim id id
  have hrw : r = wildcard := eq_wildcard_of_matchesResource hrm
  exact grantsAllResources_iff.2 ⟨hgw ▸ hga, hrw ▸ hra, allNames_of_namesCovered h.names hn⟩

/-- Two coverings compose if the first rule matches the last one's URLs by itself. -/
theorem covers_trans_of_urls {a b c : Rule} (hab : a.covers b = true) (hbc : b.covers c = true)
    (hu : a.Spans b → b.Spans c → dimensionCovers matchesUrl a.urls c.urls = true) :
    a.covers c = true := by
  obtain ⟨hvab, hab⟩ := covers_iff.1 hab
  obtain ⟨hvbc, hbc⟩ := covers_iff.1 hbc
  have hv := dimensionCovers_trans hvab hvbc fun _ _ _ => matchesExactly_trans
  rcases hab with ha | hab
  · exact covers_iff.2 ⟨hv, .inl ha⟩
  rcases hbc with hb | hbc
  · exact covers_iff.2 ⟨hv, .inl (grantsAllResources_of_spans hab hb)⟩
  · exact covers_iff.2 ⟨hv, .inr
      ⟨dimensionCovers_trans hab.groups hbc.groups fun _ _ _ => matchesExactly_trans,
        dimensionCovers_trans hab.resources hbc.resources fun _ _ _ => matchesResource_trans,
        namesCovered_trans hab.names hbc.names, hu hab hbc⟩⟩

theorem covers_trans_of_no_urls {a b c : Rule} (hc : c.urls = []) (hab : a.covers b = true)
    (hbc : b.covers c = true) : a.covers c = true :=
  covers_trans_of_urls hab hbc fun _ _ => by rw [hc]; rfl

/-- Beside an entry `q**` stand entries that match all that begins with `q`, unless the rule reaches
every resource anyway. -/
def StarsCompose (a : Rule) : Prop :=
  a.grantsAllResources = true ∨ ∀ q : List Char, (∃ o ∈ a.urls, o.toList = q ++ ['*', '*']) →
    ∀ url : String, q <+: url.toList → ∃ o ∈ a.urls, matchesUrl o url = true

theorem starsCompose_of_no_doubled_star {a : Rule}
    (h : ∀ o ∈ a.urls, ¬ ['*', '*'] <:+ o.toList) : a.StarsCompose := by
  right
  intro q h
  obtain ⟨o, ho, hq⟩ := h
  exact absurd ⟨q, hq.symm⟩ (h o ho)

theorem StarsCompose.covers_trans {a b c : Rule} (ha : a.StarsCompose) (hab : a.covers b = true)
    (hbc : b.covers c = true) : a.covers c = true := by
  rcases ha with ha | ha
  · obtain ⟨hvab, -⟩ := covers_iff.1 hab
    obtain ⟨hvbc, -⟩ := covers_iff.1 hbc
    have hv := dimensionCovers_trans hvab hvbc fun _ _ _ => matchesExactly_trans
    exact covers_iff.2 ⟨hv, .inl ha⟩
  · refine covers_trans_of_urls hab hbc fun hab hbc => dimensionCovers_iff.2 fun url hurl => ?_
    obtain ⟨y, hy, hyu⟩ := dimensionCovers_iff.1 hbc.urls url hurl
    obtain ⟨x, hx, hxy⟩ := dimensionCovers_iff.1 hab.urls y hy
    rcases matchesUrl_trans hxy hyu with h | ⟨q, hq, hurl⟩
    · exact ⟨x, hx, h⟩
    · exact ha q ⟨x, hx, hq⟩ url hurl

/-- A rule that asks for URLs only, under the names of another rule. -/
def urlsLike (a : Rule) (urls : List String) : Rule := { names := a.names, urls }

private theorem covers_urlsLike {a b : Rule} {urls : List String}
    (hn : namesCovered a.names b.names = true)
    (h : dimensionCovers matchesUrl a.urls urls = true) : a.covers (b.urlsLike urls) = true :=
  covers_iff.2 ⟨rfl, .inr ⟨rfl, rfl, hn, h⟩⟩

/-- A rule whose coverings all compose has nothing to lose by a doubled star: otherwise `q*`, which
it covers, would cover a URL that it does not. -/
private theorem starsCompose_of_trans {a : Rule}
    (trans : ∀ b c : Rule, a.covers b = true → b.covers c = true → a.covers c = true) :
    a.StarsCompose := by
  by_cases ha : a.grantsAllResources = true
  · exact .inl ha
  right
  intro q hq url hurl
  obtain ⟨o, ho, hoq⟩ := hq
  let pattern := String.ofList (q ++ ['*'])
  have hp : pattern.toList = q ++ ['*'] := String.toList_ofList
  have hop : matchesUrl o pattern = true := by
    refine matchesUrl_iff.2 (.inr ⟨q ++ ['*'], ?_, ?_⟩)
    · simpa using hoq
    · simp [hp]
  have hpu : matchesUrl pattern url = true := matchesUrl_iff.2 (.inr ⟨q, hp, hurl⟩)
  have hab : a.covers (a.urlsLike [pattern]) = true :=
    covers_urlsLike (namesCovered_refl _) (dimensionCovers_iff.2 (by simpa using ⟨o, ho, hop⟩))
  have hbc : (a.urlsLike [pattern]).covers (a.urlsLike [url]) = true :=
    covers_urlsLike (namesCovered_refl _) (dimensionCovers_iff.2 (by simpa [urlsLike] using hpu))
  obtain ⟨-, h⟩ := covers_iff.1 (trans _ _ hab hbc)
  exact dimensionCovers_iff.1 (h.resolve_left ha).urls url (by simp [urlsLike])

end Rule

theorem heldCover_iff {held : List Rule} {c : Rule} :
    heldCover held c = true ↔ ∃ a ∈ held, a.covers c = true := by
  simp [heldCover]

/-- What some rules cover, more rules cover. -/
theorem heldCover_of_subset {held more : List Rule} {c : Rule} (h : held ⊆ more)
    (hc : heldCover held c = true) : heldCover more c = true := by
  obtain ⟨a, ha, hac⟩ := heldCover_iff.1 hc
  exact heldCover_iff.2 ⟨a, h ha, hac⟩

theorem heldCoverAll_iff {held wanted : List Rule} :
    heldCoverAll held wanted = true ↔ ∀ c ∈ wanted, heldCover held c = true := by
  simp [heldCoverAll]

/-- One step of a chain of delegations: what the next one holds, this one holds as well. -/
def Delegates (held given : List Rule) : Prop := heldCoverAll held given = true

theorem Delegates.heldCover {held given : List Rule} (h : Delegates held given) {c : Rule}
    (trans : ∀ a ∈ held, ∀ b ∈ given, a.covers b = true → b.covers c = true → a.covers c = true)
    (hc : heldCover given c = true) : heldCover held c = true := by
  obtain ⟨b, hb, hbc⟩ := heldCover_iff.1 hc
  obtain ⟨a, ha, hab⟩ := heldCover_iff.1 (heldCoverAll_iff.1 h b hb)
  exact heldCover_iff.2 ⟨a, ha, trans a ha b hb hab hbc⟩

private theorem heldCover_of_chain_of_no_urls {first last : List Rule} {c : Rule} (hc : c.urls = [])
    (chain : Relation.ReflTransGen Delegates first last) (h : heldCover last c = true) :
    heldCover first c = true := by
  induction chain using Relation.ReflTransGen.head_induction_on with
  | refl => exact h
  | head step _ ih => exact step.heldCover (fun _ _ _ _ => Rule.covers_trans_of_no_urls hc) ih

theorem heldCover_of_chain {first last : List Rule} (hf : ∀ a ∈ first, a.StarsCompose)
    (chain : Relation.ReflTransGen Delegates first last) {c : Rule} (h : heldCover last c = true) :
    heldCover first c = true := by
  induction chain generalizing c with
  | refl => exact h
  | tail _ step ih =>
    obtain ⟨b, hb, hbc⟩ := heldCover_iff.1 h
    obtain ⟨a, ha, hac⟩ := heldCover_iff.1 (ih (heldCoverAll_iff.1 step b hb))
    exact heldCover_iff.2 ⟨a, ha, (hf a ha).covers_trans hac hbc⟩

/-- Every rule covers itself. What it covers stays covered one step further exactly if doubled stars
compose in it, and always where no URLs are asked for. So no chain of delegations ends with more
than its first holder has, unless that is a URL and the first holder has a doubled star. -/
theorem covers_trans_iff_starsCompose (a : Rule) (held : List Rule) :
    a.covers a = true ∧
    ((∀ b c : Rule, a.covers b = true → b.covers c = true → a.covers c = true) ↔ a.StarsCompose) ∧
    (∀ b c : Rule, c.urls = [] → a.covers b = true → b.covers c = true → a.covers c = true) ∧
    ∀ (last : List Rule) (c : Rule), Relation.ReflTransGen Delegates held last →
      c.urls = [] ∨ (∀ own ∈ held, own.StarsCompose) → heldCover last c = true →
      heldCover held c = true := by
  refine ⟨Rule.covers_refl a, ⟨Rule.starsCompose_of_trans, ?_⟩, ?_, ?_⟩
  · intro ha b c hab hbc
    exact ha.covers_trans hab hbc
  · intro b c hc hab hbc
    exact Rule.covers_trans_of_no_urls hc hab hbc
  · intro last c chain hc h
    rcases hc with hc | hheld
    · exact heldCover_of_chain_of_no_urls hc chain h
    · exact heldCover_of_chain hheld chain h

/-- What is handed on below `/debug/` stays below it. -/
theorem covers_trans_below_debug :
    let first : Rule := { verbs := ["get", "head"], urls := ["/debug/*", "/metrics"] }
    let second : Rule := { verbs := ["get"], urls := ["/debug/pprof*"] }
    let wanted : Rule := { verbs := ["get"], urls := ["/debug/pprof/heap"] }
    (∀ a ∈ [first], a.StarsCompose) ∧ Relation.ReflTransGen Delegates [first] [second] ∧
      heldCover [second] wanted = true ∧ heldCover [first] wanted = true := by
  intro first second wanted
  have hf : ∀ a ∈ [first], a.StarsCompose := by
    intro a ha
    rw [List.mem_singleton.1 ha]
    exact Rule.starsCompose_of_no_doubled_star (by decide)
  have step : Delegates [first] [second] := by unfold Delegates; decide
  have chain : Relation.ReflTransGen Delegates [first] [second] := .single step
  have h : heldCover [second] wanted = true := by decide
  exact ⟨hf, chain, h,
    (covers_trans_iff_starsCompose first [first]).2.2.2 [second] wanted chain (.inr hf) h⟩

/-- A doubled star covers the single one but not all that the single one covers. -/
theorem covers_not_trans :
    let held : Rule := { verbs := ["get"], urls := ["/x**"] }
    let given : Rule := { verbs := ["get"], urls := ["/x*"] }
    let wanted : Rule := { verbs := ["get"], urls := ["/xy"] }
    held.covers given = true ∧ given.covers wanted = true ∧ held.covers wanted = false := by
  decide

end GrantGate
