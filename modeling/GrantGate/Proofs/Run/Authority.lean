import GrantGate.Proofs.Run.Integrity

namespace GrantGate.State

variable {s s' : State} {kind : ReviewKind} {r : Review} {t : Template} {rule : Rule}
  {subject : Subject} {scope : Scope} {access : Access}

theorem Step.oracleEnabled (step : Step s kind r s') : s'.oracleEnabled = s.oracleEnabled := by
  cases step <;> rfl

/-- The rules of a subject in a scope cover an access. -/
def Permits (s : State) (subject : Subject) (scope : Scope) (access : Access) : Prop :=
  ∃ held, (s.catalog.holdings s.bindings subject scope).result = .ok held ∧
    heldCover held.rules access.toRule = true

theorem permits_iff : s.Permits subject scope access ↔
    heldCover (s.picture subject scope).rules access.toRule = true := by
  simp [Permits, result_holdings]

private theorem permits_of_held (h : heldCover (s.picture subject scope).rules rule = true)
    (hcovers : rule.covers access.toRule = true) : s.Permits subject scope access := by
  obtain ⟨own, hown, howns⟩ := heldCover_iff.1 h
  exact permits_iff.2 (heldCover_iff.2 ⟨own, hown, Rule.covers_trans_of_no_urls rfl howns hcovers⟩)

private theorem Permits.exists_declared (h : s.Permits subject scope access) :
    ∃ b ∈ s.bindings, b.appliesTo subject scope = true ∧ ∃ rule,
      s.catalog.Declares b.template rule ∧ rule.covers access.toRule = true := by
  obtain ⟨rule, hrule, hcovers⟩ := heldCover_iff.1 (permits_iff.1 h)
  obtain ⟨b, hb, happlies, -, hdeclares⟩ := Catalog.mem_picture_rules.1 hrule
  exact ⟨b, hb, happlies, rule, hdeclares, hcovers⟩

/-- In a closed store a template that declares anything resolves. -/
private theorem permits_of_declared (closed : s.templates.Closed) {b : Binding}
    (hb : b ∈ s.bindings)
    (happlies : b.appliesTo subject scope = true) (hdeclares : s.catalog.Declares b.template rule)
    (hcovers : rule.covers access.toRule = true) : s.Permits subject scope access := by
  obtain ⟨t, ht⟩ := hdeclares.lookup_root
  have hstored : b.template ∈ s.templates.names :=
    Roster.mem_names_iff.2 ⟨t, Catalog.lookup_ofStore.1 ht⟩
  have hmem : rule ∈ (s.picture subject scope).rules :=
    Catalog.mem_picture_rules.2 ⟨b, hb, happlies, closed.resolves hstored, hdeclares⟩
  exact permits_iff.2 (heldCover_iff.2 ⟨rule, hmem, hcovers⟩)

private theorem permits_of_settle (noOracle : s.oracleEnabled = false) {g : Grant}
    (settled : (s.settle r g).result = .ok ()) (hscope : g.scope.Includes scope)
    (hrule : rule ∈ g.rules) (hcovers : rule.covers access.toRule = true) :
    s.Permits r.user scope access := by
  rcases held_or_waived_of_settle settled hscope hrule with held | waived
  · exact permits_of_held held hcovers
  · simp [waives, noOracle] at waived

/-- A write of a template lets nobody do what neither they nor the requester could do before. -/
private theorem permits_of_insert (closed : s.templates.Closed) (noOracle : s.oracleEnabled = false)
    (grant : s.AdmitsGrant r t) (h : (s.insertTemplate t).2.Permits subject scope access) :
    s.Permits subject scope access ∨ s.Permits r.user scope access := by
  obtain ⟨b, hb, happlies, rule, hdeclares, hcovers⟩ := h.exists_declared
  rcases Catalog.Declares.of_insert hdeclares with hbefore | hnew
  · exact .inl (permits_of_declared closed hb happlies hbefore hcovers)
  · obtain ⟨set, hset, settled⟩ := grant
    rw [catalog, Catalog.result_resolveDraft] at hset
    have hrule := (Catalog.mem_rules_of_resolve hset).2 hnew
    exact .inr (permits_of_settle noOracle settled (.inl rfl) hrule hcovers)

/-- Nobody gains by a store whose templates have become smaller. -/
private theorem permits_of_smaller {ts : TemplateStore} (closed : s.templates.Closed)
    (smaller : ∀ name t, ts.find? name = some t → ∃ t', s.templates.find? name = some t' ∧
      t.rules ⊆ t'.rules ∧ t.inherits ⊆ t'.inherits)
    (h : { s with templates := ts }.Permits subject scope access) :
    s.Permits subject scope access := by
  obtain ⟨b, hb, happlies, rule, hdeclares, hcovers⟩ := h.exists_declared
  refine permits_of_declared closed hb happlies (hdeclares.mono ?_) hcovers
  intro name t ht
  obtain ⟨t', ht', hsub⟩ := smaller name t (Catalog.lookup_ofStore.1 ht)
  exact ⟨t', Catalog.lookup_ofStore.2 ht', hsub⟩

private theorem permits_of_bindings {bindings : List Binding} (closed : s.templates.Closed)
    (h : { s with bindings }.Permits subject scope access)
    (hb : ∀ b ∈ bindings, b.appliesTo subject scope = true → ∃ b' ∈ s.bindings,
      b'.appliesTo subject scope = true ∧ b'.template = b.template) :
    s.Permits subject scope access := by
  obtain ⟨b, hmem, happlies, rule, hdeclares, hcovers⟩ := h.exists_declared
  obtain ⟨b', hmem', happlies', htemplate⟩ := hb b hmem happlies
  exact permits_of_declared closed hmem' happlies' (htemplate ▸ hdeclares) hcovers

/-- What somebody may do after a review, they or the requester could do before. -/
theorem Step.permits (step : Step s kind r s') (known : s.Knows kind r)
    (closed : s.templates.Closed) (noOracle : s.oracleEnabled = false)
    (h : s'.Permits subject scope access) :
    s.Permits subject scope access ∨ s.Permits r.user scope access := by
  cases step with
  | unchanged => exact .inl h
  | @createBinding _ b t set _ _ _ _ _ _ resolves settled =>
    obtain ⟨b', hb', happlies, rule, hdeclares, hcovers⟩ := h.exists_declared
    rcases List.mem_append.1 hb' with hb' | hb'
    · exact .inl (permits_of_declared closed hb' happlies hdeclares hcovers)
    · obtain rfl := List.mem_singleton.1 hb'
      -- the placed binding holds in the scope that it has been checked in
      have hscope : (b.reviewScope r).Includes scope := (Binding.appliesTo_iff.1 happlies).2
      have hrule : rule ∈ set.rules := (Catalog.mem_rules_of_resolve resolves).2 hdeclares
      exact .inr (permits_of_settle noOracle settled hscope hrule hcovers)
  | @updateBinding _ new old update _ readsOld template grantee inNamespace =>
    refine .inl (permits_of_bindings closed h fun b hb happlies => ?_)
    rcases mem_of_mem_replace hb with hb | rfl
    · exact ⟨b, hb, happlies, rfl⟩
    · refine ⟨old, known update _ readsOld, ?_, template⟩
      rw [Binding.appliesTo_iff, Binding.ownScope] at happlies ⊢
      rwa [grantee, inNamespace]
  | deleteBinding =>
    exact .inl (permits_of_bindings closed h fun b hb happlies =>
      ⟨b, List.mem_of_mem_eraseP hb, happlies, rfl⟩)
  | createTemplate _ _ _ _ grant => exact permits_of_insert closed noOracle grant h
  | @updateTemplate _ new old update _ readsOld _ name _ _ grant =>
    rcases grant with ⟨hrules, hinherits⟩ | grant
    · refine .inl (permits_of_smaller closed (fun n u hu => ?_) h)
      rw [Roster.find?_insert] at hu
      by_cases hn : new.name = n
      · obtain rfl : new = u := by simpa [hn] using hu
        subst hn
        exact ⟨old, name ▸ known update _ readsOld, by rw [hrules]; exact .refl _,
          by rw [hinherits]; exact .refl _⟩
      · rw [if_neg hn] at hu
        exact ⟨u, hu, .refl _, .refl _⟩
    · exact permits_of_insert closed noOracle grant h
  | deleteTemplate =>
    refine .inl (permits_of_smaller closed (fun n u hu => ?_) h)
    rw [Roster.find?_erase] at hu
    split at hu
    · cases hu
    · exact ⟨u, hu, .refl _, .refl _⟩

/-- What somebody may do after a run of reviews, they or one of the requesters could do before. -/
theorem permits_of_permits_run (closed : s.templates.Closed) (noOracle : s.oracleEnabled = false)
    {reviews : List (ReviewKind × Review)} (known : Throughout Knows s reviews)
    (h : (s.run reviews).Permits subject scope access) :
    s.Permits subject scope access ∨
      ∃ review ∈ reviews, s.Permits review.2.user scope access := by
  -- from the last review back: it handed on what its requester could do when it came
  induction reviews generalizing s with
  | nil => exact .inl h
  | cons review rest ih =>
    obtain ⟨kind, r⟩ := review
    obtain ⟨known, later⟩ := known
    have step : Step s kind r (s.enact kind r) := step_enact
    have before {subject : Subject} (h : (s.enact kind r).Permits subject scope access) :=
      step.permits known closed noOracle h
    rcases ih (step.closed known closed) (step.oracleEnabled.trans noOracle) later h with
      h | ⟨review, hmem, h⟩
    · exact (before h).imp_right fun h => ⟨_, List.mem_cons_self .., h⟩
    · rcases before h with h | h
      · exact .inr ⟨review, List.mem_cons_of_mem _ hmem, h⟩
      · exact .inr ⟨_, List.mem_cons_self .., h⟩

/-- Alice, who may see the pods of one team, lets Erin see them, and Erin lets Bob; Dave helps
himself in vain. -/
theorem permits_of_permits_run_viewers :
    let pods : Rule := { verbs := ["get"], groups := [""], resources := ["pods"] }
    let base : Template := { name := "base", reach := .project, rules := [pods] }
    let viewer : Template := { name := "viewer", reach := .project, inherits := ["base"] }
    let s : State :=
      { templates := .ofList [base, viewer],
        bindings := [⟨"a", .user "alice", "viewer", "team-a"⟩], oracleEnabled := false }
    let bind (requester grantee : String) : ReviewKind × Review :=
      (.bindings,
        { uid := "1", operation := .create, user := { username := requester },
          inNamespace := "team-a",
          object := (⟨grantee, .user grantee, "viewer", none⟩ : Binding).toJson })
    let reviews := [bind "alice" "erin", bind "erin" "bob", bind "dave" "dave"]
    let access : Access := ⟨"get", "", "pods", "web", "team-a"⟩
    s.templates.Closed ∧ s.oracleEnabled = false ∧ Throughout Knows s reviews ∧
      (s.run reviews).Permits { username := "bob" } access.scope access ∧
      (s.Permits { username := "bob" } access.scope access ∨
        ∃ review ∈ reviews, s.Permits review.2.user access.scope access) := by
  intro pods base viewer s bind reviews access
  have closed : s.templates.Closed := by unfold TemplateStore.Closed; decide +kernel
  have known : Throughout Knows s reviews := by decide +kernel
  have h : (s.run reviews).Permits { username := "bob" } access.scope access :=
    permits_iff.2 (by decide +kernel)
  exact ⟨closed, rfl, known, h, permits_of_permits_run closed rfl known h⟩

end GrantGate.State
