import GrantGate.Proofs.Review.Codes
import GrantGate.Proofs.Review.Growth
import GrantGate.Proofs.Review.Isolation

namespace GrantGate

section

variable {ts : TemplateStore} {kind : ReviewKind} {r : Review} {f : Fault} {d : Denial}

/-- No guard takes what it finds for an escalation. -/
private theorem Barred.ne_escalation (h : Barred ts kind r f) : f ≠ .refused (.escalation d) := by
  rintro rfl
  cases h.fromGuard

private theorem Review.HandsOut.not_delete {t : Template} (h : r.HandsOut ts kind t) :
    r.operation ≠ .delete := by
  cases h with
  | bind create => simp [create]
  | write writes =>
    cases writes with
    | create create => simp [create]
    | update update => simp [update]

/-- A template without parents resolves once it is stored. -/
theorem Catalog.resolves_insert_of_no_parents {t : Template} (ts : TemplateStore)
    (alone : t.inherits = []) : (ofStore (ts.insert t)).Resolves t.name := by
  intro name reaches
  obtain rfl : name = t.name := by
    refine List.mem_singleton.1 (mem_of_reaches ?_ List.mem_cons_self reaches)
    intro child hchild u found parent inherits
    obtain rfl : child = t.name := List.mem_singleton.1 hchild
    rw [Roster.find?_insert, if_pos rfl] at found
    cases found
    rw [alone] at inherits
    cases inherits
  exact ⟨t, lookup_insert_self ts t⟩

end

namespace State

variable {s : State} {kind : ReviewKind} {r : Review} {g : Grant} {d : Denial} {name : String}

theorem held_ok_iff {subject : Subject} {scope : Scope} {held : Resolution} :
    s.held subject scope = .ok held ↔ s.shutDown = false ∧ s.picture subject scope = held := by
  have hcancelled : s.limits.cancelledBy s.clock = s.shutDown := by
    simp [Limits.cancelledBy, limits, clock]
  cases hs : s.shutDown with
  | true =>
    rw [hs] at hcancelled
    have hnoted : s.limits.cancelledBy (s.clock.note (.rulesFor subject.username scope)) = true :=
      hcancelled
    simp [State.held, query, resolver, Resolver.recorded, Catalog.resolver, Activity.run,
      Activity.unlessCancelled, hnoted]
  | false =>
    obtain ⟨log, hrun⟩ := s.resolver_answers subject scope s.clock (hcancelled.trans hs)
    simp [State.held, query, hrun]

/-- A grant is denied for what the requester lacks, and all that is lacking is listed. -/
private theorem of_settle_escalation (h : (s.settle r g).result = .error (.escalation d)) :
    s.shutDown = false ∧ d = ⟨r.user.username, r.user.groups.items, s.lacking r.user g,
      (s.picture r.user g.scope).incompleteReason⟩ := by
  rw [result_settle] at h
  split at h
  · cases h
  split at h
  · cases h
  rename_i up
  refine ⟨by simpa using up, ?_⟩
  rw [Verdict.toExcept] at h
  split at h
  · cases h
  rename_i denied
  obtain rfl : (s.verdict r.user g).denial r.user = d := Refusal.escalation.inj (Except.error.inj h)
  rw [verdict_allowed_iff, not_or] at denied
  simp [Verdict.denial, verdict, denied.1, denied.2, Verdict.deny]

private theorem lacking_of_complete (complete : (s.picture r.user g.scope).complete = true) :
    s.lacking r.user g = uncovered (s.picture r.user g.scope).rules g.rules := by
  rw [State.lacking, Grant.missing, if_pos complete]

/-- A grant is settled in a state in which the requester still holds what they have held, and has
been given what was lacking. -/
theorem settle_ok_of_supplied {s' : State} (up : s'.shutDown = false)
    (complete : (s.picture r.user g.scope).complete = true)
    (complete' : (s'.picture r.user g.scope).complete = true)
    (kept : (s.picture r.user g.scope).rules ⊆ (s'.picture r.user g.scope).rules)
    (given : s.lacking r.user g ⊆ (s'.picture r.user g.scope).rules) :
    (s'.settle r g).result = .ok () := by
  have covered : heldCoverAll (s'.picture r.user g.scope).rules g.rules = true := by
    rw [heldCoverAll_iff]
    intro rule hrule
    by_cases held : heldCover (s.picture r.user g.scope).rules rule = true
    · exact heldCover_of_subset kept held
    · have listed : rule ∈ s.lacking r.user g := by
        rw [lacking_of_complete complete, uncovered, List.mem_filter]
        exact ⟨hrule, by simpa using held⟩
      exact heldCover_iff.2 ⟨rule, given listed, Rule.covers_refl rule⟩
  rw [settle_ok_iff]
  by_cases hg : g.rules = []
  · exact .inl hg
  · exact .inr ⟨up, .inl ((lacking_eq_nil_iff hg).2 ⟨complete', covered⟩)⟩

/-- A review that is denied for an escalation has a grant for a plan, which is denied. -/
theorem exists_grant_of_escalation
    (h : (s.validate kind r).result = .error (.refused (.escalation d))) :
    ∃ g, (r.plan kind s.catalog).result = .ok (some g) ∧
      (s.settle r g).result = .error (.escalation d) := by
  rw [validate, Inquiry.bind_error_iff] at h
  obtain barred | ⟨p, planned, h⟩ := h
  · exact absurd rfl (plan_error_iff.1 barred).ne_escalation
  cases p with
  | none => cases h
  | some g =>
    obtain ⟨e, he, same⟩ := Inquiry.mapError_error_iff.1 h
    obtain rfl : e = .escalation d := Fault.refused.inj same
    exact ⟨g, planned, he⟩

/-- Nothing stored, and nothing that the review asks to write, mentions the name as that of a
template. -/
structure Unmentioned (s : State) (r : Review) (name : String) : Prop where
  stored : ∀ t ∈ s.templates.items, t.name ≠ name ∧ name ∉ t.inherits
  bound : ∀ b ∈ s.bindings, b.template ≠ name
  newBinding : ∀ b ∈ r.newBinding?, b.template ≠ name
  newTemplate : ∀ t ∈ r.newTemplate?, t.name ≠ name ∧ name ∉ t.inherits

namespace Unmentioned

private theorem not_inherits (h : s.Unmentioned r name) (child : String) :
    ¬ s.catalog.Inherits child name := by
  intro step
  obtain ⟨t, found, inherits⟩ := step
  exact (h.stored t (Roster.mem_of_find? (Catalog.lookup_ofStore.1 found))).2 inherits

private theorem not_inherits_drafted (h : s.Unmentioned r name) {t : Template}
    (reads : r.newTemplate? = some t) (child : String) : ¬ (s.drafted t).Inherits child name := by
  intro step
  obtain ⟨u, found, inherits⟩ := step
  rw [drafted, Catalog.lookup_ofStore, Roster.find?_insert] at found
  split at found
  · obtain rfl : t = u := Option.some_inj.1 found
    exact (h.newTemplate t reads).2 inherits
  · exact (h.stored u (Roster.mem_of_find? found)).2 inherits

theorem ne_of_consults (h : s.Unmentioned r name) {consulted : String}
    (hc : s.Consults kind r consulted) : consulted ≠ name := by
  rintro rfl
  cases hc with
  | @held _ _ b _ mem applies reaches =>
    rcases Relation.ReflTransGen.cases_tail reaches with same | ⟨child, -, step⟩
    · exact h.bound b mem same.symm
    · exact h.not_inherits child step
  | @bound _ b _ reads reaches =>
    rcases Relation.ReflTransGen.cases_tail reaches with same | ⟨child, -, step⟩
    · exact h.newBinding b reads same.symm
    · exact h.not_inherits child step
  | @written _ t _ reads reaches other =>
    rcases Relation.ReflTransGen.cases_tail reaches with same | ⟨child, -, step⟩
    · exact other same
    · exact h.not_inherits_drafted reads child step

/-- A template of a name that nothing mentions makes no difference to a review. -/
theorem agrees {t : Template} (h : s.Unmentioned r t.name) :
    s.Agrees { s with templates := s.templates.insert t } kind r := by
  refine ⟨rfl, rfl, rfl, fun consulted hc => ?_⟩
  have other : t.name ≠ consulted := (h.ne_of_consults hc).symm
  exact (Roster.find?_insert ..).trans (if_neg other)

end Unmentioned

/-- The state with one more template, and one more binding somewhere among the others. -/
def withBoundTemplate (s : State) (t : Template) (before : List Binding) (b : Binding)
    (after : List Binding) : State :=
  { s with templates := s.templates.insert t, bindings := before ++ b :: after }

/-- Who is bound to a template of a new name holds its rules beside what they have held, and of what
they hold no less is known. -/
theorem held_with_bound_template {t : Template} {b : Binding} {before after : List Binding}
    (fresh : s.Unmentioned r t.name) (alone : t.inherits = [])
    (bound : b.template = t.name) (applies : b.appliesTo r.user (r.checkedScope kind) = true)
    (among : s.bindings = before ++ after) :
    let old := s.picture r.user (r.checkedScope kind)
    let new := (s.withBoundTemplate t before b after).picture r.user (r.checkedScope kind)
    old.rules ⊆ new.rules ∧ t.rules ⊆ new.rules ∧ (old.complete = true → new.complete = true) := by
  intro old new
  let stored : State := { s with templates := s.templates.insert t }
  have same : stored.picture r.user (r.checkedScope kind) = old := fresh.agrees.picture
  have resolves : stored.catalog.Resolves b.template :=
    bound ▸ Catalog.resolves_insert_of_no_parents s.templates alone
  have more : (s.withBoundTemplate t before b after).Extends
      { stored with bindings := before ++ after } := extends_of_resolves resolves
  have unbound : ({ stored with bindings := before ++ after } : State) = stored := by
    rw [← among]
  rw [unbound] at more
  refine ⟨same ▸ more.held _ _, fun rule hrule => ?_, same ▸ more.complete _ _⟩
  have declares : stored.catalog.Declares b.template rule :=
    ⟨t.name, t, bound ▸ .refl, Catalog.lookup_insert_self s.templates t, hrule⟩
  exact Catalog.mem_picture_rules.2 ⟨b, by simp [withBoundTemplate], applies, resolves, declares⟩

/-- A denial of which all is known lists the rules that the review hands out and that no rule of the
requester covers, in the order of visits. A template of a name that nothing mentions, with these
rules and without parents, and a binding of the requester to it have the review answered with yes. -/
theorem denial_exact {s : State} {kind : ReviewKind} {r : Review} {d : Denial} {held : Resolution}
    (denied : (s.validate kind r).result = .error (.refused (.escalation d)))
    (known : s.held r.user (r.checkedScope kind) = .ok held) (complete : held.complete = true) :
    (∃ t set, r.HandsOut s.templates kind t ∧ (s.catalog.resolveDraft t).result = .ok set ∧
      d.uncovered = set.rules.filter fun rule => !held.rules.any (·.covers rule)) ∧
    ∀ (t : Template) (b : Binding) (before after : List Binding),
      s.Unmentioned r t.name → t.rules = d.uncovered → t.inherits = [] →
      b.template = t.name → b.appliesTo r.user (r.checkedScope kind) = true →
      s.bindings = before ++ after →
      ((s.withBoundTemplate t before b after).respond kind r).allowed = true := by
  obtain ⟨g, planned, settled⟩ := exists_grant_of_escalation denied
  obtain ⟨up, rfl⟩ := of_settle_escalation settled
  obtain ⟨-, rfl⟩ := held_ok_iff.1 known
  obtain ⟨here, -⟩ := scope_of_plan planned
  obtain ⟨handed, set, hands, resolves, rules⟩ := handsOut_of_plan planned
  rw [← here] at complete
  refine ⟨⟨handed, set, hands, resolves, ?_⟩, ?_⟩
  · rw [lacking_of_complete complete, rules, ← here]
    rfl
  · intro t b before after fresh remedy alone bound applies among
    let after' := s.withBoundTemplate t before b after
    obtain ⟨kept, given, stays⟩ := held_with_bound_template fresh alone bound applies among
    rw [← here] at kept given stays
    have planned' : (r.plan kind after'.catalog).result = .ok (some g) := by
      have same : r.plan kind after'.catalog = r.plan kind s.catalog :=
        fresh.agrees.plan hands.not_delete
      rw [same, planned]
    rw [remedy] at given
    have settled' : (after'.settle r g).result = .ok () :=
      settle_ok_of_supplied up complete (stays complete) kept given
    rw [respond_allowed_iff, admits_iff]
    refine ⟨some g, planned', fun g' same => ?_⟩
    cases same
    exact settled'

/-- Carol, who may see pods, may not let Erin see their logs as well, not even if she may bind the
template elsewhere. Bound to a template for the logs, she may. -/
theorem denial_exact_carol :
    let pods : Rule := { verbs := ["get"], groups := [""], resources := ["pods"] }
    let logs : Rule := { verbs := ["get"], groups := [""], resources := ["pods/log"] }
    let binds : Rule :=
      { verbs := ["bind"], groups := ["*"], resources := ["permissiontemplates"] }
    let viewer : Template :=
      { name := "viewer", reach := .project, rules := [logs, pods], inherits := ["logs"] }
    let logger : Template := { name := "logs", rules := [logs], inherits := ["viewer"] }
    let reader : Template := { name := "reader", rules := [pods] }
    let binder : Template := { name := "binder", rules := [binds] }
    let extra : Template := { name := "extra", rules := [logs, logs] }
    let carol : Subject := { username := "carol", groups := .ofList ["staff"] }
    let before : List Binding := [⟨"a", .group "staff", "reader", none⟩]
    let after : List Binding := [⟨"b", .user "carol", "binder", "team-b"⟩]
    let toExtra : Binding := ⟨"c", .user "carol", "extra", "team-a"⟩
    let s : State :=
      { templates := .ofList [viewer, logger, reader, binder], bindings := before ++ after }
    let toViewer : Binding := ⟨"d", .user "erin", "viewer", none⟩
    let r : Review :=
      { uid := "1", operation := .create, user := carol, inNamespace := "team-a",
        object := toViewer.toJson }
    let d : Denial := ⟨"carol", ["staff"], [logs, logs], none⟩
    (s.validate .bindings r).result = .error (.refused (.escalation d)) ∧
      s.held carol (.namespaced "team-a") = .ok (.full [pods]) ∧
      r.checkedScope .bindings = .namespaced "team-a" ∧ s.Unmentioned r "extra" ∧
      ((s.withBoundTemplate extra before toExtra after).respond .bindings r).allowed = true := by
  intro pods logs binds viewer logger reader binder extra carol before after toExtra s toViewer r d
  have denied : (s.validate .bindings r).result = .error (.refused (.escalation d)) := by
    decide +kernel
  have scope : r.checkedScope .bindings = .namespaced "team-a" := by decide +kernel
  have held : s.held carol (.namespaced "team-a") = .ok (.full [pods]) := by decide +kernel
  have reads : r.newBinding? = some toViewer := by decide +kernel
  have readsElse : r.newTemplate? = some { name := "d" } := by decide +kernel
  have fresh : s.Unmentioned r "extra" := by
    refine ⟨by decide +kernel, by decide, fun b hb => ?_, fun t ht => ?_⟩
    · obtain rfl : toViewer = b := Option.some_inj.1 (reads.symm.trans hb)
      decide
    · obtain rfl : { name := "d" } = t := Option.some_inj.1 (readsElse.symm.trans ht)
      decide
  have known : s.held r.user (r.checkedScope .bindings) = .ok (.full [pods]) := scope ▸ held
  have applies : toExtra.appliesTo r.user (r.checkedScope .bindings) = true := by
    rw [scope]
    decide +kernel
  obtain ⟨-, remedy⟩ := denial_exact denied known rfl
  exact ⟨denied, held, scope, fresh,
    remedy extra toExtra before after fresh rfl rfl rfl applies rfl⟩

end State

end GrantGate
