import Mathlib.Data.List.Flatten
import GrantGate.Proofs.Holdings

namespace GrantGate

private theorem Binding.holdsIn_eq (b : Binding) (scope : Scope) :
    b.holdsIn scope = [none, some "", scope.namespace?].contains b.inNamespace := by
  unfold holdsIn
  cases b.inNamespace with
  | none => simp [Scope.ofNamespace?]
  | some ns =>
    by_cases empty : ns = ""
    · simp [Scope.ofNamespace?, empty]
    · simp [Scope.ofNamespace?, empty, Bool.beq_comm, beq_eq_decide]

namespace Catalog

variable {c : Catalog} {bindings : List Binding} {subject : Subject} {scope : Scope} {e : Refusal}

/-- The failure of a binding's template, other than that it is missing. -/
def FailsAt (c : Catalog) (b : Binding) (e : Refusal) : Prop :=
  (c.resolve b.template).result = .error e ∧ e.isNotFound = false

private theorem not_tolerates_iff {b : Binding} : ¬ c.Tolerates b ↔ ∃ e, c.FailsAt b e := by
  simp only [Tolerates, FailsAt, not_forall, Bool.not_eq_true, exists_prop]

/-- Gathering ends at the first failure that it does not go past, and asks nothing after it. -/
private theorem gather_of_fails {before : List Binding} {b : Binding} (after : List Binding)
    (h : ∀ b' ∈ before, c.Tolerates b') (hb : c.FailsAt b e) :
    (c.gather (before ++ b :: after)).result = .error e ∧
      (c.gather (before ++ b :: after)).events =
        (before ++ [b]).flatMap fun b' => (c.resolve b'.template).events := by
  induction before with
  | nil =>
    obtain ⟨hr, other⟩ := hb
    simp [gather, Inquiry.result_bind, Inquiry.events_bind, Inquiry.attempt, hr, other,
      Inquiry.refuse, Except.bind]
  | cons first before ih =>
    obtain ⟨result, events⟩ := ih fun b' hb' => h b' (List.mem_cons_of_mem first hb')
    rw [List.cons_append, List.cons_append, List.flatMap_cons, ← events, gather,
      Inquiry.result_bind, Inquiry.events_bind]
    cases hr : (c.resolve first.template).result with
    | ok set =>
      simp [Inquiry.attempt, hr, Inquiry.result_bind, Inquiry.events_bind, result, Except.bind]
    | error e' =>
      have missing : e'.isNotFound = true := h first List.mem_cons_self e' hr
      simp [Inquiry.attempt, hr, missing, Inquiry.result_bind, Inquiry.events_bind, result,
        Except.bind]

/-- Gathering goes past every binding, or there is a first one that it ends at. -/
theorem tolerated_or_fails (c : Catalog) (bindings : List Binding) :
    (∀ b ∈ bindings, c.Tolerates b) ∨ ∃ before b after e, bindings = before ++ b :: after ∧
      (∀ b' ∈ before, c.Tolerates b') ∧ c.FailsAt b e := by
  induction bindings with
  | nil => exact .inl (by simp)
  | cons first rest ih =>
    by_cases tolerated : c.Tolerates first
    · rcases ih with all | ⟨before, b, after, e, rfl, earlier, fails⟩
      · exact .inl (List.forall_mem_cons.2 ⟨tolerated, all⟩)
      · exact .inr ⟨first :: before, b, after, e, rfl, List.forall_mem_cons.2 ⟨tolerated, earlier⟩,
          fails⟩
    · obtain ⟨e, fails⟩ := not_tolerates_iff.1 tolerated
      exact .inr ⟨[], first, rest, e, rfl, by simp, fails⟩

theorem holdings_of_fails {before after : List Binding} {b : Binding}
    (applicable : bindings.filter (·.appliesTo subject scope) = before ++ b :: after)
    (h : ∀ b' ∈ before, c.Tolerates b') (hb : c.FailsAt b e) :
    (c.holdings bindings subject scope).result = .error e ∧
      (c.holdings bindings subject scope).events =
        (before ++ [b]).flatMap fun b' => (c.resolve b'.template).events := by
  have ends := gather_of_fails after h hb
  rw [← applicable] at ends
  rw [holdings, Inquiry.result_bind, Inquiry.events_bind, ends.1, ends.2]
  exact ⟨rfl, rfl⟩

/-- What is known of the rules that a subject holds: the bindings that apply, each in its turn. -/
theorem result_holdings_ok_iff {r : Resolution} :
    (c.holdings bindings subject scope).result = .ok r ↔
      (∀ b ∈ bindings.filter (·.appliesTo subject scope), c.Tolerates b) ∧
        r = c.picture bindings subject scope := by
  constructor
  · intro h
    rcases c.tolerated_or_fails (bindings.filter (·.appliesTo subject scope)) with
      all | ⟨before, b, after, e, applicable, earlier, fails⟩
    · rw [result_holdings_of_tolerated all] at h
      exact ⟨all, (Except.ok.inj h).symm⟩
    · rw [(holdings_of_fails applicable earlier fails).1] at h
      cases h
  · intro h
    obtain ⟨all, rfl⟩ := h
    exact result_holdings_of_tolerated all

theorem result_holdings_error_iff : (c.holdings bindings subject scope).result = .error e ↔
    ∃ before b, (∃ after, bindings.filter (·.appliesTo subject scope) = before ++ b :: after) ∧
      (∀ b' ∈ before, c.Tolerates b') ∧ c.FailsAt b e := by
  constructor
  · intro h
    rcases c.tolerated_or_fails (bindings.filter (·.appliesTo subject scope)) with
      all | ⟨before, b, after, e', applicable, earlier, fails⟩
    · rw [result_holdings_of_tolerated all] at h
      cases h
    · rw [(holdings_of_fails applicable earlier fails).1] at h
      obtain rfl : e' = e := Except.error.inj h
      exact ⟨before, b, ⟨after, applicable⟩, earlier, fails⟩
  · intro h
    obtain ⟨before, b, ⟨after, applicable⟩, earlier, fails⟩ := h
    exact (holdings_of_fails applicable earlier fails).1

/-- The bindings that apply in a scope apply in every one that it includes, in the same order. -/
private theorem applicable_sublist {wide narrow : Scope} (h : wide.Includes narrow) :
    (bindings.filter (·.appliesTo subject wide)).Sublist
      (bindings.filter (·.appliesTo subject narrow)) :=
  List.monotone_filter_right bindings fun _ => Binding.appliesTo_of_includes h

theorem picture_of_includes {wide narrow : Scope} (h : wide.Includes narrow) :
    (c.picture bindings subject wide).rules.Sublist (c.picture bindings subject narrow).rules ∧
      ((c.picture bindings subject narrow).complete = true →
        (c.picture bindings subject wide).complete = true) := by
  constructor
  · rw [picture_rules, picture_rules]
    exact (applicable_sublist h).flatMap _
  · intro complete
    rw [picture_complete_iff] at complete ⊢
    exact fun b hb happlies => complete b hb (Binding.appliesTo_of_includes h happlies)

private theorem eq_picture_iff {r : Resolution} {applicable : List Binding}
    (applies : applicable = bindings.filter (·.appliesTo subject scope)) :
    r = c.picture bindings subject scope ↔
      r.rules = (applicable.flatMap fun b => c.rulesOf b.template) ∧
      (r.complete = true ↔ ∀ b ∈ applicable, ∃ set, (c.resolve b.template).result = .ok set) ∧
      r.incompleteReason = if applicable.filterMap c.skipped? = [] then none else
        some ("; ".intercalate ((applicable.filterMap c.skipped?).map Skipped.render)) := by
  have complete : (c.picture bindings subject scope).complete = true ↔
      ∀ b ∈ applicable, ∃ set, (c.resolve b.template).result = .ok set := by
    simp only [picture_complete_iff, applies, List.mem_filter, and_imp, resolve_ok_iff]
  have reason : (c.picture bindings subject scope).incompleteReason =
      if applicable.filterMap c.skipped? = [] then none else
        some ("; ".intercalate ((applicable.filterMap c.skipped?).map Skipped.render)) := by
    simp only [picture, ← applies, List.isEmpty_iff]
    split <;> rfl
  rw [← complete, ← reason, ← Bool.eq_iff_iff, applies, ← picture_rules]
  constructor
  · rintro rfl
    exact ⟨rfl, rfl, rfl⟩
  · intro h
    obtain ⟨rules, complete, reason⟩ := h
    cases r
    congr

/-- Holdings are known exactly if every template that fails to resolve is missing. They are then the
rules of the bindings that apply, in the order of the bindings, complete exactly if none is left out;
what is left out is named with its reason, each in its turn. Any other failure is the answer, and
nothing is asked after it. Where holdings in a namespace are known, so are those in the whole cluster;
these are found among the former, in their order, and complete if those are. -/
theorem holdings_exact (c : Catalog) (bindings : List Binding) (subject : Subject) :
    (∀ scope : Scope,
      let applicable := bindings.filter fun b => b.grantee.covers subject &&
        [none, some "", scope.namespace?].contains b.inNamespace
      let resolved (b : Binding) := c.resolve b.template
      let skipped := applicable.filterMap c.skipped?
      let endsAt (before : List Binding) (b : Binding) (e : Refusal) : Prop :=
        (∃ after, applicable = before ++ b :: after) ∧
          (∀ b' ∈ before, ∀ e', (resolved b').result = .error e' → e'.isNotFound = true) ∧
          (resolved b).result = .error e ∧ e.isNotFound = false
      let held := c.holdings bindings subject scope
      (∀ r : Resolution, held.result = .ok r ↔
        (∀ b ∈ applicable, ∀ e, (resolved b).result = .error e → e.isNotFound = true) ∧
          r.rules = (applicable.flatMap fun b => c.rulesOf b.template) ∧
          (r.complete = true ↔ ∀ b ∈ applicable, ∃ set, (resolved b).result = .ok set) ∧
          r.incompleteReason = if skipped = [] then none else some ("; ".intercalate
            (skipped.map fun s => "binding " ++ Text.quote s.binding ++ ": " ++ s.reason.message))) ∧
      (∀ e, held.result = .error e ↔ ∃ before b, endsAt before b e) ∧
      ∀ before b e, endsAt before b e →
        held.events = (before ++ [b]).flatMap fun b' => (resolved b').events) ∧
    ∀ n rn, (c.holdings bindings subject (.namespaced n)).result = .ok rn →
      ∃ rc, (c.holdings bindings subject .cluster).result = .ok rc ∧
        rc.rules.Sublist rn.rules ∧ (rn.complete = true → rc.complete = true) := by
  constructor
  · intro scope applicable resolved skipped endsAt held
    have applies : applicable = bindings.filter (·.appliesTo subject scope) := by
      simp only [applicable, Binding.appliesTo, Binding.holdsIn_eq]
    refine ⟨fun r => ?_, fun e => ?_, fun before b e ends => ?_⟩
    · rw [result_holdings_ok_iff, ← applies, eq_picture_iff applies]
      rfl
    · rw [result_holdings_error_iff, ← applies]
      rfl
    · obtain ⟨⟨after, split⟩, earlier, fails⟩ := ends
      exact (holdings_of_fails (applies ▸ split) earlier fails).2
  · intro n rn h
    obtain ⟨tolerated, rfl⟩ := result_holdings_ok_iff.1 h
    have includes : Scope.cluster.Includes (.namespaced n) := .inl rfl
    have known : (c.holdings bindings subject .cluster).result = .ok _ :=
      result_holdings_of_tolerated fun b hb => tolerated b ((applicable_sublist includes).subset hb)
    exact ⟨_, known, picture_of_includes includes⟩

/-- Two bindings of one name have no template, and a look-up that fails keeps the holdings of
another user from being known. -/
theorem holdings_exact_outage :
    let read : Rule := { verbs := ["get"], resources := ["pods"] }
    let write : Rule := { verbs := ["update"], resources := ["pods"] }
    let view : Template := { name := "view", rules := [read] }
    let edit : Template := { name := "edit", rules := [write], inherits := ["view"] }
    let c : Catalog := { templates := .ofList [view, edit], outages := [("flaky", "timeout")] }
    let late : Binding := ⟨"late", .user "bob", "flaky", none⟩
    let bindings : List Binding :=
      [⟨"lost", .group "devs", "ghost", none⟩, ⟨"base", .user "ana", "view", some ""⟩,
        ⟨"lost", .user "ana", "ghost", some "web"⟩, ⟨"site", .user "ana", "edit", some "web"⟩,
        late, ⟨"past", .user "bob", "view", none⟩]
    let ana : Subject := { username := "ana", groups := .ofList ["devs"] }
    let bob : Subject := { username := "bob" }
    let missing := "binding \"lost\": template \"ghost\" not found"
    (c.holdings bindings ana (.namespaced "web")).result =
        .ok ⟨[read, write, read], false, some (missing ++ "; " ++ missing)⟩ ∧
      (∃ rc, (c.holdings bindings ana .cluster).result = .ok rc ∧
        rc.rules.Sublist [read, write, read]) ∧
      (c.holdings bindings bob .cluster).result = .error (.backend "timeout") ∧
      (c.holdings bindings bob .cluster).events = [.get "flaky"] := by
  intro read write view edit c late bindings ana bob missing
  have web : (c.holdings bindings ana (.namespaced "web")).result =
      .ok ⟨[read, write, read], false, some (missing ++ "; " ++ missing)⟩ := by
    decide +kernel
  obtain ⟨at_cluster, grows⟩ := holdings_exact c bindings ana
  obtain ⟨rc, known, sublist, -⟩ := grows "web" _ web
  refine ⟨web, ⟨rc, known, sublist⟩, ?_⟩
  have ends : ∃ after, bindings.filter (fun b => b.grantee.covers bob &&
      [none, some "", Scope.cluster.namespace?].contains b.inNamespace) = [] ++ late :: after :=
    ⟨_, rfl⟩
  have unresolved : (c.resolve late.template).result = .error (.backend "timeout") := by
    decide +kernel
  obtain ⟨-, failed, asked⟩ := (holdings_exact c bindings bob).1 .cluster
  have none_before : ∀ b' ∈ ([] : List Binding), ∀ e', (c.resolve b'.template).result = .error e' →
      e'.isNotFound = true := by simp
  have result := (failed _).2 ⟨[], late, ends, none_before, unresolved, rfl⟩
  have events := asked [] late _ ⟨ends, none_before, unresolved, rfl⟩
  exact ⟨result, events.trans (by decide +kernel)⟩

end Catalog

end GrantGate
