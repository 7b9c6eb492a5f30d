import GrantGate.Proofs.Review.Admission

namespace GrantGate

instance (wide narrow : Scope) : Decidable (wide.Includes narrow) :=
  inferInstanceAs (Decidable (_ ∨ _))

private theorem Grantee.exists_covered (g : Grantee) : ∃ subject, g.covers subject = true := by
  cases g with
  | user name => exact ⟨{ username := name }, by simp [covers]⟩
  | group name =>
    refine ⟨{ username := "", groups := .ofList [name] }, ?_⟩
    simp [covers, Subject.inGroup, NameSet.contains, Roster.ofList, Roster.insert, Roster.place,
      Roster.empty]

namespace Binding

variable {b : Binding} {r : Review}

/-- The binding names a namespace, be it the empty one, or the review has none to offer. -/
def KeepsToReview (b : Binding) (r : Review) : Prop :=
  b.inNamespace ≠ none ∨ Scope.ofNamespace? r.inNamespace = .cluster

instance : Decidable (b.KeepsToReview r) := inferInstanceAs (Decidable (_ ∨ _))

private theorem reviewScope_includes_ownScope_iff :
    (b.reviewScope r).Includes b.ownScope ↔ b.KeepsToReview r := by
  unfold KeepsToReview reviewScope ownScope
  cases hb : b.inNamespace with
  | some ns => simp [Scope.Includes]
  | none =>
    simp only [Option.none_or, ne_eq, not_true_eq_false, false_or]
    constructor
    · intro h
      exact h.elim id id
    · exact Or.inl

/-- A binding is checked wherever it holds exactly if it is checked where it says that it holds. -/
theorem reviewScope_includes_iff :
    (∀ subject scope, b.appliesTo subject scope = true → (b.reviewScope r).Includes scope) ↔
      b.KeepsToReview r := by
  rw [← reviewScope_includes_ownScope_iff]
  constructor
  · intro h
    obtain ⟨subject, hsubject⟩ := b.grantee.exists_covered
    exact h subject b.ownScope (appliesTo_iff.2 ⟨hsubject, .inr rfl⟩)
  · intro h subject scope happlies
    exact Scope.includes_trans h (appliesTo_iff.1 happlies).2

/-- How a binding that is to be created has been checked: for the rules of its template, in the
scope of its review. -/
structure Checked (b : Binding) (s : State) (r : Review) (set : RuleSet) : Prop where
  reads : r.newBinding? = some b
  resolves : (s.catalog.resolve b.template).result = .ok set
  planned : (r.plan .bindings s.catalog).result = .ok (some (b.grant r set.rules))
  settled : (s.settle r (b.grant r set.rules)).result = .ok ()

variable {s : State} {set : RuleSet}

private theorem exists_checked (create : r.operation = .create) (admitted : s.Admits .bindings r) :
    ∃ b set, Checked b s r set := by
  obtain ⟨b, t, set, hb, hne, ht, hl, hr, hs, hg⟩ :=
    (State.admits_create_binding_iff create).1 admitted
  have hplan := (State.plan_create_binding_iff create).2 ⟨b, t, set, hb, hne, ht, hl, hr, hs, rfl⟩
  exact ⟨b, set, hb, hs, hplan, hg⟩

end Binding

namespace State

variable {s : State} {r : Review} {b : Binding} {subject : Subject} {scope : Scope} {rule : Rule}

/-- A binding adds no more than the rules of its template, and these only where it applies. -/
private theorem mem_picture_addBinding (h : rule ∈ ((s.addBinding b).picture subject scope).rules) :
    rule ∈ (s.picture subject scope).rules ∨
      b.appliesTo subject scope = true ∧ s.catalog.Declares b.template rule := by
  obtain ⟨b', hb', happlies, hresolves, hdeclares⟩ := Catalog.mem_picture_rules.1 h
  rcases List.mem_append.1 hb' with hb' | hb'
  · exact .inl (Catalog.mem_picture_rules.2 ⟨b', hb', happlies, hresolves, hdeclares⟩)
  · obtain rfl := List.mem_singleton.1 hb'
    exact .inr ⟨happlies, hdeclares⟩

end State

/-- An admitted binding has been checked wherever it will hold exactly if it names a namespace or
its review has none. Then it grants nobody anything that the requester neither holds in the same
scope nor may bind. -/
theorem admitted_binding_checked_where_it_holds {s : State} {r : Review}
    (create : r.operation = .create) (admitted : s.Admits .bindings r) :
    ∃ b set, Binding.Checked b s r set ∧
      ((∀ subject scope, b.appliesTo subject scope = true →
        (b.grant r set.rules).scope.Includes scope) ↔ b.KeepsToReview r) ∧
      (b.KeepsToReview r → ∀ subject scope,
        ∀ rule ∈ ((s.addBinding b).picture subject scope).rules,
          rule ∈ (s.picture subject scope).rules ∨
          heldCover (s.picture r.user scope).rules rule = true ∨
          s.waives r.user (b.grant r set.rules) = true) := by
  obtain ⟨b, set, checked⟩ := Binding.exists_checked create admitted
  refine ⟨b, set, checked, Binding.reviewScope_includes_iff, ?_⟩
  intro keeps subject scope rule hrule
  rcases State.mem_picture_addBinding hrule with hold | ⟨happlies, hdeclares⟩
  · exact .inl hold
  · have hscope := Binding.reviewScope_includes_iff.2 keeps subject scope happlies
    have hmem := (Catalog.mem_rules_of_resolve checked.resolves).2 hdeclares
    exact .inr (State.held_or_waived_of_settle checked.settled hscope hmem)

/-- Carol may see the pods of one team, and lets Erin see them there. -/
theorem viewer_checked_where_it_holds :
    let pods : Rule := { verbs := ["get"], groups := [""], resources := ["pods"] }
    let viewer : Template := { name := "viewer", reach := .project, rules := [pods] }
    let s : State :=
      { templates := .ofList [viewer], bindings := [⟨"b", .user "carol", "viewer", "team-a"⟩],
        oracleEnabled := false }
    let erin : Binding := ⟨"c", .user "erin", "viewer", "team-a"⟩
    let r : Review :=
      { uid := "1", operation := .create, user := { username := "carol" }, object := erin.toJson }
    r.operation = .create ∧ s.Admits .bindings r ∧ r.newBinding? = some erin ∧
      ∀ scope, erin.appliesTo { username := "erin" } scope = true →
        (erin.reviewScope r).Includes scope := by
  intro pods viewer s erin r
  have create : r.operation = .create := rfl
  have admitted : s.Admits .bindings r := by unfold State.Admits; decide +kernel
  have hread : r.newBinding? = some erin := by decide +kernel
  obtain ⟨b, set, checked, hiff, -⟩ := admitted_binding_checked_where_it_holds create admitted
  obtain rfl : b = erin := Option.some_inj.1 (checked.reads.symm.trans hread)
  exact ⟨create, admitted, hread, fun scope => hiff.2 (by decide) _ scope⟩

/-- Without a namespace of its own the same binding is checked in the team's namespace, and lets
Erin see the pods of another team, which Carol may not see. -/
theorem viewer_holds_where_it_is_not_checked :
    let pods : Rule := { verbs := ["get"], groups := [""], resources := ["pods"] }
    let viewer : Template := { name := "viewer", reach := .project, rules := [pods] }
    let s : State :=
      { templates := .ofList [viewer], bindings := [⟨"b", .user "carol", "viewer", "team-a"⟩],
        oracleEnabled := false }
    let erin : Binding := ⟨"c", .user "erin", "viewer", none⟩
    let r : Review :=
      { uid := "1", operation := .create, user := { username := "carol" },
        inNamespace := "team-a", object := erin.toJson }
    let elsewhere : Scope := .namespaced "team-b"
    r.operation = .create ∧ s.Admits .bindings r ∧ r.newBinding? = some erin ∧
      erin.appliesTo { username := "erin" } elsewhere = true ∧
      ¬ (erin.reviewScope r).Includes elsewhere ∧
      ((s.addBinding erin).picture { username := "erin" } elsewhere).rules = [pods] ∧
      (s.picture { username := "carol" } elsewhere).rules = [] ∧
      s.waives r.user (erin.grant r [pods]) = false := by
  intro pods viewer s erin r elsewhere
  refine ⟨rfl, ?_, ?_, ?_, ?_, ?_, ?_, ?_⟩
  · unfold State.Admits; decide +kernel
  all_goals decide +kernel

end GrantGate
