import GrantGate.Proofs.Inheritance.Order
import GrantGate.Proofs.Review.Outcome
import GrantGate.Proofs.Snapshot
import Mathlib.Data.Multiset.MapFold

namespace GrantGate

open Inquiry

/-- The grants hand out the same rules in one scope, with one bypass. -/
structure Grant.Reordered (g g' : Grant) : Prop where
  rules : SameRules g.rules g'.rules
  scope : g.scope = g'.scope
  bypass : g.bypass = g'.bypass

theorem Grant.Reordered.symm {g g' : Grant} (h : g.Reordered g') : g'.Reordered g :=
  ⟨h.rules.symm, h.scope.symm, h.bypass.symm⟩

/-- The plans ask the same of the requester, or come to faults of one outcome. -/
def Plan.Reordered (p q : Plan) : Prop := p.SameOutcome (Option.Rel Grant.Reordered) q

namespace TemplateStore.Reordered

variable {ts us : TemplateStore} {t u : Template}

private theorem heirs_eq_nil (h : ts.Reordered us) {name : String} (nil : ts.heirs name = []) :
    us.heirs name = [] := by
  rw [heirs_eq_nil_iff] at nil ⊢
  intro other mem hname hinherits
  obtain ⟨t, ht, same⟩ := h.right other.name other (Roster.find?_eq_some_iff.2 ⟨mem, rfl⟩)
  exact nil t (Roster.mem_of_find? ht) (same.name ▸ hname) (same.inherits.mem_iff.1 hinherits)

theorem bindable (h : ts.Reordered us) (name : String) :
    (Plan.guarded ((Catalog.ofStore ts).bindable name)).SameOutcome Template.Reordered
      (Plan.guarded ((Catalog.ofStore us).bindable name)) := by
  have hts := Catalog.result_bindable ts name
  have hus := Catalog.result_bindable us name
  cases ht : ts.find? name with
  | none =>
    rw [ht] at hts
    rw [h.find?_eq_none ht] at hus
    exact .faults (mapError_error_iff.2 ⟨_, hts, rfl⟩) (mapError_error_iff.2 ⟨_, hus, rfl⟩) rfl
  | some t =>
    obtain ⟨u, hu, same⟩ := h.left name t ht
    simp only [ht] at hts
    simp only [hu, ← same.locked] at hus
    cases hl : t.locked with
    | true =>
      rw [hl] at hts hus
      exact .faults (mapError_error_iff.2 ⟨_, hts, rfl⟩) (mapError_error_iff.2 ⟨_, hus, rfl⟩) rfl
    | false =>
      rw [hl] at hts hus
      exact .answers (mapError_ok_iff.2 hts) (mapError_ok_iff.2 hus) same

theorem resolveDraft (h : ts.Reordered us) (draft : t.Reordered u) :
    (Plan.guarded ((Catalog.ofStore ts).resolveDraft t)).SameOutcome
      (fun a b => SameRules a.rules b.rules)
      (Plan.guarded ((Catalog.ofStore us).resolveDraft u)) := by
  have stores := h.insert draft
  have hts := Catalog.result_resolveDraft ts t
  have hus := Catalog.result_resolveDraft us u
  rw [← draft.name] at hus
  refine .of_one_outcome (fun _ => Catalog.outcome_of_resolveDraft)
    (fun _ => Catalog.outcome_of_resolveDraft) ?_ ?_
  · simp only [Plan.guarded, mapError_ok_iff, hts, hus, Catalog.resolve_ok_iff]
    exact ⟨stores.resolves, stores.symm.resolves⟩
  · intro set set' hset hset'
    have hset := hts ▸ mapError_ok_iff.1 hset
    have hset' := hus ▸ mapError_ok_iff.1 hset'
    exact stores.sameRules_of_resolve hset hset'

theorem planCreate_binding (h : ts.Reordered us) (b : Binding) (r : Review) :
    Plan.Reordered (b.planCreate (.ofStore ts) r) (b.planCreate (.ofStore us) r) := by
  rw [Binding.planCreate, Binding.planCreate]
  split
  · exact .faults rfl rfl rfl
  refine (h.bindable b.template).bind fun t u same => ?_
  have fits : t.fits (b.reviewScope r) = u.fits (b.reviewScope r) := by
    rw [Template.fits, same.name, same.reach, Template.fits]
  dsimp only
  rw [fits, same.name]
  refine (SameOutcome.refl _).bind fun _ _ _ => ?_
  refine (h.resolveDraft same).bind fun _ _ rules => ?_
  exact .answers rfl rfl (.some ⟨rules, rfl, rfl⟩)

theorem planGrant (h : ts.Reordered us) (t : Template) :
    Plan.Reordered (t.planGrant (.ofStore ts)) (t.planGrant (.ofStore us)) := by
  refine (h.resolveDraft (.refl t)).bind fun _ _ rules => ?_
  exact .answers rfl rfl (.some ⟨rules, rfl, rfl⟩)

theorem planDelete (h : ts.Reordered us) (t : Template) :
    Plan.Reordered (t.planDelete (.ofStore ts)) (t.planDelete (.ofStore us)) := by
  have mayGo {xs ys : TemplateStore} (hxy : xs.Reordered ys) {name : String}
      (hxs : ∀ stored, xs.find? name = some stored → stored.builtin = false ∧ xs.heirs name = []) :
      ∀ stored, ys.find? name = some stored → stored.builtin = false ∧ ys.heirs name = [] := by
    intro stored found
    obtain ⟨other, hother, same⟩ := hxy.right name stored found
    obtain ⟨builtin, heirs⟩ := hxs other hother
    exact ⟨same.builtin.trans builtin, hxy.heirs_eq_nil heirs⟩
  refine .of_one_outcome (fun _ => Template.outcome_of_planDelete)
    (fun _ => Template.outcome_of_planDelete) ?_ ?_
  · simp only [Template.planDelete_ok_iff, exists_eq_left]
    exact ⟨mayGo h, mayGo h.symm⟩
  · intro p q hp hq
    obtain ⟨rfl, -⟩ := Template.planDelete_ok_iff.1 hp
    obtain ⟨rfl, -⟩ := Template.planDelete_ok_iff.1 hq
    exact .none

/-- What a review says by itself is read alike; what it looks up is the same but for order. -/
theorem plan (h : ts.Reordered us) (kind : ReviewKind) (r : Review) :
    Plan.Reordered (r.plan kind (.ofStore ts)) (r.plan kind (.ofStore us)) := by
  cases kind with
  | bindings =>
    rw [Review.plan, Review.planBinding, Review.plan, Review.planBinding]
    cases r.operation with
    | create =>
      refine (SameOutcome.refl _).bind fun b _ same => ?_
      exact same ▸ h.planCreate_binding b r
    | update =>
      refine (SameOutcome.refl _).bind fun new _ sameNew => ?_
      refine (SameOutcome.refl _).bind fun old _ sameOld => ?_
      subst sameNew sameOld
      rw [Binding.planUpdate]
      split
      · exact .faults rfl rfl rfl
      · exact .answers rfl rfl .none
    | delete => exact .answers rfl rfl .none
  | templates =>
    rw [Review.plan, Review.planTemplate, Review.plan, Review.planTemplate]
    cases r.operation with
    | create =>
      refine (SameOutcome.refl _).bind fun t _ same => ?_
      subst same
      refine (SameOutcome.refl t.ensureShape).bind fun _ _ _ => ?_
      refine (SameOutcome.refl (Plan.guardedBy (t.mayReplace none))).bind fun _ _ _ => ?_
      exact h.planGrant t
    | update =>
      refine (SameOutcome.refl _).bind fun new _ sameNew => ?_
      refine (SameOutcome.refl _).bind fun old _ sameOld => ?_
      subst sameNew sameOld
      refine (SameOutcome.refl new.ensureShape).bind fun _ _ _ => ?_
      split
      · exact .faults rfl rfl rfl
      refine (SameOutcome.refl (Plan.guardedBy (new.mayReplace old))).bind fun _ _ _ => ?_
      split
      · exact .answers rfl rfl .none
      · exact h.planGrant new
    | delete =>
      refine (SameOutcome.refl _).bind fun t _ same => ?_
      exact same ▸ h.planDelete t

end TemplateStore.Reordered

namespace State

/-- The states hold the same templates and the same bindings, but for order. -/
structure Reordered (s s' : State) : Prop where
  templates : s.templates.Reordered s'.templates
  bindings : s.bindings.Perm s'.bindings
  oracle : s.oracleEnabled = s'.oracleEnabled
  up : s.shutDown = s'.shutDown

namespace Reordered

variable {s s' : State} {subject : Subject} {scope : Scope} {g g' : Grant}

theorem symm (h : s.Reordered s') : s'.Reordered s :=
  ⟨h.templates.symm, h.bindings.symm, h.oracle.symm, h.up.symm⟩

theorem complete (h : s.Reordered s') (complete : (s.picture subject scope).complete = true) :
    (s'.picture subject scope).complete = true := by
  rw [picture, Catalog.picture_complete_iff] at complete ⊢
  intro b hb happlies
  exact h.templates.resolves (complete b (h.bindings.mem_iff.2 hb) happlies)

theorem held (h : s.Reordered s') :
    SameRules (s.picture subject scope).rules (s'.picture subject scope).rules := by
  have held {x y : State} (hxy : x.Reordered y) : ∀ rule ∈ (x.picture subject scope).rules,
      ∃ rule' ∈ (y.picture subject scope).rules, rule.Reordered rule' := by
    intro rule hrule
    obtain ⟨b, hb, happlies, hresolves, hdeclares⟩ := Catalog.mem_picture_rules.1 hrule
    obtain ⟨rule', hdeclares', same⟩ := hxy.templates.declares hdeclares
    refine ⟨rule', Catalog.mem_picture_rules.2 ⟨b, hxy.bindings.mem_iff.1 hb, happlies, ?_⟩, same⟩
    exact ⟨hxy.templates.resolves hresolves, hdeclares'⟩
  refine ⟨held h, fun rule' hrule' => ?_⟩
  obtain ⟨rule, hrule, same⟩ := held h.symm rule' hrule'
  exact ⟨rule, hrule, same.symm⟩

theorem settle_ok (h : s.Reordered s') (hg : g.Reordered g') {r : Review}
    (ok : (s.settle r g).result = .ok ()) : (s'.settle r g').result = .ok () := by
  rw [settle_ok_iff] at ok ⊢
  by_cases hne : g.rules = []
  · exact .inl (hg.rules.eq_nil hne)
  have hne' : g'.rules ≠ [] := fun nil => hne (hg.rules.symm.eq_nil nil)
  obtain ⟨up, settled⟩ := ok.resolve_left hne
  refine .inr ⟨h.up ▸ up, settled.imp ?_ ?_⟩
  · intro nothing
    obtain ⟨complete, covered⟩ := (lacking_eq_nil_iff hne).1 nothing
    rw [lacking_eq_nil_iff hne', ← hg.scope]
    exact ⟨h.complete complete, h.held.heldCoverAll hg.rules covered⟩
  · intro waived
    rw [waives, Bool.and_eq_true, Option.any_eq_true] at waived ⊢
    obtain ⟨oracle, access, bypass, covered⟩ := waived
    exact ⟨h.oracle ▸ oracle, access, hg.bypass ▸ bypass, h.held.heldCover (.refl _) covered⟩

theorem settle (h : s.Reordered s') (hg : g.Reordered g') (r : Review) :
    (Plan.guarded (s.settle r g)).SameOutcome Eq (Plan.guarded (s'.settle r g')) := by
  refine .of_one_outcome (fun _ => outcome_of_settle)
    (fun _ hf => h.up ▸ outcome_of_settle hf) ?_ (fun _ _ _ _ => rfl)
  simp only [Plan.guarded, mapError_ok_iff]
  constructor
  · intro ok
    obtain ⟨⟨⟩, ok⟩ := ok
    exact ⟨(), h.settle_ok hg ok⟩
  · intro ok
    obtain ⟨⟨⟩, ok⟩ := ok
    exact ⟨(), h.symm.settle_ok hg.symm ok⟩

theorem validate (h : s.Reordered s') (kind : ReviewKind) (r : Review) :
    (s.validate kind r).SameOutcome Eq (s'.validate kind r) := by
  refine (h.templates.plan kind r).bind fun p q related => ?_
  cases related with
  | none => exact .answers rfl rfl rfl
  | some hg => exact h.settle hg r

theorem respond (h : s.Reordered s') (kind : ReviewKind) (r : Review) :
    (s'.respond kind r).allowed = (s.respond kind r).allowed ∧
      (s'.respond kind r).code = (s.respond kind r).code := by
  unfold State.respond
  cases h.validate kind r with
  | answers left right => simp only [left, right, and_self]
  | faults left right same => simp only [left, right, same, and_self]

end Reordered

end State

namespace Snapshot

/-- The snapshots list the same bindings and, but for order within them, the same templates, in any
order. -/
structure Reordered (a b : Snapshot) : Prop where
  templates : Multiset.Rel Template.Reordered a.templates b.templates
  bindings : a.bindings.Perm b.bindings

namespace Reordered

variable {a b : Snapshot}

private theorem names_perm (h : a.Reordered b) :
    (a.templates.map Template.name).Perm (b.templates.map Template.name) := by
  rw [← Multiset.coe_eq_coe, ← Multiset.map_coe, ← Multiset.map_coe, ← Multiset.rel_eq,
    Multiset.rel_map]
  exact h.templates.mono fun _ _ _ _ same => same.name

/-- Since names are not repeated, each name finds the one template that is listed under it. -/
theorem ofSnapshot (h : a.Reordered b) (unique : a.duplicate? = none) (oracleEnabled : Bool)
    (timeout : Nat) :
    (State.ofSnapshot a oracleEnabled timeout).Reordered (.ofSnapshot b oracleEnabled timeout) := by
  obtain ⟨distinct, -⟩ := duplicate?_eq_none_iff.1 unique
  have distinct' := h.names_perm.nodup_iff.1 distinct
  refine ⟨⟨?_, ?_⟩, h.bindings, rfl, rfl⟩
  · intro name t found
    obtain ⟨mem, rfl⟩ := (Roster.find?_ofList_eq_some_iff distinct).1 found
    obtain ⟨u, mem', same⟩ := Multiset.exists_mem_of_rel_of_mem h.templates mem
    exact ⟨u, (Roster.find?_ofList_eq_some_iff distinct').2 ⟨mem', same.name.symm⟩, same⟩
  · intro name u found
    obtain ⟨mem', rfl⟩ := (Roster.find?_ofList_eq_some_iff distinct').1 found
    obtain ⟨t, mem, same⟩ :=
      Multiset.exists_mem_of_rel_of_mem (Multiset.rel_flip.2 h.templates) mem'
    exact ⟨t, (Roster.find?_ofList_eq_some_iff distinct).2 ⟨mem, same.name⟩, same.symm⟩

end Reordered

end Snapshot

namespace State

/-- Of a snapshot without repeated names neither the order of templates and bindings, nor that of
rules and parents in a template, nor that of the entries in a rule has a say in whether a write may
go ahead, or in the code of the answer. -/
theorem respond_reordered {a b : Snapshot} (unique : a.duplicate? = none) (reordered : a.Reordered b)
    (oracleEnabled : Bool) (timeout : Nat) (kind : ReviewKind) (r : Review) :
    let s := State.ofSnapshot a oracleEnabled timeout
    let s' := State.ofSnapshot b oracleEnabled timeout
    (s'.respond kind r).allowed = (s.respond kind r).allowed ∧
      (s'.respond kind r).code = (s.respond kind r).code :=
  (reordered.ofSnapshot unique oracleEnabled timeout).respond kind r

/-- Carol may see pods but neither logs nor jobs. When the same is listed in another order she is told
so in other words. -/
theorem respond_reordered_viewer :
    let pods : Rule := { verbs := ["get", "list"], groups := [""], resources := ["pods"] }
    let pods' : Rule := { pods with verbs := ["list", "get"] }
    let logs : Rule := { verbs := ["get"], groups := [""], resources := ["pods/log"] }
    let jobs : Rule := { verbs := ["get"], groups := ["batch"], resources := ["jobs"] }
    let reader : Template := { name := "reader", rules := [pods] }
    let reader' : Template := { reader with rules := [pods'] }
    let logger : Template := { name := "logger", rules := [logs, jobs], inherits := ["viewer"] }
    let logger' : Template := { logger with rules := [jobs, logs] }
    let viewer : Template := { name := "viewer", inherits := ["reader", "logger"] }
    let viewer' : Template := { viewer with inherits := ["logger", "reader"] }
    let carols : Binding := ⟨"a", .user "carol", "reader", none⟩
    let others : Binding := ⟨"b", .group "staff", "viewer", "team-a"⟩
    let a : Snapshot := { templates := [reader, logger, viewer], bindings := [carols, others] }
    let b : Snapshot := { templates := [viewer', logger', reader'], bindings := [others, carols] }
    let s := State.ofSnapshot a true 2000
    let s' := State.ofSnapshot b true 2000
    let r : Review :=
      { uid := "1", operation := .create, user := { username := "carol" },
        object := (⟨"c", .user "erin", "viewer", none⟩ : Binding).toJson }
    a.duplicate? = none ∧ a.Reordered b ∧ (s.respond .bindings r).code = 403 ∧
      (s'.respond .bindings r).message ≠ (s.respond .bindings r).message ∧
      (s'.respond .bindings r).allowed = (s.respond .bindings r).allowed ∧
      (s'.respond .bindings r).code = (s.respond .bindings r).code := by
  intro pods pods' logs jobs reader reader' logger logger' viewer viewer' carols others a b s s' r
  have unique : a.duplicate? = none := by decide +kernel
  have swapped : (([jobs, logs] : List Rule) : Multiset Rule) = ([logs, jobs] : List Rule) :=
    Multiset.coe_eq_coe.2 (.swap ..)
  have sameRules : Multiset.Rel Rule.Reordered logger.rules logger'.rules :=
    swapped ▸ Multiset.rel_refl_of_refl_on fun rule _ => .refl rule
  have samePods : pods.Reordered pods' := ⟨.swap .., .refl _, .refl _, .refl _, .refl _⟩
  have sameReader : reader.Reordered reader' :=
    ⟨rfl, rfl, rfl, .cons samePods .zero, .refl _, rfl, rfl⟩
  have sameLogger : logger.Reordered logger' := ⟨rfl, rfl, rfl, sameRules, .refl _, rfl, rfl⟩
  have sameViewer : viewer.Reordered viewer' := ⟨rfl, rfl, rfl, .zero, .swap .., rfl, rfl⟩
  have reversed : (b.templates : Multiset Template) = ([reader', logger', viewer'] : List Template) :=
    Multiset.coe_eq_coe.2 (List.reverse_perm [reader', logger', viewer'])
  have sameTemplates : Multiset.Rel Template.Reordered a.templates b.templates :=
    reversed ▸ .cons sameReader (.cons sameLogger (.cons sameViewer .zero))
  have reordered : a.Reordered b := ⟨sameTemplates, .swap ..⟩
  have denied : (s.respond .bindings r).code = 403 := by decide +kernel
  have reworded : (s'.respond .bindings r).message ≠ (s.respond .bindings r).message := by
    decide +kernel
  exact ⟨unique, reordered, denied, reworded,
    respond_reordered unique reordered true 2000 .bindings r⟩

end State

end GrantGate
