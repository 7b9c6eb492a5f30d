import GrantGate.Proofs.Review.Admission

namespace GrantGate

open Inquiry

/-- What a review of templates asks to write, and in place of what. -/
inductive Review.Writes (r : Review) : Template → Option Template → Prop
  | create {t} (create : r.operation = .create) (reads : r.newTemplate? = some t) : Writes r t none
  | update {t old} (update : r.operation = .update) (reads : r.newTemplate? = some t)
      (readsOld : r.oldTemplate? = some old) : Writes r t (some old)

/-- A guard turns the review away with a fault, and the guards before it have let it pass. -/
inductive Barred (ts : TemplateStore) : ReviewKind → Review → Fault → Prop
  | unreadBinding {r f} (write : r.operation ≠ .delete)
      (unread : (Plan.object Binding.decode "object" r.object).result = .error f) :
      Barred ts .bindings r f
  | unreadOldBinding {r new f} (update : r.operation = .update) (reads : r.newBinding? = some new)
      (unread : (Plan.object Binding.decode "old_object" r.oldObject).result = .error f) :
      Barred ts .bindings r f
  /-- What a binding grants, to whom and where never changes. -/
  | moved {r new old} (update : r.operation = .update) (reads : r.newBinding? = some new)
      (readsOld : r.oldBinding? = some old)
      (moved : old.template ≠ new.template ∨ old.grantee ≠ new.grantee ∨
        old.inNamespace ≠ new.inNamespace) :
      Barred ts .bindings r (.invalid (.bindingImmutable new.name))
  | unnamed {r b} (create : r.operation = .create) (reads : r.newBinding? = some b)
      (unnamed : b.template = "") : Barred ts .bindings r (.invalid .noBindingTemplate)
  /-- The template is missing or locked. -/
  | unbindable {r b e} (create : r.operation = .create) (reads : r.newBinding? = some b)
      (named : b.template ≠ "")
      (guard : ((Catalog.ofStore ts).bindable b.template).result = .error e) :
      Barred ts .bindings r (.refused e)
  /-- The template is made for another kind of scope. -/
  | misplaced {r b t e} (create : r.operation = .create) (reads : r.newBinding? = some b)
      (named : b.template ≠ "")
      (bindable : ((Catalog.ofStore ts).bindable b.template).result = .ok t)
      (guard : t.fits (b.reviewScope r) = .error e) : Barred ts .bindings r (.refused e)
  /-- Something that the template inherits from is missing. -/
  | unresolved {r b t e} (create : r.operation = .create) (reads : r.newBinding? = some b)
      (named : b.template ≠ "")
      (bindable : ((Catalog.ofStore ts).bindable b.template).result = .ok t)
      (fits : t.fits (b.reviewScope r) = .ok ())
      (walk : ((Catalog.ofStore ts).resolveDraft t).result = .error e) :
      Barred ts .bindings r (.refused e)
  | unreadTemplate {r f} (write : r.operation ≠ .delete)
      (unread : (Plan.object Template.decode "object" r.object).result = .error f) :
      Barred ts .templates r f
  | unreadOldTemplate {r t f} (update : r.operation = .update) (reads : r.newTemplate? = some t)
      (unread : (Plan.object Template.decode "old_object" r.oldObject).result = .error f) :
      Barred ts .templates r f
  | illShaped {r t old? c} (writes : r.Writes t old?) (guard : t.shapeComplaint? = some c) :
      Barred ts .templates r (.invalid c)
  | renamed {r t old} (writes : r.Writes t (some old)) (shape : t.shapeComplaint? = none)
      (renamed : old.name ≠ t.name) :
      Barred ts .templates r (.invalid (.templateRenamed old.name t.name))
  /-- The builtin flag is moved, or more than the lock of a builtin template. -/
  | builtin {r t old? e} (writes : r.Writes t old?) (shape : t.shapeComplaint? = none)
      (name : ∀ old ∈ old?, old.name = t.name) (guard : t.mayReplace old? = .error e) :
      Barred ts .templates r (.refused e)
  /-- Something that the changed template inherits from is missing. -/
  | unresolvedDraft {r t old? e} (writes : r.Writes t old?) (shape : t.shapeComplaint? = none)
      (name : ∀ old ∈ old?, old.name = t.name) (replaces : t.mayReplace old? = .ok ())
      (changed : ∀ old ∈ old?, ¬ (old.rules = t.rules ∧ old.inherits = t.inherits))
      (walk : ((Catalog.ofStore ts).resolveDraft t).result = .error e) :
      Barred ts .templates r (.refused e)
  | unreadGone {r f} (delete : r.operation = .delete)
      (unread : (Plan.object Template.decode "old_object" (r.oldObject.or r.object)).result =
        .error f) : Barred ts .templates r f
  /-- The template is builtin, or another one inherits from it. -/
  | kept {r t e} (delete : r.operation = .delete) (reads : r.goneTemplate? = some t)
      (guard : ((Catalog.ofStore ts).deletable t.name).result = .error e)
      (found : e.isNotFound = false) : Barred ts .templates r (.refused e)

section

variable {ts : TemplateStore} {c : Catalog} {kind : ReviewKind} {r : Review} {f : Fault}

private theorem Plan.guarded_error_iff {α : Type} {x : Inquiry Refusal α} :
    (Plan.guarded x).result = .error f ↔ ∃ e, x.result = .error e ∧ .refused e = f :=
  mapError_error_iff

private theorem Plan.guarded_ok_iff {α : Type} {x : Inquiry Refusal α} {a : α} :
    (Plan.guarded x).result = .ok a ↔ x.result = .ok a :=
  mapError_ok_iff

private theorem Plan.guardedBy_error_iff {α : Type} {x : Except Refusal α} :
    (Plan.guardedBy x).result = .error f ↔ ∃ e, x = .error e ∧ .refused e = f :=
  mapError_error_iff

private theorem Plan.guardedBy_ok_iff {α : Type} {x : Except Refusal α} {a : α} :
    (Plan.guardedBy x).result = .ok a ↔ x = .ok a :=
  mapError_ok_iff

theorem Binding.planCreate_error_iff {b : Binding} : (b.planCreate c r).result = .error f ↔
    b.template = "" ∧ .invalid .noBindingTemplate = f ∨ b.template ≠ "" ∧
      ((∃ e, (c.bindable b.template).result = .error e ∧ .refused e = f) ∨
      ∃ t, (c.bindable b.template).result = .ok t ∧
        ((∃ e, t.fits (b.reviewScope r) = .error e ∧ .refused e = f) ∨
        t.fits (b.reviewScope r) = .ok () ∧
          ∃ e, (c.resolveDraft t).result = .error e ∧ .refused e = f)) := by
  rw [planCreate]
  by_cases hb : b.template = ""
  · simp [hb, Plan.invalid]
  have hne : b.template.isEmpty = false := by simpa using hb
  simp only [hne, Bool.false_eq_true, if_false]
  rw [bind_error_iff]
  simp only [bind_unit_error_iff]
  simp only [bind_error_iff, Plan.guarded_error_iff, Plan.guarded_ok_iff, Plan.guardedBy_error_iff,
    Plan.guardedBy_ok_iff, result_pure, reduceCtorEq, and_false, exists_false, or_false, hb,
    false_and, false_or, ne_eq, not_false_eq_true, true_and]

theorem Template.planGrant_error_iff {t : Template} : (t.planGrant c).result = .error f ↔
    ∃ e, (c.resolveDraft t).result = .error e ∧ .refused e = f := by
  simp only [planGrant, bind_error_iff, Plan.guarded_error_iff, result_pure, reduceCtorEq,
    and_false, exists_false, or_false]

private theorem Template.ensureShape_error_iff {t : Template} : t.ensureShape.result = .error f ↔
    ∃ c, t.shapeComplaint? = some c ∧ .invalid c = f := by
  rw [ensureShape]
  cases t.shapeComplaint? <;> simp [Plan.invalid]

theorem Template.planCreate_error_iff {t : Template} : (t.planCreate c).result = .error f ↔
    (∃ c, t.shapeComplaint? = some c ∧ .invalid c = f) ∨ t.shapeComplaint? = none ∧
      ((∃ e, t.mayReplace none = .error e ∧ .refused e = f) ∨ t.mayReplace none = .ok () ∧
        ∃ e, (c.resolveDraft t).result = .error e ∧ .refused e = f) := by
  simp only [planCreate, bind_unit_error_iff, ensureShape_error_iff, ensureShape_ok_iff,
    Plan.guardedBy_error_iff, Plan.guardedBy_ok_iff, planGrant_error_iff]

theorem Template.planUpdate_error_iff {new old : Template} :
    (new.planUpdate old c).result = .error f ↔
    (∃ c, new.shapeComplaint? = some c ∧ .invalid c = f) ∨ new.shapeComplaint? = none ∧
      (old.name ≠ new.name ∧ .invalid (.templateRenamed old.name new.name) = f ∨
      old.name = new.name ∧
        ((∃ e, new.mayReplace old = .error e ∧ .refused e = f) ∨ new.mayReplace old = .ok () ∧
          ¬ (old.rules = new.rules ∧ old.inherits = new.inherits) ∧
          ∃ e, (c.resolveDraft new).result = .error e ∧ .refused e = f)) := by
  simp only [planUpdate, bind_unit_error_iff, ensureShape_error_iff, ensureShape_ok_iff]
  refine or_congr_right (and_congr_right fun _ => ?_)
  by_cases hname : old.name = new.name
  · by_cases hsame : old.rules = new.rules ∧ old.inherits = new.inherits
    · simp [hname, hsame, bind_unit_error_iff, Plan.guardedBy_error_iff]
    · simp only [hname, ne_eq, not_true_eq_false, if_false, false_and, false_or, true_and, hsame,
        not_false_eq_true, bind_unit_error_iff, Plan.guardedBy_error_iff, Plan.guardedBy_ok_iff,
        planGrant_error_iff]
  · simp [hname, Plan.invalid]

theorem Template.planDelete_error_iff {t : Template} : (t.planDelete c).result = .error f ↔
    ∃ e, (c.deletable t.name).result = .error e ∧ e.isNotFound = false ∧ .refused e = f := by
  have hguard : (Plan.guarded (c.deletable t.name).attempt).result =
      .ok (c.deletable t.name).result := rfl
  rw [planDelete, result_bind_of_ok hguard]
  cases (c.deletable t.name).result with
  | ok => simp
  | error e => cases he : e.isNotFound <;> simp [he]

namespace Review

theorem result_planBinding_of_create {b : Binding} (create : r.operation = .create)
    (reads : r.newBinding? = some b) : (r.planBinding c).result = (b.planCreate c r).result := by
  rw [planBinding, create]
  exact result_bind_of_ok (Plan.object_ok_iff.2 reads)

private theorem result_planBinding_of_update {new old : Binding} (update : r.operation = .update)
    (reads : r.newBinding? = some new) (readsOld : r.oldBinding? = some old) :
    (r.planBinding c).result = (new.planUpdate old).result := by
  rw [planBinding, update]
  exact (result_bind_of_ok (Plan.object_ok_iff.2 reads)).trans
    (result_bind_of_ok (Plan.object_ok_iff.2 readsOld))

theorem result_planTemplate_of_create {t : Template} (create : r.operation = .create)
    (reads : r.newTemplate? = some t) : (r.planTemplate c).result = (t.planCreate c).result := by
  rw [planTemplate, create]
  exact result_bind_of_ok (Plan.object_ok_iff.2 reads)

theorem result_planTemplate_of_update {new old : Template} (update : r.operation = .update)
    (reads : r.newTemplate? = some new) (readsOld : r.oldTemplate? = some old) :
    (r.planTemplate c).result = (new.planUpdate old c).result := by
  rw [planTemplate, update]
  exact (result_bind_of_ok (Plan.object_ok_iff.2 reads)).trans
    (result_bind_of_ok (Plan.object_ok_iff.2 readsOld))

/-- The guards of a template that is to be written, be it in place of another one or not. -/
private theorem planTemplate_error_iff_of_writes {t : Template} {old? : Option Template}
    (writes : r.Writes t old?) : (r.planTemplate c).result = .error f ↔
    (∃ c, t.shapeComplaint? = some c ∧ .invalid c = f) ∨ t.shapeComplaint? = none ∧
      ((∃ old ∈ old?, old.name ≠ t.name ∧ .invalid (.templateRenamed old.name t.name) = f) ∨
      (∀ old ∈ old?, old.name = t.name) ∧
        ((∃ e, t.mayReplace old? = .error e ∧ .refused e = f) ∨ t.mayReplace old? = .ok () ∧
          (∀ old ∈ old?, ¬ (old.rules = t.rules ∧ old.inherits = t.inherits)) ∧
          ∃ e, (c.resolveDraft t).result = .error e ∧ .refused e = f)) := by
  cases writes with
  | create create reads =>
    rw [result_planTemplate_of_create create reads, Template.planCreate_error_iff]
    simp
  | update update reads readsOld =>
    rw [result_planTemplate_of_update update reads readsOld, Template.planUpdate_error_iff]
    simp

private theorem barred_of_planBinding (h : (r.planBinding (.ofStore ts)).result = .error f) :
    Barred ts .bindings r f := by
  cases hop : r.operation with
  | create =>
    have write : r.operation ≠ .delete := by simp [hop]
    simp only [planBinding, hop, bind_error_iff, Plan.object_ok_iff,
      Binding.planCreate_error_iff] at h
    obtain unread | ⟨b, reads, ⟨unnamed, hf⟩ | ⟨named, h⟩⟩ := h
    · exact .unreadBinding write unread
    · exact hf ▸ .unnamed hop reads unnamed
    obtain ⟨e, guard, rfl⟩ | ⟨t, bindable, ⟨e, guard, rfl⟩ | ⟨fits, e, walk, rfl⟩⟩ := h
    · exact .unbindable hop reads named guard
    · exact .misplaced hop reads named bindable guard
    · exact .unresolved hop reads named bindable fits walk
  | update =>
    have write : r.operation ≠ .delete := by simp [hop]
    simp only [planBinding, hop, bind_error_iff, Plan.object_ok_iff, Binding.planUpdate] at h
    obtain unread | ⟨new, reads, unread | ⟨old, readsOld, h⟩⟩ := h
    · exact .unreadBinding write unread
    · exact .unreadOldBinding hop reads unread
    split at h
    case isTrue moved =>
      obtain rfl : Fault.invalid (.bindingImmutable new.name) = f := Except.error.inj h
      exact .moved hop reads readsOld moved
    case isFalse => cases h
  | delete =>
    rw [planBinding, hop] at h
    cases h

private theorem barred_of_planTemplate (h : (r.planTemplate (.ofStore ts)).result = .error f) :
    Barred ts .templates r f := by
  have of_writes {t : Template} {old? : Option Template} (writes : r.Writes t old?) :
      Barred ts .templates r f := by
    rw [planTemplate_error_iff_of_writes writes] at h
    obtain ⟨c, guard, rfl⟩ | ⟨shape, ⟨old, rfl, renamed, rfl⟩ | ⟨name, h⟩⟩ := h
    · exact .illShaped writes guard
    · exact .renamed writes shape renamed
    obtain ⟨e, guard, rfl⟩ | ⟨replaces, changed, e, walk, rfl⟩ := h
    · exact .builtin writes shape name guard
    · exact .unresolvedDraft writes shape name replaces changed walk
  have peeled := h
  cases hop : r.operation with
  | create =>
    simp only [planTemplate, hop, bind_error_iff, Plan.object_ok_iff] at peeled
    obtain unread | ⟨t, reads, -⟩ := peeled
    · exact .unreadTemplate (by simp [hop]) unread
    · exact of_writes (.create hop reads)
  | update =>
    simp only [planTemplate, hop, bind_error_iff, Plan.object_ok_iff] at peeled
    obtain unread | ⟨t, reads, unread | ⟨old, readsOld, -⟩⟩ := peeled
    · exact .unreadTemplate (by simp [hop]) unread
    · exact .unreadOldTemplate hop reads unread
    · exact of_writes (.update hop reads readsOld)
  | delete =>
    simp only [planTemplate, hop, bind_error_iff, Plan.object_ok_iff,
      Template.planDelete_error_iff] at peeled
    obtain unread | ⟨t, reads, e, guard, found, rfl⟩ := peeled
    · exact .unreadGone hop unread
    · exact .kept hop reads guard found

end Review

/-- Where a guard turns the review away, its plan is the fault. -/
theorem Barred.plan (h : Barred ts kind r f) : (r.plan kind (.ofStore ts)).result = .error f := by
  cases h with
  | unreadBinding write unread =>
    rw [Review.plan, Review.planBinding]
    cases hop : r.operation with
    | create => exact result_bind_of_error unread
    | update => exact result_bind_of_error unread
    | delete => exact absurd hop write
  | unreadOldBinding update reads unread =>
    rw [Review.plan, Review.planBinding, update]
    exact (result_bind_of_ok (Plan.object_ok_iff.2 reads)).trans (result_bind_of_error unread)
  | moved update reads readsOld moved =>
    rw [Review.plan, Review.result_planBinding_of_update update reads readsOld, Binding.planUpdate,
      if_pos moved]
    rfl
  | unnamed create reads unnamed =>
    rw [Review.plan, Review.result_planBinding_of_create create reads, Binding.planCreate_error_iff]
    exact .inl ⟨unnamed, rfl⟩
  | unbindable create reads named guard =>
    rw [Review.plan, Review.result_planBinding_of_create create reads, Binding.planCreate_error_iff]
    exact .inr ⟨named, .inl ⟨_, guard, rfl⟩⟩
  | misplaced create reads named bindable guard =>
    rw [Review.plan, Review.result_planBinding_of_create create reads, Binding.planCreate_error_iff]
    exact .inr ⟨named, .inr ⟨_, bindable, .inl ⟨_, guard, rfl⟩⟩⟩
  | unresolved create reads named bindable fits walk =>
    rw [Review.plan, Review.result_planBinding_of_create create reads, Binding.planCreate_error_iff]
    exact .inr ⟨named, .inr ⟨_, bindable, .inr ⟨fits, _, walk, rfl⟩⟩⟩
  | unreadTemplate write unread =>
    rw [Review.plan, Review.planTemplate]
    cases hop : r.operation with
    | create => exact result_bind_of_error unread
    | update => exact result_bind_of_error unread
    | delete => exact absurd hop write
  | unreadOldTemplate update reads unread =>
    rw [Review.plan, Review.planTemplate, update]
    exact (result_bind_of_ok (Plan.object_ok_iff.2 reads)).trans (result_bind_of_error unread)
  | illShaped writes guard =>
    exact (Review.planTemplate_error_iff_of_writes writes).2 (.inl ⟨_, guard, rfl⟩)
  | renamed writes shape renamed =>
    exact (Review.planTemplate_error_iff_of_writes writes).2
      (.inr ⟨shape, .inl ⟨_, rfl, renamed, rfl⟩⟩)
  | builtin writes shape name guard =>
    exact (Review.planTemplate_error_iff_of_writes writes).2
      (.inr ⟨shape, .inr ⟨name, .inl ⟨_, guard, rfl⟩⟩⟩)
  | unresolvedDraft writes shape name replaces changed walk =>
    exact (Review.planTemplate_error_iff_of_writes writes).2
      (.inr ⟨shape, .inr ⟨name, .inr ⟨replaces, changed, _, walk, rfl⟩⟩⟩)
  | unreadGone delete unread =>
    rw [Review.plan, Review.planTemplate, delete]
    exact result_bind_of_error unread
  | kept delete reads guard found =>
    rw [Review.plan, Review.planTemplate, delete]
    exact (result_bind_of_ok (Plan.object_ok_iff.2 reads)).trans
      (Template.planDelete_error_iff.2 ⟨_, guard, found, rfl⟩)

/-- Unless it has no name, a locked template takes no binding. -/
theorem Barred.of_locked {b : Binding} {t : Template} (create : r.operation = .create)
    (reads : r.newBinding? = some b) (named : b.template ≠ "")
    (stored : ts.find? b.template = some t) (locked : t.locked = true) :
    Barred ts .bindings r (.refused (.templateLocked b.template)) := by
  have hname : t.name = b.template := Roster.key_of_find? stored
  refine .unbindable create reads named ?_
  rw [Catalog.result_bindable, stored]
  simp [locked, hname]

/-- A review has no plan exactly if a guard turns it away. -/
theorem plan_error_iff : (r.plan kind (.ofStore ts)).result = .error f ↔ Barred ts kind r f := by
  refine ⟨fun h => ?_, Barred.plan⟩
  cases kind with
  | bindings => exact Review.barred_of_planBinding h
  | templates => exact Review.barred_of_planTemplate h

/-- What a review hands out if its guards let it pass: the rules behind a new binding, or those of a
template that is written and does not keep its rules and parents. -/
inductive Review.Grants (r : Review) (ts : TemplateStore) : ReviewKind → Grant → Prop
  | bind {b t set} (create : r.operation = .create) (reads : r.newBinding? = some b)
      (stored : ts.find? b.template = some t)
      (resolves : ((Catalog.ofStore ts).resolveDraft t).result = .ok set) :
      Grants r ts .bindings (b.grant r set.rules)
  | write {t old? set} (writes : r.Writes t old?)
      (changed : ∀ old ∈ old?, ¬ (old.rules = t.rules ∧ old.inherits = t.inherits))
      (resolves : ((Catalog.ofStore ts).resolveDraft t).result = .ok set) :
      Grants r ts .templates (t.grant set.rules)

theorem Review.grants_of_plan {g : Grant} (h : (r.plan kind (.ofStore ts)).result = .ok (some g)) :
    r.Grants ts kind g := by
  have of_write {t : Template} {old? : Option Template} (writes : r.Writes t old?)
      (changed : ∀ old ∈ old?, ¬ (old.rules = t.rules ∧ old.inherits = t.inherits))
      (grant : (t.planGrant (.ofStore ts)).result = .ok (some g)) : r.Grants ts .templates g := by
    obtain ⟨set, resolves, given⟩ := Template.planGrant_ok_iff.1 grant
    cases given
    exact .write writes changed resolves
  cases kind with
  | bindings =>
    cases hop : r.operation with
    | create =>
      simp only [Review.plan, Review.planBinding, hop, bind_ok_iff, Plan.object_ok_iff,
        Binding.planCreate_ok_iff] at h
      obtain ⟨b, reads, -, t, set, stored, -, -, resolves, given⟩ := h
      cases given
      exact .bind hop reads (Catalog.lookup_ofStore.1 stored) resolves
    | update =>
      simp only [Review.plan, Review.planBinding, hop, bind_ok_iff,
        Binding.planUpdate_ok_iff] at h
      obtain ⟨-, -, -, -, none, -⟩ := h
      cases none
    | delete =>
      rw [Review.plan, Review.planBinding, hop] at h
      cases h
  | templates =>
    cases hop : r.operation with
    | create =>
      simp only [Review.plan, Review.planTemplate, hop, bind_ok_iff, Plan.object_ok_iff,
        Template.planCreate_ok_iff] at h
      obtain ⟨t, reads, -, -, grant⟩ := h
      exact of_write (.create hop reads) (by simp) grant
    | update =>
      simp only [Review.plan, Review.planTemplate, hop, bind_ok_iff, Plan.object_ok_iff,
        Template.planUpdate_ok_iff] at h
      obtain ⟨t, reads, old, readsOld, -, -, -, -, grant⟩ := h
      split at grant
      · cases grant
      · rename_i changed
        exact of_write (.update hop reads readsOld) (by simpa using changed) grant
    | delete =>
      simp only [Review.plan, Review.planTemplate, hop, bind_ok_iff,
        Template.planDelete_ok_iff] at h
      obtain ⟨-, -, none, -⟩ := h
      cases none

/-- What a guard may say: that the input is bad, or a refusal that is about templates alone. -/
inductive Fault.FromGuard : Fault → Prop
  | invalid (complaint : Complaint) : FromGuard (.invalid complaint)
  | notFound (kind : ObjectKind) (name : String) : FromGuard (.refused (.notFound kind name))
  | templateLocked (name : String) : FromGuard (.refused (.templateLocked name))
  | reachMismatch (name : String) (reach : Reach) (scope : Scope) :
      FromGuard (.refused (.reachMismatch name reach scope))
  | builtinImmutable (name : String) : FromGuard (.refused (.builtinImmutable name))
  | builtinFlag (name : String) : FromGuard (.refused (.builtinFlag name))
  | builtinUndeletable (name : String) : FromGuard (.refused (.builtinUndeletable name))
  | inUse (name : String) (heirs : List String) : FromGuard (.refused (.inUse name heirs))

theorem Plan.fromGuard_of_object {α : Type} {decode : Wire.Decoder Json α} {field : String}
    {j : Option Json} (h : (Plan.object decode field j).result = .error f) : f.FromGuard := by
  cases j with
  | none =>
    cases h
    exact .invalid _
  | some v =>
    rw [object] at h
    cases hv : decode v with
    | ok a =>
      rw [hv] at h
      cases h
    | error e =>
      rw [hv] at h
      cases h
      exact .invalid _

theorem Catalog.fromGuard_of_bindable {name : String} {e : Refusal}
    (h : ((ofStore ts).bindable name).result = .error e) : (Fault.refused e).FromGuard := by
  rw [result_bindable] at h
  cases hf : ts.find? name with
  | none =>
    rw [hf] at h
    cases h
    exact .notFound ..
  | some t =>
    simp only [hf] at h
    split at h
    · cases h
      exact .templateLocked _
    · cases h

/-- A draft that does not resolve inherits from a template that is missing. -/
theorem Catalog.fromGuard_of_resolveDraft {draft : Template} {e : Refusal}
    (h : ((ofStore ts).resolveDraft draft).result = .error e) : (Fault.refused e).FromGuard := by
  rw [result_resolveDraft] at h
  have missing : e.isNotFound = true := (onlyMisses_ofStore _).isNotFound_of_resolve h
  cases e with
  | notFound kind name => exact .notFound kind name
  | _ => cases missing

theorem Catalog.fromGuard_of_deletable {name : String} {e : Refusal}
    (h : ((ofStore ts).deletable name).result = .error e) : (Fault.refused e).FromGuard := by
  rw [result_deletable] at h
  cases hf : ts.find? name with
  | none =>
    rw [hf] at h
    cases h
    exact .notFound ..
  | some t =>
    simp only [hf] at h
    split at h
    · cases h
      exact .builtinUndeletable _
    · split at h
      · cases h
      · cases h
        exact .inUse ..

theorem Template.fromGuard_of_fits {t : Template} {scope : Scope} {e : Refusal}
    (h : t.fits scope = .error e) : (Fault.refused e).FromGuard := by
  rw [fits] at h
  split at h
  · cases h
  · cases h
    exact .reachMismatch ..

theorem Template.fromGuard_of_mayReplace {t : Template} {old? : Option Template} {e : Refusal}
    (h : t.mayReplace old? = .error e) : (Fault.refused e).FromGuard := by
  cases old? with
  | none =>
    simp only [mayReplace] at h
    split at h
    · cases h
      exact .builtinFlag _
    · cases h
  | some old =>
    simp only [mayReplace] at h
    split at h
    · cases h
      exact .builtinFlag _
    split at h
    · cases h
      exact .builtinImmutable _
    · cases h

theorem Barred.fromGuard (h : Barred ts kind r f) : f.FromGuard := by
  cases h with
  | unreadBinding _ unread => exact Plan.fromGuard_of_object unread
  | unreadOldBinding _ _ unread => exact Plan.fromGuard_of_object unread
  | moved => exact .invalid _
  | unnamed => exact .invalid _
  | unbindable _ _ _ guard => exact Catalog.fromGuard_of_bindable guard
  | misplaced _ _ _ _ guard => exact Template.fromGuard_of_fits guard
  | unresolved _ _ _ _ _ walk => exact Catalog.fromGuard_of_resolveDraft walk
  | unreadTemplate _ unread => exact Plan.fromGuard_of_object unread
  | unreadOldTemplate _ _ unread => exact Plan.fromGuard_of_object unread
  | illShaped => exact .invalid _
  | renamed => exact .invalid _
  | builtin _ _ _ guard => exact Template.fromGuard_of_mayReplace guard
  | unresolvedDraft _ _ _ _ _ walk => exact Catalog.fromGuard_of_resolveDraft walk
  | unreadGone _ unread => exact Plan.fromGuard_of_object unread
  | kept _ _ guard _ => exact Catalog.fromGuard_of_deletable guard

end

end GrantGate
