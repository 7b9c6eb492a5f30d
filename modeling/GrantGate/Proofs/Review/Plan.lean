import GrantGate.Proofs.Inheritance.Reach
import GrantGate.Review.Plan

namespace GrantGate

namespace Inquiry

variable {ε δ α β : Type}

@[simp] theorem result_refuse (e : ε) : (refuse e : Inquiry ε α).result = .error e := rfl

@[simp] theorem result_ofExcept (r : Except ε α) : (ofExcept r).result = r := rfl

@[simp] theorem result_ask (e : Event) (r : Except ε α) : (ask e r).result = r := rfl

theorem result_bind_of_ok {x : Inquiry ε α} {f : α → Inquiry ε β} {a : α} (h : x.result = .ok a) :
    (x >>= f).result = (f a).result := by
  rw [result_bind, h, Except.bind]

theorem result_bind_of_error {x : Inquiry ε α} {f : α → Inquiry ε β} {e : ε}
    (h : x.result = .error e) : (x >>= f).result = .error e := by
  rw [result_bind, h, Except.bind]

/-- An inquiry in two steps has an answer if both have one. -/
theorem bind_ok_iff {x : Inquiry ε α} {f : α → Inquiry ε β} {b : β} :
    (x >>= f).result = .ok b ↔ ∃ a, x.result = .ok a ∧ (f a).result = .ok b := by
  rw [result_bind]
  cases x.result <;> simp [Except.bind]

/-- An inquiry in two steps is refused in the first one or in the second. -/
theorem bind_error_iff {x : Inquiry ε α} {f : α → Inquiry ε β} {e : ε} :
    (x >>= f).result = .error e ↔
      x.result = .error e ∨ ∃ a, x.result = .ok a ∧ (f a).result = .error e := by
  rw [result_bind]
  cases x.result <;> simp [Except.bind]

theorem bind_unit_error_iff {x : Inquiry ε Unit} {f : Unit → Inquiry ε β} {e : ε} :
    (x >>= f).result = .error e ↔
      x.result = .error e ∨ x.result = .ok () ∧ (f ()).result = .error e := by
  rw [bind_error_iff]
  exact or_congr_right ⟨fun ⟨(), h⟩ => h, fun h => ⟨(), h⟩⟩

theorem events_bind_of_error {x : Inquiry ε α} {f : α → Inquiry ε β} {e : ε}
    (h : x.result = .error e) : (x >>= f).events = x.events := by
  rw [events_bind, h]

private theorem bind_unit_ok_iff {x : Inquiry ε Unit} {f : Unit → Inquiry ε β} {b : β} :
    (x >>= f).result = .ok b ↔ x.result = .ok () ∧ (f ()).result = .ok b := by
  rw [bind_ok_iff]
  exact ⟨fun ⟨(), h⟩ => h, fun h => ⟨(), h⟩⟩

/-- The second step counts for what the first one has come to. -/
theorem bind_congr {x : Inquiry ε α} {f g : α → Inquiry ε β}
    (h : ∀ a, x.result = .ok a → f a = g a) : x >>= f = x >>= g := by
  change x.bind f = x.bind g
  cases hx : x.result with
  | ok a => simp only [bind, hx, h a hx]
  | error e => simp only [bind, hx]

theorem mapError_ok_iff {f : ε → δ} {x : Inquiry ε α} {a : α} :
    (x.mapError f).result = .ok a ↔ x.result = .ok a := by
  cases h : x.result <;> simp [mapError, h, Except.mapError]

theorem mapError_error_iff {f : ε → δ} {x : Inquiry ε α} {e : δ} :
    (x.mapError f).result = .error e ↔ ∃ e', x.result = .error e' ∧ f e' = e := by
  cases h : x.result <;> simp [mapError, h, Except.mapError]

end Inquiry

open Inquiry

/-- The other templates that inherit from one. -/
def TemplateStore.heirs (ts : TemplateStore) (name : String) : List Template :=
  ts.items.filter fun other => other.name != name && other.inheritsFrom name

theorem TemplateStore.heirs_eq_nil_iff {ts : TemplateStore} {name : String} :
    ts.heirs name = [] ↔ ∀ other ∈ ts.items, other.name ≠ name → name ∉ other.inherits := by
  simp [heirs, List.filter_eq_nil_iff, Template.inheritsFrom]

namespace Catalog

variable {c : Catalog} {name : String}

theorem bindable_ok_iff {t : Template} :
    (c.bindable name).result = .ok t ↔ c.lookup name = .ok t ∧ t.locked = false := by
  rw [bindable, bind_ok_iff, get, result_ask]
  constructor
  · intro h
    obtain ⟨u, hu, ht⟩ := h
    cases hl : u.locked with
    | true => simp [hl] at ht
    | false =>
      obtain rfl : u = t := by simpa [hl] using ht
      exact ⟨hu, hl⟩
  · intro h
    obtain ⟨ht, hl⟩ := h
    exact ⟨t, ht, by simp [hl]⟩

theorem result_bindable (ts : TemplateStore) (name : String) :
    ((ofStore ts).bindable name).result =
      match ts.find? name with
      | none => .error (.notFound .template name)
      | some t => if t.locked then .error (.templateLocked t.name) else .ok t := by
  rw [bindable, result_bind, get, result_ask]
  cases hf : ts.find? name with
  | none => simp [lookup, ofStore, hf, Except.bind]
  | some t =>
    rw [lookup_ofStore.2 hf, Except.bind]
    cases hl : t.locked <;> simp [hl]

/-- The guard of a deletion with the templates listed in an order of their own. -/
def deletableAmong (c : Catalog) (listed : Inquiry Refusal (List Template)) (name : String) :
    Inquiry Refusal Unit := do
  let t ← c.get name
  if t.builtin then .refuse (.builtinUndeletable t.name)
  else
    let all ← listed
    let heirs := all.filter fun other => other.name != name && other.inheritsFrom name
    if heirs.isEmpty then pure ()
    else .refuse (.inUse t.name ((heirs.map Template.name).mergeSort fun a b => decide (a ≤ b)))

private theorem deletable_eq_deletableAmong (c : Catalog) (name : String) :
    c.deletable name = c.deletableAmong c.list name := rfl

theorem result_deletableAmong (ts : TemplateStore) {listed : Inquiry Refusal (List Template)}
    {all : List Template} (hlisted : listed.result = .ok all) (name : String) :
    ((ofStore ts).deletableAmong listed name).result =
      match ts.find? name with
      | none => .error (.notFound .template name)
      | some t =>
        let heirs := all.filter fun other => other.name != name && other.inheritsFrom name
        if t.builtin then .error (.builtinUndeletable t.name)
        else if heirs = [] then .ok ()
        else .error (.inUse t.name
          ((heirs.map Template.name).mergeSort fun a b => decide (a ≤ b))) := by
  rw [deletableAmong, result_bind, get, result_ask]
  cases hf : ts.find? name with
  | none => simp [lookup, ofStore, hf, Except.bind]
  | some t =>
    rw [lookup_ofStore.2 hf, Except.bind]
    simp only [← List.isEmpty_iff]
    cases t.builtin with
    | true => rfl
    | false =>
      simp only [Bool.false_eq_true, if_false, result_bind, hlisted, Except.bind]
      split
      · rfl
      · rfl

/-- The answer of the guard over a store, from what is stored. -/
theorem result_deletable (ts : TemplateStore) (name : String) :
    ((ofStore ts).deletable name).result =
      match ts.find? name with
      | none => .error (.notFound .template name)
      | some t =>
        if t.builtin then .error (.builtinUndeletable t.name)
        else if ts.heirs name = [] then .ok ()
        else .error (.inUse t.name
          (((ts.heirs name).map Template.name).mergeSort fun a b => decide (a ≤ b))) := by
  have hlist : (ofStore ts).list.result = .ok ts.items := rfl
  rw [deletable_eq_deletableAmong]
  exact result_deletableAmong ts hlist name

end Catalog

namespace Template

private theorem fits_ok_iff {t : Template} {scope : Scope} :
    t.fits scope = .ok () ↔ t.reach = scope.reach := by
  simp [fits]

private theorem mayReplace_none_ok_iff {new : Template} :
    new.mayReplace none = .ok () ↔ new.builtin = false := by
  cases h : new.builtin <;> simp [mayReplace, h]

private theorem mayReplace_some_ok_iff {new old : Template} : new.mayReplace (some old) = .ok () ↔
    old.builtin = new.builtin ∧ (old.builtin = true → { old with locked := new.locked } = new) := by
  simp only [mayReplace]
  split
  · simp_all
  · rename_i h
    have h : old.builtin = new.builtin := not_not.1 h
    simp [h]

end Template

/-- What an object of a review stands for, if it can be read. -/
def Plan.read? {α : Type} (decode : Wire.Decoder Json α) (j : Option Json) : Option α :=
  j.bind fun v => (decode v).toOption

theorem Plan.object_ok_iff {α : Type} {decode : Wire.Decoder Json α} {field : String}
    {j : Option Json} {a : α} :
    (Plan.object decode field j).result = .ok a ↔ Plan.read? decode j = some a := by
  cases j with
  | none => simp [object, read?, invalid]
  | some v => cases h : decode v <;> simp [object, read?, invalid, h, Except.toOption]

namespace Binding

variable {b new old : Binding} {c : Catalog} {r : Review} {p : Option Grant}

/-- What a new binding hands out: the rules of its template, in the scope that it is checked in. -/
def grant (b : Binding) (r : Review) (rules : List Rule) : Grant :=
  ⟨rules, b.reviewScope r, some (bypassAccess "bind" b.template (b.reviewScope r))⟩

theorem planCreate_ok_iff : (b.planCreate c r).result = .ok p ↔ b.template ≠ "" ∧ ∃ t set,
    c.lookup b.template = .ok t ∧ t.locked = false ∧ t.reach = (b.reviewScope r).reach ∧
      (c.resolveDraft t).result = .ok set ∧ p = some (b.grant r set.rules) := by
  unfold planCreate
  by_cases ht : b.template = ""
  · simp [ht, Plan.invalid]
  have hne : b.template.isEmpty = false := by simpa using ht
  simp only [hne, Bool.false_eq_true, if_false, bind_ok_iff, Plan.guarded, Plan.guardedBy,
    mapError_ok_iff, result_ofExcept, Catalog.bindable_ok_iff, result_pure, Except.ok.injEq, ne_eq,
    ht, not_false_eq_true, true_and]
  constructor
  · intro h
    obtain ⟨t, ⟨hl, hk⟩, ⟨⟩, hr, set, hs, rfl⟩ := h
    exact ⟨t, set, hl, hk, Template.fits_ok_iff.1 hr, hs, by rw [Catalog.name_of_lookup hl, grant]⟩
  · intro h
    obtain ⟨t, set, hl, hk, hr, hs, rfl⟩ := h
    exact ⟨t, ⟨hl, hk⟩, (), Template.fits_ok_iff.2 hr, set, hs, by
      rw [Catalog.name_of_lookup hl, grant]⟩

theorem planUpdate_ok_iff : (new.planUpdate old).result = .ok p ↔
    p = none ∧ old.template = new.template ∧ old.grantee = new.grantee ∧
      old.inNamespace = new.inNamespace := by
  rw [planUpdate]
  split
  · rename_i h
    simp only [Plan.invalid, result_refuse, reduceCtorEq, false_iff]
    intro h
    obtain ⟨-, ht, hg, hn⟩ := h
    simp [ht, hg, hn] at h
  · rename_i h
    simp only [not_or, ne_eq, not_not] at h
    simp only [result_pure, Except.ok.injEq, h, and_true, and_self]
    exact eq_comm

end Binding

namespace Template

variable {t new old : Template} {c : Catalog} {p : Option Grant}

theorem ensureShape_ok_iff : t.ensureShape.result = .ok () ↔ t.shapeComplaint? = none := by
  rw [ensureShape]
  cases t.shapeComplaint? <;> simp [Plan.invalid]

/-- What a template hands out: all that it stands for, everywhere. -/
def grant (t : Template) (rules : List Rule) : Grant :=
  ⟨rules, .cluster, some (bypassAccess "escalate" t.name .cluster)⟩

theorem planGrant_ok_iff : (t.planGrant c).result = .ok p ↔
    ∃ set, (c.resolveDraft t).result = .ok set ∧ p = some (t.grant set.rules) := by
  simp only [planGrant, bind_ok_iff, Plan.guarded, mapError_ok_iff, result_pure, Except.ok.injEq]
  refine exists_congr fun set => and_congr_right fun _ => eq_comm

theorem planCreate_ok_iff : (t.planCreate c).result = .ok p ↔
    t.shapeComplaint? = none ∧ t.builtin = false ∧ (t.planGrant c).result = .ok p := by
  simp only [planCreate, bind_unit_ok_iff, Plan.guardedBy, Plan.guarded, mapError_ok_iff,
    result_ofExcept, ensureShape_ok_iff, mayReplace_none_ok_iff]

theorem planUpdate_ok_iff : (new.planUpdate old c).result = .ok p ↔
    new.shapeComplaint? = none ∧ old.name = new.name ∧ old.builtin = new.builtin ∧
      (old.builtin = true → { old with locked := new.locked } = new) ∧
      (if old.rules = new.rules ∧ old.inherits = new.inherits then p = none
        else (new.planGrant c).result = .ok p) := by
  simp only [planUpdate, bind_unit_ok_iff, ensureShape_ok_iff]
  refine and_congr_right fun _ => ?_
  by_cases hn : old.name = new.name
  · simp only [hn, ne_eq, not_true_eq_false, if_false, bind_unit_ok_iff, Plan.guardedBy,
      Plan.guarded, mapError_ok_iff, result_ofExcept, mayReplace_some_ok_iff, true_and, and_assoc]
    refine and_congr_right fun _ => and_congr_right fun _ => ?_
    by_cases h : old.rules = new.rules ∧ old.inherits = new.inherits
    · simpa only [if_pos h, result_pure, Except.ok.injEq] using eq_comm
    · simp only [if_neg h]
  · simp [hn, Plan.invalid]

/-- Policy keeps a stored template that is builtin or that another one inherits from; any other may
go. -/
theorem result_planDelete (ts : TemplateStore) (t : Template) :
    (t.planDelete (.ofStore ts)).result =
      match ts.find? t.name with
      | none => .ok none
      | some stored =>
        if stored.builtin then .error (.refused (.builtinUndeletable stored.name))
        else if ts.heirs t.name = [] then .ok none
        else .error (.refused (.inUse stored.name
          (((ts.heirs t.name).map Template.name).mergeSort fun a b => decide (a ≤ b)))) := by
  have hguard : (Plan.guarded ((Catalog.ofStore ts).deletable t.name).attempt).result =
      .ok ((Catalog.ofStore ts).deletable t.name).result := rfl
  rw [planDelete, result_bind_of_ok hguard, Catalog.result_deletable]
  cases ts.find? t.name with
  | none => rfl
  | some stored =>
    cases hb : stored.builtin with
    | true => simp [hb, Refusal.isNotFound]
    | false => by_cases hh : ts.heirs t.name = [] <;> simp [hb, hh, Refusal.isNotFound]

/-- A template may go if it is not there, or if it is not builtin and no other one inherits from
it. -/
theorem planDelete_ok_iff {ts : TemplateStore} : (t.planDelete (.ofStore ts)).result = .ok p ↔
    p = none ∧ ∀ stored, ts.find? t.name = some stored →
      stored.builtin = false ∧ ts.heirs t.name = [] := by
  rw [result_planDelete]
  cases ts.find? t.name with
  | none => simpa using eq_comm
  | some stored =>
    cases hb : stored.builtin with
    | true => simp [hb]
    | false =>
      by_cases hh : ts.heirs t.name = []
      · simpa [hb, hh] using eq_comm
      · simp [hb, hh]

end Template

/-- Who the requester is has no part in the plan. -/
theorem Review.plan_with_user (r : Review) (user : Subject) (kind : ReviewKind) (c : Catalog) :
    { r with user }.plan kind c = r.plan kind c := by
  cases kind <;> rfl

end GrantGate
