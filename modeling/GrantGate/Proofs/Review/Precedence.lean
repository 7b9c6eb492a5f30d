import GrantGate.Proofs.Review.Guards

namespace GrantGate

open Inquiry

/-- All that is asked for is templates. -/
def Inquiry.AsksTemplates {ε α : Type} (x : Inquiry ε α) : Prop :=
  ∀ e ∈ x.events, e = .list ∨ ∃ name, e = .get name

section

variable {ε δ α β : Type} {x : Inquiry ε α}

private theorem asksTemplates_of_nil (h : x.events = []) : x.AsksTemplates := by
  intro e he
  rw [h] at he
  cases he

theorem Inquiry.AsksTemplates.bind {f : α → Inquiry ε β} (hx : x.AsksTemplates)
    (hf : ∀ a, (f a).AsksTemplates) : (x >>= f).AsksTemplates := by
  intro e he
  rw [events_bind] at he
  cases hr : x.result with
  | error e' =>
    rw [hr] at he
    exact hx e he
  | ok a =>
    rw [hr] at he
    rcases List.mem_append.1 he with he | he
    · exact hx e he
    · exact hf a e he

theorem Inquiry.AsksTemplates.mapError {f : ε → δ} (h : x.AsksTemplates) :
    (x.mapError f).AsksTemplates := h

theorem Inquiry.AsksTemplates.attempt (h : x.AsksTemplates) : x.attempt.AsksTemplates := h

variable {c : Catalog}

private theorem Catalog.asksTemplates_get (name : String) : (c.get name).AsksTemplates := by
  intro e he
  exact .inr ⟨name, List.mem_singleton.1 he⟩

private theorem Catalog.asksTemplates_list : c.list.AsksTemplates := by
  intro e he
  exact .inl (List.mem_singleton.1 he)

private theorem Catalog.asksTemplates_resolveDraft (draft : Template) :
    (c.resolveDraft draft).AsksTemplates := by
  rw [resolveDraft_eq]
  intro e he
  obtain ⟨name, -, rfl⟩ := List.mem_map.1 he
  exact .inr ⟨name, rfl⟩

private theorem Catalog.asksTemplates_bindable (name : String) :
    (c.bindable name).AsksTemplates := by
  refine (asksTemplates_get name).bind fun t => ?_
  cases t.locked <;> exact asksTemplates_of_nil rfl

private theorem Catalog.asksTemplates_deletable (name : String) :
    (c.deletable name).AsksTemplates := by
  refine (asksTemplates_get name).bind fun t => ?_
  split
  · exact asksTemplates_of_nil rfl
  refine asksTemplates_list.bind fun all => ?_
  dsimp only
  split <;> exact asksTemplates_of_nil rfl

private theorem Plan.asksTemplates_object {decode : Wire.Decoder Json α} {field : String}
    {j : Option Json} : (Plan.object decode field j).AsksTemplates := by
  cases j with
  | none => exact asksTemplates_of_nil rfl
  | some v =>
    rw [object]
    cases decode v <;> exact asksTemplates_of_nil rfl

private theorem Template.asksTemplates_planGrant {t : Template} : (t.planGrant c).AsksTemplates :=
  (Catalog.asksTemplates_resolveDraft t).mapError.bind fun _ => asksTemplates_of_nil rfl

private theorem Template.asksTemplates_ensureShape {t : Template} :
    t.ensureShape.AsksTemplates := by
  rw [ensureShape]
  cases t.shapeComplaint? <;> exact asksTemplates_of_nil rfl

/-- Planning a review takes nothing but look-ups of templates. -/
theorem Review.asksTemplates_plan (r : Review) (kind : ReviewKind) :
    (r.plan kind c).AsksTemplates := by
  cases kind with
  | bindings =>
    rw [plan, planBinding]
    cases r.operation with
    | create =>
      refine Plan.asksTemplates_object.bind fun b => ?_
      rw [Binding.planCreate]
      split
      · exact asksTemplates_of_nil rfl
      refine (Catalog.asksTemplates_bindable _).mapError.bind fun t => ?_
      refine (asksTemplates_of_nil rfl).bind fun _ => ?_
      exact (Catalog.asksTemplates_resolveDraft t).mapError.bind fun _ => asksTemplates_of_nil rfl
    | update =>
      refine Plan.asksTemplates_object.bind fun new => Plan.asksTemplates_object.bind fun old => ?_
      rw [Binding.planUpdate]
      split <;> exact asksTemplates_of_nil rfl
    | delete => exact asksTemplates_of_nil rfl
  | templates =>
    rw [plan, planTemplate]
    cases r.operation with
    | create =>
      refine Plan.asksTemplates_object.bind fun t => ?_
      refine Template.asksTemplates_ensureShape.bind fun _ => ?_
      exact (asksTemplates_of_nil rfl).bind fun _ => Template.asksTemplates_planGrant
    | update =>
      refine Plan.asksTemplates_object.bind fun new => Plan.asksTemplates_object.bind fun old => ?_
      refine Template.asksTemplates_ensureShape.bind fun _ => ?_
      split
      · exact asksTemplates_of_nil rfl
      refine (asksTemplates_of_nil rfl).bind fun _ => ?_
      split
      · exact asksTemplates_of_nil rfl
      · exact Template.asksTemplates_planGrant
    | delete =>
      refine Plan.asksTemplates_object.bind fun t => ?_
      refine (Catalog.asksTemplates_deletable t.name).attempt.mapError.bind fun result => ?_
      cases result with
      | ok => exact asksTemplates_of_nil rfl
      | error e =>
        dsimp only
        split <;> exact asksTemplates_of_nil rfl

end

namespace State

variable {s : State} {kind : ReviewKind} {r : Review} {f : Fault}

/-- Whoever asks, the guard that turns a review away has the last word. -/
theorem result_validate_of_barred (barred : Barred s.templates kind r f) (user : Subject) :
    (s.validate kind { r with user }).result = .error f := by
  rw [validate, r.plan_with_user]
  exact Inquiry.result_bind_of_error barred.plan

theorem asksTemplates_validate_of_barred (barred : Barred s.templates kind r f) (user : Subject) :
    (s.validate kind { r with user }).AsksTemplates := by
  have hplan : (r.plan kind s.catalog).result = .error f := barred.plan
  intro e he
  rw [validate, r.plan_with_user, Inquiry.events_bind_of_error hplan] at he
  exact r.asksTemplates_plan kind e he

/-- What a guard says against a review is the whole answer, whoever asks, whatever they hold,
whether or not there is an oracle, and however little time is left; neither holdings nor an oracle
are looked at. So nobody comes to bind a locked template that has a name. -/
theorem respond_of_barred (templates : TemplateStore) (r : Review) (user : Subject)
    (bindings : List Binding) (oracleEnabled : Bool) (capabilityTimeout : Nat) (shutDown : Bool) :
    let s : State := { templates, bindings, oracleEnabled, capabilityTimeout, shutDown }
    let asked : Review := { r with user }
    (∀ kind f, Barred templates kind r f →
      s.respond kind asked = ⟨r.uid, false, some f.message, f.outcome.code⟩ ∧
        ∀ e ∈ (s.validate kind asked).events, e = .list ∨ ∃ name, e = .get name) ∧
    ∀ b t, r.operation = .create → r.newBinding? = some b → b.template ≠ "" →
      templates.find? b.template = some t → t.locked = true →
      s.respond .bindings asked = ⟨r.uid, false,
        some (Refusal.templateLocked b.template).message, 403⟩ := by
  intro s asked
  have answer {kind : ReviewKind} {f : Fault} (barred : Barred templates kind r f) :
      s.respond kind asked = ⟨r.uid, false, some f.message, f.outcome.code⟩ := by
    have hresult : (s.validate kind asked).result = .error f :=
      result_validate_of_barred barred user
    rw [respond, hresult]
  constructor
  · intro kind f barred
    exact ⟨answer barred, asksTemplates_validate_of_barred barred user⟩
  · intro b t create reads named stored locked
    exact answer (.of_locked create reads named stored locked)

/-- Carol holds everything and might ask the oracle. All the same she neither binds the locked
template nor renames it, not even while the service is going down. -/
theorem respond_of_barred_carol :
    let viewer : Template := { name := "viewer", rules := [.everything], locked := true }
    let renamed : Template := { viewer with name := "reader", rules := [] }
    let templates : TemplateStore := .ofList [viewer]
    let bindings : List Binding := [⟨"a", .user "carol", "viewer", none⟩]
    let s : State := { templates, bindings, capabilityTimeout := 0, shutDown := true }
    let carol : Subject := { username := "carol" }
    let erin : Subject := { username := "erin" }
    let b : Binding := ⟨"b", .user "erin", "viewer", none⟩
    let binds : Review := { uid := "1", operation := .create, user := erin, object := b.toJson }
    let renames : Review :=
      { uid := "2", operation := .update, user := erin, object := renamed.toJson,
        oldObject := viewer.toJson }
    binds.newBinding? = some b ∧ templates.find? b.template = some viewer ∧
      Barred templates .templates renames (.invalid (.templateRenamed "viewer" "reader")) ∧
      s.respond .bindings { binds with user := carol } = ⟨"1", false,
        "template \"viewer\" is locked and cannot be referenced by new bindings", 403⟩ ∧
      s.respond .templates { renames with user := carol } = ⟨"2", false,
        "template name is immutable (\"viewer\" -> \"reader\")", 400⟩ := by
  intro viewer renamed templates bindings s carol erin b binds renames
  have reads : binds.newBinding? = some b := by decide +kernel
  have stored : templates.find? b.template = some viewer := by decide +kernel
  have readsNew : renames.newTemplate? = some renamed := by decide +kernel
  have readsOld : renames.oldTemplate? = some viewer := by decide +kernel
  have shape : renamed.shapeComplaint? = none := by decide +kernel
  have barred :
      Barred templates .templates renames (.invalid (.templateRenamed "viewer" "reader")) :=
    .renamed (.update rfl readsNew readsOld) shape (by decide)
  obtain ⟨-, locked⟩ := respond_of_barred templates binds carol bindings true 0 true
  obtain ⟨guards, -⟩ := respond_of_barred templates renames carol bindings true 0 true
  obtain ⟨answer, -⟩ := guards _ _ barred
  refine ⟨reads, stored, barred, (locked b viewer rfl reads (by decide) stored rfl).trans ?_,
    answer.trans ?_⟩
  · decide +kernel
  · decide +kernel

/-- A binding to a locked template whose name is empty is not denied: it counts as one that names no
template. -/
theorem respond_nameless_locked :
    let nameless : Template := { name := "", locked := true }
    let s : State := { templates := .ofList [nameless] }
    let b : Binding := ⟨"b", .user "erin", "", none⟩
    let r : Review :=
      { uid := "1", operation := .create, user := { username := "carol" }, object := b.toJson }
    r.operation = .create ∧ r.newBinding? = some b ∧
      s.templates.find? b.template = some nameless ∧ nameless.locked = true ∧
      s.respond .bindings r = ⟨"1", false, "binding template is required", 400⟩ := by
  decide +kernel

end State

end GrantGate
