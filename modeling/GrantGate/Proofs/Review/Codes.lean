import GrantGate.Proofs.Escalation.Promptness
import GrantGate.Proofs.Review.Decision
import GrantGate.Proofs.Review.Guards
import GrantGate.Proofs.Review.Outcome

namespace GrantGate

open Inquiry

section

variable {ts : TemplateStore} {kind : ReviewKind} {r : Review} {f : Fault} {t : Template}

/-- A guard finds bad input, or it denies. -/
theorem Fault.FromGuard.outcome (h : f.FromGuard) : f.outcome = .invalid ∨ f.outcome = .denied := by
  cases h with
  | invalid => exact .inl rfl
  | notFound => exact .inl rfl
  | reachMismatch => exact .inl rfl
  | templateLocked => exact .inr rfl
  | builtinImmutable => exact .inr rfl
  | builtinFlag => exact .inr rfl
  | builtinUndeletable => exact .inr rfl
  | inUse => exact .inr rfl

theorem Barred.outcome (h : Barred ts kind r f) : f.outcome = .invalid ∨ f.outcome = .denied :=
  h.fromGuard.outcome

/-- The template whose rules a review hands out if its guards let it pass: that of a new binding, or
one that is written and does not keep its rules and parents. -/
inductive Review.HandsOut (r : Review) (ts : TemplateStore) : ReviewKind → Template → Prop
  | bind {b t} (create : r.operation = .create) (reads : r.newBinding? = some b)
      (stored : ts.find? b.template = some t) : HandsOut r ts .bindings t
  | write {t old?} (writes : r.Writes t old?)
      (changed : ∀ old ∈ old?, ¬ (old.rules = t.rules ∧ old.inherits = t.inherits)) :
      HandsOut r ts .templates t

theorem handsOut_of_plan {g : Grant} (h : (r.plan kind (.ofStore ts)).result = .ok (some g)) :
    ∃ t set, r.HandsOut ts kind t ∧ ((Catalog.ofStore ts).resolveDraft t).result = .ok set ∧
      set.rules = g.rules := by
  cases Review.grants_of_plan h with
  | bind create reads stored resolves =>
    exact ⟨_, _, .bind create reads stored, resolves, rfl⟩
  | write writes changed resolves => exact ⟨_, _, .write writes changed, resolves, rfl⟩

theorem Review.HandsOut.plan (hands : r.HandsOut ts kind t) {p : Option Grant}
    (h : (r.plan kind (.ofStore ts)).result = .ok p) : ∃ g set, p = some g ∧
      ((Catalog.ofStore ts).resolveDraft t).result = .ok set ∧ set.rules = g.rules := by
  have of_grant (grant : (t.planGrant (.ofStore ts)).result = .ok p) : ∃ g set, p = some g ∧
      ((Catalog.ofStore ts).resolveDraft t).result = .ok set ∧ set.rules = g.rules := by
    obtain ⟨set, resolves, hp⟩ := Template.planGrant_ok_iff.1 grant
    exact ⟨_, set, hp, resolves, rfl⟩
  cases hands with
  | bind create reads stored =>
    rw [Review.plan, Review.result_planBinding_of_create create reads,
      Binding.planCreate_ok_iff] at h
    obtain ⟨-, t', set, stored', -, -, resolves, hp⟩ := h
    obtain rfl : t = t' := Option.some_inj.1 (stored.symm.trans (Catalog.lookup_ofStore.1 stored'))
    exact ⟨_, set, hp, resolves, rfl⟩
  | write writes changed =>
    cases writes with
    | create create reads =>
      rw [Review.plan, Review.result_planTemplate_of_create create reads,
        Template.planCreate_ok_iff] at h
      obtain ⟨-, -, grant⟩ := h
      exact of_grant grant
    | update update reads readsOld =>
      rw [Review.plan, Review.result_planTemplate_of_update update reads readsOld,
        Template.planUpdate_ok_iff, if_neg (changed _ rfl)] at h
      obtain ⟨-, -, -, -, grant⟩ := h
      exact of_grant grant

end

namespace State

variable {s : State} {kind : ReviewKind} {r : Review}

/-- All guards let the review pass, and the requester is to be checked against at least one rule. -/
def Demands (s : State) (kind : ReviewKind) (r : Review) : Prop :=
  (∀ f, ¬ Barred s.templates kind r f) ∧
    ∃ t rule, r.HandsOut s.templates kind t ∧ (s.drafted t).Declares t.name rule

theorem demands_iff_plan : s.Demands kind r ↔
    ∃ g, (r.plan kind s.catalog).result = .ok (some g) ∧ g.rules ≠ [] := by
  have declares {t : Template} {set : RuleSet}
      (resolves : (s.catalog.resolveDraft t).result = .ok set) {rule : Rule} :
      rule ∈ set.rules ↔ (s.drafted t).Declares t.name rule :=
    Catalog.mem_rules_of_resolve ((Catalog.result_resolveDraft s.templates t).symm.trans resolves)
  constructor
  · intro h
    obtain ⟨passes, t, rule, hands, declared⟩ := h
    cases hp : (r.plan kind s.catalog).result with
    | error f => exact absurd (plan_error_iff.1 hp) (passes f)
    | ok p =>
      obtain ⟨g, set, rfl, resolves, rules⟩ := hands.plan hp
      have hrule : rule ∈ g.rules := rules ▸ (declares resolves).2 declared
      exact ⟨g, rfl, List.ne_nil_of_mem hrule⟩
  · intro h
    obtain ⟨g, hp, hg⟩ := h
    obtain ⟨t, set, hands, resolves, rules⟩ := handsOut_of_plan hp
    obtain ⟨rule, hrule⟩ := List.exists_mem_of_ne_nil _ hg
    refine ⟨fun f barred => ?_, t, rule, hands, (declares resolves).1 (rules ▸ hrule)⟩
    have hf : (r.plan kind s.catalog).result = .error f := barred.plan
    rw [hp] at hf
    cases hf

/-- No review fails on the side of the service, and one runs out of time only if the service is
going down. -/
private theorem outcome_of_validate {f : Fault} (h : (s.validate kind r).result = .error f) :
    f.outcome = .invalid ∨ f.outcome = .denied ∨ s.shutDown = true ∧ f.outcome = .timeout := by
  rw [validate, bind_error_iff] at h
  obtain barred | ⟨p, -, h⟩ := h
  · exact (plan_error_iff.1 barred).outcome.imp_right .inl
  cases p with
  | none => cases h
  | some g =>
    have hf := outcome_of_settle h
    cases hs : s.shutDown with
    | true => exact .inr (.inr ⟨rfl, by rw [hf, hs, if_pos rfl]⟩)
    | false => exact .inr (.inl (by rw [hf, hs, if_neg Bool.false_ne_true]))

theorem code_respond_of_up (up : s.shutDown = false) :
    (s.respond kind r).code ∈ ([200, 400, 403] : List UInt16) := by
  rw [respond]
  cases hv : (s.validate kind r).result with
  | ok => simp [Outcome.code]
  | error f =>
    rcases outcome_of_validate hv with hf | hf | ⟨down, -⟩
    · simp [hf, Outcome.code]
    · simp [hf, Outcome.code]
    · rw [up] at down
      cases down

/-- Once the service is going down, a review that demands a check of the requester runs out of time,
and no other one does. -/
theorem code_respond_of_down (down : s.shutDown = true) :
    (s.respond kind r).code = 504 ↔ s.Demands kind r := by
  have settled (g : Grant) : (s.settle r g).result =
      if g.rules.isEmpty then .ok () else .error .cancelled := by
    rw [result_settle, down, if_pos rfl]
  rw [demands_iff_plan]
  constructor
  · intro h
    rw [respond] at h
    cases hv : (s.validate kind r).result with
    | ok =>
      rw [hv] at h
      cases h
    | error f =>
      rw [hv] at h
      rw [validate, bind_error_iff] at hv
      obtain barred | ⟨p, hp, hv⟩ := hv
      · rcases (plan_error_iff.1 barred).outcome with hf | hf
        · simp [hf, Outcome.code] at h
        · simp [hf, Outcome.code] at h
      cases p with
      | none => cases hv
      | some g =>
        refine ⟨g, hp, fun hg => ?_⟩
        have hok : ((s.settle r g).mapError Fault.refused).result = .ok () :=
          mapError_ok_iff.2 (by simp [settled, hg])
        rw [hok] at hv
        cases hv
  · intro h
    obtain ⟨g, hp, hg⟩ := h
    have hcancelled : (s.settle r g).result = .error .cancelled := by simp [settled, hg]
    have hv : (s.validate kind r).result = .error (.refused .cancelled) :=
      (result_bind_of_ok hp).trans (mapError_error_iff.2 ⟨_, hcancelled, rfl⟩)
    rw [respond, hv]
    rfl

/-- A review with these capabilities in place of those over the stored bindings. -/
def validateWith (s : State) (resolver : Resolver) (oracle : Option Oracle) (kind : ReviewKind)
    (r : Review) : Inquiry Fault Unit := do
  match ← r.plan kind s.catalog with
  | none => pure ()
  | some grant =>
    let (result, clock) := grant.ensure r.user resolver oracle s.limits s.clock
    mapError .refused ⟨clock.log, result.getD (.error .deadlineExceeded)⟩

def respondWith (s : State) (resolver : Resolver) (oracle : Option Oracle) (kind : ReviewKind)
    (r : Review) : Response :=
  match (s.validateWith resolver oracle kind r).result with
  | .ok () => ⟨r.uid, true, none, Outcome.allowed.code⟩
  | .error fault => ⟨r.uid, false, some fault.message, fault.outcome.code⟩

private theorem respondWith_own : s.respondWith s.resolver s.oracle kind r = s.respond kind r := rfl

/-- With prompt capabilities a review ends by itself, in a decision or a cancellation. -/
theorem code_respondWith {resolver : Resolver} {oracle : Option Oracle}
    (answers : ∀ subject scope, (resolver subject scope).Prompt)
    (prompt : ∀ o ∈ oracle, ∀ subject access, (o subject access).Prompt) :
    (s.respondWith resolver oracle kind r).code ∈ ([200, 400, 403, 504] : List UInt16) := by
  rw [respondWith]
  cases hv : (s.validateWith resolver oracle kind r).result with
  | ok => simp [Outcome.code]
  | error f =>
    rw [validateWith, bind_error_iff] at hv
    obtain barred | ⟨p, -, hv⟩ := hv
    · rcases (plan_error_iff.1 barred).outcome with hf | hf
      · simp [hf, Outcome.code]
      · simp [hf, Outcome.code]
    cases p with
    | none => cases hv
    | some g =>
      obtain ⟨result, c, hensure, hresult⟩ :=
        g.ensure_of_prompt r.user s.limits answers prompt s.clock
      simp only [hensure] at hv
      obtain ⟨e, he, rfl⟩ := mapError_error_iff.1 hv
      rcases hresult e he with rfl | ⟨d, rfl⟩
      · simp [Fault.outcome, Refusal.isPolicyRejection, Outcome.code]
      · simp [Fault.outcome, Refusal.isPolicyRejection, Outcome.code]

/-- The capabilities of a service whose requests are cancelled while they are under way. -/
def cancelledResolver (s : State) (steps : Nat) : Resolver := fun subject scope =>
  (s.resolver subject scope).cancelledAfter steps

def cancelledOracle (s : State) (steps : Nat) : Option Oracle :=
  s.oracle.map fun o subject access => (o subject access).cancelledAfter steps

/-- Over a snapshot, whatever is missing in it, the answer to a review is a decision: yes, no or bad
input. Where the service was going down before, it is a time-out exactly if all guards pass and the
requester had to be checked for at least one rule. If the service goes down in the middle, at
whatever step of the call for the holdings or of that of the oracle, it is one of these. -/
theorem code_ofSnapshot (snap : Snapshot) (oracleEnabled : Bool) (timeout : Nat)
    (kind : ReviewKind) (r : Review) :
    let s := State.ofSnapshot snap oracleEnabled timeout
    (s.respond kind r).code ∈ ([200, 400, 403] : List UInt16) ∧
    (s.shutdown.respond kind r).code ∈ ([200, 400, 403, 504] : List UInt16) ∧
    ((s.shutdown.respond kind r).code = 504 ↔ s.Demands kind r) ∧
    ∀ inResolver inOracle, (s.respondWith (s.cancelledResolver inResolver)
      (s.cancelledOracle inOracle) kind r).code ∈ ([200, 400, 403, 504] : List UInt16) := by
  intro s
  have prompt (s : State) : ∀ o ∈ s.oracle, ∀ subject access, (o subject access).Prompt := by
    intro o ho subject access
    rw [oracle] at ho
    split at ho
    · cases ho
      exact s.prompt_bindingOracle subject access
    · cases ho
  refine ⟨code_respond_of_up rfl, ?_, code_respond_of_down rfl, fun inResolver inOracle => ?_⟩
  · rw [← respondWith_own]
    exact code_respondWith s.shutdown.prompt_resolver (prompt s.shutdown)
  · refine code_respondWith (fun subject scope => ?_) fun o ho subject access => ?_
    · exact (s.prompt_resolver subject scope).cancelledAfter inResolver
    · obtain ⟨o', ho', rfl⟩ := Option.map_eq_some_iff.1 ho
      exact (prompt s o' ho' subject access).cancelledAfter inOracle

/-- Alice may bind viewers without being one. If the service goes down before, or while the oracle
is asked, she gets no decision. -/
example :
    let pods : Rule := { verbs := ["get"], groups := [""], resources := ["pods"] }
    let binds : Rule :=
      { verbs := ["bind"], groups := ["management.warden.io"],
        resources := ["permissiontemplates"], names := ["viewer"] }
    let snap : Snapshot :=
      { templates :=
          [{ name := "viewer", rules := [pods] }, { name := "binder", rules := [binds] }],
        bindings := [⟨"a", .user "alice", "binder", none⟩] }
    let s := State.ofSnapshot snap true 0
    let b : Binding := ⟨"b", .user "erin", "viewer", none⟩
    let r : Review :=
      { uid := "1", operation := .create, user := { username := "alice" }, object := b.toJson }
    let cancelled : Response := ⟨"1", false, "request cancelled", 504⟩
    s.respond .bindings r = ⟨"1", true, none, 200⟩ ∧
      s.respondWith s.resolver (s.cancelledOracle 0) .bindings r = cancelled ∧
      s.shutdown.respond .bindings r = cancelled := by
  decide +kernel

end State

end GrantGate
