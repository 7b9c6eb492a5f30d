import GrantGate.Proofs.Coverage.Chains
import GrantGate.Proofs.Holdings
import GrantGate.State

namespace GrantGate

namespace Activity

variable {α β : Type} {l : Limits}

/-- Unless the request is cancelled, the answer comes without a wait, and of the clock it changes
only the log. -/
def AnswersAtOnce (l : Limits) (a : Activity α) (r : Except Refusal α) : Prop :=
  ∀ c, l.cancelledBy c = false → ∃ log, a.run l c = (some r, { c with log })

private theorem answersAtOnce_answer (r : Except Refusal α) : (answer r).AnswersAtOnce l r :=
  fun c _ => ⟨c.log, rfl⟩

variable {a : Activity α} {r : Except Refusal α}

theorem AnswersAtOnce.note (h : a.AnswersAtOnce l r) (e : Event) :
    (Activity.note e a).AnswersAtOnce l r := by
  intro c hc
  obtain ⟨log, hrun⟩ := h (c.note e) hc
  exact ⟨log, hrun⟩

private theorem answersAtOnce_ofInquiry (x : Inquiry Refusal α) :
    (ofInquiry x).AnswersAtOnce l x.result := by
  unfold ofInquiry
  induction x.events with
  | nil => exact answersAtOnce_answer x.result
  | cons e events ih => exact ih.note e

private theorem answersAtOnce_unlessCancelled (x : Inquiry Refusal α) :
    (unlessCancelled x).AnswersAtOnce l x.result := by
  intro c hc
  obtain ⟨log, hrun⟩ := answersAtOnce_ofInquiry x c hc
  exact ⟨log, by simp only [unlessCancelled, run, hc, hrun, Bool.false_eq_true, if_false]⟩

/-- The run of a bind: the second part starts where the first one has answered. -/
private theorem run_bind (l : Limits) (f : α → Activity β) (a : Activity α) (c : Clock) :
    (a.bind f).run l c = match a.run l c with
      | (some (.ok x), c) => (f x).run l c
      | (some (.error e), c) => (some (.error e), c)
      | (none, c) => (none, c) := by
  induction a generalizing c with
  | answer r => cases r <;> rfl
  | note e next ih => exact ih _
  | cancel next ih => exact ih _
  | ifCancelled yes no ihYes ihNo =>
    simp only [bind, run]
    split
    · exact ihYes c
    · exact ihNo c
  | wait ms next ih =>
    cases ms with
    | zero => exact ih c
    | succ ms =>
      simp only [bind, run]
      cases l.endOfWait c (some (c.now + (ms + 1))) with
      | woken t => exact ih _
      | cancelled t => rfl
      | expired t => rfl
      | never => rfl
  | stall =>
    simp only [bind, run]
    cases l.endOfWait c none <;> rfl

theorem AnswersAtOnce.bind {x : α} {f : α → Activity β} {r : Except Refusal β}
    (ha : a.AnswersAtOnce l (.ok x)) (hf : (f x).AnswersAtOnce l r) :
    (a.bind f).AnswersAtOnce l r := by
  intro c hc
  obtain ⟨log, hrun⟩ := ha c hc
  obtain ⟨log', hrun'⟩ := hf { c with log } hc
  refine ⟨log', ?_⟩
  rw [run_bind, hrun]
  exact hrun'

theorem AnswersAtOnce.call (h : a.AnswersAtOnce l r) {c : Clock} (hc : l.cancelledBy c = false) :
    ∃ log, l.call a c = (some r, { c with log }) := by
  simpa [Limits.call, hc] using h c hc

end Activity

namespace State

variable (s : State)

/-- What a subject holds in a scope, as far as its bindings resolve. -/
def picture (subject : Subject) (scope : Scope) : Resolution :=
  s.catalog.picture s.bindings subject scope

theorem result_holdings (subject : Subject) (scope : Scope) :
    (s.catalog.holdings s.bindings subject scope).result = .ok (s.picture subject scope) :=
  Catalog.result_holdings (Catalog.onlyMisses_ofStore _)

theorem resolver_answers (subject : Subject) (scope : Scope) :
    (s.resolver subject scope).AnswersAtOnce s.limits (.ok (s.picture subject scope)) := by
  rw [← result_holdings]
  exact (Activity.answersAtOnce_unlessCancelled _).note _

theorem bindingOracle_answers (subject : Subject) (access : Access) :
    (s.bindingOracle subject access).AnswersAtOnce s.limits
      (.ok (.ofHeld (s.picture subject access.scope) access)) :=
  ((s.resolver_answers subject access.scope).bind (Activity.answersAtOnce_answer _)).note _

/-- The rules that the grant would hand out and that the requester is not known to hold. -/
def lacking (subject : Subject) (g : Grant) : List Rule := g.missing (s.picture subject g.scope)

/-- The oracle, if there is one, allows the bypass of the grant. -/
def waives (subject : Subject) (g : Grant) : Bool :=
  s.oracleEnabled && g.bypass.any fun access =>
    heldCover (s.picture subject access.scope).rules access.toRule

/-- The verdict over a grant, from what the requester holds. -/
def verdict (subject : Subject) (g : Grant) : Verdict :=
  let held := s.picture subject g.scope
  let lacking := s.lacking subject g
  if lacking.isEmpty then .allow
  else if s.waives subject g then ⟨true, lacking, held.complete, true, held.incompleteReason⟩
  else .deny lacking held.complete held.incompleteReason

private theorem allowed_ofHeld (held : Resolution) (access : Access) :
    (OracleAnswer.ofHeld held access).allowed = heldCover held.rules access.toRule := by
  rw [OracleAnswer.ofHeld]
  cases heldCover held.rules access.toRule <;> rfl

theorem settle_of_held (subject : Subject) (g : Grant) {c : Clock}
    (hc : s.limits.cancelledBy c = false) :
    ∃ c', g.settle subject s.oracle s.limits (s.picture subject g.scope) c =
      (some (.ok (s.verdict subject g)), c') := by
  unfold Grant.settle verdict
  rw [← lacking]
  by_cases hl : (s.lacking subject g).isEmpty
  · exact ⟨c, by simp [hl]⟩
  simp only [hl, Bool.false_eq_true, if_false]
  cases ho : s.oracleEnabled with
  | false => exact ⟨c, by simp [oracle, waives, ho]⟩
  | true =>
    cases hb : g.bypass with
    | none => exact ⟨c, by simp [oracle, waives, ho, hb]⟩
    | some access =>
      obtain ⟨log, hcall⟩ := (s.bindingOracle_answers subject access).call hc
      simp only [oracle, waives, ho, hb, if_true, hcall, allowed_ofHeld, Option.any_some,
        Bool.true_and]
      split
      · exact ⟨_, rfl⟩
      · exact ⟨_, rfl⟩

/-- A grant without rules needs nothing. Any other is refused once the service is going down, and
has its verdict otherwise. -/
theorem result_settle (r : Review) (g : Grant) : (s.settle r g).result =
    if g.rules.isEmpty then .ok ()
    else if s.shutDown then .error .cancelled
    else (s.verdict r.user g).toExcept r.user := by
  have hcancelled : s.limits.cancelledBy s.clock = s.shutDown := by
    simp [Limits.cancelledBy, limits, clock]
  simp only [settle, Grant.ensure, Grant.confirm]
  by_cases hr : g.rules.isEmpty
  · simp [hr, Verdict.toExcept, Verdict.allow, Except.bind]
  simp only [hr, Bool.false_eq_true, if_false]
  cases hs : s.shutDown with
  | true => simp [Limits.call, hcancelled, hs, Except.bind]
  | false =>
    rw [hs] at hcancelled
    obtain ⟨log, hcall⟩ := (s.resolver_answers r.user g.scope).call hcancelled
    have hlog : s.limits.cancelledBy { s.clock with log } = false := hcancelled
    obtain ⟨c, hsettle⟩ := s.settle_of_held r.user g hlog
    simp [hcall, hsettle, Except.bind]

variable {s}

theorem verdict_allowed_iff {subject : Subject} {g : Grant} :
    (s.verdict subject g).allowed = true ↔
      s.lacking subject g = [] ∨ s.waives subject g = true := by
  simp only [verdict, List.isEmpty_iff]
  by_cases hl : s.lacking subject g = []
  · simp [hl, Verdict.allow]
  cases hw : s.waives subject g <;> simp [hl, Verdict.deny]

theorem settle_ok_iff {r : Review} {g : Grant} : (s.settle r g).result = .ok () ↔
    g.rules = [] ∨ s.shutDown = false ∧ (s.lacking r.user g = [] ∨ s.waives r.user g = true) := by
  rw [result_settle, ← verdict_allowed_iff]
  by_cases hr : g.rules = []
  · simp [hr]
  cases hs : s.shutDown with
  | true => simp [hr]
  | false =>
    cases hv : (s.verdict r.user g).allowed <;> simp [hr, hv, Verdict.toExcept]

theorem lacking_eq_nil_iff {subject : Subject} {g : Grant} (hg : g.rules ≠ []) :
    s.lacking subject g = [] ↔ (s.picture subject g.scope).complete = true ∧
      heldCoverAll (s.picture subject g.scope).rules g.rules = true := by
  unfold lacking Grant.missing
  cases (s.picture subject g.scope).complete <;> simp [hg, uncovered, heldCoverAll]

variable {s' : State} {subject : Subject} {g : Grant}

/-- The verdict is known from what the requester holds where the grant takes effect, if that is where
the bypass is asked for. -/
private theorem verdict_congr (oracle : s'.oracleEnabled = s.oracleEnabled)
    (held : s'.picture subject g.scope = s.picture subject g.scope)
    (here : ∀ access ∈ g.bypass, access.scope = g.scope) :
    s'.verdict subject g = s.verdict subject g := by
  have lacking : s'.lacking subject g = s.lacking subject g := by
    rw [State.lacking, held, State.lacking]
  have waives : s'.waives subject g = s.waives subject g := by
    cases hb : g.bypass with
    | none => simp [State.waives, hb]
    | some access =>
      have hscope : access.scope = g.scope := here access hb
      simp only [State.waives, hb, Option.any_some, oracle, hscope, held]
  simp only [verdict, lacking, waives, held]

theorem result_settle_congr {r : Review} (oracle : s'.oracleEnabled = s.oracleEnabled)
    (up : s'.shutDown = s.shutDown)
    (held : s'.picture r.user g.scope = s.picture r.user g.scope)
    (here : ∀ access ∈ g.bypass, access.scope = g.scope) :
    (s'.settle r g).result = (s.settle r g).result := by
  rw [result_settle, result_settle, up, verdict_congr oracle held here]

/-- Of the requester only the name and the groups count, in the verdict and in its words. -/
theorem result_settle_of_same_user {r r' : Review}
    (username : r'.user.username = r.user.username) (groups : r'.user.groups = r.user.groups) :
    (s.settle r' g).result = (s.settle r g).result := by
  have held (scope : Scope) : s.picture r'.user scope = s.picture r.user scope := by
    simp only [picture, Catalog.picture, Binding.appliesTo_congr username groups]
  have lacking : s.lacking r'.user g = s.lacking r.user g := by
    rw [State.lacking, held, State.lacking]
  have waives : s.waives r'.user g = s.waives r.user g := by simp only [State.waives, held]
  have verdict : s.verdict r'.user g = s.verdict r.user g := by
    simp only [State.verdict, lacking, waives, held]
  have words (v : Verdict) : v.toExcept r'.user = v.toExcept r.user := by
    rw [Verdict.toExcept, Verdict.denial, username, groups, Verdict.toExcept, Verdict.denial]
  rw [result_settle, result_settle, verdict, words]

private theorem heldCover_picture_of_includes {wide narrow : Scope} (h : wide.Includes narrow)
    {rule : Rule}
    (held : heldCover (s.picture subject wide).rules rule = true) :
    heldCover (s.picture subject narrow).rules rule = true :=
  heldCover_of_subset (Catalog.picture_rules_subset h) held

/-- Who may hand out a rule holds it in every scope that the grant includes, or has been let through
by the oracle. -/
theorem held_or_waived_of_settle {r : Review} {g : Grant} (h : (s.settle r g).result = .ok ())
    {scope : Scope} (hscope : g.scope.Includes scope) {rule : Rule} (hrule : rule ∈ g.rules) :
    heldCover (s.picture r.user scope).rules rule = true ∨ s.waives r.user g = true := by
  have hne : g.rules ≠ [] := List.ne_nil_of_mem hrule
  rcases settle_ok_iff.1 h with hnil | ⟨-, hlacking | hwaives⟩
  · exact absurd hnil hne
  · obtain ⟨-, hheld⟩ := (lacking_eq_nil_iff hne).1 hlacking
    exact .inl (heldCover_picture_of_includes hscope (heldCoverAll_iff.1 hheld rule hrule))
  · exact .inr hwaives

end State

end GrantGate
