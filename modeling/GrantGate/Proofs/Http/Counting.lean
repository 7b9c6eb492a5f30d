import GrantGate.Http.Service

namespace GrantGate

/-- The outcome that a code stands for. -/
def Outcome.ofCode (code : Nat) : Outcome :=
  if code = 200 then .allowed
  else if code = 400 then .invalid
  else if code = 403 then .denied
  else if code = 504 then .timeout
  else .error

private theorem Outcome.ofCode_code (o : Outcome) : ofCode o.code.toNat = o := by
  cases o <;> decide

private theorem Outcome.code_eq_iff (o : Outcome) : o.code.toNat = 200 ↔ o = .allowed := by
  cases o <;> decide

private theorem Fault.outcome_ne_allowed (f : Fault) : f.outcome ≠ .allowed := by
  cases f with
  | invalid c => simp [outcome]
  | refused e => cases e <;> simp [outcome, Refusal.isPolicyRejection]

namespace Http

open Wire

namespace Request

variable (r : Request)

/-- The name of the kind that a review is asked for, whether or not there is such a kind. -/
def kindName? : Option String :=
  match Endpoint.ofPath? r.path with
  | some (.review segment) => if r.method = "POST" then Text.percentDecode? segment else none
  | _ => none

def kind? : Option ReviewKind := r.kindName?.bind ReviewKind.ofName?

end Request

namespace Answer

variable (a : Answer)

def member? (name : String) : Option Json :=
  match a.body with
  | .json j => j.get? name
  | _ => none

def code? : Option Nat :=
  match a.member? "code" with
  | some (.number (.whole n)) => n.toNat
  | _ => none

/-- The outcome that the code in the body stands for, if the request has been answered at all. -/
def outcome? : Option Outcome := if a.status = 200 then a.code?.map Outcome.ofCode else none

/-- The answer is the decision over a review, and says yes in all places or in none. -/
structure Decides (review : Review) : Prop where
  status : a.status = 200
  code : a.code?.isSome = true
  uid : a.member? "uid" = some (.text review.uid)
  allowed_iff : a.member? "allowed" = some (.bool true) ↔ a.code? = some 200
  message_iff : a.member? "message" = none ↔ a.code? = some 200

end Answer

/-- The kind that a request asks to review and the outcome that its answer shows. -/
def decision? (r : Request) (a : Answer) : Option (ReviewKind × Outcome) :=
  r.kind?.bind fun kind => a.outcome?.map fun outcome => (kind, outcome)

/-- How many answers are decisions with these labels. -/
def decisions (answered : List (Request × Answer)) (kind : ReviewKind) (outcome : Outcome) : Nat :=
  answered.countP fun (r, a) => decision? r a = some (kind, outcome)

section

variable {state : State} {kind : ReviewKind} {review : Review}

private theorem outcome?_ofJson_respond :
    (Answer.ofJson 200 (state.respond kind review).toJson).outcome? =
      some (state.outcome kind review) := by
  rw [State.respond, State.outcome]
  cases (state.validate kind review).result with
  | ok => rfl
  | error f => exact congrArg some (Outcome.ofCode_code f.outcome)

private theorem decides_ofJson_respond :
    (Answer.ofJson 200 (state.respond kind review).toJson).Decides review := by
  rw [State.respond]
  cases (state.validate kind review).result with
  | ok => exact ⟨rfl, rfl, rfl, iff_of_true rfl rfl, iff_of_true rfl rfl⟩
  | error f =>
    have hcode : (Answer.ofJson 200 (Response.toJson
        ⟨review.uid, false, some f.message, f.outcome.code⟩)).code? ≠ some 200 := by
      intro h
      exact f.outcome_ne_allowed ((Outcome.code_eq_iff _).1 (Option.some_inj.1 h))
    refine ⟨rfl, rfl, rfl, iff_of_false ?_ hcode, iff_of_false ?_ hcode⟩
    · intro h
      cases h
    · intro h
      cases h

end

namespace Service

variable {s : Service} {r : Request} {name : String} {kind : ReviewKind}

private theorem handle_of_kindName (h : r.kindName? = some name) :
    ∃ segment, Text.percentDecode? segment = some name ∧ s.handle r = s.review segment r := by
  rw [Request.kindName?] at h
  split at h
  · rename_i segment hpath
    split at h
    · rename_i hmethod
      exact ⟨segment, h, by simp only [handle, hpath, hmethod, if_true]⟩
    · cases h
  · cases h

/-- The kind is looked at first, so that the rest of the request does not matter. -/
theorem handle_of_unknown (h : r.kindName? = some name) (unknown : ReviewKind.ofName? name = none) :
    s.handle r = (refuse 404 "not_found" ("unknown admission kind " ++ Text.quote name), s) := by
  obtain ⟨segment, hname, hreview⟩ := handle_of_kindName h
  rw [hreview]
  simp only [review, hname, unknown]

theorem handle_of_kind (h : r.kind? = some kind) : ∃ segment name,
    Text.percentDecode? segment = some name ∧ ReviewKind.ofName? name = some kind ∧
      s.handle r = s.review segment r := by
  obtain ⟨name, hname, hkind⟩ := Option.bind_eq_some_iff.1 h
  obtain ⟨segment, hname, hreview⟩ := handle_of_kindName hname
  exact ⟨segment, name, hname, hkind, hreview⟩

theorem handle_of_malformed (h : r.kind? = some kind) {e : EnvelopeError}
    (malformed : r.review = .error e) :
    s.handle r = (refuse 400 "validation_error" e.message, s) := by
  obtain ⟨segment, name, hname, hkind, hreview⟩ := handle_of_kind h
  rw [hreview]
  simp only [review, hname, hkind, malformed]

theorem handle_of_review (h : r.kind? = some kind) {asked : Review} (reads : r.review = .ok asked) :
    s.handle r = (.ofJson 200 (s.state.respond kind asked).toJson,
      { s with tally := s.tally.record kind (s.state.outcome kind asked) }) := by
  obtain ⟨segment, name, hname, hkind, hreview⟩ := handle_of_kind h
  rw [hreview]
  simp only [review, hname, hkind, reads]

/-- A request that asks for no review of a known kind leaves the service as it is. -/
private theorem handle_of_no_kind (h : r.kind? = none) : (s.handle r).2 = s := by
  rw [handle]
  cases hpath : Endpoint.ofPath? r.path with
  | none => rfl
  | some endpoint =>
    cases endpoint with
    | health => rfl
    | metrics => rfl
    | review segment =>
      by_cases hmethod : r.method = "POST"
      · simp only [Request.kind?, Request.kindName?, hpath, hmethod, if_true] at h
        simp only [hmethod, if_true, review]
        cases hname : Text.percentDecode? segment with
        | none => rfl
        | some name =>
          rw [hname] at h
          have hkind : ReviewKind.ofName? name = none := h
          simp only [hkind]
      · simp only [hmethod, if_false]

/-- One request counts for the decision that it is answered with, and for nothing otherwise. -/
theorem handle_snd : (s.handle r).2 =
    { s with
      tally :=
        match decision? r (s.handle r).1 with
        | some (kind, outcome) => s.tally.record kind outcome
        | none => s.tally } := by
  cases hkind : r.kind? with
  | none =>
    have hdecision : decision? r (s.handle r).1 = none := by rw [decision?, hkind, Option.bind]
    rw [hdecision, handle_of_no_kind hkind]
  | some kind =>
    cases hreview : r.review with
    | error e =>
      rw [handle_of_malformed hkind hreview]
      have hdecision : decision? r (refuse 400 "validation_error" e.message) = none := by
        rw [decision?, hkind]
        rfl
      rw [hdecision]
    | ok asked =>
      rw [handle_of_review hkind hreview]
      have hdecision : decision? r (.ofJson 200 (s.state.respond kind asked).toJson) =
          some (kind, s.state.outcome kind asked) := by
        rw [decision?, hkind, outcome?_ofJson_respond]
        rfl
      rw [hdecision]

theorem tally_handle (s : Service) (r : Request) (kind : ReviewKind) (outcome : Outcome) :
    (s.handle r).2.tally kind outcome = s.tally kind outcome +
      .ofNat (if decision? r (s.handle r).1 = some (kind, outcome) then 1 else 0) := by
  rw [handle_snd]
  cases decision? r (s.handle r).1 with
  | none => simp
  | some decision =>
    obtain ⟨k, o⟩ := decision
    simp only [Tally.record_apply, Option.some_inj]
    split <;> rfl

end Service

/-- Answers one request after the other, each by what is stored when it comes in. -/
def serve (tally : Tally) : List (State × Request) → List (Request × Answer) × Tally
  | [] => ([], tally)
  | (state, r) :: rest =>
    let (a, service) := Service.handle ⟨state, tally⟩ r
    let (answered, tally) := serve service.tally rest
    ((r, a) :: answered, tally)

private theorem serve_cons {tally : Tally} {state : State} {r : Request}
    {rest : List (State × Request)} :
    let handled := Service.handle ⟨state, tally⟩ r
    let served := serve handled.2.tally rest
    serve tally ((state, r) :: rest) = ((r, handled.1) :: served.1, served.2) := rfl

theorem requests_serve (tally : Tally) (requests : List (State × Request)) :
    (serve tally requests).1.map Prod.fst = requests.map Prod.snd := by
  induction requests generalizing tally with
  | nil => rfl
  | cons request rest ih =>
    obtain ⟨state, r⟩ := request
    rw [serve_cons, List.map_cons, List.map_cons, ih]

/-- Whoever has been answered has been answered by the service in one of its states. -/
private theorem exists_handle_of_mem_serve {tally : Tally} {requests : List (State × Request)}
    {r : Request} {a : Answer} (h : (r, a) ∈ (serve tally requests).1) :
    ∃ s : Service, (s.handle r).1 = a := by
  induction requests generalizing tally with
  | nil => cases h
  | cons request rest ih =>
    obtain ⟨state, r'⟩ := request
    rw [serve_cons] at h
    rcases List.mem_cons.1 h with heq | h
    · cases heq
      exact ⟨⟨state, tally⟩, rfl⟩
    · exact ih h

/-- While requests are answered each counter moves by the number of decisions with its labels. -/
theorem tally_serve (tally : Tally) (requests : List (State × Request)) (kind : ReviewKind)
    (outcome : Outcome) : (serve tally requests).2 kind outcome =
      tally kind outcome + .ofNat (decisions (serve tally requests).1 kind outcome) := by
  induction requests generalizing tally with
  | nil => exact (UInt64.add_zero _).symm
  | cons request rest ih =>
    obtain ⟨state, r⟩ := request
    rw [serve_cons]
    simp only [decisions, List.countP_cons, decide_eq_true_eq] at ih ⊢
    rw [ih, Service.tally_handle, UInt64.add_assoc, ← UInt64.ofNat_add, Nat.add_comm]

private theorem decisions_le_length (answered : List (Request × Answer)) (kind : ReviewKind)
    (outcome : Outcome) : decisions answered kind outcome ≤ answered.length :=
  List.countP_le_length

/-- After fewer than `2 ^ 64` requests each counter says how many of them have been answered with a
decision on its kind whose code stands for its outcome. A kind that is not known, or an envelope
that cannot be read, is an error and no decision, and a decision says whose it is, and yes or no in
all places. -/
theorem decisions_counted_once (requests : List (State × Request))
    (few : requests.length < UInt64.size) :
    let served := serve .empty requests
    served.1.map Prod.fst = requests.map Prod.snd ∧
    (∀ kind outcome, (served.2 kind outcome).toNat = decisions served.1 kind outcome) ∧
    ∀ r a, (r, a) ∈ served.1 →
      (∀ name, r.kindName? = some name → ReviewKind.ofName? name = none → a.status = 404) ∧
      ∀ kind, r.kind? = some kind →
        (∀ e, r.review = .error e → a.status = 400) ∧
        ∀ review, r.review = .ok review → a.Decides review := by
  intro served
  have hrequests : served.1.map Prod.fst = requests.map Prod.snd := requests_serve .empty requests
  refine ⟨hrequests, fun kind outcome => ?_, fun r a hmem => ?_⟩
  · have hlength : served.1.length = requests.length := by
      simpa using congrArg List.length hrequests
    have hfew : decisions served.1 kind outcome < UInt64.size :=
      Nat.lt_of_le_of_lt (decisions_le_length ..) (hlength ▸ few)
    rw [tally_serve, Tally.empty, UInt64.zero_add]
    exact UInt64.toNat_ofNat_of_lt' hfew
  · obtain ⟨s, rfl⟩ := exists_handle_of_mem_serve hmem
    constructor
    · intro name hname unknown
      rw [Service.handle_of_unknown hname unknown]
      rfl
    · intro kind hkind
      constructor
      · intro e malformed
        rw [Service.handle_of_malformed hkind malformed]
        rfl
      · intro review reads
        rw [Service.handle_of_review hkind reads]
        exact decides_ofJson_respond

/-- Carol may give up a binding, whatever it is, but not a template that she does not name. Neither
an unknown kind nor half a review counts. -/
theorem decisions_counted_once_carol :
    let gives_up : String :=
      "\x7b\"uid\":\"1\",\"operation\":\"DELETE\",\"user\":\x7b\"username\":\"carol\"\x7d\x7d"
    let post (kind body : String) : State × Request :=
      ({}, ⟨"POST", "/v1/admission/" ++ kind, "application/json", body⟩)
    let requests : List (State × Request) :=
      [post "templatebindings" gives_up, post "permissiontemplates" gives_up, post "pods" "\x7b",
        post "templatebindings" "\x7b"]
    let answers : List (Nat × Option (ReviewKind × Outcome)) :=
      [(200, some (.bindings, .allowed)), (200, some (.templates, .invalid)), (404, none),
        (400, none)]
    let served := serve .empty requests
    requests.length < UInt64.size ∧
      served.1.map (fun (r, a) => (a.status, decision? r a)) = answers ∧
      (served.2 .bindings .allowed).toNat = 1 ∧ (served.2 .templates .invalid).toNat = 1 ∧
      (served.2 .bindings .invalid).toNat = 0 := by
  intro gives_up post requests answers served
  have few : requests.length < UInt64.size := by decide
  have answered : served.1.map (fun (r, a) => (a.status, decision? r a)) = answers := by
    decide +kernel
  obtain ⟨-, counted, -⟩ := decisions_counted_once requests few
  have found (kind : ReviewKind) (outcome : Outcome) : (served.2 kind outcome).toNat =
      answers.countP fun (_, decision) => decision = some (kind, outcome) := by
    rw [counted, ← answered, List.countP_map]
    rfl
  exact ⟨few, answered, found .bindings .allowed, found .templates .invalid,
    found .bindings .invalid⟩

end Http

end GrantGate
