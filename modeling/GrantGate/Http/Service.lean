import GrantGate.Http.Request
import GrantGate.State

namespace GrantGate

/-- How often each kind of review had each outcome, counted in 64 bits. -/
abbrev Tally := ReviewKind → Outcome → UInt64

namespace Tally

def empty : Tally := fun _ _ => 0

def record (t : Tally) (kind : ReviewKind) (outcome : Outcome) : Tally := fun k o =>
  if k = kind ∧ o = outcome then t k o + 1 else t k o

theorem record_apply (t : Tally) (kind k : ReviewKind) (outcome o : Outcome) :
    t.record kind outcome k o = t k o + if (kind, outcome) = (k, o) then 1 else 0 := by
  by_cases h : (kind, outcome) = (k, o)
  · cases h
    simp [record]
  · have hother : ¬ (k = kind ∧ o = outcome) := fun ⟨hk, ho⟩ => h (by rw [hk, ho])
    simp [record, h, hother]

def metric : String := "warden_admission_decisions_total"

def renderLine (kind : ReviewKind) (outcome : Outcome) (count : UInt64) : String :=
  metric ++ "\x7bkind=\"" ++ kind.render ++ "\",outcome=\"" ++ outcome.label ++ "\"\x7d " ++
    toString count ++ "\n"

def pairs : List (ReviewKind × Outcome) :=
  [ReviewKind.templates, .bindings].flatMap fun kind =>
    [Outcome.allowed, .denied, .error, .invalid, .timeout].map fun outcome => (kind, outcome)

/-- One line for each pair that has been counted, under the name and type of the counter. -/
def render (t : Tally) : String :=
  let counted := pairs.filter fun (kind, outcome) => t kind outcome != 0
  if counted.isEmpty then ""
  else
    "# TYPE " ++ metric ++ " counter\n" ++
      String.join (counted.map fun (kind, outcome) => renderLine kind outcome (t kind outcome)) ++
      "\n"

end Tally

namespace Http

open Wire

inductive Body where
  | empty
  | json (j : Json)
  | text (s : String)

/-- A status with a body; the methods that would be allowed, where the method was the fault. -/
structure Answer where
  status : Nat
  body : Body := .empty
  contentType : Option String := none
  allow : Option String := none

namespace Answer

def ofJson (status : Nat) (j : Json) : Answer :=
  { status, body := .json j, contentType := some "application/json" }

def ofText (status : Nat) (s : String) : Answer :=
  { status, body := .text s, contentType := some "text/plain; charset=utf-8" }

def withoutBody (a : Answer) : Answer := { a with body := .empty }

end Answer

inductive EnvelopeError where
  | contentType
  | tooLong
  | notJson
  | undecodable (e : DecodeError)
  deriving DecidableEq, Repr

def EnvelopeError.message : EnvelopeError → String
  | contentType => "Expected request with \x60Content-Type: application/json\x60"
  | tooLong => "Failed to buffer the request body: length limit exceeded"
  | notJson => "Failed to parse the request body as JSON"
  | undecodable e =>
    "Failed to deserialize the JSON body into the target type: " ++
      (if e.path.isEmpty then "" else renderPath e.path ++ ": ") ++ e.message

/-- How many bytes of a body are read. -/
def bodyLimit : Nat := 2 * 1024 * 1024

/-- Reads the review of a request. What follows the first value of the body does not matter. -/
def Request.review (r : Request) : Except EnvelopeError Review :=
  if (r.contentType.map isJson).getD false then
    if bodyLimit < r.body.utf8ByteSize then .error .tooLong
    else
      match Review.decode (Draft.ofText r.body).1 with
      | .ok review => .ok review
      | .error e => .error (if e.cause.isTextual then .notJson else .undecodable e)
  else .error .contentType

/-- Answers one request at a time. Only a review that is answered with a decision is counted. -/
structure Service where
  state : State
  tally : Tally := .empty

namespace Service

def refuse (status : Nat) (code message : String) : Answer :=
  .ofJson status (ErrorBody.toJson { code, message })

/-- Answers a request for a review of a kind. The kind is looked at before the rest. -/
def review (s : Service) (segment : String) (r : Request) : Answer × Service :=
  match Text.percentDecode? segment with
  | none => (.ofText 400 "Invalid URL: Invalid UTF-8 in \x60kind\x60", s)
  | some name =>
    match ReviewKind.ofName? name with
    | none => (refuse 404 "not_found" ("unknown admission kind " ++ Text.quote name), s)
    | some kind =>
      match r.review with
      | .error e => (refuse 400 "validation_error" e.message, s)
      | .ok review =>
        (.ofJson 200 (s.state.respond kind review).toJson,
          { s with tally := s.tally.record kind (s.state.outcome kind review) })

/-- Answers by `GET`, and by `HEAD` without the body. -/
def fetch (r : Request) (a : Answer) : Answer :=
  if r.method = "GET" then a
  else if r.method = "HEAD" then a.withoutBody
  else { status := 405, allow := some "GET,HEAD" }

def handle (s : Service) (r : Request) : Answer × Service :=
  match Endpoint.ofPath? r.path with
  | none => ({ status := 404 }, s)
  | some .health => (fetch r (.ofJson 200 (.members [("status", .text "ok")])), s)
  | some .metrics => (fetch r (.ofText 200 s.tally.render), s)
  | some (.review segment) =>
    if r.method = "POST" then s.review segment r
    else ({ status := 405, allow := some "POST" }, s)

end Service

end Http

end GrantGate
