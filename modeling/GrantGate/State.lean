import GrantGate.Review.Plan

namespace GrantGate

/-- What the service knows when it reviews a write. -/
structure State where
  templates : TemplateStore := .empty
  bindings : List Binding := []
  oracleEnabled : Bool := true
  /-- How long one review may wait for its capabilities, in milliseconds. -/
  capabilityTimeout : Nat := 2000
  /-- Whether the service is going down, which cancels every review. -/
  shutDown : Bool := false

namespace State

def ofSnapshot (s : Snapshot) (oracleEnabled : Bool) (capabilityTimeout : Nat) : State where
  templates := .ofList s.templates
  bindings := s.bindings
  oracleEnabled := oracleEnabled
  capabilityTimeout := capabilityTimeout

/-- Adds a template, and gives back the one of its name that it replaces. -/
def insertTemplate (t : Template) (s : State) : Option Template × State :=
  (s.templates.find? t.name, { s with templates := s.templates.insert t })

def removeTemplate (name : String) (s : State) : Option Template × State :=
  (s.templates.find? name, { s with templates := s.templates.erase name })

def replaceTemplates (ts : List Template) (s : State) : State := { s with templates := .ofList ts }

def addBinding (b : Binding) (s : State) : State := { s with bindings := s.bindings ++ [b] }

/-- Removes the first binding of a name. -/
def removeBinding (name : String) (s : State) : Option Binding × State :=
  let named (b : Binding) : Bool := b.name == name
  (s.bindings.find? named, { s with bindings := s.bindings.eraseP named })

def replaceBindings (bs : List Binding) (s : State) : State := { s with bindings := bs }

def shutdown (s : State) : State := { s with shutDown := true }

def catalog (s : State) : Catalog := .ofStore s.templates

def resolver (s : State) : Resolver := (s.catalog.resolver s.bindings).recorded

/-- The oracle over the stored bindings, whether or not reviews may use it. -/
def bindingOracle (s : State) : Oracle := (Oracle.ofResolver s.resolver).recorded

def oracle (s : State) : Option Oracle := if s.oracleEnabled then some s.bindingOracle else none

def renderResolver (s : State) : String :=
  "BindingRuleResolver \x7b bindings: " ++ toString s.bindings.length ++ " \x7d"

def limits (s : State) : Limits := { deadline := some s.capabilityTimeout }

def clock (s : State) : Clock := { cancelled := s.shutDown }

/-- Asks a capability on its own, outside of any review. -/
def query {α : Type} (s : State) (a : Activity α) : Except Refusal α :=
  ((a.run s.limits s.clock).1).getD (.error .deadlineExceeded)

def held (s : State) (subject : Subject) (scope : Scope) : Except Refusal Resolution :=
  s.query (s.resolver subject scope)

def check (s : State) (subject : Subject) (access : Access) : Except Refusal OracleAnswer :=
  s.query (s.bindingOracle subject access)

/-- Checks the requester of a review against a grant. The deadline ends a wait that nothing else
ends. -/
def settle (s : State) (r : Review) (g : Grant) : Inquiry Refusal Unit :=
  let (result, clock) := g.ensure r.user s.resolver s.oracle s.limits s.clock
  ⟨clock.log, result.getD (.error .deadlineExceeded)⟩

/-- Reviews a write: first by its plan, then by what the requester holds. -/
def validate (s : State) (kind : ReviewKind) (r : Review) : Inquiry Fault Unit := do
  match ← r.plan kind s.catalog with
  | none => pure ()
  | some grant => (s.settle r grant).mapError .refused

def outcome (s : State) (kind : ReviewKind) (r : Review) : Outcome :=
  match (s.validate kind r).result with
  | .ok () => .allowed
  | .error fault => fault.outcome

def respond (s : State) (kind : ReviewKind) (r : Review) : Response :=
  match (s.validate kind r).result with
  | .ok () => ⟨r.uid, true, none, Outcome.allowed.code⟩
  | .error fault => ⟨r.uid, false, some fault.message, fault.outcome.code⟩

end State

end GrantGate
