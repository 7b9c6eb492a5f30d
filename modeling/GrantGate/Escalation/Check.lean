import GrantGate.Binding.Holdings
import GrantGate.Escalation.Activity
import GrantGate.Rule.Coverage

namespace GrantGate

abbrev Resolver := Subject → Scope → Activity Resolution

structure OracleAnswer where
  allowed : Bool
  reason : String
  deriving DecidableEq, Repr

abbrev Oracle := Subject → Access → Activity OracleAnswer

/-- Holdings from bindings; not looked at once the request is cancelled. -/
def Catalog.resolver (c : Catalog) (bindings : List Binding) : Resolver := fun subject scope =>
  .unlessCancelled (c.holdings bindings subject scope)

def Resolver.recorded (r : Resolver) : Resolver := fun subject scope =>
  .note (.rulesFor subject.username scope) (r subject scope)

def Oracle.recorded (o : Oracle) : Oracle := fun subject access =>
  .note (.check subject.username access) (o subject access)

/-- Allows what a held rule covers. Rules that are known to be only a part count all the same. -/
def OracleAnswer.ofHeld (held : Resolution) (access : Access) : OracleAnswer :=
  if heldCover held.rules access.toRule then ⟨true, access.render ++ " granted by bound templates"⟩
  else ⟨false, access.render ++ " not granted"⟩

/-- The oracle that judges by what the subject holds where the object is. -/
def Oracle.ofResolver (r : Resolver) : Oracle := fun subject access =>
  (r subject access.scope).bind fun held => .answer (.ok (.ofHeld held access))

def renderChecker (hasOracle : Bool) : String :=
  "EscalationChecker \x7b oracle: " ++ (if hasOracle then "true" else "false") ++ " \x7d"

/-- Rules that somebody is about to hand out, with the scope in which they will hold. -/
structure Grant where
  rules : List Rule
  scope : Scope
  /-- What to ask the oracle for when the requester does not hold the rules. -/
  bypass : Option Access := none
  deriving DecidableEq, Repr

structure Verdict where
  allowed : Bool
  uncovered : List Rule
  complete : Bool
  bypassed : Bool
  incompleteReason : Option String
  deriving DecidableEq, Repr

namespace Verdict

def allow : Verdict := ⟨true, [], true, false, none⟩

def deny (uncovered : List Rule) (complete : Bool) (reason : Option String) : Verdict :=
  ⟨false, uncovered, complete, false, reason⟩

def denial (v : Verdict) (subject : Subject) : Denial :=
  ⟨subject.username, subject.groups.items, v.uncovered, v.incompleteReason⟩

def toExcept (v : Verdict) (subject : Subject) : Except Refusal Unit :=
  if v.allowed then .ok () else .error (.escalation (v.denial subject))

end Verdict

namespace Grant

/-- The rules not known to be held. Of an incomplete picture nothing counts. -/
def missing (g : Grant) (held : Resolution) : List Rule :=
  if held.complete then uncovered held.rules g.rules else g.rules

/-- Decides what a resolution leaves open, with the oracle's help if there is one to ask. -/
def settle (g : Grant) (subject : Subject) (oracle : Option Oracle) (l : Limits)
    (held : Resolution) (c : Clock) : Option (Except Refusal Verdict) × Clock :=
  let missing := g.missing held
  if missing.isEmpty then (some (.ok .allow), c)
  else
    match oracle, g.bypass with
    | some oracle, some access =>
      match l.call (oracle subject access) c with
      | (some (.ok answer), c) =>
        if answer.allowed then
          (some (.ok ⟨true, missing, held.complete, true, held.incompleteReason⟩), c)
        else (some (.ok (.deny missing held.complete held.incompleteReason)), c)
      | (some (.error e), c) => (some (.error e), c)
      | (none, c) => (none, c)
    | _, _ => (some (.ok (.deny missing held.complete held.incompleteReason)), c)

/-- Decides whether the subject may hand out the rules. No result means that a capability never
answers and nothing ends the wait for it. -/
def confirm (g : Grant) (subject : Subject) (resolver : Resolver) (oracle : Option Oracle)
    (l : Limits) (c : Clock) : Option (Except Refusal Verdict) × Clock :=
  if g.rules.isEmpty then (some (.ok .allow), c)
  else
    match l.call (resolver subject g.scope) c with
    | (some (.ok held), c) => g.settle subject oracle l held c
    | (some (.error e), c) => (some (.error e), c)
    | (none, c) => (none, c)

/-- Like `confirm`, with a refusal for a verdict that does not allow. -/
def ensure (g : Grant) (subject : Subject) (resolver : Resolver) (oracle : Option Oracle)
    (l : Limits) (c : Clock) : Option (Except Refusal Unit) × Clock :=
  let (verdict, c) := g.confirm subject resolver oracle l c
  (verdict.map (·.bind fun v => v.toExcept subject), c)

end Grant

end GrantGate
