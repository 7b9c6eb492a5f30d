import GrantGate.Refusal
import GrantGate.Wire.Record

namespace GrantGate

inductive RuleFlaw where
  | noVerbs
  | noTarget
  | mixedTargets
  | namesWithoutResources
  deriving DecidableEq, Repr

def RuleFlaw.message : RuleFlaw → String
  | noVerbs => "verbs must not be empty"
  | noTarget => "rule needs resources or nonResourceURLs"
  | mixedTargets => "rule cannot mix resources and nonResourceURLs"
  | namesWithoutResources => "resourceNames only apply to resources"

inductive Complaint where
  | missing (field : String)
  | undecodable (field : String) (e : Wire.DecodeError)
  | noBindingTemplate
  | bindingImmutable (name : String)
  | noTemplateName
  | flawedRule (template : String) (index : Nat) (flaw : RuleFlaw)
  | templateRenamed (old new : String)
  /-- A complaint in somebody else's words. -/
  | stated (text : String)
  deriving DecidableEq, Repr

def Complaint.message : Complaint → String
  | missing field => field ++ " is required"
  | undecodable field e => "decode " ++ field ++ ": " ++ e.message
  | noBindingTemplate => "binding template is required"
  | bindingImmutable name =>
    "binding " ++ Text.quote name ++ ": template, subject and namespace are immutable"
  | noTemplateName => "template name is required"
  | flawedRule template index flaw =>
    "template " ++ Text.quote template ++ " rule " ++ toString index ++ ": " ++ flaw.message
  | templateRenamed old new =>
    "template name is immutable (" ++ Text.quote old ++ " -> " ++ Text.quote new ++ ")"
  | stated text => text

inductive Outcome where
  | allowed
  | invalid
  | denied
  | timeout
  | error
  deriving DecidableEq, Repr

namespace Outcome

def label : Outcome → String
  | allowed => "allowed"
  | invalid => "invalid"
  | denied => "denied"
  | timeout => "timeout"
  | error => "error"

def code : Outcome → UInt16
  | allowed => 200
  | invalid => 400
  | denied => 403
  | timeout => 504
  | error => 500

end Outcome

/-- Why a review ends with no: the write is not well formed, or a rule of the library refuses it. -/
inductive Fault where
  | invalid (complaint : Complaint)
  | refused (refusal : Refusal)
  deriving DecidableEq, Repr

namespace Fault

def message : Fault → String
  | invalid complaint => complaint.message
  | refused refusal => refusal.message

/-- Policy says no with 403, bad input has 400, and a request that ran out of time 504. -/
def outcome : Fault → Outcome
  | invalid _ => .invalid
  | refused refusal =>
    if refusal.isPolicyRejection then .denied
    else
      match refusal with
      | .notFound .. | .reachMismatch .. => .invalid
      | .cancelled | .deadlineExceeded => .timeout
      | _ => .error

end Fault

end GrantGate
