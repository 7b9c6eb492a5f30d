import GrantGate.Wire.Formats
import GrantGate.Yaml

namespace GrantGate.Snapshot

abbrev Files := String → Option String

inductive LoadError where
  | unreadable (path : String)
  | malformed
  | duplicate (d : Duplicate)
  deriving DecidableEq, Repr

def Duplicate.message : Duplicate → String
  | template name => "duplicate template " ++ Text.quote name ++ " in snapshot"
  | binding name => "duplicate binding " ++ Text.quote name ++ " in snapshot"

def LoadError.message : LoadError → String
  | unreadable path => "read snapshot: " ++ path
  | malformed => "parse snapshot yaml"
  | duplicate d => d.message

def ofYaml (text : String) : Except LoadError Snapshot :=
  match (Yaml.ofText? text).map decode with
  | some (.ok s) =>
    match s.duplicate? with
    | some d => .error (.duplicate d)
    | none => .ok s
  | _ => .error .malformed

def load (files : Files) (path : String) : Except LoadError Snapshot :=
  match files path with
  | some text => ofYaml text
  | none => .error (.unreadable path)

end GrantGate.Snapshot
