import GrantGate.Snapshot.Load
import GrantGate.SocketAddress
import GrantGate.State
import GrantGate.Text

namespace GrantGate

structure Config where
  bindAddress : SocketAddress := .v4 0 0 0 0 8443
  /-- In milliseconds. -/
  capabilityTimeout : Nat := 2000
  snapshot : Option String := none
  oracleEnabled : Bool := true
  deriving DecidableEq, Repr

namespace Config

inductive NumberFault where
  | empty
  | invalidDigit
  | tooLarge
  deriving DecidableEq, Repr

def NumberFault.message : NumberFault → String
  | empty => "cannot parse integer from empty string"
  | invalidDigit => "invalid digit found in string"
  | tooLarge => "number too large to fit in target type"

inductive Error where
  /-- An address that is none, under the name of its setting. -/
  | address (setting : String)
  | timeout (fault : NumberFault)
  | oracleFlag (text : String)
  | unreadable (path : String)
  | malformed
  deriving DecidableEq, Repr

/-- What went wrong, from the outside in. -/
def Error.chain : Error → List String
  | address setting => ["parse " ++ setting, "invalid socket address syntax"]
  | timeout fault => ["parse WARDEN_CAPABILITY_TIMEOUT_MS", fault.message]
  | oracleFlag text =>
    ["parse WARDEN_ORACLE_ENABLED", "expected a boolean, got " ++ Text.quote text]
  | unreadable path => ["read WARDEN_ADMISSION_CONFIG: " ++ path]
  | malformed => ["parse admission config yaml"]

/-- Reads digits from the left; the first place where that cannot go on decides. -/
def readDigits (n : Nat) : List Char → Except NumberFault Nat
  | [] => .ok n
  | c :: rest =>
    if !c.isDigit then .error .invalidDigit
    else
      let n := n * 10 + (c.toNat - '0'.toNat)
      if n < Nat.pow 2 64 then readDigits n rest else .error .tooLarge

/-- A whole number of 64 bits, in decimal digits with or without a plus sign. -/
def readNumber (s : String) : Except NumberFault Nat :=
  match s.toList with
  | [] => .error .empty
  | '+' :: [] => .error .invalidDigit
  | '+' :: rest => readDigits 0 rest
  | cs => readDigits 0 cs

/-- A flag in one of several words, in any case and with blanks around it. -/
def readFlag (s : String) : Except String Bool :=
  let word := String.ofList ((Text.trim s.toList).map Char.toLower)
  if ["1", "true", "yes", "on"].contains word then .ok true
  else if ["0", "false", "no", "off"].contains word then .ok false
  else .error word

/-- What each variable is set to, byte by byte. -/
abbrev Variables := String → Option ByteArray

/-- What each variable says. -/
abbrev Environment := String → Option String

/-- A variable that is set to bytes which spell no text says nothing. -/
def Variables.texts (vars : Variables) : Environment :=
  fun name => (vars name).bind String.fromUTF8?

def readAddress (setting text : String) : Except Error SocketAddress :=
  match SocketAddress.parse? text with
  | some a => .ok a
  | none => .error (.address setting)

def settingOr {α : Type} (default : α) (read : String → Except Error α) :
    Option String → Except Error α
  | none => .ok default
  | some text => read text

/-- The settings of the environment. An empty snapshot path counts as none. -/
def ofEnvironment (env : Environment) : Except Error Config := do
  let standard : Config := {}
  let bindAddress ← settingOr standard.bindAddress (readAddress "WARDEN_ADMISSION_BIND")
    (env "WARDEN_ADMISSION_BIND")
  let capabilityTimeout ← settingOr standard.capabilityTimeout
    (fun text => (readNumber text).mapError .timeout) (env "WARDEN_CAPABILITY_TIMEOUT_MS")
  let oracleEnabled ← settingOr standard.oracleEnabled
    (fun text => (readFlag text).mapError .oracleFlag) (env "WARDEN_ORACLE_ENABLED")
  return {
    bindAddress, capabilityTimeout, oracleEnabled
    snapshot := (env "WARDEN_SNAPSHOT").filter fun path => !path.isEmpty }

structure Override where
  bindAddress : Option String
  capabilityTimeout : Option Nat
  snapshot : Option String
  oracleEnabled : Option Bool
  deriving DecidableEq, Repr

namespace Override

open Wire

variable {τ : Type} [Source τ]

def longNumber : Decoder τ Nat := fun s =>
  match Source.view s with
  | .scalar t =>
    match t.unsigned? with
    | some n => .ok n
    | none => mismatch (Source.view s) "u64"
  | v => mismatch v "u64"

def decode : Decoder τ Override :=
  Record.decode "AdmissionConfigOverride" <|
    Override.mk <$> Record.defaulted "bind_addr" none (optional text)
      <*> Record.defaulted "capability_timeout_ms" none (optional longNumber)
      <*> Record.defaulted "snapshot" none (optional text)
      <*> Record.defaulted "oracle_enabled" none (optional boolean)

end Override

/-- Steps that each change a configuration, up to the first that fails. -/
abbrev Change := ExceptT Error (StateM Config)

/-- Puts what a file gives in the place of what there was. The only step that can fail comes
first, so that a failure leaves every setting as it was. -/
def Override.apply (o : Override) : Change Unit := do
  if let some text := o.bindAddress then
    let address ← readAddress "bind_addr" text
    modify ({ · with bindAddress := address })
  if let some ms := o.capabilityTimeout then modify ({ · with capabilityTimeout := ms })
  if let some path := o.snapshot then modify ({ · with snapshot := some path })
  if let some enabled := o.oracleEnabled then modify ({ · with oracleEnabled := enabled })

def applyYaml (text : String) : Change Unit :=
  match (Yaml.ofText? text).map Override.decode with
  | some (.ok o) => o.apply
  | _ => throw .malformed

def changed (c : Config) (change : Change Unit) : Except Error Config :=
  match change.run.run c with
  | (.ok (), c) => .ok c
  | (.error e, _) => .error e

/-- The configuration of the environment; a file named there may then override any setting. -/
def load (env : Environment) (files : Snapshot.Files) : Except Error Config := do
  let c ← ofEnvironment env
  match env "WARDEN_ADMISSION_CONFIG" with
  | none => return c
  | some path =>
    match files path with
    | none => .error (.unreadable path)
    | some text => c.changed (applyYaml text)

structure StartError where
  cause : Snapshot.LoadError
  deriving DecidableEq, Repr

def StartError.chain (e : StartError) : List String :=
  ["load admission snapshot", e.cause.message]

def initialState (c : Config) (files : Snapshot.Files) : Except StartError State := do
  let snapshot ←
    match c.snapshot with
    | some path => (Snapshot.load files path).mapError StartError.mk
    | none => .ok {}
  return .ofSnapshot snapshot c.oracleEnabled c.capabilityTimeout

end Config

end GrantGate
