import GrantGate.Json.Draft
import GrantGate.Yaml.Scalar

namespace GrantGate.Wire

inductive View (τ : Type) where
  | null
  | bool (b : Bool)
  | number (n : Number)
  | text (s : String)
  /-- A scalar of an outline file, which is what the reader wants it to be. -/
  | scalar (s : Yaml.Scalar)
  | items (xs : List τ) (closed : Bool)
  | members (ms : List (Option String × τ)) (closed : Bool)
  | broken

/-- In what sources differ as to records and variants. -/
structure Style where
  /-- Whether a list of values in order stands for a record. -/
  recordsFromItems : Bool
  /-- Whether an object of one member stands for a variant. -/
  variantsFromMembers : Bool
  /-- Whether the name of a variant is looked at before the number of members. -/
  variantNameFirst : Bool

/-- Trees that typed values are read from, one level at a time. -/
class Source (τ : Type) where
  style : Style
  view : τ → View τ
  value? : τ → Option Json
  skippable : τ → Bool
  /-- The tree as it is if it has to be put aside before it is known what is wanted. -/
  settle : τ → τ := id

instance : Source Json where
  style := ⟨true, true, false⟩
  view
    | .null => .null
    | .bool b => .bool b
    | .number n => .number n
    | .text s => .text s
    | .items xs => .items xs true
    | .members ms => .members (ms.map fun (name, x) => (some name, x)) true
  value? := some
  skippable _ := true

/-- How deep lists and objects may nest in a part of a request. -/
def partDepth : Nat := 126

instance : Source Draft where
  style := ⟨true, true, true⟩
  view
    | .null => .null
    | .bool b => .bool b
    | .number (some n) => .number n
    | .number none => .broken
    | .text (some s) => .text s
    | .text none => .broken
    | .items xs closed => .items xs closed
    | .members ms closed => .members ms closed
    | .broken => .broken
  value? := Draft.toJson? partDepth
  skippable := Draft.intact

inductive Found where
  | null
  | bool (b : Bool)
  | number (n : Number)
  | text (s : String)
  | sequence
  | map
  | unitVariant
  deriving DecidableEq, Repr

def Found.render : Found → String
  | null => "null"
  | bool b => "boolean \x60" ++ (if b then "true" else "false") ++ "\x60"
  | number (.whole n) => "integer \x60" ++ toString n ++ "\x60"
  | number (.real d) => "floating point \x60" ++ d.render ++ "\x60"
  | text s => "string " ++ Text.quote s
  | sequence => "sequence"
  | map => "map"
  | unitVariant => "unit variant"

inductive Cause where
  | wrongKind (found : Found) (expected : String)
  | wrongValue (found : Found) (expected : String)
  | wrongLength (count : Nat) (expected : String)
  | missingField (name : String)
  | duplicateField (name : String)
  | unknownVariant (name : String) (known : List String)
  /-- Neither a name nor an object of one member stands for a variant. -/
  | noVariant (found : Found)
  /-- A variant has not exactly one member. -/
  | variantSize
  /-- More items than the record has fields. -/
  | surplus (count : Nat)
  /-- The text is not what it should be as a text. -/
  | broken
  deriving DecidableEq, Repr

def ticked (s : String) : String := "\x60" ++ s ++ "\x60"

/-- Two names are joined by `or`, more are listed. -/
def renderKnown : List String → String
  | [a, b] => ticked a ++ " or " ++ ticked b
  | [a] => ticked a
  | names => "one of " ++ ", ".intercalate (names.map ticked)

namespace Cause

def message : Cause → String
  | wrongKind found expected => "invalid type: " ++ found.render ++ ", expected " ++ expected
  | wrongValue found expected => "invalid value: " ++ found.render ++ ", expected " ++ expected
  | wrongLength count expected =>
    "invalid length " ++ toString count ++ ", expected " ++ expected
  | missingField name => "missing field " ++ ticked name
  | duplicateField name => "duplicate field " ++ ticked name
  | unknownVariant name known =>
    "unknown variant " ++ ticked name ++ ", expected " ++ renderKnown known
  | noVariant found => "invalid type: " ++ found.render ++ ", expected string or map"
  | variantSize => "invalid value: map, expected map with a single key"
  | surplus count =>
    "invalid length " ++ toString count ++ ", expected fewer elements in array"
  | broken => "not a JSON value"

/-- Whether a request text with this fault is refused as a text, before its meaning. -/
def isTextual : Cause → Bool
  | noVariant _ | variantSize | surplus _ | broken => true
  | _ => false

end Cause

inductive Step where
  | field (name : String)
  | index (n : Nat)
  deriving DecidableEq, Repr

/-- Names are joined by points; a place in a list stands in brackets. -/
def renderPath : List Step → String
  | [] => ""
  | .index n :: rest => "[" ++ toString n ++ "]" ++ renderRest rest
  | .field name :: rest => name ++ renderRest rest
where
  renderRest : List Step → String
    | [] => ""
    | .index n :: rest => "[" ++ toString n ++ "]" ++ renderRest rest
    | .field name :: rest => "." ++ name ++ renderRest rest

structure DecodeError where
  path : List Step
  cause : Cause
  deriving DecidableEq, Repr

namespace DecodeError

def ofCause (c : Cause) : DecodeError := ⟨[], c⟩

def message (e : DecodeError) : String := e.cause.message

end DecodeError

abbrev Decoder (τ α : Type) := τ → Except DecodeError α

def fail {α : Type} (c : Cause) : Except DecodeError α := .error (.ofCause c)

def within {α : Type} (step : Step) (r : Except DecodeError α) : Except DecodeError α :=
  r.mapError fun e => { e with path := step :: e.path }

variable {τ α : Type}

/-- What a level is taken for; none if the text breaks there. -/
def View.found? : View τ → Option Found
  | .null => some .null
  | .bool b => some (.bool b)
  | .number n => some (.number n)
  | .text s => some (.text s)
  | .scalar s => some (.text s.text)
  | .items .. => some .sequence
  | .members .. => some .map
  | .broken => none

/-- Something else stands where `expected` is wanted. -/
def mismatch (v : View τ) (expected : String) : Except DecodeError α :=
  match v.found? with
  | some found => fail (.wrongKind found expected)
  | none => fail .broken

variable [Source τ]

def text : Decoder τ String := fun s =>
  match Source.view s with
  | .text t => .ok t
  | .scalar t => .ok t.text
  | v => mismatch v "a string"

def boolean : Decoder τ Bool := fun s =>
  match Source.view s with
  | .bool b => .ok b
  | .scalar t =>
    match t.boolean? with
    | some b => .ok b
    | none => mismatch (Source.view s) "a boolean"
  | v => mismatch v "a boolean"

def unit : Decoder τ Unit := fun s =>
  match Source.view s with
  | .null => .ok ()
  | .scalar t => if t.isNull then .ok () else mismatch (Source.view s) "unit"
  | v => mismatch v "unit"

/-- Null stands for nothing; so does a plain scalar that is empty or a word for null. -/
def optional (decode : Decoder τ α) : Decoder τ (Option α) := fun s =>
  match Source.view s with
  | .null => .ok none
  | .scalar t =>
    match t.isAbsent? with
    | some true => .ok none
    | some false => (decode s).map some
    | none => mismatch (Source.view s) "null"
  | _ => (decode s).map some

def json : Decoder τ Json := fun s =>
  match Source.value? s with
  | some j => .ok j
  | none => fail .broken

def shortNumber : Decoder τ UInt16 := fun s =>
  match Source.view s with
  | .number (.whole n) =>
    if 0 ≤ n ∧ n.toNat < Nat.pow 2 16 then .ok n.toNat.toUInt16
    else fail (.wrongValue (.number (.whole n)) "u16")
  | v => mismatch v "u16"

def decodeItems (decode : Decoder τ α) : Nat → List τ → Except DecodeError (List α)
  | _, [] => .ok []
  | n, x :: xs => do
    let a ← within (.index n) (decode x)
    let as ← decodeItems decode (n + 1) xs
    return a :: as

/-- An empty plain scalar is an empty list. -/
def list (decode : Decoder τ α) : Decoder τ (List α) := fun s =>
  match Source.view s with
  | .items xs closed => do
    let as ← decodeItems decode 0 xs
    if closed then return as else fail .broken
  | .scalar t => if t.isEmpty then .ok [] else mismatch (Source.view s) "a sequence"
  | v => mismatch v "a sequence"

def decodeMembers (decode : Decoder τ α) :
    List (Option String × τ) → Except DecodeError (List (String × α))
  | [] => .ok []
  | (none, _) :: _ => fail .broken
  | (some name, x) :: ms => do
    let a ← within (.field name) (decode x)
    let as ← decodeMembers decode ms
    return (name, a) :: as

/-- The members of an object, each of which may have any name. -/
def map (decode : Decoder τ α) : Decoder τ (List (String × α)) := fun s =>
  match Source.view s with
  | .members ms closed => do
    let as ← decodeMembers decode ms
    if closed then return as else fail .broken
  | v => mismatch v "a map"

/-- One of several named variants: `bare` for a name that stands alone, `with'` for a name with a
value. -/
structure Variant (τ α : Type) where
  name : String
  bare : Except DecodeError α
  with' : Decoder τ α

namespace Variant

def plain (name : String) (a : α) : Variant τ α := ⟨name, .ok a, fun s => (unit s).map fun _ => a⟩

def wrapping {β : Type} (name : String) (wrap : β → α) (decode : Decoder τ β) : Variant τ α :=
  ⟨name, fail (.wrongKind .unitVariant "newtype variant"), fun s => (decode s).map wrap⟩

end Variant

def findVariant (vs : List (Variant τ α)) (name : String) : Except DecodeError (Variant τ α) :=
  match vs.find? fun v => v.name == name with
  | some v => .ok v
  | none => fail (.unknownVariant name (vs.map Variant.name))

def variantOfMembers (vs : List (Variant τ α)) (ms : List (Option String × τ)) (closed : Bool) :
    Except DecodeError α :=
  let single := ms.length == 1 && closed
  if !(Source.style τ).variantNameFirst && !single then fail .variantSize
  else
    match ms with
    | (some name, x) :: _ => do
      let v ← findVariant vs name
      let a ← within (.field name) (v.with' x)
      if single then return a else fail .variantSize
    | _ => fail .variantSize

def oneOf (vs : List (Variant τ α)) : Decoder τ α := fun s =>
  match Source.view s with
  | .text name => do (← findVariant vs name).bare
  | .scalar t =>
    match t.variantName? with
    | some name => do (← findVariant vs name).with' s
    | none => do (← findVariant vs t.text).bare
  | .members ms closed =>
    if (Source.style τ).variantsFromMembers then variantOfMembers vs ms closed
    else fail (.noVariant .map)
  | v =>
    match v.found? with
    | some found => fail (.noVariant found)
    | none => fail .broken

end GrantGate.Wire
