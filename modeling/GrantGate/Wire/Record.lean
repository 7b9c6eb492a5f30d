import GrantGate.Wire.Source

namespace GrantGate.Wire

/-- A field of a record, without its value. -/
structure Field (τ : Type) where
  name : String
  required : Bool
  /-- Whether a member of this name is read only after all of them have been seen. -/
  deferred : Bool
  check : Decoder τ Unit

/-- How to read a record: its fields in order, and the record from what stands under their names. -/
structure Record (τ α : Type) where
  fields : List (Field τ)
  build : (String → Option τ) → Except DecodeError α

namespace Record

variable {τ α β : Type}

def demand (name : String) (decode : Decoder τ α) (get : String → Option τ) :
    Except DecodeError α :=
  match get name with
  | some s => within (.field name) (decode s)
  | none => fail (.missingField name)

def required (name : String) (decode : Decoder τ α) : Record τ α where
  fields := [⟨name, true, false, fun s => (decode s).map fun _ => ()⟩]
  build := demand name decode

/-- A field that has to be there and waits for the others. -/
def deferred (name : String) (decode : Decoder τ α) : Record τ α where
  fields := [⟨name, true, true, fun s => (decode s).map fun _ => ()⟩]
  build := demand name decode

def defaulted (name : String) (default : α) (decode : Decoder τ α) : Record τ α where
  fields := [⟨name, false, false, fun s => (decode s).map fun _ => ()⟩]
  build get :=
    match get name with
    | some s => within (.field name) (decode s)
    | none => .ok default

def map (f : α → β) (r : Record τ α) : Record τ β := ⟨r.fields, fun get => (r.build get).map f⟩

def seq (f : Record τ (α → β)) (r : Record τ α) : Record τ β where
  fields := f.fields ++ r.fields
  build get := do
    let g ← f.build get
    let a ← r.build get
    return g a

instance : Functor (Record τ) where
  map := map

instance : Seq (Record τ) where
  seq f r := f.seq (r ())

variable [Source τ]

/-- Whether a value is there for every field that does not wait for others. -/
def isRipe (fields : List (Field τ)) (kept : List (String × τ)) : Bool :=
  fields.all fun f => f.deferred || (kept.lookup f.name).isSome

/-- Looks at the members as they stand, and keeps those that belong to a field. The first that does
not read decides, and one that has to wait is settled first. -/
def scanMembers (fields : List (Field τ)) :
    List (String × τ) → List (Option String × τ) → Except DecodeError (List (String × τ))
  | kept, [] => .ok kept
  | _, (none, _) :: _ => fail .broken
  | kept, (some name, x) :: ms =>
    match fields.find? fun f => f.name == name with
    | none => if Source.skippable x then scanMembers fields kept ms else fail .broken
    | some f =>
      if (kept.lookup name).isSome then fail (.duplicateField name)
      else if f.deferred && !isRipe fields kept then
        if Source.skippable x then scanMembers fields (kept ++ [(name, Source.settle x)]) ms
        else fail .broken
      else do
        within (.field name) (f.check x)
        scanMembers fields (kept ++ [(name, x)]) ms

def scanItems (expected : String) (total : Nat) (closed : Bool) :
    Nat → List (Field τ) → List τ → Except DecodeError (List (String × τ))
  | _, [], [] => if closed then .ok [] else fail .broken
  | _, [], _ :: _ => fail (.surplus total)
  | n, f :: fs, [] =>
    if !closed then fail .broken
    else if f.required then fail (.wrongLength n expected)
    else scanItems expected total closed (n + 1) fs []
  | n, f :: fs, x :: xs => do
    within (.index n) (f.check x)
    let kept ← scanItems expected total closed (n + 1) fs xs
    return (f.name, x) :: kept

/-- Reads a record: `what` names it where something else stands, `counted` where items are too
few. -/
def decodeAs (what counted : String) (r : Record τ α) : Decoder τ α := fun s =>
  match Source.view s with
  | .members ms closed => do
    let kept ← scanMembers r.fields [] ms
    if !closed then fail .broken
    r.build fun name => kept.lookup name
  | .items xs closed =>
    if (Source.style τ).recordsFromItems then do
      let kept ← scanItems counted xs.length closed 0 r.fields xs
      r.build fun name => kept.lookup name
    else mismatch (Source.view s) what
  | .scalar t => if t.isEmpty then r.build fun _ => none else mismatch (Source.view s) what
  | v => mismatch v what

def decode (name : String) (r : Record τ α) : Decoder τ α :=
  r.decodeAs ("struct " ++ name)
    ("struct " ++ name ++ " with " ++ toString r.fields.length ++ " elements")

end Record

end GrantGate.Wire
