import GrantGate.Refusal

namespace GrantGate

/-- One question to a backend, or one decision taken on its answer. -/
inductive Event where
  | get (name : String)
  | list
  | rulesFor (username : String) (scope : Scope)
  | check (username : String) (access : Access)
  | decided (allowed : Bool) (reason : String)
  deriving DecidableEq, Repr

/-- An answer together with what was asked of the backends on the way to it. Asking stops at the
first refusal. -/
structure Inquiry (ε α : Type) where
  events : List Event
  result : Except ε α

namespace Inquiry

variable {ε δ α β : Type}

def ofExcept (r : Except ε α) : Inquiry ε α := ⟨[], r⟩

def refuse (e : ε) : Inquiry ε α := ⟨[], .error e⟩

def ask (e : Event) (r : Except ε α) : Inquiry ε α := ⟨[e], r⟩

def bind (x : Inquiry ε α) (f : α → Inquiry ε β) : Inquiry ε β :=
  match x.result with
  | .error e => ⟨x.events, .error e⟩
  | .ok a => ⟨x.events ++ (f a).events, (f a).result⟩

instance : Monad (Inquiry ε) where
  pure a := ⟨[], .ok a⟩
  bind := bind

/-- Hands a refusal on as a value, so that asking may go on. -/
def attempt (x : Inquiry ε α) : Inquiry ε (Except ε α) := ⟨x.events, .ok x.result⟩

/-- Hands on, beside the answer, that it is the one that was given. -/
def attach : (x : Inquiry ε α) → Inquiry ε { a // x.result = .ok a }
  | ⟨events, .ok a⟩ => ⟨events, .ok ⟨a, rfl⟩⟩
  | ⟨events, .error e⟩ => ⟨events, .error e⟩

/-- Names the refusal in another vocabulary. -/
def mapError (f : ε → δ) (x : Inquiry ε α) : Inquiry δ α := ⟨x.events, x.result.mapError f⟩

@[simp] theorem result_pure (a : α) : (pure a : Inquiry ε α).result = .ok a := rfl

theorem result_bind (x : Inquiry ε α) (f : α → Inquiry ε β) :
    (x >>= f).result = x.result.bind fun a => (f a).result := by
  change (bind x f).result = _
  cases h : x.result <;> simp [bind, h, Except.bind]

theorem events_bind (x : Inquiry ε α) (f : α → Inquiry ε β) :
    (x >>= f).events = match x.result with
      | .error _ => x.events
      | .ok a => x.events ++ (f a).events := by
  change (bind x f).events = _
  cases h : x.result <;> simp [bind, h]

theorem attach_bind (x : Inquiry ε α) (f : α → Inquiry ε β) :
    (x.attach >>= fun a => f a.1) = x >>= f := by
  change bind x.attach (fun a => f a.1) = bind x f
  obtain ⟨events, result⟩ := x
  cases result <;> rfl

end Inquiry

end GrantGate
