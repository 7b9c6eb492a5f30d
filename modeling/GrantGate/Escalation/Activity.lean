import GrantGate.Inquiry

namespace GrantGate

/-- What a capability does with its time, in milliseconds from the start of the request. It may
answer late, or never. -/
inductive Activity (α : Type) where
  | answer (a : Except Refusal α)
  | note (e : Event) (next : Activity α)
  /-- Cancels the request it is part of. -/
  | cancel (next : Activity α)
  | wait (ms : Nat) (next : Activity α)
  | ifCancelled (yes no : Activity α)
  | stall

namespace Activity

variable {α β : Type}

/-- Goes on with the answer unless it is a refusal. -/
def bind (f : α → Activity β) : Activity α → Activity β
  | answer (.ok a) => f a
  | answer (.error e) => answer (.error e)
  | note e next => note e (next.bind f)
  | cancel next => cancel (next.bind f)
  | wait ms next => wait ms (next.bind f)
  | ifCancelled yes no => ifCancelled (yes.bind f) (no.bind f)
  | stall => stall

/-- An inquiry takes no time. -/
def ofInquiry (x : Inquiry Refusal α) : Activity α := x.events.foldr note (answer x.result)

/-- An inquiry that is not begun once the request is cancelled. -/
def unlessCancelled (x : Inquiry Refusal α) : Activity α :=
  ifCancelled (answer (.error .cancelled)) (ofInquiry x)

end Activity

/-- When the requester stops waiting, if ever: at the deadline, or as soon as the request is
cancelled. -/
structure Limits where
  deadline : Option Nat := none
  cancelAt : Option Nat := none
  deriving DecidableEq, Repr

structure Clock where
  now : Nat := 0
  cancelled : Bool := false
  log : List Event := []

namespace Clock

def note (c : Clock) (e : Event) : Clock := { c with log := c.log ++ [e] }

end Clock

inductive WaitEnd where
  | woken (at' : Nat)
  | cancelled (at' : Nat)
  | expired (at' : Nat)
  | never
  deriving DecidableEq, Repr

namespace Limits

def cancelledBy (l : Limits) (c : Clock) : Bool := c.cancelled || l.cancelAt.any (· ≤ c.now)

/-- Whether an instant comes no later than a limit, where no limit is never. -/
def noLater (t : Nat) : Option Nat → Bool
  | none => true
  | some limit => t ≤ limit

/-- How a wait until `wake` ends. A deadline that is past ends it at once. Of a cancellation, the
end of the wait and the deadline at one instant, the first of these counts. -/
def endOfWait (l : Limits) (c : Clock) (wake : Option Nat) : WaitEnd :=
  if l.deadline.any (· ≤ c.now) then .expired c.now
  else if c.cancelled then .cancelled c.now
  else
    match l.cancelAt.filter fun t => noLater t wake && noLater t l.deadline with
    | some t => .cancelled t
    | none =>
      match wake.filter fun t => noLater t l.deadline, l.deadline with
      | some t, _ => .woken t
      | none, some t => .expired t
      | none, none => .never

end Limits

namespace Activity

variable {α : Type}

/-- Follows an activity until it answers or the wait for it is over; no result means that it never
ends. -/
def run (l : Limits) : Activity α → Clock → Option (Except Refusal α) × Clock
  | answer a, c => (some a, c)
  | note e next, c => next.run l (c.note e)
  | cancel next, c => next.run l { c with cancelled := true }
  | ifCancelled yes no, c => if l.cancelledBy c then yes.run l c else no.run l c
  | wait 0 next, c => next.run l c
  | wait ms@(_ + 1) next, c =>
    match l.endOfWait c (some (c.now + ms)) with
    | .woken t => next.run l { c with now := t }
    | .cancelled t => (some (.error .cancelled), { c with now := t })
    | .expired t => (some (.error .deadlineExceeded), { c with now := t })
    | .never => (none, c)
  | stall, c =>
    match l.endOfWait c none with
    | .woken _ | .never => (none, c)
    | .cancelled t => (some (.error .cancelled), { c with now := t })
    | .expired t => (some (.error .deadlineExceeded), { c with now := t })

end Activity

/-- Asks a capability, unless the request is cancelled already. -/
def Limits.call {α : Type} (l : Limits) (a : Activity α) (c : Clock) :
    Option (Except Refusal α) × Clock :=
  if l.cancelledBy c then (some (.error .cancelled), c) else a.run l c

end GrantGate
