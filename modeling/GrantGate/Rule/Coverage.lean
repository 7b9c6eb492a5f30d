import GrantGate.Rule

namespace GrantGate

/-- What follows the first slash. -/
def subresource? (value : String) : Option (List Char) :=
  match value.toList.dropWhile (· != '/') with
  | [] => none
  | _ :: sub => some sub

def matchesExactly (owned value : String) : Bool := owned == wildcard || owned == value

/-- The entry `*/sub` stands for the subresource `sub` of every resource. -/
def matchesResource (owned value : String) : Bool :=
  matchesExactly owned value ||
    match subresource? value with
    | some sub => owned.toList == '*' :: '/' :: sub
    | none => false

/-- A star at the end stands for every continuation. -/
def matchesUrl (owned value : String) : Bool :=
  matchesExactly owned value ||
    (owned.toList.getLast? == some '*' && owned.toList.dropLast.isPrefixOf value.toList)

/-- Every requested entry is matched by an owned one. -/
def dimensionCovers (matching : String → String → Bool) (owned requested : List String) : Bool :=
  requested.all fun value => owned.any fun owner => matching owner value

/-- No owned names stand for all; no requested names ask for all. -/
def namesCovered (owned requested : List String) : Bool :=
  if owned.isEmpty || owned.contains wildcard then true
  else if requested.isEmpty then false
  else requested.all owned.contains

namespace Rule

/-- Whether holding the one rule is enough to hand out the other. Each dimension is compared on its
own. -/
def covers (owner wanted : Rule) : Bool :=
  dimensionCovers matchesExactly owner.verbs wanted.verbs &&
    (owner.grantsAllResources ||
      (dimensionCovers matchesExactly owner.groups wanted.groups &&
        dimensionCovers matchesResource owner.resources wanted.resources &&
        namesCovered owner.names wanted.names &&
        dimensionCovers matchesUrl owner.urls wanted.urls))

end Rule

def heldCover (held : List Rule) (wanted : Rule) : Bool := held.any (·.covers wanted)

def heldCoverAll (held wanted : List Rule) : Bool := wanted.all (heldCover held)

/-- The wanted rules that no held rule covers, in order and with repetitions. -/
def uncovered (held wanted : List Rule) : List Rule :=
  wanted.filter fun rule => !heldCover held rule

end GrantGate
