namespace GrantGate.Http

structure Request where
  method : String
  path : String
  contentType : Option String
  body : String

inductive Endpoint where
  | health
  | metrics
  | review (segment : String)
  deriving DecidableEq, Repr

/-- The endpoint of a path; the query does not matter. -/
def Endpoint.ofPath? (path : String) : Option Endpoint :=
  let path := path.toList.takeWhile fun c => c != '?' && c != '#'
  let root := "/v1/admission/".toList
  if path = "/v1/system/health".toList then some .health
  else if path = "/metrics".toList then some .metrics
  else if root.isPrefixOf path then
    let segment := path.drop root.length
    if segment.isEmpty || segment.contains '/' then none else some (.review (String.ofList segment))
  else none

def isTokenChar (c : Char) : Bool :=
  c.isAlphanum || "!#$%&'*+-.^_\x60|~".toList.contains c

def isQuotable (c : Char) : Bool := 0x20 ≤ c.toNat && c.toNat ≤ 0x7e

/-- Whether the rest behind a semicolon is a list of parameters `name=value`, where a value may be
quoted. A quoted value has at least one character, which may be a quote. Blanks may stand before a
name and behind a quoted value. -/
def areParameters : Nat → List Char → Bool
  | 0, _ => false
  | fuel + 1, cs =>
    let cs := cs.dropWhile (· == ' ')
    if cs.isEmpty then true
    else
      match cs.span isTokenChar with
      | ([], _) => false
      | (_, '=' :: '"' :: first :: rest) =>
        if !isQuotable first then false
        else
          match rest.dropWhile fun c => isQuotable c && c != '"' with
          | '"' :: rest =>
            match rest.dropWhile (· == ' ') with
            | [] => true
            | ';' :: rest => areParameters fuel rest
            | _ => false
          | _ => false
      | (_, '=' :: rest) =>
        match rest.span isTokenChar with
        | (_, []) => true
        | ([], _) => false
        | (_, ';' :: rest) => areParameters fuel rest
        | _ => false
      | _ => false

/-- Whether the body is JSON: the type is `application`, and the subtype, or what stands behind its
last plus sign, is `json`. -/
def isJson (contentType : String) : Bool :=
  let cs := contentType.toList.map Char.toLower
  match cs.span isTokenChar with
  | (kind, '/' :: rest) =>
    let (subtype, rest) := rest.span isTokenChar
    let parameters :=
      match rest with
      | [] => true
      | ';' :: rest => areParameters (rest.length + 1) rest
      | _ => false
    let suffix := (subtype.reverse.takeWhile (· != '+')).reverse
    let stem := subtype.take (subtype.length - suffix.length - 1)
    let isSuffixed := subtype.contains '+' && !stem.isEmpty
    kind == "application".toList && !subtype.isEmpty && parameters &&
      (subtype == "json".toList ||
        (isSuffixed && (suffix == "json".toList || stem == "json".toList)))
  | _ => false

end GrantGate.Http
