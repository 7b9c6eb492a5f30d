import GrantGate.Review
import GrantGate.Rule
import GrantGate.Snapshot
import GrantGate.Wire.Record

namespace GrantGate

open Wire

variable {τ : Type} [Source τ]

namespace Rule

def toJson (r : Rule) : Json :=
  .members [("verbs", .ofTexts r.verbs), ("apiGroups", .ofTexts r.groups),
    ("resources", .ofTexts r.resources), ("resourceNames", .ofTexts r.names),
    ("nonResourceURLs", .ofTexts r.urls)]

def decode : Decoder τ Rule :=
  Record.decode "PolicyRule" <|
    Rule.mk <$> Record.defaulted "verbs" [] (list text)
      <*> Record.defaulted "apiGroups" [] (list text)
      <*> Record.defaulted "resources" [] (list text)
      <*> Record.defaulted "resourceNames" [] (list text)
      <*> Record.defaulted "nonResourceURLs" [] (list text)

end Rule

namespace Reach

def toJson (r : Reach) : Json := .text r.render

def decode : Decoder τ Reach :=
  oneOf [.plain "cluster" .cluster, .plain "project" .project]

end Reach

namespace Template

def toJson (t : Template) : Json :=
  .members [("name", .text t.name), ("display_name", .text t.displayName),
    ("context", t.reach.toJson), ("rules", .items (t.rules.map Rule.toJson)),
    ("inherits", .ofTexts t.inherits), ("locked", .bool t.locked), ("builtin", .bool t.builtin)]

def decode : Decoder τ Template :=
  Record.decode "PermissionTemplate" <|
    Template.mk <$> Record.required "name" text
      <*> Record.defaulted "display_name" "" text
      <*> Record.defaulted "context" .cluster Reach.decode
      <*> Record.defaulted "rules" [] (list Rule.decode)
      <*> Record.defaulted "inherits" [] (list text)
      <*> Record.defaulted "locked" false boolean
      <*> Record.defaulted "builtin" false boolean

end Template

namespace Subject

def toJson (s : Subject) : Json :=
  .members [("username", .text s.username), ("groups", .ofTexts s.groups.items),
    ("extra", .members (s.extra.items.map fun (key, values) => (key, .ofTexts values))),
    ("uid", .text s.uid)]

def decode : Decoder τ Subject :=
  Record.decode "Subject" <|
    (fun username groups extra uid => ⟨username, .ofList groups, .ofList extra, uid⟩)
      <$> Record.required "username" text
      <*> Record.defaulted "groups" [] (list text)
      <*> Record.defaulted "extra" [] (map (list text))
      <*> Record.defaulted "uid" "" text

end Subject

namespace Scope

def toJson : Scope → Json
  | cluster => .text "cluster"
  | namespaced name => .members [("namespace", .text name)]

def decode : Decoder τ Scope :=
  oneOf [.plain "cluster" .cluster, .wrapping "namespace" .namespaced text]

end Scope

namespace Access

def toJson (a : Access) : Json :=
  .members [("verb", .text a.verb), ("group", .text a.group), ("resource", .text a.resource),
    ("name", .text a.name), ("namespace", .ofTextOrNull a.inNamespace)]

def decode : Decoder τ Access :=
  Record.decode "ResourceAttributes" <|
    Access.mk <$> Record.required "verb" text
      <*> Record.required "group" text
      <*> Record.required "resource" text
      <*> Record.required "name" text
      <*> Record.defaulted "namespace" none (optional text)

end Access

namespace Grantee

def kind : Grantee → String
  | user _ => "user"
  | group _ => "group"

def name : Grantee → String
  | user name | group name => name

def toJson (g : Grantee) : Json := .members [("kind", .text g.kind), ("name", .text g.name)]

/-- The kind is looked at before the name, wherever they stand. -/
def decode : Decoder τ Grantee :=
  Record.decodeAs "adjacently tagged enum BindingSubject" "adjacently tagged enum BindingSubject" <|
    (fun of name => of name)
      <$> Record.required "kind" (oneOf [.plain "user" Grantee.user, .plain "group" Grantee.group])
      <*> Record.deferred "name" text

end Grantee

namespace Binding

def toJson (b : Binding) : Json :=
  .members [("name", .text b.name), ("subject", b.grantee.toJson), ("template", .text b.template),
    ("namespace", .ofTextOrNull b.inNamespace)]

def decode : Decoder τ Binding :=
  Record.decode "TemplateBinding" <|
    Binding.mk <$> Record.required "name" text
      <*> Record.required "subject" Grantee.decode
      <*> Record.required "template" text
      <*> Record.defaulted "namespace" none (optional text)

end Binding

namespace Operation

def toJson (o : Operation) : Json := .text o.render

def decode : Decoder τ Operation :=
  oneOf [.plain "CREATE" .create, .plain "UPDATE" .update, .plain "DELETE" .delete]

end Operation

namespace Review

def toJson (r : Review) : Json :=
  .members [("uid", .text r.uid), ("operation", r.operation.toJson), ("user", r.user.toJson),
    ("namespace", .ofTextOrNull r.inNamespace), ("object", r.object.getD .null),
    ("old_object", r.oldObject.getD .null)]

def decode : Decoder τ Review :=
  Record.decode "AdmissionReview" <|
    Review.mk <$> Record.required "uid" text
      <*> Record.required "operation" Operation.decode
      <*> Record.required "user" Subject.decode
      <*> Record.defaulted "namespace" none (optional text)
      <*> Record.defaulted "object" none (optional json)
      <*> Record.defaulted "old_object" none (optional json)

end Review

namespace Response

/-- A message is left out when there is none. -/
def toJson (r : Response) : Json :=
  .members ([("uid", .text r.uid), ("allowed", .bool r.allowed)] ++
    r.message.toList.map (fun m => ("message", .text m)) ++ [("code", .ofNat r.code.toNat)])

def decode : Decoder τ Response :=
  Record.decode "AdmissionResponse" <|
    Response.mk <$> Record.required "uid" text
      <*> Record.required "allowed" boolean
      <*> Record.defaulted "message" none (optional text)
      <*> Record.required "code" shortNumber

end Response

namespace ErrorBody

def toJson (e : ErrorBody) : Json :=
  .members ([("code", .text e.code), ("message", .text e.message)] ++
    e.requestId.toList.map (fun id => ("request_id", .text id)))

def decode : Decoder τ ErrorBody :=
  Record.decode "ErrorResponse" <|
    ErrorBody.mk <$> Record.required "code" text
      <*> Record.required "message" text
      <*> Record.defaulted "request_id" none (optional text)

end ErrorBody

namespace Snapshot

def toJson (s : Snapshot) : Json :=
  .members [("templates", .items (s.templates.map Template.toJson)),
    ("bindings", .items (s.bindings.map Binding.toJson))]

def decode : Decoder τ Snapshot :=
  Record.decode "Snapshot" <|
    Snapshot.mk <$> Record.defaulted "templates" [] (list Template.decode)
      <*> Record.defaulted "bindings" [] (list Binding.decode)

end Snapshot

end GrantGate
