import GrantGate.Proofs.Rule.Rendering
import GrantGate.Refusal

namespace GrantGate.Denial

open Text

variable {d : Denial}

/-- Who asked, in which groups, and whether a list follows. -/
def headline (d : Denial) : String :=
  "user " ++ quote d.username ++ " (groups [" ++ ", ".intercalate d.groups ++
    "]) is attempting to grant permissions they do not hold" ++
    if d.uncovered.isEmpty then ":" else ", uncovered rules:"

/-- The pieces that a message is made of, each meant for a line. -/
def layout (d : Denial) : List String :=
  d.headline :: ((d.uncovered.map fun rule => "  " ++ rule.render) ++
    d.incompleteReason.toList.map fun reason => "permission resolution incomplete: " ++ reason)

theorem message_eq_intercalate (d : Denial) : d.message = "\n".intercalate d.layout := by
  rw [layout, intercalate_cons_eq_join]
  unfold message headline
  refine String.toList_inj.1 ?_
  cases d.incompleteReason <;> simp [List.flatMap_map]

private theorem length_layout (d : Denial) : d.layout.length =
    1 + d.uncovered.length + if d.incompleteReason.isSome then 1 else 0 := by
  cases h : d.incompleteReason <;> simp [layout, h] <;> omega

private theorem getElem?_layout {i : Nat} {rule : Rule} (h : d.uncovered[i]? = some rule) :
    d.layout[i + 1]? = some ("  " ++ rule.render) := by
  obtain ⟨hi, -⟩ := List.getElem?_eq_some_iff.1 h
  rw [layout, List.getElem?_cons_succ, List.getElem?_append_left (by simpa using hi),
    List.getElem?_map, h, Option.map_some]

/-- The name of the requester is quoted; the names of the groups stand as they are. -/
private theorem oneLine_headline_iff : OneLine d.headline ↔ ∀ group ∈ d.groups, OneLine group := by
  have user : OneLine "user " := by decide
  have opening : OneLine " (groups [" := by decide
  have comma : OneLine ", " := by decide
  have attempt : OneLine "]) is attempting to grant permissions they do not hold" := by decide
  have colon : OneLine (if d.uncovered.isEmpty then ":" else ", uncovered rules:") := by
    split <;> decide
  simp only [headline, oneLine_append, oneLine_quote, oneLine_intercalate comma, user, opening,
    attempt, colon, true_and, and_true]

theorem forall_layout_oneLine_iff (reason : ∀ text, d.incompleteReason = some text → OneLine text) :
    (∀ line ∈ d.layout, OneLine line) ↔ (∀ group ∈ d.groups, OneLine group) ∧
      ∀ rule ∈ d.uncovered, ∀ value ∈ rule.entries, OneLine value := by
  have indent : OneLine "  " := by decide
  have rules : (∀ line ∈ d.uncovered.map fun rule => "  " ++ rule.render, OneLine line) ↔
      ∀ rule ∈ d.uncovered, ∀ value ∈ rule.entries, OneLine value := by
    simp [indent, Rule.oneLine_render_iff]
  have note : ∀ line ∈ d.incompleteReason.toList.map fun reason =>
      "permission resolution incomplete: " ++ reason, OneLine line := by
    have opening : OneLine "permission resolution incomplete: " := by decide
    simpa [opening] using reason
  rw [layout, List.forall_mem_cons, oneLine_headline_iff, List.forall_mem_append, rules,
    and_iff_left note]

private theorem layout_ne_nil (d : Denial) : d.layout ≠ [] := List.cons_ne_nil _ _

private theorem lines_message_of_clear (clear : ∀ line ∈ d.layout, OneLine line) :
    lines d.message = d.layout := by
  rw [message_eq_intercalate, lines_intercalate_of_oneLine d.layout_ne_nil clear]

/-- A message has a line for each rule, the one that shows it, exactly if neither a group nor an
entry of a rule brings a line feed. -/
theorem lines_message_iff (reason : ∀ text, d.incompleteReason = some text → OneLine text) :
    ((lines d.message).length =
        1 + d.uncovered.length + (if d.incompleteReason.isSome then 1 else 0) ∧
      ∀ i rule, d.uncovered[i]? = some rule →
        (lines d.message)[i + 1]? = some ("  " ++ rule.render)) ↔
      (∀ group ∈ d.groups, OneLine group) ∧
        ∀ rule ∈ d.uncovered, ∀ value ∈ rule.entries, OneLine value := by
  have length : (lines d.message).length = d.layout.length ↔ ∀ line ∈ d.layout, OneLine line := by
    rw [message_eq_intercalate, length_lines_intercalate_iff d.layout_ne_nil]
  rw [← forall_layout_oneLine_iff reason, ← length_layout, length]
  refine and_iff_left_of_imp fun clear i rule hi => ?_
  rw [lines_message_of_clear clear]
  exact getElem?_layout hi

/-- The name of the requester holds a line feed, which is quoted, and an entry is empty. -/
theorem lines_message_carol :
    let scale : Rule :=
      { verbs := ["update"], groups := ["apps"], resources := ["*/scale"], names := ["web", ""] }
    let d : Denial :=
      { username := "carol\nuser \"root\"", groups := ["devs", "ops"],
        uncovered := [scale, .everything], incompleteReason := "template \"gone\" not found" }
    (∀ text, d.incompleteReason = some text → OneLine text) ∧
      (lines d.message).length = 4 ∧
      (lines d.message)[1]? = some ("  " ++ scale.render) ∧
      (lines d.message)[2]? = some ("  " ++ Rule.everything.render) := by
  intro scale d
  have reason : ∀ text, d.incompleteReason = some text → OneLine text := by
    intro text h
    obtain rfl := Option.some.inj h
    decide
  obtain ⟨length, shown⟩ := (lines_message_iff reason).2 (by decide)
  exact ⟨reason, length, shown 0 scale rfl, shown 1 .everything rfl⟩

/-- One rule on a resource of a strange name is shown like two, the second of which grants
everything: there is one line more than the list has rules. -/
theorem message_of_forged_line :
    let pods : Rule := { verbs := ["get"], groups := [""], resources := ["pods"] }
    let forged : Rule :=
      { pods with resources := ["pods]\n  verbs=[*] apiGroups=[*] resources=[*"] }
    let d : Denial :=
      { username := "carol", groups := ["devs"], uncovered := [forged], incompleteReason := none }
    let honest : Denial := { d with uncovered := [pods, .everything] }
    d.message = honest.message ∧ (lines d.message).length = 3 ∧
      (lines d.message).length ≠ 1 + d.uncovered.length ∧
      (lines d.message)[1]? ≠ some ("  " ++ forged.render) := by
  intro pods forged d honest
  have shown : forged.render = pods.render ++ "\n  " ++ Rule.everything.render := by decide
  have same : d.message = honest.message := by
    simp [message, d, honest, shown, String.append_assoc]
  have clear : ∀ line ∈ honest.layout, OneLine line := by
    refine (forall_layout_oneLine_iff fun text h => ?_).2 (by decide)
    cases h
  rw [same, lines_message_of_clear clear]
  exact ⟨rfl, by decide, by decide, by decide⟩

/-- A list of ordinary rules, one a line, is read back at the line feeds. -/
private theorem eq_of_join_render_eq {us vs : List Rule} (hus : ∀ rule ∈ us, rule.Ordinary)
    (hvs : ∀ rule ∈ vs, rule.Ordinary)
    (h : String.join (us.map fun rule => "\n  " ++ rule.render) =
      String.join (vs.map fun rule => "\n  " ++ rule.render)) : us = vs := by
  -- With a line feed at the end, there is one behind each rule.
  have ended (rules : List Rule) :
      (String.join (rules.map fun rule => "\n  " ++ rule.render) ++ "\n").toList =
        '\n' :: rules.flatMap fun rule => ("  " ++ rule.render).toList ++ '\n' :: [] := by
    have feeds : String.join (rules.map fun rule => "\n  " ++ rule.render) =
        "\n".intercalate ("" :: rules.map fun rule => "  " ++ rule.render) := by
      rw [intercalate_cons_eq_join, String.empty_append, List.map_map]
      rfl
    rw [feeds, toList_intercalate_append (List.cons_ne_nil _ _), List.flatMap_cons, List.flatMap_map]
    rfl
  have clear (rule : Rule) (hr : rule.Ordinary) : '\n' ∉ ("  " ++ rule.render).toList := by
    have indent : OneLine "  " := by decide
    exact oneLine_append.2 ⟨indent, hr.oneLine_render⟩
  have inj (r s : Rule) (hr : r.Ordinary) (hs : s.Ordinary)
      (h : ("  " ++ r.render).toList = ("  " ++ s.render).toList) : r = s :=
    hr.eq_of_render_eq hs ((String.append_right_inj _).1 (String.toList_inj.1 h))
  have pieces := congrArg (fun s : String => (s ++ "\n").toList) h
  simp only [ended, List.cons.injEq, true_and] at pieces
  exact eq_of_flatMap_stop clear inj hus hvs pieces

/-- A message that lists nothing ends its first line with a colon at once. -/
theorem eq_of_message_eq {username : String} {groups : List String} {reason : Option String}
    {us vs : List Rule} (hus : ∀ rule ∈ us, rule.Ordinary) (hvs : ∀ rule ∈ vs, rule.Ordinary)
    (h : message ⟨username, groups, us, reason⟩ = message ⟨username, groups, vs, reason⟩) :
    us = vs := by
  simp only [message, String.append_left_inj] at h
  simp only [String.append_assoc, String.append_right_inj] at h
  cases us with
  | nil =>
    cases vs with
    | nil => rfl
    | cons v vs => exact absurd (congrArg String.toList h) (by simp)
  | cons u us =>
    cases vs with
    | nil => exact absurd (congrArg String.toList h) (by simp)
    | cons v vs => exact eq_of_join_render_eq hus hvs ((String.append_right_inj _).1 h)

/-- Rules with ordinary values are told apart by their texts, and lists of them by the messages that
refuse them. -/
theorem uncovered_told_apart :
    (∀ r s : Rule, r.Ordinary → s.Ordinary → r.render = s.render → r = s) ∧
      ∀ (username : String) (groups : List String) (reason : Option String) (us vs : List Rule),
        (∀ rule ∈ us, rule.Ordinary) → (∀ rule ∈ vs, rule.Ordinary) →
        message ⟨username, groups, us, reason⟩ = message ⟨username, groups, vs, reason⟩ →
        us = vs :=
  ⟨fun _ _ hr hs h => hr.eq_of_render_eq hs h,
    fun _ _ _ _ _ hus hvs h => eq_of_message_eq hus hvs h⟩

/-- No entry and one empty entry are not the same, in whichever dimension; and the refusal of both
rules is not that of one of them. -/
theorem uncovered_told_apart_core :
    let core : Rule := { verbs := ["get", ""], groups := [""], urls := ["/api/*"] }
    let bare : Rule := { verbs := ["get", ""], urls := ["/api/*"] }
    let all : Rule := { verbs := ["*"], groups := ["*"], resources := ["*"] }
    let refusal (rules : List Rule) : Denial := ⟨"carol", ["a\nb"], rules, some "c\nd"⟩
    core.Ordinary ∧ bare.Ordinary ∧ all.Ordinary ∧ Rule.everything.Ordinary ∧
      all.render = Rule.everything.render ∧ all = .everything ∧
      core.render ≠ bare.render ∧
      (refusal [core, all]).message = (refusal [core, .everything]).message ∧
      [core, all] = [core, .everything] ∧
      (refusal [core, bare]).message ≠ (refusal [core]).message := by
  intro core bare all refusal
  have hcore : core.Ordinary := by decide
  have hbare : bare.Ordinary := by decide
  have hall : all.Ordinary := by decide
  obtain ⟨rules, lists⟩ := uncovered_told_apart
  have one := rules all .everything hall hall rfl
  have message : (refusal [core, all]).message = (refusal [core, .everything]).message :=
    congrArg (fun rule => (refusal [core, rule]).message) one
  have several := lists "carol" ["a\nb"] (some "c\nd") [core, all] [core, .everything]
    (by decide) (by decide) message
  refine ⟨hcore, hbare, hall, hall, rfl, one, fun h => ?_, message, several, fun h => ?_⟩
  · exact absurd (rules core bare hcore hbare h) (by decide)
  · exact absurd (lists _ _ _ _ _ (by decide) (by decide) h) (by decide)

end GrantGate.Denial
