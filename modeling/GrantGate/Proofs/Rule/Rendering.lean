import GrantGate.Proofs.Text.Lines
import GrantGate.Rule

namespace GrantGate

/-- A value without the characters that a text puts around values and between them. -/
def Text.Ordinary (value : String) : Prop :=
  ∀ c ∈ value.toList, c ∉ [',', ' ', '[', ']', '=', '"', '\n']

instance (value : String) : Decidable (Text.Ordinary value) :=
  List.decidableBAll (· ∉ [',', ' ', '[', ']', '=', '"', '\n']) value.toList

namespace Rule

open Text

variable {r s : Rule} {label value other : String} {values others : List String}

/-- The entries of all dimensions. -/
def entries (r : Rule) : List String := r.verbs ++ r.groups ++ r.resources ++ r.names ++ r.urls

private theorem forall_entries_iff {P : String → Prop} : (∀ value ∈ r.entries, P value) ↔
    (∀ v ∈ r.verbs, P v) ∧ (∀ g ∈ r.groups, P g) ∧ (∀ s ∈ r.resources, P s) ∧
      (∀ n ∈ r.names, P n) ∧ ∀ u ∈ r.urls, P u := by
  simp only [entries, List.forall_mem_append, and_assoc]

def Ordinary (r : Rule) : Prop := ∀ value ∈ r.entries, Text.Ordinary value

instance (r : Rule) : Decidable r.Ordinary :=
  List.decidableBAll Text.Ordinary r.entries

private theorem oneLine_renderEntry_iff : OneLine (renderEntry value) ↔ OneLine value := by
  by_cases h : value = ""
  · subst h
    decide
  · simp [renderEntry, h]

private theorem oneLine_renderDimension_iff (hlabel : OneLine label) :
    OneLine (renderDimension label values) ↔ ∀ value ∈ values, OneLine value := by
  have opening : OneLine "=[" := by decide
  have comma : OneLine ", " := by decide
  have closing : OneLine "]" := by decide
  simp [renderDimension, hlabel, opening, closing, oneLine_intercalate comma,
    oneLine_renderEntry_iff]

private theorem oneLine_renderOptional_iff (hlabel : OneLine label) :
    OneLine (renderOptional label values) ↔ ∀ value ∈ values, OneLine value := by
  cases values with
  | nil => simp [renderOptional, OneLine]
  | cons value rest =>
    have blank : OneLine " " := by decide
    simp [renderOptional, blank, oneLine_renderDimension_iff hlabel]

theorem oneLine_render_iff : OneLine r.render ↔ ∀ value ∈ r.entries, OneLine value := by
  have verbs : OneLine "verbs" := by decide
  have groups : OneLine "apiGroups" := by decide
  have resources : OneLine "resources" := by decide
  have names : OneLine "resourceNames" := by decide
  have urls : OneLine "nonResourceURLs" := by decide
  simp only [render, oneLine_append, oneLine_renderDimension_iff verbs,
    oneLine_renderOptional_iff groups, oneLine_renderOptional_iff resources,
    oneLine_renderOptional_iff names, oneLine_renderOptional_iff urls, forall_entries_iff, and_assoc]

/-- A line feed is no part of an ordinary value, nor of what a text puts around values. -/
theorem Ordinary.oneLine_render (h : r.Ordinary) : OneLine r.render :=
  oneLine_render_iff.2 fun value hvalue feed => h value hvalue '\n' feed (by decide)

private theorem not_mem_renderEntry {c : Char} (hc : c ∈ [',', ' ', '[', ']', '=', '\n'])
    (h : Text.Ordinary value) : c ∉ (renderEntry value).toList := by
  by_cases empty : value = ""
  · have other : c ≠ '"' := by
      rintro rfl
      simp at hc
    simp [renderEntry, empty, other]
  · have shown : renderEntry value = value := by simp [renderEntry, empty]
    have apart : [',', ' ', '[', ']', '=', '\n'] ⊆ [',', ' ', '[', ']', '=', '"', '\n'] := by simp
    rw [shown]
    exact fun mem => h c mem (apart hc)

/-- The two quotes of the empty value stand for no other one. -/
private theorem eq_of_renderEntry_eq (hv : Text.Ordinary value) (hw : Text.Ordinary other)
    (h : renderEntry value = renderEntry other) : value = other := by
  have quotes {v : String} (hv : Text.Ordinary v) : v ≠ "\"\"" := by
    rintro rfl
    exact absurd hv (by decide)
  by_cases ev : value = "" <;> by_cases ew : other = ""
  · rw [ev, ew]
  · exact absurd (by simpa [renderEntry, ev, ew] using h.symm) (quotes hw)
  · exact absurd (by simpa [renderEntry, ev, ew] using h) (quotes hv)
  · simpa [renderEntry, ev, ew] using h

private theorem renderEntry_ne_empty (value : String) : renderEntry value ≠ "" := by
  by_cases h : value = "" <;> simp [renderEntry, h]

private theorem intercalate_renderEntry_ne_empty (nonempty : values ≠ []) :
    ", ".intercalate (values.map renderEntry) ≠ "" := by
  cases values with
  | nil => exact absurd rfl nonempty
  | cons v rest => cases rest <;> simp [renderEntry_ne_empty]

/-- What stands between the brackets of a dimension tells its values. -/
private theorem eq_of_intercalate_renderEntry_eq (hvalues : ∀ v ∈ values, Text.Ordinary v)
    (hothers : ∀ v ∈ others, Text.Ordinary v)
    (h : ", ".intercalate (values.map renderEntry) = ", ".intercalate (others.map renderEntry)) :
    values = others := by
  -- No values at all show nothing, while a single empty one shows its quotes.
  by_cases hv : values = []
  · by_contra differ
    have ho : others ≠ [] := fun ho => differ (hv.trans ho.symm)
    exact intercalate_renderEntry_ne_empty ho (by rw [← h, hv]; rfl)
  by_cases ho : others = []
  · exact absurd (by rw [h, ho]; rfl) (intercalate_renderEntry_ne_empty hv)
  have ended {vs : List String} (some : vs ≠ []) :
      (", ".intercalate (vs.map renderEntry) ++ ", ").toList =
        vs.flatMap fun v => (renderEntry v).toList ++ ',' :: [' '] := by
    rw [toList_intercalate_append (by simpa using some), List.flatMap_map]
    rfl
  have pieces := congrArg (fun s : String => (s ++ ", ").toList) h
  simp only [ended hv, ended ho] at pieces
  exact eq_of_flatMap_stop (fun v hv => not_mem_renderEntry (by decide) hv)
    (fun v w hv hw h => eq_of_renderEntry_eq hv hw (String.toList_inj.1 h)) hvalues hothers pieces

/-- A dimension under its label. -/
abbrev Dimension := String × List String

/-- The dimensions after the verbs. -/
def optional (r : Rule) : List Dimension :=
  [("apiGroups", r.groups), ("resources", r.resources), ("resourceNames", r.names),
    ("nonResourceURLs", r.urls)]

/-- What a text shows: the verbs, and each other dimension that has entries. -/
def dimensions (r : Rule) : List Dimension :=
  ("verbs", r.verbs) :: r.optional.filter fun d => !d.2.isEmpty

private theorem join_renderOptional (ds : List Dimension) :
    String.join (ds.map fun d => renderOptional d.1 d.2) =
      String.join ((ds.filter fun d => !d.2.isEmpty).map fun d => " " ++ renderDimension d.1 d.2) := by
  refine String.toList_inj.1 ?_
  induction ds with
  | nil => rfl
  | cons d ds ih => by_cases h : d.2 = [] <;> simp_all [renderOptional]

theorem render_eq_join (r : Rule) :
    " " ++ r.render = String.join (r.dimensions.map fun d => " " ++ renderDimension d.1 d.2) := by
  rw [dimensions, List.map_cons, String.join_cons, ← join_renderOptional]
  simp [render, optional, String.append_assoc]

/-- The values that are listed under a label. -/
def listedUnder (label : String) (ds : List Dimension) : List String :=
  ds.flatMap fun d => if d.1 = label then d.2 else []

/-- A dimension without entries lists nothing. -/
private theorem listedUnder_filter (ds : List Dimension) :
    listedUnder label (ds.filter fun d => !d.2.isEmpty) = listedUnder label ds := by
  induction ds with
  | nil => rfl
  | cons d ds ih => by_cases h : d.2 = [] <;> simp_all [listedUnder]

private theorem listedUnder_dimensions (label : String) (r : Rule) :
    listedUnder label r.dimensions =
      (if "verbs" = label then r.verbs else []) ++ listedUnder label r.optional := by
  rw [← listedUnder_filter r.optional]
  rfl

private theorem eq_of_dimensions_eq (h : r.dimensions = s.dimensions) : r = s := by
  have listed (label : String) := congrArg (listedUnder label) h
  simp only [listedUnder_dimensions] at listed
  have verbs : r.verbs = s.verbs := by simpa [listedUnder, optional] using listed "verbs"
  have groups : r.groups = s.groups := by simpa [listedUnder, optional] using listed "apiGroups"
  have resources : r.resources = s.resources := by
    simpa [listedUnder, optional] using listed "resources"
  have names : r.names = s.names := by simpa [listedUnder, optional] using listed "resourceNames"
  have urls : r.urls = s.urls := by
    simpa [listedUnder, optional] using listed "nonResourceURLs"
  cases r
  cases s
  simp_all

/-- A dimension as a text shows it, up to the bracket that closes it. -/
def piece (d : Dimension) : List Char :=
  ' ' :: (d.1.toList ++ '=' :: '[' :: (", ".intercalate (d.2.map renderEntry)).toList)

private theorem toList_renderDimension (d : Dimension) :
    (" " ++ renderDimension d.1 d.2).toList = piece d ++ ']' :: [] := by
  simp [renderDimension, piece]

/-- A label holds neither the sign that ends it nor the bracket that ends its dimension. -/
structure Legible (d : Dimension) : Prop where
  label : '=' ∉ d.1.toList ∧ ']' ∉ d.1.toList
  ordinary : ∀ value ∈ d.2, Text.Ordinary value

theorem Ordinary.legible (h : r.Ordinary) : ∀ d ∈ r.dimensions, Legible d := by
  obtain ⟨verbs, groups, resources, names, urls⟩ := forall_entries_iff.1 h
  have all : ∀ d ∈ ("verbs", r.verbs) :: r.optional, Legible d := by
    have legible {label : String} {values : List String}
        (hlabel : '=' ∉ label.toList ∧ ']' ∉ label.toList)
        (hvalues : ∀ value ∈ values, Text.Ordinary value) : Legible (label, values) :=
      ⟨hlabel, hvalues⟩
    simp only [optional, List.forall_mem_cons]
    exact ⟨legible (by decide) verbs, legible (by decide) groups, legible (by decide) resources,
      legible (by decide) names, legible (by decide) urls, List.forall_mem_nil _⟩
  intro d hd
  rcases List.mem_cons.1 hd with rfl | hd
  · exact all _ (List.mem_cons_self ..)
  · exact all d (List.mem_cons_of_mem _ (List.mem_filter.1 hd).1)

theorem Legible.not_mem_piece {d : Dimension} (h : Legible d) : ']' ∉ piece d := by
  have comma : ']' ∉ ", ".toList := by decide
  have shown : ']' ∉ (", ".intercalate (d.2.map renderEntry)).toList := by
    refine (not_mem_intercalate_iff comma).2 ?_
    rw [List.forall_mem_map]
    exact fun value hvalue => not_mem_renderEntry (by decide) (h.ordinary value hvalue)
  simp only [piece, List.mem_cons, List.mem_append, not_or]
  exact ⟨by decide, h.label.2, by decide, by decide, shown⟩

theorem Legible.eq_of_piece_eq {d e : Dimension} (hd : Legible d) (he : Legible e)
    (h : piece d = piece e) : d = e := by
  obtain ⟨label, rest⟩ := eq_of_append_stop hd.label.1 he.label.1 (List.cons.inj h).2
  have values := eq_of_intercalate_renderEntry_eq hd.ordinary he.ordinary
    (String.toList_inj.1 (List.cons.inj rest).2)
  exact Prod.ext (String.toList_inj.1 label) values

/-- Rules with ordinary values have texts of their own: a text splits at the closing brackets into
its dimensions. -/
theorem Ordinary.eq_of_render_eq (hr : r.Ordinary) (hs : s.Ordinary) (h : r.render = s.render) :
    r = s := by
  have pieces (r : Rule) :
      (" " ++ r.render).toList = r.dimensions.flatMap fun d => piece d ++ ']' :: [] := by
    rw [render_eq_join, String.toList_join, List.flatMap_map]
    simp only [toList_renderDimension]
  have same : (r.dimensions.flatMap fun d => piece d ++ ']' :: []) =
      s.dimensions.flatMap fun d => piece d ++ ']' :: [] := by
    rw [← pieces, ← pieces, h]
  exact eq_of_dimensions_eq (eq_of_flatMap_stop (fun _ => Legible.not_mem_piece)
    (fun _ _ => Legible.eq_of_piece_eq) hr.legible hs.legible same)

end Rule

end GrantGate
