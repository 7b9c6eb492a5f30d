import GrantGate.Text
import Mathlib.Data.List.Basic

namespace GrantGate.Text

/-- What stands between the line feeds of a text. -/
def lines (s : String) : List String := (s.toList.splitOn '\n').map String.ofList

def OneLine (s : String) : Prop := '\n' ∉ s.toList

instance (s : String) : Decidable (OneLine s) := inferInstanceAs (Decidable (¬ _))

@[simp] theorem oneLine_append {a b : String} : OneLine (a ++ b) ↔ OneLine a ∧ OneLine b := by
  simp [OneLine]

private theorem oneLine_join {ss : List String} :
    OneLine (String.join ss) ↔ ∀ s ∈ ss, OneLine s := by
  simp [OneLine]

theorem not_mem_intercalate_iff {c : Char} {sep : String} (clear : c ∉ sep.toList)
    {ss : List String} : c ∉ (sep.intercalate ss).toList ↔ ∀ s ∈ ss, c ∉ s.toList := by
  induction ss with
  | nil => simp
  | cons s rest ih =>
    cases rest with
    | nil => simp
    | cons t rest =>
      rw [String.intercalate_cons_cons, String.toList_append, String.toList_append,
        List.forall_mem_cons, ← ih]
      simp [clear]

theorem oneLine_intercalate {sep : String} (clear : OneLine sep) {ss : List String} :
    OneLine (sep.intercalate ss) ↔ ∀ s ∈ ss, OneLine s :=
  not_mem_intercalate_iff clear

theorem intercalate_cons_eq_join {sep s : String} {ss : List String} :
    sep.intercalate (s :: ss) = s ++ String.join (ss.map fun t => sep ++ t) := by
  induction ss generalizing s with
  | nil => simp
  | cons t rest ih =>
    rw [String.intercalate_cons_cons, ih, List.map_cons, String.join_cons]
    simp only [String.append_assoc]

private theorem lines_of_oneLine {s : String} (h : OneLine s) : lines s = [s] := by
  rw [lines, List.splitOn_eq_singleton h, List.map_singleton, String.ofList_toList]

private theorem lines_append (a b : String) : lines (a ++ "\n" ++ b) = lines a ++ lines b := by
  have feed : (a ++ "\n" ++ b).toList = a.toList ++ '\n' :: b.toList := by simp
  rw [lines, feed, List.splitOn_append_cons_self, List.map_append]
  rfl

theorem lines_intercalate {ls : List String} (nonempty : ls ≠ []) :
    lines ("\n".intercalate ls) = ls.flatMap lines := by
  induction ls with
  | nil => exact absurd rfl nonempty
  | cons l rest ih =>
    cases rest with
    | nil => simp
    | cons m rest =>
      rw [String.intercalate_cons_cons, lines_append, ih (List.cons_ne_nil m rest)]
      rfl

theorem lines_intercalate_of_oneLine {ls : List String} (nonempty : ls ≠ [])
    (h : ∀ l ∈ ls, OneLine l) : lines ("\n".intercalate ls) = ls := by
  have each : ls.flatMap lines = ls.flatMap fun l => [l] :=
    List.flatMap_congr fun l hl => lines_of_oneLine (h l hl)
  rw [lines_intercalate nonempty, each, List.flatMap_singleton']

private theorem length_lines_eq_one_iff {s : String} : (lines s).length = 1 ↔ OneLine s := by
  constructor
  · intro h feed
    obtain ⟨a, b, split⟩ := List.append_of_mem feed
    have ha := List.length_pos_of_ne_nil (List.splitOn_ne_nil '\n' a)
    have hb := List.length_pos_of_ne_nil (List.splitOn_ne_nil '\n' b)
    rw [lines, split, List.splitOn_append_cons_self, List.length_map, List.length_append] at h
    omega
  · intro h
    rw [lines_of_oneLine h, List.length_singleton]

private theorem length_le_length_lines (ls : List String) :
    ls.length ≤ (ls.flatMap lines).length := by
  induction ls with
  | nil => simp
  | cons l rest ih =>
    have hl : 0 < (lines l).length := by simp [lines, List.length_pos_iff, List.splitOn_ne_nil]
    rw [List.flatMap_cons, List.length_append, List.length_cons]
    omega

/-- A text has as many lines as it was joined from exactly if none of them held a line feed. -/
theorem length_lines_intercalate_iff {ls : List String} (nonempty : ls ≠ []) :
    (lines ("\n".intercalate ls)).length = ls.length ↔ ∀ l ∈ ls, OneLine l := by
  rw [lines_intercalate nonempty]
  clear nonempty
  -- Each of them gives a line at least, so none may give more.
  induction ls with
  | nil => simp
  | cons l rest ih =>
    have hrest := length_le_length_lines rest
    have hl : 0 < (lines l).length := by simp [lines, List.length_pos_iff, List.splitOn_ne_nil]
    rw [List.flatMap_cons, List.length_append, List.length_cons, List.forall_mem_cons, ← ih,
      ← length_lines_eq_one_iff]
    omega

section Pieces

variable {α : Type} {stop : Char}

theorem eq_of_append_stop {a b u v : List Char} (ha : stop ∉ a) (hb : stop ∉ b)
    (h : a ++ stop :: u = b ++ stop :: v) : a = b ∧ u = v := by
  have cut := congrArg (List.splitOn stop) h
  rw [List.splitOn_append_cons_self_of_not_mem ha,
    List.splitOn_append_cons_self_of_not_mem hb] at cut
  obtain ⟨rfl, -⟩ := List.cons.inj cut
  exact ⟨rfl, List.tail_eq_of_cons_eq (List.append_cancel_left h)⟩

/-- Pieces that each end at a character which none of them holds are told apart, whatever else
stands behind that character. -/
theorem eq_of_flatMap_stop {P : α → Prop} {f : α → List Char} {tail : List Char}
    (clear : ∀ x, P x → stop ∉ f x) (inj : ∀ x y, P x → P y → f x = f y → x = y)
    {xs ys : List α} (hxs : ∀ x ∈ xs, P x) (hys : ∀ y ∈ ys, P y)
    (h : (xs.flatMap fun x => f x ++ stop :: tail) = ys.flatMap fun y => f y ++ stop :: tail) :
    xs = ys := by
  induction xs generalizing ys with
  | nil =>
    cases ys with
    | nil => rfl
    | cons y ys => simp at h
  | cons x xs ih =>
    cases ys with
    | nil => simp at h
    | cons y ys =>
      obtain ⟨hx, hxs⟩ := List.forall_mem_cons.1 hxs
      obtain ⟨hy, hys⟩ := List.forall_mem_cons.1 hys
      simp only [List.flatMap_cons, List.append_assoc, List.cons_append] at h
      obtain ⟨first, rest⟩ := eq_of_append_stop (clear x hx) (clear y hy) h
      rw [inj x y hx hy first, ih hxs hys (List.append_cancel_left rest)]

/-- With one more separator behind the last piece, a text ends every piece in the same way. -/
theorem toList_intercalate_append {sep : String} {ss : List String} (nonempty : ss ≠ []) :
    (sep.intercalate ss ++ sep).toList = ss.flatMap fun s => s.toList ++ sep.toList := by
  induction ss with
  | nil => exact absurd rfl nonempty
  | cons s rest ih =>
    cases rest with
    | nil => simp
    | cons t rest =>
      rw [String.intercalate_cons_cons, String.append_assoc, String.toList_append,
        ih (List.cons_ne_nil t rest), String.toList_append]
      rfl

end Pieces

private theorem oneLine_hexDigits (n : Nat) : OneLine (hexDigits n) := by
  rw [hexDigits, OneLine, String.toList_ofList]
  induction n using Nat.strongRecOn with
  | ind n ih =>
    rw [Nat.toDigits_eq_if (by decide)]
    split
    case isTrue => simp
    case isFalse =>
      have init := ih (n / 16) (by omega)
      simp [init]

private theorem oneLine_escapeChar (c : Char) : OneLine (escapeChar c) := by
  unfold escapeChar
  split
  case h_7 feed _ _ _ =>
    split
    case isTrue =>
      have opening : OneLine "\\u\x7b" := by decide
      have closing : OneLine "\x7d" := by decide
      simp [opening, closing, oneLine_hexDigits]
    case isFalse => simpa [OneLine] using Ne.symm feed
  all_goals decide

/-- Whatever it quotes, a quoted text stays on its line. -/
theorem oneLine_quote (s : String) : OneLine (quote s) := by
  have escaped : OneLine (String.join (s.toList.map escapeChar)) :=
    oneLine_join.2 (by simpa using fun c _ => oneLine_escapeChar c)
  have mark : OneLine "\"" := by decide
  simp [quote, escaped, mark]

end GrantGate.Text
