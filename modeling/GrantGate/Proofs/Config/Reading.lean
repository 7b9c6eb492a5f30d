import GrantGate.Config
import Mathlib.Data.List.TakeWhile

namespace GrantGate

namespace Text

private theorem isBlank_of_letter {c : Char} (low : 65 ≤ c.toNat) (high : c.toNat ≤ 122) :
    isBlank c = false := by
  have differs {n : Nat} (h : 122 < n) : (c.toNat == n) = false := by
    simp only [beq_eq_false_iff_ne]
    omega
  have space : (c.toNat == 0x20) = false := by
    simp only [beq_eq_false_iff_ne]
    omega
  have early : ¬ c.toNat ≤ 13 := by omega
  have late : ¬ 0x2000 ≤ c.toNat := by omega
  simp [isBlank, differs, space, early, late]

private theorem isBlank_toLower (c : Char) : isBlank c.toLower = isBlank c := by
  unfold Char.toLower
  split
  case isFalse => rfl
  case isTrue h =>
    have low : 65 ≤ c.toNat := UInt32.le_iff_toNat_le.1 h.1
    have high : c.toNat ≤ 90 := UInt32.le_iff_toNat_le.1 h.2
    have shifted : (c.val + ('a'.val - 'A'.val)).toNat = c.toNat + 32 := by
      have hdiff : ('a'.val - 'A'.val).toNat = 32 := rfl
      have hadd := UInt32.toNat_add c.val ('a'.val - 'A'.val)
      rw [hdiff] at hadd
      rw [hadd]
      exact Nat.mod_eq_of_lt (by change c.toNat + 32 < _; omega)
    have upper : isBlank c = false := isBlank_of_letter low (by omega)
    rw [upper]
    apply isBlank_of_letter
    · change 65 ≤ (c.val + ('a'.val - 'A'.val)).toNat
      omega
    · change (c.val + ('a'.val - 'A'.val)).toNat ≤ 122
      omega

variable {before core after cs : List Char}

private theorem dropWhile_blanks_append (blank : ∀ c ∈ before, isBlank c = true) :
    (before ++ cs).dropWhile isBlank = cs.dropWhile isBlank := by
  induction before with
  | nil => rfl
  | cons c before ih =>
    have hc : isBlank c = true := blank c (List.mem_cons_self ..)
    rw [List.cons_append, List.dropWhile_cons_of_pos hc]
    exact ih fun c hc => blank c (List.mem_cons_of_mem _ hc)

private theorem dropWhile_inked_append (inked : ∀ c ∈ core, isBlank c = false) (ne : core ≠ []) :
    (core ++ cs).dropWhile isBlank = core ++ cs := by
  cases core with
  | nil => exact absurd rfl ne
  | cons c core =>
    have hc : ¬ isBlank c = true := by simp [inked c (List.mem_cons_self ..)]
    rw [List.cons_append, List.dropWhile_cons_of_neg hc]

/-- Blanks around a text do not count. -/
private theorem trim_surrounded (blank : ∀ c ∈ before ++ after, isBlank c = true)
    (inked : ∀ c ∈ core, isBlank c = false) (ne : core ≠ []) :
    trim (before ++ core ++ after) = core := by
  have hbefore : ∀ c ∈ before, isBlank c = true := fun c hc => blank c (List.mem_append_left _ hc)
  have hafter : ∀ c ∈ after.reverse, isBlank c = true := by
    intro c hc
    exact blank c (List.mem_append_right _ (List.mem_reverse.1 hc))
  have hcore : ∀ c ∈ core.reverse, isBlank c = false := by
    intro c hc
    exact inked c (List.mem_reverse.1 hc)
  have stays : core.reverse.dropWhile isBlank = core.reverse := by
    have h : (core.reverse ++ []).dropWhile isBlank = core.reverse ++ [] :=
      dropWhile_inked_append hcore (by simpa using ne)
    rwa [List.append_nil] at h
  rw [trim, List.append_assoc, dropWhile_blanks_append hbefore, dropWhile_inked_append inked ne,
    List.reverse_append, dropWhile_blanks_append hafter, stays, List.reverse_reverse]

private theorem exists_surrounding (cs : List Char) : ∃ before after,
    cs = before ++ trim cs ++ after ∧ ∀ c ∈ before ++ after, isBlank c = true := by
  let rest := cs.dropWhile isBlank
  have front : cs.takeWhile isBlank ++ rest = cs := List.takeWhile_append_dropWhile ..
  have back : trim cs ++ (rest.reverse.takeWhile isBlank).reverse = rest := by
    rw [trim, ← List.reverse_append, List.takeWhile_append_dropWhile, List.reverse_reverse]
  refine ⟨cs.takeWhile isBlank, (rest.reverse.takeWhile isBlank).reverse, ?_, ?_⟩
  · rw [List.append_assoc, back, front]
  · intro c hc
    rcases List.mem_append.1 hc with hc | hc
    · exact List.mem_takeWhile_imp hc
    · exact List.mem_takeWhile_imp (List.mem_reverse.1 hc)

end Text

namespace Config

/-- A variable says what its bytes spell in UTF-8, and nothing if they spell no text. -/
theorem texts_eq_some_iff {vars : Variables} {name text : String} :
    vars.texts name = some text ↔ vars name = some text.toUTF8 := by
  unfold Variables.texts
  cases vars name with
  | none => simp
  | some bytes =>
    simp only [Option.bind_some, Option.some.injEq, String.fromUTF8?]
    constructor
    · intro h
      split at h
      · cases h
        rfl
      · cases h
    · rintro rfl
      have valid : text.toUTF8.IsValidUTF8 := text.isValidUTF8
      rw [dif_pos valid]
      rfl

/-- A text is one of the words, in any case and with any blanks around it. -/
def Spells (words : List String) (text : String) : Prop :=
  ∃ word ∈ words, ∃ before core after, text.toList = before ++ core ++ after ∧
    (∀ c ∈ before ++ after, Text.isBlank c = true) ∧ core.map Char.toLower = word.toList

theorem spells_iff {words : List String}
    (inked : ∀ word ∈ words, word ≠ "" ∧ word.toList.any Text.isBlank = false)
    {text : String} :
    Spells words text ↔ String.ofList ((Text.trim text.toList).map Char.toLower) ∈ words := by
  constructor
  · rintro ⟨word, hword, before, core, after, htext, blank, hcore⟩
    obtain ⟨ne, hinked⟩ := inked word hword
    have core_inked : ∀ c ∈ core, Text.isBlank c = false := by
      intro c hc
      rw [← Text.isBlank_toLower]
      have lower : c.toLower ∈ word.toList := hcore ▸ List.mem_map_of_mem hc
      simpa using List.any_eq_false.1 hinked _ lower
    have core_ne : core ≠ [] := by
      rintro rfl
      exact ne (String.toList_eq_nil_iff.1 hcore.symm)
    rw [htext, Text.trim_surrounded blank core_inked core_ne, hcore, String.ofList_toList]
    exact hword
  · intro hword
    obtain ⟨before, after, htext, blank⟩ := Text.exists_surrounding text.toList
    exact ⟨_, hword, before, _, after, htext, blank, (String.toList_ofList ..).symm⟩

private theorem readFlag_eq (text : String) : readFlag text =
    let word := String.ofList ((Text.trim text.toList).map Char.toLower)
    if word ∈ ["1", "true", "yes", "on"] then .ok true
    else if word ∈ ["0", "false", "no", "off"] then .ok false
    else .error word := by
  simp only [readFlag, List.contains_iff_mem]

theorem readFlag_true_iff {text : String} :
    readFlag text = .ok true ↔ Spells ["1", "true", "yes", "on"] text := by
  rw [spells_iff (by decide), readFlag_eq]
  dsimp only
  split
  case isTrue h => simp only [h]
  case isFalse h => split <;> simp [h]

theorem readFlag_false_iff {text : String} :
    readFlag text = .ok false ↔ Spells ["0", "false", "no", "off"] text := by
  rw [spells_iff (by decide), readFlag_eq]
  dsimp only
  split
  case isTrue h =>
    have apart : ∀ word ∈ ["1", "true", "yes", "on"], word ∉ ["0", "false", "no", "off"] := by
      decide
    simp [apart _ h]
  case isFalse => split <;> simp [*]

theorem readFlag_error_iff {text : String} : (∃ word, readFlag text = .error word) ↔
    ¬ Spells ["1", "true", "yes", "on"] text ∧ ¬ Spells ["0", "false", "no", "off"] text := by
  rw [← readFlag_true_iff, ← readFlag_false_iff]
  rcases readFlag text with word | (_ | _) <;> simp

/-- A text is a number in decimal digits, with or without a plus sign. -/
def Numeral (text : String) (n : Nat) : Prop :=
  ∃ digits, (text.toList = digits ∨ text.toList = '+' :: digits) ∧ digits ≠ [] ∧
    (∀ c ∈ digits, c.isDigit = true) ∧ Nat.ofDigitChars 10 digits 0 = n

private theorem le_ofDigitChars (cs : List Char) (n : Nat) : n ≤ Nat.ofDigitChars 10 cs n := by
  induction cs generalizing n with
  | nil => exact Nat.le_refl n
  | cons c cs ih =>
    rw [Nat.ofDigitChars_cons]
    have later := ih (10 * n + (c.toNat - '0'.toNat))
    omega

private theorem readDigits_ok_iff {cs : List Char} {n m : Nat} (fits : n < Nat.pow 2 64) :
    readDigits n cs = .ok m ↔
      (∀ c ∈ cs, c.isDigit = true) ∧ Nat.ofDigitChars 10 cs n = m ∧ m < Nat.pow 2 64 := by
  induction cs generalizing n with
  | nil =>
    simp only [readDigits, Except.ok.injEq, List.not_mem_nil, false_implies, implies_true,
      Nat.ofDigitChars_nil, true_and]
    constructor
    · rintro rfl
      exact ⟨rfl, fits⟩
    · exact And.left
  | cons c cs ih =>
    rw [readDigits, Nat.ofDigitChars_cons, List.forall_mem_cons, Nat.mul_comm 10 n]
    generalize n * 10 + (c.toNat - '0'.toNat) = next
    cases digit : c.isDigit with
    | false => simp
    | true =>
      have step : (if next < Nat.pow 2 64 then readDigits next cs else .error .tooLarge) = .ok m ↔
          (∀ c ∈ cs, c.isDigit = true) ∧ Nat.ofDigitChars 10 cs next = m ∧ m < Nat.pow 2 64 := by
        split
        case isTrue small => exact ih small
        case isFalse large =>
          have grown := le_ofDigitChars cs next
          refine ⟨nofun, ?_⟩
          rintro ⟨-, rfl, fits⟩
          exact absurd (Nat.lt_of_le_of_lt grown fits) large
      simpa using step

/-- A number is read if it is one and fits in 64 bits. -/
theorem readNumber_ok_iff {text : String} {n : Nat} :
    readNumber text = .ok n ↔ Numeral text n ∧ n < Nat.pow 2 64 := by
  have read {cs : List Char} : readDigits 0 cs = .ok n ↔
      (∀ c ∈ cs, c.isDigit = true) ∧ Nat.ofDigitChars 10 cs 0 = n ∧ n < Nat.pow 2 64 :=
    readDigits_ok_iff (by decide)
  have plus_first {cs : List Char} : ¬ ∀ c ∈ '+' :: cs, c.isDigit = true := by
    intro digits
    exact absurd (digits '+' (List.mem_cons_self ..)) (by decide)
  unfold readNumber Numeral
  split
  case h_1 empty => simp [empty]
  case h_2 plus => simp [plus]
  case h_3 rest more plus =>
    rw [read]
    constructor
    · rintro ⟨digits, value, fits⟩
      exact ⟨⟨rest, .inr plus, more, digits, value⟩, fits⟩
    · rintro ⟨⟨digits, htext | htext, -, all, value⟩, fits⟩
      · rw [← htext, plus] at all
        exact absurd all plus_first
      · obtain rfl : rest = digits := (List.cons.inj (plus.symm.trans htext)).2
        exact ⟨all, value, fits⟩
  case h_4 nonempty _ no_plus =>
    rw [read]
    constructor
    · rintro ⟨digits, value, fits⟩
      exact ⟨⟨_, .inl rfl, nonempty, digits, value⟩, fits⟩
    · rintro ⟨⟨digits, htext | htext, -, all, value⟩, fits⟩
      · obtain rfl := htext
        exact ⟨all, value, fits⟩
      · exact absurd htext (no_plus digits)

end Config

end GrantGate
