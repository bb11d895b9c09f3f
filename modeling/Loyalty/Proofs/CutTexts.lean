import Loyalty.Text.Blank
import Loyalty.Text.Fields
import Mathlib.Data.List.DropRight

/-!
# Trimmed and cut texts

A trimmed text has no blank at either end, and such a text is left alone by trimming. The fields of
a text hold no separator, and with separators between them they are the text again; no other texts
are cut like that.
-/

namespace Loyalty.Text

/-- Neither end is blank. -/
structure Trimmed (cs : List Char) : Prop where
  first : ∀ c, cs.head? = some c → isBlank c = false
  last : ∀ c, cs.getLast? = some c → isBlank c = false

section Trim

variable {cs : List Char}

theorem trim_eq_rdropWhile (cs : List Char) :
    trim cs = (skipBlanks cs).rdropWhile isBlank := rfl

theorem skipBlanks_eq_self (h : ∀ c, cs.head? = some c → isBlank c = false) :
    skipBlanks cs = cs := by
  cases cs with
  | nil => rfl
  | cons c cs => exact skipBlanks_cons_of_not_blank (h c rfl) cs

theorem trimmed_nil : Trimmed [] := by
  constructor <;> rintro c ⟨⟩

theorem trim_of_trimmed (h : Trimmed cs) : trim cs = cs := by
  rw [trim_eq_rdropWhile, skipBlanks_eq_self h.first, List.rdropWhile_eq_self_iff]
  intro hne
  rw [h.last _ (List.getLast?_eq_some_getLast hne)]
  exact Bool.false_ne_true

theorem trimmed_trim (cs : List Char) : Trimmed (trim cs) := by
  rw [trim_eq_rdropWhile]
  constructor
  · intro c hc
    -- What is cut off at the end leaves the first character in its place.
    obtain ⟨rest, hrest⟩ := List.rdropWhile_prefix isBlank (skipBlanks cs)
    have hskipped := List.head?_dropWhile_not isBlank cs
    rw [← skipBlanks, ← hrest, List.head?_append, hc] at hskipped
    exact hskipped
  · intro c hc
    have hne : (skipBlanks cs).rdropWhile isBlank ≠ [] := by
      intro hnil
      rw [hnil] at hc
      cases hc
    rw [List.getLast?_eq_some_getLast hne] at hc
    rw [← Option.some.inj hc]
    exact Bool.eq_false_iff.2 (List.rdropWhile_last_not isBlank _ hne)

theorem trim_eq_self_iff : trim cs = cs ↔ Trimmed cs :=
  ⟨fun h => h ▸ trimmed_trim cs, trim_of_trimmed⟩

theorem skipBlanks_trim (cs : List Char) : skipBlanks (trim cs) = trim cs :=
  skipBlanks_eq_self (trimmed_trim cs).first

theorem mem_of_mem_trim {c : Char} (h : c ∈ trim cs) : c ∈ cs := by
  rw [trim_eq_rdropWhile] at h
  exact (List.dropWhile_suffix isBlank).mem ((List.rdropWhile_prefix isBlank _).mem h)

end Trim

section Fields

variable {separator : Char} {cs part : List Char} {parts : List (List Char)}

/-- The fields are those of the library's cut. -/
theorem fields_eq_splitOn (separator : Char) (cs : List Char) :
    fields separator cs = cs.splitOn separator := by
  induction cs with
  | nil => exact (List.splitOn_nil separator).symm
  | cons c cs ih =>
    rw [List.splitOn_cons_eq_if_modifyHead, ← ih]
    by_cases hc : c = separator
    · rw [hc, fields_separator, if_pos (beq_self_eq_true separator)]
    · rw [fields_cons_of_ne hc, if_neg (by rwa [beq_iff_eq])]
      cases hfields : fields separator cs with
      | nil => exact absurd (ih.symm.trans hfields) (List.splitOn_ne_nil separator cs)
      | cons first rest => rfl

theorem fields_ne_nil (separator : Char) (cs : List Char) : fields separator cs ≠ [] := by
  rw [fields_eq_splitOn]
  exact List.splitOn_ne_nil separator cs

theorem not_mem_of_mem_fields (h : part ∈ fields separator cs) : separator ∉ part := by
  induction cs generalizing part with
  | nil =>
    rw [List.mem_singleton.1 h]
    exact List.not_mem_nil
  | cons c cs ih =>
    by_cases hc : c = separator
    · rw [hc, fields_separator] at h
      rcases List.mem_cons.1 h with rfl | h
      · exact List.not_mem_nil
      · exact ih h
    · rw [fields_cons_of_ne hc] at h
      cases hfields : fields separator cs with
      | nil => exact absurd hfields (fields_ne_nil separator cs)
      | cons first rest =>
        rw [hfields] at h ih
        rcases List.mem_cons.1 h with rfl | h
        · intro hmem
          rcases List.mem_cons.1 hmem with heq | hmem
          · exact hc heq.symm
          · exact ih List.mem_cons_self hmem
        · exact ih (List.mem_cons_of_mem _ h)

/-- A text has given fields exactly when it is made of them. -/
theorem fields_eq_iff : fields separator cs = parts ↔
    parts ≠ [] ∧ [separator].intercalate parts = cs ∧ ∀ part ∈ parts, separator ∉ part := by
  constructor
  · rintro rfl
    refine ⟨fields_ne_nil separator cs, ?_, fun part => not_mem_of_mem_fields⟩
    rw [fields_eq_splitOn, List.intercalate_splitOn]
  · rintro ⟨hne, rfl, hparts⟩
    rw [fields_eq_splitOn, List.splitOn_intercalate separator hparts hne]

end Fields

end Loyalty.Text
