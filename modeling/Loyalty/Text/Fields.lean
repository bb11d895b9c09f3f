/-!
# Fields

Texts that are cut at every occurrence of a separator. A field may be empty, and there is one field
more than there are separators.
-/

namespace Loyalty.Text

def extendFirst (c : Char) : List (List Char) → List (List Char)
  | [] => [[c]]
  | part :: parts => (c :: part) :: parts

/-- The parts of a text between the occurrences of a character. -/
def fields (separator : Char) (cs : List Char) : List (List Char) :=
  cs.foldr (fun c parts => if c = separator then [] :: parts else extendFirst c parts) [[]]

theorem fields_separator (separator : Char) (cs : List Char) :
    fields separator (separator :: cs) = [] :: fields separator cs := by
  simp [fields]

theorem fields_cons_of_ne {separator c : Char} (h : c ≠ separator) (cs : List Char) :
    fields separator (c :: cs) = extendFirst c (fields separator cs) := by
  simp [fields, h]

theorem length_extendFirst {c : Char} {parts : List (List Char)} (h : 0 < parts.length) :
    (extendFirst c parts).length = parts.length := by
  cases parts with
  | nil => exact absurd h (Nat.lt_irrefl 0)
  | cons part parts => rfl

theorem length_fields (separator : Char) (cs : List Char) :
    (fields separator cs).length = cs.count separator + 1 := by
  induction cs with
  | nil => rfl
  | cons c cs ih =>
    by_cases h : c = separator
    · subst h
      rw [fields_separator, List.length_cons, ih, List.count_cons_self]
    · rw [fields_cons_of_ne h, length_extendFirst (by omega), ih, List.count_cons_of_ne h]

end Loyalty.Text
