import Loyalty.Calendar.Written

/-!
# Written dates are read back

A number that is filled up with zeros is read back where the digits end. So every date is read back
from its text, whatever its year, and whether or not blanks may stand after a number.
-/

namespace Loyalty

namespace Text

theorem valueOf_eq (ds : List Char) : valueOf ds = Nat.ofDigitChars 10 ds 0 := by
  rw [valueOf, Nat.ofDigitChars_eq_foldl]
  congr 1
  funext n c
  rw [Nat.mul_comm]
  rfl

theorem valueOf_padded (width n : Nat) : valueOf (padded width n) = n := by
  rw [valueOf_eq, padded, Nat.ofDigitChars_append, Nat.ofDigitChars_replicate_zero, Nat.mul_zero]
  exact Nat.ofDigitChars_ten_toDigits

theorem isDigit_of_mem_padded {width n : Nat} {c : Char} (h : c ∈ padded width n) :
    c.isDigit = true := by
  rcases List.mem_append.1 h with h | h
  · rw [List.eq_of_mem_replicate h]
    decide
  · exact Nat.isDigit_of_mem_toDigits (by decide) (by decide) h

theorem padded_ne_nil (width n : Nat) : padded width n ≠ [] :=
  List.append_ne_nil_of_right_ne_nil _ Nat.toDigits_ne_nil

theorem length_padded {width n : Nat} (hlength : (digits n).length ≤ width) :
    (padded width n).length = width := by
  rw [padded, List.length_append, List.length_replicate]
  omega

def NoDigit (cs : List Char) : Prop := ∀ c, cs.head? = some c → c.isDigit = false

theorem readNumber_append {width : Nat} {ds rest : List Char}
    (hdigits : ∀ c ∈ ds, c.isDigit = true) (hne : ds ≠ []) (hle : ds.length ≤ width)
    (hend : ds.length = width ∨ NoDigit rest) :
    readNumber width (ds ++ rest) = some (valueOf ds, rest) := by
  have htail : (rest.take (width - ds.length)).takeWhile Char.isDigit = [] := by
    rcases hend with hfull | hrest
    · rw [hfull, Nat.sub_self]
      rfl
    · cases rest with
      | nil => simp
      | cons c rest =>
        cases width - ds.length with
        | zero => rfl
        | succ k => simp [hrest c rfl]
  have hspan : ((ds ++ rest).take width).takeWhile Char.isDigit = ds := by
    rw [List.take_append, List.take_of_length_le hle, List.takeWhile_append_of_pos hdigits, htail,
      List.append_nil]
  cases ds with
  | nil => exact absurd rfl hne
  | cons d ds =>
    rw [readNumber, hspan]
    simp

theorem noDigit_dash (rest : List Char) : NoDigit ('-' :: rest) := by
  rintro c ⟨⟩
  decide

theorem isBlank_of_isDigit {c : Char} (h : c.isDigit = true) : isBlank c = false := by
  have hlow : 48 ≤ c.toNat := by
    simp only [Char.isDigit, Bool.and_eq_true, decide_eq_true_eq] at h
    exact h.1
  have hhigh : c.toNat ≤ 57 := by
    simp only [Char.isDigit, Bool.and_eq_true, decide_eq_true_eq] at h
    exact h.2
  simp [isBlank]
  omega

/-- A padded number starts with a digit. -/
theorem exists_padded_eq_cons (width n : Nat) :
    ∃ c cs, padded width n = c :: cs ∧ c.isDigit = true := by
  cases hp : padded width n with
  | nil => exact absurd hp (padded_ne_nil width n)
  | cons c cs =>
    have hc : c ∈ padded width n := by
      rw [hp]
      exact List.mem_cons_self
    exact ⟨c, cs, rfl, isDigit_of_mem_padded hc⟩

theorem skipBlanks_padded (width n : Nat) (rest : List Char) :
    skipBlanks (padded width n ++ rest) = padded width n ++ rest := by
  obtain ⟨c, cs, hp, hc⟩ := exists_padded_eq_cons width n
  rw [hp]
  exact skipBlanks_cons_of_not_blank (isBlank_of_isDigit hc) _

/-- A padded number is read back, whether its width or the next character ends it. -/
theorem readNumber_padded {width limit n : Nat} {rest : List Char}
    (hle : (padded width n).length ≤ limit)
    (hend : (padded width n).length = limit ∨ NoDigit rest) :
    readNumber limit (padded width n ++ rest) = some (n, rest) := by
  rw [readNumber_append (fun c => isDigit_of_mem_padded) (padded_ne_nil width n) hle hend,
    valueOf_padded]

end Text

namespace Date

open Text

theorem readYear_of_unsigned {cs : List Char} (h : ∀ c, cs.head? = some c → c.isDigit = true) :
    readYear cs = (readNumber 4 cs).map fun (n, rest) => ((n : Int), rest) := by
  unfold readYear
  split
  · cases h '-' rfl
  · cases h '+' rfl
  · rfl

theorem readYear_yearText (year : Int) (rest : List Char) :
    readYear (yearText year ++ '-' :: rest) = some (year, '-' :: rest) := by
  unfold yearText
  have hsigned : ∀ n : Nat, readNumber (padded 4 n ++ '-' :: rest).length
      (padded 4 n ++ '-' :: rest) = some (n, '-' :: rest) := by
    intro n
    refine readNumber_padded ?_ (Or.inr (noDigit_dash rest))
    rw [List.length_append]
    omega
  split
  · rename_i hrange
    have hlength : (padded 4 year.toNat).length = 4 :=
      length_padded ((Nat.length_toDigits_le_iff (by decide) (by decide)).2 (by omega))
    rw [readYear_of_unsigned, readNumber_padded (Nat.le_of_eq hlength) (Or.inl hlength)]
    · simp only [Option.map_some, Option.some.injEq, Prod.mk.injEq, and_true]
      omega
    · intro c hc
      obtain ⟨d, ds, hp, hd⟩ := exists_padded_eq_cons 4 year.toNat
      rw [hp] at hc
      cases hc
      exact hd
  · split
    · rename_i hnegative
      rw [List.cons_append, readYear, hsigned, Option.map_some]
      simp only [Option.some.injEq, Prod.mk.injEq, and_true]
      omega
    · rename_i hpositive
      rw [List.cons_append, readYear, hsigned, Option.map_some]
      simp only [Option.some.injEq, Prod.mk.injEq, and_true]
      omega

theorem skipBlanks_yearText (year : Int) (rest : List Char) :
    skipBlanks (yearText year ++ rest) = yearText year ++ rest := by
  unfold yearText
  split
  · exact skipBlanks_padded 4 _ rest
  · split <;> exact skipBlanks_cons_of_not_blank (by decide) _

theorem readNumber_two {n : Nat} (hn : n < 100) (rest : List Char) :
    readNumber 2 (padded 2 n ++ rest) = some (n, rest) :=
  have hlength := length_padded ((Nat.length_toDigits_le_iff (by decide) (by decide)).2 hn)
  readNumber_padded (Nat.le_of_eq hlength) (Or.inl hlength)

/-- A date is read back from its text by any reader that removes nothing else than blanks. -/
theorem readWith_chars {gap : List Char → List Char}
    (hdash : ∀ rest, gap ('-' :: rest) = '-' :: rest) (hnil : gap [] = []) (d : Date) :
    readWith gap d.chars = some d := by
  obtain ⟨_, _, _, hmonth, _, hday⟩ := d.isDay
  have hdays := daysIn_le d.year d.month
  have hread : readNumber 2 (padded 2 d.day) = some (d.day, []) := by
    have hread := readNumber_two (show d.day < 100 by omega) []
    rwa [List.append_nil] at hread
  have hskip : skipBlanks (padded 2 d.day) = padded 2 d.day := by
    have hskip := skipBlanks_padded 2 d.day []
    rwa [List.append_nil] at hskip
  simp only [readWith, chars, List.append_assoc, List.cons_append, skipBlanks_yearText,
    readYear_yearText, Option.bind_eq_bind, Option.bind_some, hdash, readChar, if_true,
    skipBlanks_padded, readNumber_two (show d.month < 100 by omega), hskip, hread, hnil,
    List.isEmpty_nil, ofParts?_eta]

@[simp] theorem readLoose_text (d : Date) : readLoose d.text.toList = some d := by
  rw [text, String.toList_ofList]
  exact readWith_chars (fun rest => skipBlanks_cons_of_not_blank (by decide) rest) rfl d

end Date

end Loyalty
