import Loyalty.Proofs.Numerals

/-!
# Forms of dates

A date is given by its year, month and day with hyphens between them. The year has at most four
digits unless it carries a sign, the month and the day have one or two, and blanks may stand before
these. A date is read from exactly its forms, the one that is written among them.
-/

namespace Loyalty

namespace Text

variable {width n : Nat} {cs rest : List Char}

theorem exists_of_readNumber (h : readNumber width cs = some (n, rest)) :
    ∃ ds, IsNumber ds ∧ ds.length ≤ width ∧ cs = ds ++ rest ∧ Nat.ofDigitChars 10 ds 0 = n := by
  unfold readNumber at h
  split at h
  · cases h
  · rename_i d ds hspan
    have hspan' : (cs.take width).takeWhile Char.isDigit <+: cs.take width :=
      List.takeWhile_prefix _
    rw [hspan] at hspan'
    obtain ⟨tail, htail⟩ := hspan'.trans (List.take_prefix width cs)
    cases h
    refine ⟨d :: ds, ⟨fun c hc => ?_, List.cons_ne_nil d ds⟩, ?_, ?_, (valueOf_eq _).symm⟩
    · rw [← hspan] at hc
      exact List.mem_takeWhile_imp hc
    · exact hspan'.length_le.trans (List.length_take_le width cs)
    · rw [← htail, ← List.length_cons (a := d), List.drop_left]

theorem eq_of_readChar {c : Char} (h : readChar c cs = some rest) : cs = c :: rest := by
  cases cs with
  | nil => cases h
  | cons x cs =>
    rw [readChar] at h
    split at h
    · rename_i hx
      cases h
      rw [hx]
    · cases h

/-- Blanks, and then one or two digits. -/
def ShortForm (cs : List Char) (n : Nat) : Prop :=
  ∃ blanks ds, cs = blanks ++ ds ∧ (∀ c ∈ blanks, isBlank c = true) ∧ IsNumber ds ∧
    ds.length ≤ 2 ∧ Nat.ofDigitChars 10 ds 0 = n

namespace ShortForm

theorem of_readNumber (h : readNumber 2 (skipBlanks cs) = some (n, rest)) :
    ∃ short, cs = short ++ rest ∧ ShortForm short n := by
  obtain ⟨ds, hds, hlength, hskipped, hvalue⟩ := exists_of_readNumber h
  refine ⟨cs.takeWhile isBlank ++ ds, ?_, _, ds, rfl, ?_, hds, hlength, hvalue⟩
  · rw [List.append_assoc, ← hskipped, skipBlanks, List.takeWhile_append_dropWhile]
  · exact fun c hc => List.mem_takeWhile_imp hc

theorem readNumber_append (h : ShortForm cs n) (hrest : NoDigit rest) :
    readNumber 2 (skipBlanks (cs ++ rest)) = some (n, rest) := by
  obtain ⟨blanks, ds, rfl, hblanks, hds, hlength, rfl⟩ := h
  have hskip : skipBlanks (blanks ++ ds ++ rest) = ds ++ rest := by
    obtain ⟨d, tail, rfl, hd⟩ := hds.head
    rw [List.append_assoc, skipBlanks, List.dropWhile_append_of_pos hblanks]
    exact skipBlanks_cons_of_not_blank (isBlank_of_isDigit hd) _
  rw [hskip, Text.readNumber_append hds.digits hds.ne_nil hlength (Or.inr hrest), valueOf_eq]

theorem last (h : ShortForm cs n) (c : Char) (hc : cs.getLast? = some c) : isBlank c = false := by
  obtain ⟨blanks, ds, rfl, -, hds, -, -⟩ := h
  rw [List.getLast?_append_of_ne_nil _ hds.ne_nil] at hc
  exact hds.trimmed.last c hc

theorem ne_nil (h : ShortForm cs n) : cs ≠ [] := by
  obtain ⟨blanks, ds, rfl, -, hds, -, -⟩ := h
  exact List.append_ne_nil_of_right_ne_nil _ hds.ne_nil

theorem not_mem {c : Char} (h : ShortForm cs n) (hdigit : c.isDigit = false)
    (hblank : isBlank c = false) : c ∉ cs := by
  obtain ⟨blanks, ds, rfl, hblanks, hds, -, -⟩ := h
  intro hc
  rcases List.mem_append.1 hc with hc | hc
  · exact Bool.false_ne_true (hblank.symm.trans (hblanks c hc))
  · exact Bool.false_ne_true (hdigit.symm.trans (hds.digits c hc))

end ShortForm

/-- A numeral of at most four digits, unless it carries a sign. -/
structure YearForm (cs : List Char) (year : Int) : Prop where
  numeral : Numeral cs year
  short : (∀ c ∈ cs, c.isDigit = true) → cs.length ≤ 4

end Text

namespace Date

open Text

def Form (cs : List Char) (d : Date) : Prop :=
  ∃ year month day, cs = year ++ '-' :: (month ++ '-' :: day) ∧ YearForm year d.year ∧
    ShortForm month d.month ∧ ShortForm day d.day

variable {cs rest : List Char} {year : Int} {d : Date}

theorem exists_of_readYear (h : readYear cs = some (year, rest)) :
    ∃ ys, cs = ys ++ rest ∧ YearForm ys year := by
  unfold readYear at h
  split at h
  · obtain ⟨⟨n, tail⟩, hread, heq⟩ := Option.map_eq_some_iff.1 h
    cases heq
    obtain ⟨ds, hds, -, rfl, rfl⟩ := exists_of_readNumber hread
    refine ⟨'-' :: ds, rfl, .minus hds, fun hdigits => ?_⟩
    cases hdigits '-' List.mem_cons_self
  · obtain ⟨⟨n, tail⟩, hread, heq⟩ := Option.map_eq_some_iff.1 h
    cases heq
    obtain ⟨ds, hds, -, rfl, rfl⟩ := exists_of_readNumber hread
    refine ⟨'+' :: ds, rfl, .plus hds, fun hdigits => ?_⟩
    cases hdigits '+' List.mem_cons_self
  · obtain ⟨⟨n, tail⟩, hread, heq⟩ := Option.map_eq_some_iff.1 h
    cases heq
    obtain ⟨ds, hds, hlength, rfl, rfl⟩ := exists_of_readNumber hread
    exact ⟨ds, rfl, .unsigned hds, fun _ => hlength⟩

theorem readYear_append (h : YearForm cs year) (hrest : NoDigit rest) :
    readYear (cs ++ rest) = some (year, rest) := by
  have hsigned : ∀ ds : List Char, IsNumber ds →
      readNumber (ds ++ rest).length (ds ++ rest) = some (Nat.ofDigitChars 10 ds 0, rest) := by
    intro ds hds
    have hle : ds.length ≤ (ds ++ rest).length := by
      rw [List.length_append]
      omega
    rw [Text.readNumber_append hds.digits hds.ne_nil hle (Or.inr hrest), valueOf_eq]
  obtain ⟨hnumeral, hshort⟩ := h
  cases hnumeral with
  | unsigned hds =>
    have hhead : ∀ c, (cs ++ rest).head? = some c → c.isDigit = true := by
      obtain ⟨d, tail, rfl, hd⟩ := hds.head
      rintro c ⟨⟩
      exact hd
    rw [readYear_of_unsigned hhead, Text.readNumber_append hds.digits hds.ne_nil
      (hshort hds.digits) (Or.inr hrest), valueOf_eq]
    rfl
  | plus hds | minus hds =>
    rw [List.cons_append, readYear, hsigned _ hds]
    rfl

theorem ofParts?_eq_some_iff {month day : Nat} :
    ofParts? year month day = some d ↔ d.year = year ∧ d.month = month ∧ d.day = day := by
  constructor
  · intro h
    unfold ofParts? at h
    split at h
    · cases h
      exact ⟨rfl, rfl, rfl⟩
    · cases h
  · rintro ⟨rfl, rfl, rfl⟩
    exact ofParts?_eta d

/-- What is read as a date is a form of it once the blanks before it are gone. -/
theorem form_of_readTight (h : readTight cs = some d) : Form (skipBlanks cs) d := by
  simp only [readTight, readWith, Option.bind_eq_bind, Option.bind_eq_some_iff, id] at h
  obtain ⟨⟨year, afterYear⟩, hyear, beforeMonth, hdash, ⟨month, afterMonth⟩, hmonth, beforeDay,
    hdash', ⟨day, afterDay⟩, hday, hparts⟩ := h
  obtain ⟨yearText, hcs, hyearForm⟩ := exists_of_readYear hyear
  obtain ⟨monthText, rfl, hmonthForm⟩ := ShortForm.of_readNumber hmonth
  obtain ⟨dayText, rfl, hdayForm⟩ := ShortForm.of_readNumber hday
  have hend : afterDay = [] := by
    by_contra hne
    rw [if_neg (by rwa [List.isEmpty_iff])] at hparts
    cases hparts
  subst hend
  obtain ⟨rfl, rfl, rfl⟩ := ofParts?_eq_some_iff.1 hparts
  have hafterYear : afterYear = _ := eq_of_readChar hdash
  have hafterMonth : afterMonth = _ := eq_of_readChar hdash'
  refine ⟨yearText, monthText, dayText, ?_, hyearForm, hmonthForm, hdayForm⟩
  rw [hcs, hafterYear, hafterMonth, List.append_nil]

namespace Form

theorem trimmed (h : Form cs d) : Trimmed cs := by
  obtain ⟨year, month, day, rfl, hyear, -, hday⟩ := h
  constructor
  · intro c hc
    rw [List.head?_append] at hc
    cases hhead : year.head? with
    | none =>
      rw [hhead] at hc
      cases hc
      decide
    | some x =>
      rw [hhead] at hc
      cases hc
      exact hyear.numeral.trimmed.first c hhead
  · intro c hc
    have hcut : year ++ '-' :: (month ++ '-' :: day) =
        (year ++ '-' :: month ++ ['-']) ++ day := by
      simp
    rw [hcut, List.getLast?_append_of_ne_nil _ hday.ne_nil] at hc
    exact hday.last c hc

theorem not_mem {c : Char} (h : Form cs d) (hdigit : c.isDigit = false) (hplus : c ≠ '+')
    (hminus : c ≠ '-') (hblank : isBlank c = false) : c ∉ cs := by
  obtain ⟨year, month, day, rfl, hyear, hmonth, hday⟩ := h
  have hyear' := hyear.numeral.not_mem hdigit hplus hminus
  have hmonth' := hmonth.not_mem hdigit hblank
  have hday' := hday.not_mem hdigit hblank
  simp [hyear', hmonth', hday', hminus]

theorem readTight (h : Form cs d) : readTight cs = some d := by
  have hskip := skipBlanks_eq_self h.trimmed.first
  obtain ⟨year, month, day, rfl, hyear, hmonth, hday⟩ := h
  have hread : readNumber 2 (skipBlanks day) = some (d.day, []) := by
    have hend : NoDigit [] := nofun
    have hread := hday.readNumber_append hend
    rwa [List.append_nil] at hread
  simp only [Date.readTight, readWith, hskip, readYear_append hyear (noDigit_dash _),
    hmonth.readNumber_append (noDigit_dash _), hread, Option.bind_eq_bind, Option.bind_some, id,
    readChar, if_true, List.isEmpty_nil, ofParts?_eta]

end Form

/-- A trimmed text is read as a date exactly when it is a form of it. -/
theorem readTight_trim_iff : readTight (trim cs) = some d ↔ Form (trim cs) d := by
  refine ⟨fun h => ?_, Form.readTight⟩
  rw [← skipBlanks_trim]
  exact form_of_readTight h

/-- The text that is written for a date is one of its forms. -/
theorem form_chars (d : Date) : Form d.chars d := by
  have hform := form_of_readTight (readWith_chars (fun _ => rfl) rfl d)
  rwa [chars, List.append_assoc, skipBlanks_yearText, ← List.append_assoc, ← chars] at hform

end Date

end Loyalty
