import Loyalty.Proofs.DateForms
import Loyalty.Requirement.Compact
import Mathlib.Data.List.Forall2

/-!
# Compact forms

The grammar of the compact form of requirements. A form has five parts with semicolons between
them: an item, a numeral, a flag and two days, with blanks around any of them. A text that is no
form has a first fault, in the order number of parts, numeral, type, flag, first day, last day,
order of the days. A form is read as its requirement and any other text is refused for its first
fault.
-/

namespace Loyalty

namespace Text

/-- A word, each of its letters small or capital. -/
def InAnyCase (word cs : List Char) : Prop :=
  List.Forall₂ (fun small c => c = small ∨ c = small.toUpper) word cs

theorem toLower_eq_iff {small c : Char} (hsmall : small.isLower = true) :
    c.toLower = small ↔ c = small ∨ c = small.toUpper := by
  delta Char.isLower at hsmall
  delta Char.toLower Char.toUpper
  rw [Bool.and_eq_true, decide_eq_true_eq, decide_eq_true_eq] at hsmall
  rw [dif_pos hsmall]
  -- What is left is about the numbers of the two characters.
  split <;> simp only [Char.ext_iff] <;> grind

theorem inAnyCase_iff {word cs : List Char} (hword : ∀ small ∈ word, small.isLower = true) :
    InAnyCase word cs ↔ cs.map Char.toLower = word := by
  unfold InAnyCase
  induction cs generalizing word with
  | nil => cases word <;> simp
  | cons c cs ih =>
    cases word with
    | nil => simp
    | cons small word =>
      rw [List.forall_mem_cons] at hword
      rw [List.map_cons, List.cons.injEq, List.forall₂_cons, toLower_eq_iff hword.1, ih hword.2]

end Text

namespace Requirement

open Text

section Flags

variable {flag : Bool} {cs : List Char}

def flagWord : Bool → List Char
  | true => ['t', 'r', 'u', 'e']
  | false => ['f', 'a', 'l', 's', 'e']

def Spells (flag : Bool) (cs : List Char) : Prop := InAnyCase (flagWord flag) cs

theorem spells_iff : Spells flag cs ↔ cs.map Char.toLower = flagWord flag :=
  inAnyCase_iff (by cases flag <;> simp [flagWord])

end Flags

section Readers

variable {field item : List Char} {code amount : Amount}

theorem readAmountField_of_numeral (h : Numeral (trim field) amount.toInt) :
    readAmountField field = .ok amount := by
  rw [readAmountField, readAmount_eq_ok_iff.2 h]

theorem readAmountField_eq_error (h : ∀ a : Amount, ¬ Numeral (trim field) a.toInt) :
    readAmountField field = .error (.invalidAmount (String.ofList field)) := by
  unfold readAmountField
  split
  · rename_i a hread
    exact absurd (readAmount_eq_ok_iff.1 hread) (h a)
  · rfl

theorem goalOf_eq_error (h : code ≠ 0 ∧ code ≠ 1) :
    goalOf code item amount = .error (.unknownType code) := by
  rw [goalOf, if_neg h.1, if_neg h.2]

theorem readFlag_of_spells {flag : Bool} (h : Spells flag (trim field)) :
    readFlag field = .ok flag := by
  rw [spells_iff] at h
  cases flag <;> simp [readFlag, h, flagWord]

theorem readFlag_eq_error (h : ∀ flag, ¬ Spells flag (trim field)) :
    readFlag field = .error (.invalidFlag (String.ofList field)) := by
  have htrue : (trim field).map Char.toLower ≠ flagWord true := mt spells_iff.2 (h true)
  have hfalse : (trim field).map Char.toLower ≠ flagWord false := mt spells_iff.2 (h false)
  exact (if_neg htrue).trans (if_neg hfalse)

variable {whichEnd : WindowEnd}

theorem readEnd_of_form {d : Date} (h : Date.Form (trim field) d) :
    readEnd whichEnd field = .ok d := by
  rw [readEnd, h.readTight]

theorem readEnd_eq_error (h : ∀ d, ¬ Date.Form (trim field) d) :
    readEnd whichEnd field = .error (.invalidDate whichEnd (String.ofList field)) := by
  unfold readEnd
  split
  · rename_i d hread
    exact absurd (Date.readTight_trim_iff.1 hread) (h d)
  · rfl

end Readers

structure Parts where
  item : List Char
  amount : List Char
  flag : List Char
  first : List Char
  last : List Char

namespace Parts

variable {p : Parts} {value : String} {code : Amount} {r : Requirement} {fault : CompactFault}

/-- A text consists of the parts, with semicolons between them and none within. -/
structure Makes (p : Parts) (value : String) : Prop where
  text : value.toList =
    p.item ++ ';' :: (p.amount ++ ';' :: (p.flag ++ ';' :: (p.first ++ ';' :: p.last)))
  item : ';' ∉ p.item
  amount : ';' ∉ p.amount
  flag : ';' ∉ p.flag
  first : ';' ∉ p.first
  last : ';' ∉ p.last

theorem makes_iff :
    p.Makes value ↔ fields ';' value.toList = [p.item, p.amount, p.flag, p.first, p.last] := by
  have hjoined : [';'].intercalate [p.item, p.amount, p.flag, p.first, p.last] =
      p.item ++ ';' :: (p.amount ++ ';' :: (p.flag ++ ';' :: (p.first ++ ';' :: p.last))) := by
    simp [List.intercalate]
  rw [fields_eq_iff, hjoined]
  simp only [List.forall_mem_cons]
  constructor
  · rintro ⟨htext, hitem, hamount, hflag, hfirst, hlast⟩
    exact ⟨List.cons_ne_nil _ _, htext.symm, hitem, hamount, hflag, hfirst, hlast, nofun⟩
  · rintro ⟨-, htext, hitem, hamount, hflag, hfirst, hlast, -⟩
    exact ⟨htext.symm, hitem, hamount, hflag, hfirst, hlast⟩

/-- A text has five parts exactly when it has four semicolons. -/
theorem exists_makes_iff : (∃ p : Parts, p.Makes value) ↔ value.toList.count ';' = 4 := by
  have hlength := length_fields ';' value.toList
  constructor
  · rintro ⟨p, hp⟩
    rw [makes_iff.1 hp] at hlength
    exact (Nat.succ.inj hlength).symm
  · intro hcount
    rw [hcount] at hlength
    rcases hfields : fields ';' value.toList with
      _ | ⟨item, _ | ⟨amount, _ | ⟨flag, _ | ⟨first, _ | ⟨last, _ | ⟨extra, more⟩⟩⟩⟩⟩⟩ <;>
      simp [hfields] at hlength
    exact ⟨⟨item, amount, flag, first, last⟩, makes_iff.2 hfields⟩

inductive Names (p : Parts) : Amount → Goal → Prop
  | purchase (quantity : Amount) : Names p 0 (.purchase (String.ofList (trim p.item)) quantity)
  | visit (times : Amount) : Names p 1 (.visit times)

/-- The last three parts give a validity. Under a set flag the two days may be anything. -/
inductive Gives (p : Parts) : Validity → Prop
  | indefinite (hflag : Spells true (trim p.flag)) : Gives p .indefinite
  | window {w : DateWindow} (hflag : Spells false (trim p.flag))
      (hfirst : Date.Form (trim p.first) w.opens) (hlast : Date.Form (trim p.last) w.closes) :
      Gives p (.window w)

structure Denote (p : Parts) (code : Amount) (r : Requirement) : Prop where
  amount : Numeral (trim p.amount) r.target.toInt
  goal : p.Names code r.goal
  validity : p.Gives r.validity

/-- The first fault of parts that denote no requirement. -/
inductive FirstFault (p : Parts) (code : Amount) : CompactFault → Prop
  | amount (h : ∀ a : Amount, ¬ Numeral (trim p.amount) a.toInt) :
      FirstFault p code (.invalidAmount (String.ofList p.amount))
  | type {a : Amount} (hamount : Numeral (trim p.amount) a.toInt) (h : code ≠ 0 ∧ code ≠ 1) :
      FirstFault p code (.unknownType code)
  | flag {a : Amount} (hamount : Numeral (trim p.amount) a.toInt) (hcode : code = 0 ∨ code = 1)
      (h : ∀ flag, ¬ Spells flag (trim p.flag)) :
      FirstFault p code (.invalidFlag (String.ofList p.flag))
  | first {a : Amount} (hamount : Numeral (trim p.amount) a.toInt) (hcode : code = 0 ∨ code = 1)
      (hflag : Spells false (trim p.flag)) (h : ∀ d, ¬ Date.Form (trim p.first) d) :
      FirstFault p code (.invalidDate .first (String.ofList p.first))
  | last {a : Amount} {opens : Date} (hamount : Numeral (trim p.amount) a.toInt)
      (hcode : code = 0 ∨ code = 1) (hflag : Spells false (trim p.flag))
      (hfirst : Date.Form (trim p.first) opens) (h : ∀ d, ¬ Date.Form (trim p.last) d) :
      FirstFault p code (.invalidDate .last (String.ofList p.last))
  | order {a : Amount} {opens closes : Date} (hamount : Numeral (trim p.amount) a.toInt)
      (hcode : code = 0 ∨ code = 1) (hflag : Spells false (trim p.flag))
      (hfirst : Date.Form (trim p.first) opens) (hlast : Date.Form (trim p.last) closes)
      (h : closes < opens) : FirstFault p code .invertedWindow

theorem exists_goal {a : Amount} (hamount : Numeral (trim p.amount) a.toInt)
    (hcode : code = 0 ∨ code = 1) :
    ∃ goal : Goal, Numeral (trim p.amount) goal.target.toInt ∧ p.Names code goal := by
  rcases hcode with rfl | rfl
  · exact ⟨.purchase _ a, hamount, .purchase a⟩
  · exact ⟨.visit a, hamount, .visit a⟩

/-- Parts that denote no requirement have a first fault. -/
theorem denote_or_firstFault (p : Parts) (code : Amount) :
    (∃ r, p.Denote code r) ∨ ∃ fault, p.FirstFault code fault := by
  by_cases hamount : ∀ a : Amount, ¬ Numeral (trim p.amount) a.toInt
  · exact Or.inr ⟨_, .amount hamount⟩
  obtain ⟨a, hamount⟩ := not_forall_not.1 hamount
  by_cases htype : code ≠ 0 ∧ code ≠ 1
  · exact Or.inr ⟨_, .type hamount htype⟩
  have hcode : code = 0 ∨ code = 1 := by
    rwa [← not_or, not_not] at htype
  obtain ⟨goal, hnumeral, hgoal⟩ := exists_goal hamount hcode
  by_cases hflag : ∀ flag, ¬ Spells flag (trim p.flag)
  · exact Or.inr ⟨_, .flag hamount hcode hflag⟩
  obtain ⟨flag, hflag⟩ := not_forall_not.1 hflag
  cases flag with
  | true => exact Or.inl ⟨⟨goal, .indefinite⟩, hnumeral, hgoal, .indefinite hflag⟩
  | false =>
    by_cases hfirst : ∀ d, ¬ Date.Form (trim p.first) d
    · exact Or.inr ⟨_, .first hamount hcode hflag hfirst⟩
    obtain ⟨opens, hfirst⟩ := not_forall_not.1 hfirst
    by_cases hlast : ∀ d, ¬ Date.Form (trim p.last) d
    · exact Or.inr ⟨_, .last hamount hcode hflag hfirst hlast⟩
    obtain ⟨closes, hlast⟩ := not_forall_not.1 hlast
    by_cases horder : closes < opens
    · exact Or.inr ⟨_, .order hamount hcode hflag hfirst hlast horder⟩
    have hordered : opens ≤ closes := Int.not_lt.1 horder
    exact Or.inl ⟨⟨goal, .window ⟨opens, closes, hordered⟩⟩, hnumeral, hgoal,
      .window hflag hfirst hlast⟩

end Parts

section Reading

variable {p : Parts} {value : String} {code : Amount} {r : Requirement} {fault : CompactFault}

theorem ofCompact_of_makes (h : p.Makes value) : ofCompact code value = (do
    let amount ← readAmountField p.amount
    let goal ← goalOf code p.item amount
    let indefinite ← readFlag p.flag
    let validity ← readValidity indefinite p.first p.last
    .ok ⟨goal, validity⟩) := by
  rw [ofCompact, Parts.makes_iff.1 h]

theorem goalOf_of_names {goal : Goal} (h : p.Names code goal) :
    goalOf code p.item goal.target = .ok goal := by
  cases h <;> rfl

/-- Once the amount and the type are read, the last three parts decide. -/
theorem ofCompact_of_names {goal : Goal} (hmakes : p.Makes value)
    (hamount : Numeral (trim p.amount) goal.target.toInt) (hgoal : p.Names code goal) :
    ofCompact code value = (do
      let indefinite ← readFlag p.flag
      let validity ← readValidity indefinite p.first p.last
      .ok ⟨goal, validity⟩) := by
  rw [ofCompact_of_makes hmakes, readAmountField_of_numeral hamount]
  simp only [bind, Except.bind, goalOf_of_names hgoal]

theorem readValidity_false (first last : List Char) : readValidity false first last = (do
    let opens ← readEnd .first first
    let closes ← readEnd .last last
    match DateWindow.ofDates? opens closes with
    | some w => .ok (.window w)
    | none => .error .invertedWindow) := rfl

theorem readValidity_of_gives {validity : Validity} (h : p.Gives validity) :
    ∃ flag, readFlag p.flag = .ok flag ∧ readValidity flag p.first p.last = .ok validity := by
  cases h with
  | indefinite hflag => exact ⟨true, readFlag_of_spells hflag, rfl⟩
  | window hflag hfirst hlast =>
    refine ⟨false, readFlag_of_spells hflag, ?_⟩
    simp only [readValidity_false, readEnd_of_form hfirst, readEnd_of_form hlast, bind,
      Except.bind, DateWindow.ofDates?_eta]

/-- What the parts denote is what is read. -/
theorem ofCompact_of_denote (hmakes : p.Makes value) (h : p.Denote code r) :
    ofCompact code value = .ok r := by
  obtain ⟨flag, hflag, hvalidity⟩ := readValidity_of_gives h.validity
  rw [ofCompact_of_names hmakes h.amount h.goal, hflag]
  simp only [bind, Except.bind, hvalidity]

/-- The first fault of the parts is what a text is refused for. -/
theorem ofCompact_of_firstFault (hmakes : p.Makes value) (h : p.FirstFault code fault) :
    ofCompact code value = .error fault := by
  cases h with
  | amount h =>
    rw [ofCompact_of_makes hmakes, readAmountField_eq_error h]
    rfl
  | type hamount h =>
    rw [ofCompact_of_makes hmakes, readAmountField_of_numeral hamount]
    simp only [bind, Except.bind, goalOf_eq_error h]
  | flag hamount hcode h =>
    obtain ⟨goal, hamount, hgoal⟩ := Parts.exists_goal hamount hcode
    rw [ofCompact_of_names hmakes hamount hgoal, readFlag_eq_error h]
    rfl
  | first hamount hcode hflag h =>
    obtain ⟨goal, hamount, hgoal⟩ := Parts.exists_goal hamount hcode
    rw [ofCompact_of_names hmakes hamount hgoal, readFlag_of_spells hflag]
    simp only [bind, Except.bind, readValidity_false, readEnd_eq_error h]
  | last hamount hcode hflag hfirst h =>
    obtain ⟨goal, hamount, hgoal⟩ := Parts.exists_goal hamount hcode
    rw [ofCompact_of_names hmakes hamount hgoal, readFlag_of_spells hflag]
    simp only [bind, Except.bind, readValidity_false, readEnd_of_form hfirst, readEnd_eq_error h]
  | order hamount hcode hflag hfirst hlast h =>
    obtain ⟨goal, hamount, hgoal⟩ := Parts.exists_goal hamount hcode
    rw [ofCompact_of_names hmakes hamount hgoal, readFlag_of_spells hflag]
    simp only [bind, Except.bind, readValidity_false, readEnd_of_form hfirst,
      readEnd_of_form hlast, DateWindow.ofDates?_eq_none_iff.2 h]

/-- A text with other than four semicolons has too few or too many parts. -/
theorem ofCompact_of_count (h : value.toList.count ';' ≠ 4) :
    ofCompact code value = .error (.fieldCount (value.toList.count ';' + 1)) := by
  unfold ofCompact
  split
  · rename_i item amount flag first last hfields
    exact absurd (Parts.exists_makes_iff.1 ⟨⟨item, amount, flag, first, last⟩,
      Parts.makes_iff.2 hfields⟩) h
  · rw [length_fields]

end Reading

def Accepts (code : Amount) (value : String) (r : Requirement) : Prop :=
  ∃ p : Parts, p.Makes value ∧ p.Denote code r

inductive Refuses (code : Amount) (value : String) : CompactFault → Prop
  | count (h : value.toList.count ';' ≠ 4) :
      Refuses code value (.fieldCount (value.toList.count ';' + 1))
  | part {p : Parts} {fault : CompactFault} (hmakes : p.Makes value)
      (h : p.FirstFault code fault) : Refuses code value fault

theorem accepts_or_refuses (code : Amount) (value : String) :
    (∃ r, Accepts code value r) ∨ ∃ fault, Refuses code value fault := by
  by_cases hcount : value.toList.count ';' = 4
  · obtain ⟨p, hmakes⟩ := Parts.exists_makes_iff.2 hcount
    rcases p.denote_or_firstFault code with ⟨r, hr⟩ | ⟨fault, hfault⟩
    · exact Or.inl ⟨r, p, hmakes, hr⟩
    · exact Or.inr ⟨fault, .part hmakes hfault⟩
  · exact Or.inr ⟨_, .count hcount⟩

theorem ofCompact_of_accepts {code : Amount} {value : String} {r : Requirement}
    (h : Accepts code value r) : ofCompact code value = .ok r := by
  obtain ⟨p, hmakes, hdenote⟩ := h
  exact ofCompact_of_denote hmakes hdenote

theorem ofCompact_of_refuses {code : Amount} {value : String} {fault : CompactFault}
    (h : Refuses code value fault) : ofCompact code value = .error fault := by
  cases h with
  | count hcount => exact ofCompact_of_count hcount
  | part hmakes hfault => exact ofCompact_of_firstFault hmakes hfault

theorem accepts_of_eq_ok {code : Amount} {value : String} {r : Requirement}
    (h : ofCompact code value = .ok r) : Accepts code value r := by
  rcases accepts_or_refuses code value with ⟨r', haccepts⟩ | ⟨fault, hrefuses⟩
  · cases h.symm.trans (ofCompact_of_accepts haccepts)
    exact haccepts
  · cases h.symm.trans (ofCompact_of_refuses hrefuses)

theorem refuses_of_eq_error {code : Amount} {value : String} {fault : CompactFault}
    (h : ofCompact code value = .error fault) : Refuses code value fault := by
  rcases accepts_or_refuses code value with ⟨r, haccepts⟩ | ⟨fault', hrefuses⟩
  · cases h.symm.trans (ofCompact_of_accepts haccepts)
  · cases h.symm.trans (ofCompact_of_refuses hrefuses)
    exact hrefuses

/-- Exactly the compact forms of a requirement are read as it, and every other text is refused for
its first fault. -/
theorem compact_grammar (code : Amount) (value : String) :
    (∀ r, ofCompact code value = .ok r ↔ Accepts code value r) ∧
    ∀ fault, ofCompact code value = .error fault ↔ Refuses code value fault :=
  ⟨fun _ => ⟨accepts_of_eq_ok, ofCompact_of_accepts⟩,
    fun _ => ⟨refuses_of_eq_error, ofCompact_of_refuses⟩⟩

/-- The amount is the first fault of a text that has four. -/
example : ofCompact 7 "Ramen; five ;maybe;;" = .error (.invalidAmount " five ") := by decide

end Requirement

end Loyalty
