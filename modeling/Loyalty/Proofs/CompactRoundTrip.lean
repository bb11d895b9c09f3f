import Loyalty.Proofs.CompactForms

/-!
# Compact forms are read back

What is written for a requirement is read as the same requirement, except that an item loses the
blanks around it, and that its semicolons are taken for the ends of parts. Whatever is read is
written in a form that is read as the same again.
-/

namespace Loyalty

open Text

def Goal.trimmed : Goal → Goal
  | .purchase item quantity => .purchase (String.ofList (trim item.toList)) quantity
  | .visit times => .visit times

theorem Goal.target_trimmed (goal : Goal) : goal.trimmed.target = goal.target := by
  cases goal <;> rfl

namespace Requirement

/-- Reads what is written for a requirement. -/
def reread (r : Requirement) : Except CompactFault Requirement :=
  ofCompact r.toCompact.1 r.toCompact.2

section Written

def flagText : Validity → List Char
  | .indefinite => ['T', 'r', 'u', 'e']
  | .window _ => ['F', 'a', 'l', 's', 'e']

def dayText (day : DateWindow → Date) : Validity → List Char
  | .indefinite => []
  | .window w => (day w).chars

def parts (r : Requirement) : Parts where
  item := itemField r.goal
  amount := ofInt r.target.toInt
  flag := flagText r.validity
  first := dayText DateWindow.opens r.validity
  last := dayText DateWindow.closes r.validity

theorem validityFields_eq (v : Validity) : validityFields v =
    flagText v ++ ';' :: (dayText DateWindow.opens v ++ ';' :: dayText DateWindow.closes v) := by
  cases v <;> rfl

theorem toList_toCompact (r : Requirement) : r.toCompact.2.toList =
    r.parts.item ++ ';' :: (r.parts.amount ++ ';' :: (r.parts.flag ++ ';' ::
      (r.parts.first ++ ';' :: r.parts.last))) := by
  rw [toCompact, String.toList_ofList, validityFields_eq]
  simp [parts]

theorem not_mem_amount (r : Requirement) : ';' ∉ r.parts.amount :=
  (numeral_ofInt _).not_mem (by decide) (by decide) (by decide)

theorem not_mem_flagText (v : Validity) : ';' ∉ flagText v := by
  cases v <;> simp [flagText]

theorem not_mem_dayText (day : DateWindow → Date) (v : Validity) : ';' ∉ dayText day v := by
  cases v with
  | indefinite => exact List.not_mem_nil
  | window w =>
    exact (Date.form_chars _).not_mem (by decide) (by decide) (by decide) (by decide)

theorem count_toCompact (r : Requirement) :
    r.toCompact.2.toList.count ';' = (itemField r.goal).count ';' + 4 := by
  have hamount := List.count_eq_zero.2 r.not_mem_amount
  have hflag : r.parts.flag.count ';' = 0 := List.count_eq_zero.2 (not_mem_flagText _)
  have hfirst : r.parts.first.count ';' = 0 := List.count_eq_zero.2 (not_mem_dayText _ _)
  have hlast : r.parts.last.count ';' = 0 := List.count_eq_zero.2 (not_mem_dayText _ _)
  simp only [toList_toCompact, List.count_append, List.count_cons_self, hamount, hflag, hfirst,
    hlast, Nat.zero_add]
  rfl

theorem makes_parts {r : Requirement} (h : ';' ∉ itemField r.goal) :
    r.parts.Makes r.toCompact.2 where
  text := r.toList_toCompact
  item := h
  amount := r.not_mem_amount
  flag := not_mem_flagText _
  first := not_mem_dayText _ _
  last := not_mem_dayText _ _

theorem denote_parts (r : Requirement) :
    r.parts.Denote r.toCompact.1 ⟨r.goal.trimmed, r.validity⟩ where
  amount := by
    have hnumeral := numeral_ofInt r.target.toInt
    rw [target, Goal.target_trimmed]
    exact (trim_of_trimmed hnumeral.trimmed).symm ▸ hnumeral
  goal := by
    obtain ⟨_ | _, _⟩ := r
    · exact .purchase _
    · exact .visit _
  validity := by
    obtain ⟨goal, _ | w⟩ := r
    · exact .indefinite (spells_iff.2 rfl)
    · have hdays : ∀ d : Date, Date.Form (trim d.chars) d := by
        intro d
        have hform := Date.form_chars d
        rwa [trim_of_trimmed hform.trimmed]
      exact .window (spells_iff.2 rfl) (hdays w.opens) (hdays w.closes)

end Written

theorem reread_of_not_mem {r : Requirement} (h : ';' ∉ itemField r.goal) :
    r.reread = .ok ⟨r.goal.trimmed, r.validity⟩ :=
  ofCompact_of_denote (makes_parts h) r.denote_parts

/-- Each semicolon of the item makes for a part too many. -/
theorem reread_of_mem {r : Requirement} (h : 0 < (itemField r.goal).count ';') :
    r.reread = .error (.fieldCount (5 + (itemField r.goal).count ';')) := by
  have hcount := r.count_toCompact
  rw [reread, ofCompact_of_count (by omega), hcount]
  congr 2
  omega

theorem goal_trimmed_eq_iff {goal : Goal} : goal.trimmed = goal ↔ Trimmed (itemField goal) := by
  cases goal with
  | purchase item quantity =>
    rw [Goal.trimmed, Goal.purchase.injEq, ← String.toList_inj, String.toList_ofList,
      trim_eq_self_iff, itemField]
    exact and_iff_left rfl
  | visit times => exact iff_of_true rfl trimmed_nil

theorem reread_eq_ok_iff {r : Requirement} :
    r.reread = .ok r ↔ ';' ∉ itemField r.goal ∧ Trimmed (itemField r.goal) := by
  rw [← goal_trimmed_eq_iff]
  by_cases h : ';' ∈ itemField r.goal
  · rw [reread_of_mem (List.count_pos_iff.2 h)]
    exact iff_of_false nofun fun hplain => hplain.1 h
  · obtain ⟨goal, validity⟩ := r
    rw [reread_of_not_mem h, Except.ok.injEq, Requirement.mk.injEq]
    exact ⟨fun heq => ⟨h, heq.1⟩, fun hplain => ⟨hplain.2, rfl⟩⟩

theorem plain_of_accepts {code : Amount} {value : String} {r : Requirement}
    (h : Accepts code value r) :
    r.goal.typeCode = code ∧ ';' ∉ itemField r.goal ∧ Trimmed (itemField r.goal) := by
  obtain ⟨p, hmakes, hdenote⟩ := h
  have hgoal := hdenote.goal
  generalize r.goal = goal at hgoal
  cases hgoal with
  | purchase quantity =>
    rw [itemField, String.toList_ofList]
    exact ⟨rfl, fun hmem => hmakes.item (mem_of_mem_trim hmem), trimmed_trim p.item⟩
  | visit times => exact ⟨rfl, List.not_mem_nil, trimmed_nil⟩

/-- Visits come back as they are, and purchases exactly when their item has neither a semicolon
nor a blank at either end. Blanks around an item are lost, and semicolons in it are counted as
further parts. What is read of any text comes back as it is, under the same type code. -/
theorem compact_round_trip :
    (∀ times validity, reread ⟨.visit times, validity⟩ = .ok ⟨.visit times, validity⟩) ∧
    (∀ item quantity validity,
      (reread ⟨.purchase item quantity, validity⟩ = .ok ⟨.purchase item quantity, validity⟩ ↔
        ';' ∉ item.toList ∧ Trimmed item.toList) ∧
      (';' ∉ item.toList → reread ⟨.purchase item quantity, validity⟩ =
        .ok ⟨.purchase (String.ofList (trim item.toList)) quantity, validity⟩) ∧
      ∀ m, 1 ≤ m → item.toList.count ';' = m →
        reread ⟨.purchase item quantity, validity⟩ = .error (.fieldCount (5 + m))) ∧
    ∀ code value r, ofCompact code value = .ok r → r.toCompact.1 = code ∧ r.reread = .ok r := by
  refine ⟨fun times validity => reread_of_not_mem List.not_mem_nil,
    fun item quantity validity => ⟨reread_eq_ok_iff, fun h => reread_of_not_mem h, ?_⟩,
    fun code value r hread => ?_⟩
  · rintro m hm rfl
    exact reread_of_mem hm
  · obtain ⟨hcode, hplain⟩ := plain_of_accepts (accepts_of_eq_ok hread)
    exact ⟨hcode, reread_eq_ok_iff.2 hplain⟩

def longWindow : DateWindow :=
  ⟨⟨-5, 1, 2, by decide⟩, ⟨12020, 6, 7, by decide⟩, by decide⟩

/-- A text that is read although hardly anything in it is as it would be written, and two items that
do not come back as they are. -/
theorem ramen_round_trip :
    (ofCompact 0 " Ramen ;+05; falSE ; -5-1- 2;+012020-06-7" =
        .ok ⟨.purchase "Ramen" 5, .window longWindow⟩ ∧
      reread ⟨.purchase "Ramen" 5, .window longWindow⟩ =
        .ok ⟨.purchase "Ramen" 5, .window longWindow⟩) ∧
    (';' ∉ " Ramen ".toList ∧
      reread ⟨.purchase " Ramen " 5, .indefinite⟩ = .ok ⟨.purchase "Ramen" 5, .indefinite⟩) ∧
    (" ;Ramen; ".toList.count ';' = 2 ∧
      reread ⟨.purchase " ;Ramen; " 5, .indefinite⟩ = .error (.fieldCount 7)) := by
  obtain ⟨-, hpurchase, hread⟩ := compact_round_trip
  have hcompact : ofCompact 0 " Ramen ;+05; falSE ; -5-1- 2;+012020-06-7" =
      .ok ⟨.purchase "Ramen" 5, .window longWindow⟩ := by decide
  have hblanks : ';' ∉ " Ramen ".toList := by decide
  have hcount : " ;Ramen; ".toList.count ';' = 2 := by decide
  exact ⟨⟨hcompact, (hread _ _ _ hcompact).2⟩, ⟨hblanks, (hpurchase _ 5 .indefinite).2.1 hblanks⟩,
    hcount, (hpurchase _ 5 .indefinite).2.2 2 (by decide) hcount⟩

end Requirement

end Loyalty
