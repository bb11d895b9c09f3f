import Loyalty.Json.Requirement
import Loyalty.Proofs.WrittenDates

/-!
# Requirements are read back from JSON

What is written for a validity, for a goal and for a requirement is read as the same again.
-/

namespace Loyalty

namespace Json

@[simp] theorem readDate_toJson (d : Date) : readDate d.toJson = .ok d := by
  simp [readDate, Date.toJson]

variable {α : Type} {reader : Reader α}

theorem member?_cons_self {name : String} {j : Json} {a : α} (members : List (String × Json))
    (h : reader j = .ok a) : member? ((name, j) :: members) name reader = .ok (some a) := by
  rw [member?, List.lookup_cons_self]
  exact congrArg (Except.map some) h

theorem member?_cons_of_ne {name other : String} {j : Json} (members : List (String × Json))
    (h : name ≠ other) :
    member? ((other, j) :: members) name reader = member? members name reader := by
  rw [member?, List.lookup_cons, beq_false_of_ne h]
  rfl

theorem readTagged_cons {form : TagForm} {tag name : String} {names : List String}
    {members : List (String × Json)} (hname : names.contains name = true)
    (hothers : ∀ m ∈ members, m.1 ≠ tag) :
    readTagged form tag names (.object ((tag, .string name) :: members)) =
      .ok (name, .object members) := by
  have hmember : member? ((tag, .string name) :: members) tag (readTag form names) =
      .ok (some name) := member?_cons_self members (by rw [readTag, if_pos hname])
  have hrest : ((tag, .string name) :: members).filter (fun m => m.1 != tag) = members := by
    rw [List.filter_cons_of_neg (by simp), List.filter_eq_self]
    exact fun m hm => bne_iff_ne.2 (hothers m hm)
  rw [readTagged, hmember, hrest]
  rfl

end Json

theorem DateWindow.ofJson_toJson (w : DateWindow) : DateWindow.ofJson w.toJson = .ok w := by
  have hopens : Json.member? w.members "begin" Json.readDate = .ok (some w.opens) :=
    Json.member?_cons_self _ (Json.readDate_toJson w.opens)
  have hcloses : Json.member? w.members "end" Json.readDate = .ok (some w.closes) := by
    rw [members, Json.member?_cons_of_ne _ (by decide)]
    exact Json.member?_cons_self _ (Json.readDate_toJson w.closes)
  change ofMembers w.members = _
  rw [ofMembers, hopens, hcloses]
  change ordered w.opens w.closes = _
  rw [ordered, ofDates?_eta]
  rfl

theorem Validity.ofTagged_toJson (form : Json.TagForm) (v : Validity) :
    ofTagged form v.toJson = .ok v := by
  cases v with
  | indefinite =>
    rw [ofTagged, toJson, Json.readTagged_cons (by decide) (by simp)]
    rfl
  | window w =>
    rw [ofTagged, toJson, Json.readTagged_cons (by decide) (by simp [DateWindow.members])]
    change (DateWindow.ofJson w.toJson >>= fun w => .ok (Validity.window w)) = _
    rw [DateWindow.ofJson_toJson]
    rfl

theorem Goal.ofTagged_toJson (form : Json.TagForm) (g : Goal) : ofTagged form g.toJson = .ok g := by
  cases g with
  | purchase item quantity =>
    rw [ofTagged, toJson, Json.readTagged_cons (by decide) (by simp)]
    change purchaseOfMembers [("item", .string item), ("quantity", Json.ofAmount quantity)] = _
    have hitem : Json.readString (.string item) = .ok item := rfl
    rw [purchaseOfMembers, Json.member?_cons_self _ hitem, Json.member?_cons_of_ne _ (by decide),
      Json.member?_cons_self _ (Json.readAmount_ofAmount quantity)]
    rfl
  | visit times =>
    rw [ofTagged, toJson, Json.readTagged_cons (by decide) (by simp)]
    change visitOfMembers [("times", Json.ofAmount times)] = _
    rw [visitOfMembers, Json.member?_cons_self _ (Json.readAmount_ofAmount times)]
    rfl

@[simp] theorem Requirement.ofTagged_toJson (form : Json.TagForm) (r : Requirement) :
    ofTagged form r.toJson = .ok r := by
  change ofMembers form [("goal", r.goal.toJson), ("validity", r.validity.toJson)] = _
  rw [ofMembers, Json.member?_cons_self _ (r.goal.ofTagged_toJson form),
    Json.member?_cons_of_ne _ (by decide),
    Json.member?_cons_self _ (r.validity.ofTagged_toJson form)]
  rfl

@[simp] theorem Requirement.ofJson_toJson (r : Requirement) : ofJson r.toJson = .ok r :=
  r.ofTagged_toJson .named

end Loyalty
