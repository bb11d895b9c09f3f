import Loyalty.Proofs.RecordsJson

/-!
# Documents

The values that are exchanged in JSON. Each is read back from what is written for it. Whatever JSON
is read, a window of the result stands in it as two days, and these are in order: two days in the
wrong order are refused.
-/

namespace Loyalty

namespace Json

/-- One value stands somewhere in another. -/
inductive Part : Json → Json → Prop
  | whole (j : Json) : Part j j
  | member {part j : Json} {name : String} {members : List (String × Json)}
      (h : (name, j) ∈ members) (hpart : Part part j) : Part part (.object members)
  | item {part j : Json} {items : List Json} (h : j ∈ items) (hpart : Part part j) :
      Part part (.array items)

/-- Two days, as members of an object or as the items of a list after a tag. -/
inductive Days (opens closes : Date) : Json → Prop
  | members {members : List (String × Json)} {x y : Json}
      (hx : members.lookup "begin" = some x) (hopens : readDate x = .ok opens)
      (hy : members.lookup "end" = some y) (hcloses : readDate y = .ok closes) :
      Days opens closes (.object members)
  | tagged {tag x y : Json} (hopens : readDate x = .ok opens) (hcloses : readDate y = .ok closes) :
      Days opens closes (.array [tag, x, y])

/-- A window stands in a value as two days. -/
def Holds (j : Json) (w : DateWindow) : Prop := ∃ part, Part part j ∧ Days w.opens w.closes part

/-- The windows of what is read stand in what it is read from. -/
def Traces {α : Type} (reader : Reader α) (windows : α → List DateWindow) : Prop :=
  ∀ j a, reader j = .ok a → ∀ w ∈ windows a, j.Holds w

theorem exists_of_bind {α β : Type} {x : Except Unreadable α} {f : α → Except Unreadable β} {b : β}
    (h : (x >>= f) = .ok b) : ∃ a, x = .ok a ∧ f a = .ok b := by
  cases x with
  | error e => cases h
  | ok a => exact ⟨a, rfl, h⟩

variable {α : Type} {reader : Reader α} {windows : α → List DateWindow}
  {members : List (String × Json)} {items : List Json} {name tag : String} {a : α}

theorem eq_some_of_present {x : Option α} (h : present x = .ok a) : x = some a := by
  cases x with
  | none => cases h
  | some b =>
    cases h
    rfl

theorem exists_of_member? (h : member? members name reader = .ok (some a)) :
    ∃ j, members.lookup name = some j ∧ reader j = .ok a := by
  rw [member?] at h
  cases hlookup : members.lookup name with
  | none =>
    rw [hlookup] at h
    cases h
  | some j =>
    rw [hlookup] at h
    cases hread : reader j with
    | error e =>
      simp only [hread] at h
      cases h
    | ok b =>
      simp only [hread] at h
      cases h
      exact ⟨j, rfl, hread⟩

theorem item_cons {j : Json} (rest : List Json) (h : reader j = .ok a) :
    item reader (j :: rest) = .ok (a, rest) := by
  rw [item, h]
  rfl

theorem exists_of_item {β : Type} {f : α × List Json → Except Unreadable β} {b : β}
    (h : (item reader items >>= f) = .ok b) :
    ∃ j rest a, items = j :: rest ∧ reader j = .ok a ∧ f (a, rest) = .ok b := by
  obtain ⟨⟨a, rest⟩, hitem, hf⟩ := exists_of_bind h
  cases items with
  | nil => cases hitem
  | cons j items =>
    rw [item] at hitem
    cases hread : reader j with
    | error e =>
      rw [hread] at hitem
      cases hitem
    | ok a' =>
      rw [hread] at hitem
      cases hitem
      exact ⟨j, rest, a, rfl, hread, hf⟩

theorem eq_nil_of_noMore {u : Unit} (h : noMore items = .ok u) : items = [] := by
  cases items with
  | nil => rfl
  | cons j items => cases h

theorem mem_of_lookup {j : Json} (h : members.lookup name = some j) : (name, j) ∈ members := by
  induction members with
  | nil => cases h
  | cons m members ih =>
    obtain ⟨other, j'⟩ := m
    rw [List.lookup_cons] at h
    cases hname : name == other with
    | true =>
      rw [hname] at h
      cases h
      rw [eq_of_beq hname]
      exact List.mem_cons_self
    | false =>
      rw [hname] at h
      exact List.mem_cons_of_mem _ (ih h)

/-- Taking a tag away hides no other member. -/
theorem lookup_filter_of_ne (hname : name ≠ tag) :
    (members.filter fun m => m.1 != tag).lookup name = members.lookup name := by
  induction members with
  | nil => rfl
  | cons m members ih =>
    obtain ⟨other, j⟩ := m
    rw [List.lookup_cons]
    by_cases hother : other = tag
    · rw [List.filter_cons_of_neg (by simp [hother]), ih, hother, beq_false_of_ne hname]
    · rw [List.filter_cons_of_pos (by simp [hother]), List.lookup_cons, ih]

theorem Traces.of_member (h : Traces reader windows)
    (hmember : member? members name reader = .ok (some a)) :
    ∀ w ∈ windows a, (object members).Holds w := by
  intro w hw
  obtain ⟨j, hlookup, hread⟩ := exists_of_member? hmember
  obtain ⟨part, hpart, hdays⟩ := h j a hread w hw
  exact ⟨part, .member (mem_of_lookup hlookup) hpart, hdays⟩

theorem Traces.of_mem (h : Traces reader windows) {j : Json} (hj : j ∈ items)
    (hread : reader j = .ok a) : ∀ w ∈ windows a, (array items).Holds w := by
  intro w hw
  obtain ⟨part, hpart, hdays⟩ := h j a hread w hw
  exact ⟨part, .item hj hpart, hdays⟩

end Json

namespace DateWindow

theorem of_ordered {opens closes : Date} {w : DateWindow} (h : ordered opens closes = .ok w) :
    w.opens = opens ∧ w.closes = closes := by
  unfold ordered ofDates? at h
  split at h
  · cases h
    exact ⟨rfl, rfl⟩
  · cases h

theorem exists_of_ofMembers {members : List (String × Json)} {w : DateWindow}
    (h : ofMembers members = .ok w) :
    ∃ x y, members.lookup "begin" = some x ∧ Json.readDate x = .ok w.opens ∧
      members.lookup "end" = some y ∧ Json.readDate y = .ok w.closes := by
  obtain ⟨_, hbegin, h⟩ := Json.exists_of_bind h
  obtain ⟨_, hend, h⟩ := Json.exists_of_bind h
  obtain ⟨opens, hopens, h⟩ := Json.exists_of_bind h
  obtain ⟨closes, hcloses, h⟩ := Json.exists_of_bind h
  obtain ⟨rfl, rfl⟩ := of_ordered h
  rw [Json.eq_some_of_present hopens] at hbegin
  rw [Json.eq_some_of_present hcloses] at hend
  obtain ⟨x, hx, hreadx⟩ := Json.exists_of_member? hbegin
  obtain ⟨y, hy, hready⟩ := Json.exists_of_member? hend
  exact ⟨x, y, hx, hreadx, hy, hready⟩

theorem exists_of_ofItems {items : List Json} {w : DateWindow} (h : ofItems items = .ok w) :
    ∃ x y, items = [x, y] ∧ Json.readDate x = .ok w.opens ∧ Json.readDate y = .ok w.closes := by
  obtain ⟨x, _, opens, rfl, hopens, h⟩ := Json.exists_of_item h
  obtain ⟨y, _, closes, rfl, hcloses, h⟩ := Json.exists_of_item h
  obtain ⟨_, hnil, h⟩ := Json.exists_of_bind h
  obtain ⟨rfl, rfl⟩ := of_ordered h
  rw [Json.eq_nil_of_noMore hnil]
  exact ⟨x, y, rfl, hopens, hcloses⟩

end DateWindow

namespace Validity

def windows : Validity → List DateWindow
  | .indefinite => []
  | .window w => [w]

/-- The tag of a window stands beside its days or before them. -/
theorem traces (form : Json.TagForm) : Json.Traces (ofTagged form) windows := by
  intro j v hv w hw
  obtain ⟨⟨kind, rest⟩, htag, h⟩ := Json.exists_of_bind hv
  dsimp only at h
  by_cases hkind : kind = "indefinite"
  · rw [if_pos hkind] at h
    obtain ⟨_, -, h⟩ := Json.exists_of_bind h
    cases h
    cases hw
  · rw [if_neg hkind] at h
    obtain ⟨w', hw', h⟩ := Json.exists_of_bind h
    cases h
    rw [windows, List.mem_singleton] at hw
    subst hw
    refine ⟨j, .whole j, ?_⟩
    cases j with
    | object members =>
      obtain ⟨_, -, htag⟩ := Json.exists_of_bind htag
      obtain ⟨_, -, htag⟩ := Json.exists_of_bind htag
      cases htag
      obtain ⟨x, y, hx, hopens, hy, hcloses⟩ := DateWindow.exists_of_ofMembers hw'
      rw [Json.lookup_filter_of_ne (by decide)] at hx hy
      exact .members hx hopens hy hcloses
    | array items =>
      obtain ⟨tag, _, _, rfl, -, htag⟩ := Json.exists_of_item htag
      cases htag
      obtain ⟨x, y, rfl, hopens, hcloses⟩ := DateWindow.exists_of_ofItems hw'
      exact .tagged hopens hcloses
    | _ => cases htag

/-- A window that closes before it opens is refused, and the two days are told. -/
theorem ofJson_inverted {j rest : Json} {opens closes : Date}
    (htag : Json.readTagged .named "kind" kinds j = .ok ("window", rest))
    (hdays : j.Days opens closes) (h : closes < opens) :
    ofJson j = .error (.inverted opens closes) := by
  have hordered : DateWindow.ordered opens closes = .error (.inverted opens closes) := by
    rw [DateWindow.ordered, DateWindow.ofDates?_eq_none_iff.2 h]
    rfl
  have hrest : DateWindow.ofJson rest = .error (.inverted opens closes) := by
    cases hdays with
    | @members members x y hx hopens hy hcloses =>
      obtain ⟨_, -, htag⟩ := Json.exists_of_bind htag
      obtain ⟨_, -, htag⟩ := Json.exists_of_bind htag
      cases htag
      rw [← Json.lookup_filter_of_ne (show "begin" ≠ "kind" by decide)] at hx
      rw [← Json.lookup_filter_of_ne (show "end" ≠ "kind" by decide)] at hy
      change DateWindow.ofMembers (members.filter fun m => m.1 != "kind") = _
      rw [DateWindow.ofMembers, Json.member?_of_lookup hx hopens, Json.member?_of_lookup hy hcloses]
      exact hordered
    | @tagged tag x y hopens hcloses =>
      obtain ⟨_, _, _, heq, -, htag⟩ := Json.exists_of_item htag
      cases heq
      cases htag
      change DateWindow.ofItems [x, y] = _
      rw [DateWindow.ofItems, Json.item_cons [y] hopens]
      dsimp only [bind, Except.bind]
      rw [Json.item_cons [] hcloses]
      exact hordered
  rw [ofJson, ofTagged, htag]
  change (DateWindow.ofJson rest >>= fun w => .ok (Validity.window w)) = _
  rw [hrest]
  rfl

end Validity

namespace Requirement

def windows (r : Requirement) : List DateWindow := r.validity.windows

theorem traces (form : Json.TagForm) : Json.Traces (ofTagged form) windows := by
  intro j r hr
  cases j with
  | object members =>
    obtain ⟨_, -, h⟩ := Json.exists_of_bind hr
    obtain ⟨_, hvalidity, h⟩ := Json.exists_of_bind h
    obtain ⟨_, -, h⟩ := Json.exists_of_bind h
    obtain ⟨validity, hpresent, h⟩ := Json.exists_of_bind h
    cases h
    rw [Json.eq_some_of_present hpresent] at hvalidity
    exact (Validity.traces form).of_member hvalidity
  | array items =>
    obtain ⟨_, _, _, rfl, -, h⟩ := Json.exists_of_item hr
    obtain ⟨j, _, validity, rfl, hread, h⟩ := Json.exists_of_item h
    obtain ⟨_, -, h⟩ := Json.exists_of_bind h
    cases h
    exact (Validity.traces form).of_mem (by simp) hread
  | _ => cases hr

end Requirement

namespace Coupon

def windows (c : Coupon) : List DateWindow := c.validity.windows

theorem holds_of_ofMembers {form : Json.TagForm} {members : List (String × Json)} {c : Coupon}
    (h : ofMembers form members = .ok c) : ∀ w ∈ c.windows, (Json.object members).Holds w := by
  -- seven members are looked up before the validity, and six are refused if absent before it
  iterate 7 obtain ⟨_, -, h⟩ := Json.exists_of_bind h
  obtain ⟨_, hvalidity, h⟩ := Json.exists_of_bind h
  iterate 6 obtain ⟨_, -, h⟩ := Json.exists_of_bind h
  obtain ⟨validity, hpresent, h⟩ := Json.exists_of_bind h
  obtain ⟨_, -, h⟩ := Json.exists_of_bind h
  cases h
  rw [Json.eq_some_of_present hpresent] at hvalidity
  exact (Validity.traces form).of_member hvalidity

theorem traces : Json.Traces ofJson windows := by
  intro j c hc
  cases j with
  | object members => exact holds_of_ofMembers hc
  | array items =>
    obtain ⟨_, _, _, rfl, -, h⟩ := Json.exists_of_item hc
    iterate 5 obtain ⟨_, _, _, rfl, -, h⟩ := Json.exists_of_item h
    obtain ⟨j, _, validity, rfl, hread, h⟩ := Json.exists_of_item h
    obtain ⟨_, _, _, rfl, -, h⟩ := Json.exists_of_item h
    obtain ⟨_, -, h⟩ := Json.exists_of_bind h
    cases h
    exact (Validity.traces .named).of_mem (by simp) hread
  | _ => cases hc

end Coupon

namespace CouponDetails

def windows (d : CouponDetails) : List DateWindow := d.coupon.windows

theorem traces : Json.Traces ofJson windows := by
  intro j d hd
  cases j with
  | object members =>
    obtain ⟨_, -, h⟩ := Json.exists_of_bind hd
    obtain ⟨_, -, h⟩ := Json.exists_of_bind h
    obtain ⟨coupon, hcoupon, h⟩ := Json.exists_of_bind h
    cases h
    exact Coupon.holds_of_ofMembers hcoupon
  | _ => cases hd

end CouponDetails

namespace Achievement

def windows (a : Achievement) : List DateWindow := a.requirement.windows

theorem holds_of_ofMembers {form : Json.TagForm} {members : List (String × Json)} {a : Achievement}
    (h : ofMembers form members = .ok a) : ∀ w ∈ a.windows, (Json.object members).Holds w := by
  -- four members are looked up before the requirement, and five are refused if absent before it
  iterate 4 obtain ⟨_, -, h⟩ := Json.exists_of_bind h
  obtain ⟨_, hrequirement, h⟩ := Json.exists_of_bind h
  iterate 6 obtain ⟨_, -, h⟩ := Json.exists_of_bind h
  obtain ⟨requirement, hpresent, h⟩ := Json.exists_of_bind h
  cases h
  rw [Json.eq_some_of_present hpresent] at hrequirement
  exact (Requirement.traces form).of_member hrequirement

theorem traces : Json.Traces ofJson windows := by
  intro j a ha
  cases j with
  | object members => exact holds_of_ofMembers ha
  | array items =>
    obtain ⟨_, _, _, rfl, -, h⟩ := Json.exists_of_item ha
    iterate 4 obtain ⟨_, _, _, rfl, -, h⟩ := Json.exists_of_item h
    obtain ⟨j, _, requirement, rfl, hread, h⟩ := Json.exists_of_item h
    obtain ⟨_, -, h⟩ := Json.exists_of_bind h
    cases h
    exact (Requirement.traces .named).of_mem (by simp) hread
  | _ => cases ha

end Achievement

namespace AchievementProgress

def windows (a : AchievementProgress) : List DateWindow := a.achievement.windows

theorem traces : Json.Traces ofJson windows := by
  intro j a ha
  cases j with
  | object members =>
    iterate 4 obtain ⟨_, -, ha⟩ := Json.exists_of_bind ha
    obtain ⟨achievement, hachievement, h⟩ := Json.exists_of_bind ha
    cases h
    exact Achievement.holds_of_ofMembers hachievement
  | _ => cases ha

end AchievementProgress

inductive DocumentKind where
  | validity
  | goal
  | requirement
  | coupon
  | couponDetails
  | achievement
  | achievementProgress
  | progress
  | reward
  | outcome
  | balance
  | restaurant
  | profile
  | userId
  | restaurantId
  | couponId
  | achievementId
  deriving DecidableEq, Repr

namespace DocumentKind

@[reducible] def Value : DocumentKind → Type
  | .validity => Validity
  | .goal => Goal
  | .requirement => Requirement
  | .coupon => Coupon
  | .couponDetails => CouponDetails
  | .achievement => Achievement
  | .achievementProgress => AchievementProgress
  | .progress => Progress
  | .reward => Reward
  | .outcome => Outcome
  | .balance => Balance
  | .restaurant => Restaurant
  | .profile => Profile
  | .userId => UserId
  | .restaurantId => RestaurantId
  | .couponId => CouponId
  | .achievementId => AchievementId

def write : (k : DocumentKind) → k.Value → Json
  | .validity => Validity.toJson
  | .goal => Goal.toJson
  | .requirement => Requirement.toJson
  | .coupon => Coupon.toJson
  | .couponDetails => CouponDetails.toJson
  | .achievement => Achievement.toJson
  | .achievementProgress => AchievementProgress.toJson
  | .progress => Progress.toJson
  | .reward => Reward.toJson
  | .outcome => Outcome.toJson
  | .balance => Balance.toJson
  | .restaurant => Restaurant.toJson
  | .profile => Profile.toJson
  | .userId => UserId.toJson
  | .restaurantId => RestaurantId.toJson
  | .couponId => CouponId.toJson
  | .achievementId => AchievementId.toJson

def read : (k : DocumentKind) → Json.Reader k.Value
  | .validity => Validity.ofJson
  | .goal => Goal.ofJson
  | .requirement => Requirement.ofJson
  | .coupon => Coupon.ofJson
  | .couponDetails => CouponDetails.ofJson
  | .achievement => Achievement.ofJson
  | .achievementProgress => AchievementProgress.ofJson
  | .progress => Progress.ofJson
  | .reward => Reward.ofJson
  | .outcome => Outcome.ofJson
  | .balance => Balance.ofJson
  | .restaurant => Restaurant.ofJson
  | .profile => Profile.ofJson
  | .userId => UserId.ofJson
  | .restaurantId => RestaurantId.ofJson
  | .couponId => CouponId.ofJson
  | .achievementId => AchievementId.ofJson

def windows : (k : DocumentKind) → k.Value → List DateWindow
  | .validity => Validity.windows
  | .requirement => Requirement.windows
  | .coupon => Coupon.windows
  | .couponDetails => CouponDetails.windows
  | .achievement => Achievement.windows
  | .achievementProgress => AchievementProgress.windows
  | _ => fun _ => []

theorem read_write (k : DocumentKind) (v : k.Value) : k.read (k.write v) = .ok v := by
  cases k with
  | validity => exact Validity.ofTagged_toJson .named v
  | goal => exact Goal.ofTagged_toJson .named v
  | requirement => exact Requirement.ofJson_toJson v
  | coupon => exact Coupon.ofJson_toJson v
  | couponDetails => exact CouponDetails.ofJson_toJson v
  | achievement => exact Achievement.ofJson_toJson v
  | achievementProgress => exact AchievementProgress.ofJson_toJson v
  | progress => exact Progress.ofJson_toJson v
  | reward => exact Reward.ofJson_toJson v
  | outcome => exact Outcome.ofJson_toJson v
  | balance => exact Balance.ofJson_toJson v
  | restaurant => exact Restaurant.ofJson_toJson v
  | profile => exact Profile.ofJson_toJson v
  | userId => exact UserId.ofJson_toJson v
  | restaurantId => exact RestaurantId.ofJson_toJson v
  | couponId => exact CouponId.ofJson_toJson v
  | achievementId => exact AchievementId.ofJson_toJson v

theorem traces (k : DocumentKind) : Json.Traces k.read k.windows := by
  cases k with
  | validity => exact Validity.traces .named
  | requirement => exact Requirement.traces .named
  | coupon => exact Coupon.traces
  | couponDetails => exact CouponDetails.traces
  | achievement => exact Achievement.traces
  | achievementProgress => exact AchievementProgress.traces
  | _ => exact fun _ _ _ _ hw => absurd hw List.not_mem_nil

end DocumentKind

/-- Every value is read back from what is written for it. Whatever JSON a value is read from, each
window inside the value is in order and stands in the JSON as its two days; a window that is written
with its days in the wrong order is refused. -/
theorem documents_lossless :
    (∀ (k : DocumentKind) (v : k.Value), k.read (k.write v) = .ok v) ∧
      (∀ (k : DocumentKind) (j : Json) (v : k.Value), k.read j = .ok v →
        ∀ w ∈ k.windows v, w.opens ≤ w.closes ∧ j.Holds w) ∧
      ∀ (j rest : Json) (opens closes : Date),
        Json.readTagged .named "kind" Validity.kinds j = .ok ("window", rest) →
          j.Days opens closes → closes < opens →
            Validity.ofJson j = .error (.inverted opens closes) := by
  refine ⟨DocumentKind.read_write, ?_, ?_⟩
  · intro k j v hv w hw
    exact ⟨w.opens_le_closes, k.traces j v hv w hw⟩
  · intro j rest opens closes htag hdays h
    exact Validity.ofJson_inverted htag hdays h

def signedYears : DateWindow :=
  ⟨⟨-44, 3, 15, by decide⟩, ⟨10000, 1, 1, by decide⟩, by decide⟩

def turned : Json :=
  .object [("kind", .string "window"), ("begin", signedYears.closes.toJson),
    ("end", signedYears.opens.toJson)]

theorem signedYears_lossless :
    DocumentKind.validity.read (DocumentKind.validity.write (.window signedYears)) =
        .ok (.window signedYears) ∧
      (DocumentKind.validity.write (.window signedYears)).Holds signedYears ∧
      Validity.ofJson turned = .error (.inverted signedYears.closes signedYears.opens) := by
  obtain ⟨hlossless, hholds, hturned⟩ := documents_lossless
  have hread := hlossless .validity (.window signedYears)
  have hdays : turned.Days signedYears.closes signedYears.opens :=
    .members rfl (Json.readDate_toJson signedYears.closes) rfl
      (Json.readDate_toJson signedYears.opens)
  refine ⟨hread, ?_, ?_⟩
  · exact (hholds .validity _ _ hread signedYears (List.mem_singleton_self _)).2
  · exact hturned turned _ _ _ rfl hdays (by decide)

end Loyalty
