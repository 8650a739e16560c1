import DocTemplate.Proofs.Html.Reading
import DocTemplate.Proofs.Page.Recording

/-!
# The same content, drawn

How the content of a document shows on its pages: every item as one mention or, if it is a text that is broken
into lines, as some, in the order of the document. Between them stand ornaments, which carry no content.
-/

namespace DocTemplate.Agreement

open Html Page Text

/-- The part that text has on a page if it is drawn in lines, by the tag that it stands in. -/
def lineRole? (tag : String) : Option Role :=
  if isHeading tag then some .heading
  else if tag = "p" then some .text
  else if tag = "li" then some .listItem
  else none

/-- What stands on a page before text, by the tag that it stands in. -/
def lead (p : Preset) (tag : String) : Except Failure String :=
  if tag = "li" then p.bullet else .ok ""

/-- What an item is shown as. Lines hold what is not blank in their text. -/
inductive Shows (p : Preset) : Item → List Mention → Prop
  | lines {tag content first : String} {role : Role} {lines : List (List Char)}
    (hrole : lineRole? tag = some role) (hfirst : lead p tag = .ok first)
    (hlines : squeeze lines.flatten = squeeze (first ++ content).toList) :
    Shows p (.text tag content) (lines.map (lineMention role))
  | cell {content : String} : Shows p (.text "td" content) [⟨.tableCell, some content⟩]
  | chip {content : String} : Shows p (.text "span" content) [⟨.chipLabel, some content⟩]
  | row : Shows p .row [⟨.tableRow, none⟩]
  | rule : Shows p .rule [⟨.divider, none⟩]
  | image : Shows p .image [⟨.image, none⟩]
  | placeholder : Shows p .image [⟨.imagePlaceholder, none⟩]

/-- The parts that carry no content: grounds, borders and the heads of tables. -/
def ornamentRoles : List Role := [.chip, .boxBorder, .tableHeader, .tableRule]

/-- What is drawn shows the content, item by item. -/
inductive Depicts (p : Preset) : List Item → List Mention → Prop
  | nil : Depicts p [] []
  | ornament {content : List Item} {mentions : List Mention} {mention : Mention} (h : mention.role ∈ ornamentRoles)
    (rest : Depicts p content mentions) : Depicts p content (mention :: mentions)
  | item {content : List Item} {mentions shown : List Mention} {item : Item} (h : Shows p item shown)
    (rest : Depicts p content mentions) : Depicts p (item :: content) (shown ++ mentions)

namespace Depicts

variable {p : Preset}

theorem append {as bs : List Item} {ls rs : List Mention} (ha : Depicts p as ls) (hb : Depicts p bs rs) :
    Depicts p (as ++ bs) (ls ++ rs) := by
  induction ha with
  | nil => exact hb
  | ornament h _ ih => exact .ornament h ih
  | item h _ ih =>
    rw [List.append_assoc]
    exact .item h ih

theorem single {i : Item} {shown : List Mention} (h : Shows p i shown) : Depicts p [i] shown := by
  have hitem := item h nil
  rwa [List.append_nil] at hitem

theorem ornaments {mentions : List Mention} (h : ∀ mention ∈ mentions, mention.role ∈ ornamentRoles) :
    Depicts p [] mentions := by
  induction mentions with
  | nil => exact .nil
  | cons mention mentions ih =>
    exact .ornament (h mention List.mem_cons_self) (ih fun q hq => h q (List.mem_cons_of_mem _ hq))

end Depicts

/-! ## What a depiction keeps -/

/-- The texts with a tag. -/
def textsIn (tag : String) (content : List Item) : List String :=
  content.filterMap fun
    | .text t s => if t = tag then some s else none
    | _ => none

/-- The texts with a part in the document. -/
def textsOf (role : Role) (mentions : List Mention) : List String :=
  mentions.filterMap fun q => if q.role = role then q.content? else none

/-- Content and what is drawn of it are the same, in the same order. -/
structure SameContent (p : Preset) (content : List Item) (mentions : List Mention) : Prop where
  order : Depicts p content mentions
  cells : textsIn "td" content = textsOf .tableCell mentions
  chips : textsIn "span" content = textsOf .chipLabel mentions
  rows : content.count .row = mentions.countP (·.role = .tableRow)
  rules : content.count .rule = mentions.countP (·.role = .divider)
  images : content.count .image = mentions.countP fun q => q.role = .image ∨ q.role = .imagePlaceholder

namespace Depicts

variable {p : Preset} {content : List Item} {mentions : List Mention}

/-- What is taken from each item and from what it is shown as is the same on both sides. -/
theorem filterMap_eq {β : Type} {f : Item → Option β} {g : Mention → Option β}
    (h : Depicts p content mentions)
    (hshows : ∀ i shown, Shows p i shown → shown.filterMap g = (f i).toList)
    (hornaments : ∀ mention, mention.role ∈ ornamentRoles → g mention = none) :
    content.filterMap f = mentions.filterMap g := by
  induction h with
  | nil => rfl
  | ornament h _ ih => rw [List.filterMap_cons_none (hornaments _ h), ih]
  | @item content mentions shown i h _ ih =>
    rw [List.filterMap_append, hshows i shown h, ← ih]
    cases hf : f i with
    | none => rw [List.filterMap_cons_none hf]; rfl
    | some b => rw [List.filterMap_cons_some hf]; rfl

/-- What is counted of the items and of what they are shown as is the same on both sides. -/
theorem countP_eq {f : Item → Bool} {g : Mention → Bool} (h : Depicts p content mentions)
    (hshows : ∀ i shown, Shows p i shown → shown.countP g = if f i then 1 else 0)
    (hornaments : ∀ mention, mention.role ∈ ornamentRoles → g mention = false) :
    content.countP f = mentions.countP g := by
  induction h with
  | nil => rfl
  | ornament h _ ih => rw [List.countP_cons_of_neg (by simp [hornaments _ h]), ih]
  | @item content mentions shown i h _ ih =>
    rw [List.countP_append, hshows i shown h, List.countP_cons, ih, Nat.add_comm]

end Depicts

theorem lineRole?_cases {tag : String} {role : Role} (h : lineRole? tag = some role) :
    (tag ≠ "td" ∧ tag ≠ "span") ∧ role ∈ [Role.heading, .text, .listItem] := by
  unfold lineRole? at h
  split at h
  · next htag =>
    obtain rfl := Option.some.inj h
    exact ⟨⟨fun heq => absurd (heq ▸ htag) (by decide), fun heq => absurd (heq ▸ htag) (by decide)⟩, by decide⟩
  · split at h
    · next htag =>
      obtain rfl := Option.some.inj h
      subst htag
      decide
    · split at h
      · next htag =>
        obtain rfl := Option.some.inj h
        subst htag
        decide
      · cases h

theorem texts_eq {p : Preset} {content : List Item} {mentions : List Mention}
    (h : Depicts p content mentions) {tag : String} {role : Role}
    (hpair : (tag, role) ∈ [("td", Role.tableCell), ("span", Role.chipLabel)]) :
    textsIn tag content = textsOf role mentions := by
  simp only [List.mem_cons, Prod.mk.injEq, List.not_mem_nil, or_false] at hpair
  refine h.filterMap_eq (fun i shown hi => ?_) fun mention hmention => if_neg ?_
  · cases hi with
    | @lines t content first r lines hrole hfirst hlines =>
      obtain ⟨⟨htd, hspan⟩, hr⟩ := lineRole?_cases hrole
      have htag : t ≠ tag := by
        rcases hpair with ⟨rfl, -⟩ | ⟨rfl, -⟩
        · exact htd
        · exact hspan
      have hne : r ≠ role := by
        rcases hpair with ⟨-, rfl⟩ | ⟨-, rfl⟩ <;> exact ne_of_mem_of_not_mem hr (by decide)
      dsimp only
      rw [if_neg htag, Option.toList_none, List.filterMap_eq_nil_iff]
      intro mention hmention
      obtain ⟨line, -, rfl⟩ := List.mem_map.mp hmention
      exact if_neg hne
    | _ => rcases hpair with ⟨rfl, rfl⟩ | ⟨rfl, rfl⟩ <;> rfl
  · rcases hpair with ⟨-, rfl⟩ | ⟨-, rfl⟩ <;> exact ne_of_mem_of_not_mem hmention (by decide)

/-- The roles that rows, rules and images are shown with. -/
def markRoles : Item → List Role
  | .row => [.tableRow]
  | .rule => [.divider]
  | .image => [.image, .imagePlaceholder]
  | .text _ _ => []

theorem count_eq {p : Preset} {content : List Item} {mentions : List Mention}
    (h : Depicts p content mentions) {i : Item} (hi : i ∈ [Item.row, .rule, .image]) :
    content.count i = mentions.countP (·.role ∈ markRoles i) := by
  simp only [List.mem_cons, List.not_mem_nil, or_false] at hi
  have hornaments : ∀ role ∈ ornamentRoles, role ∉ markRoles i := by
    rcases hi with rfl | rfl | rfl <;> decide
  have hline : ∀ role ∈ [Role.heading, .text, .listItem], role ∉ markRoles i := by
    rcases hi with rfl | rfl | rfl <;> decide
  refine h.countP_eq (fun j shown hj => ?_) fun mention hmention => by
    simpa using hornaments mention.role hmention
  cases hj with
  | @lines tag content first role lines hrole hfirst hlines =>
    have hne : (Item.text tag content == i) = false := by rcases hi with rfl | rfl | rfl <;> rfl
    rw [hne, List.countP_eq_zero.mpr]
    · rfl
    · intro mention hmention
      obtain ⟨line, -, rfl⟩ := List.mem_map.mp hmention
      exact fun hmem => hline role (lineRole?_cases hrole).2 (of_decide_eq_true hmem)
  | _ => rcases hi with rfl | rfl | rfl <;> rfl

theorem SameContent.of_depicts {p : Preset} {content : List Item} {mentions : List Mention}
    (h : Depicts p content mentions) : SameContent p content mentions where
  order := h
  cells := texts_eq h (by decide)
  chips := texts_eq h (by decide)
  rows := by simpa [markRoles] using count_eq h (i := .row) (by decide)
  rules := by simpa [markRoles] using count_eq h (i := .rule) (by decide)
  images := by simpa [markRoles] using count_eq h (i := .image) (by decide)

end DocTemplate.Agreement
