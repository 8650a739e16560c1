import DocTemplate.Proofs.Layout.Hidden

/-!
# Layouts that are written and read again

A layout that was read from plain data is written as what is read as a layout with the same documents, if the
values that conditions of known components compare with are finite: what else may be lost is lost in unknown
components, which are not shown. Main statement: `retouched_of_dumpLayout`.
-/

namespace DocTemplate

mutual

/-- The values that the conditions of a known component, and of known ones that it holds, compare with. -/
def Component.compared : Component → List Value
  | .box c children => c.loose ++ comparedOfAll children
  | .unknown .. => []
  | .heading c _ | .text c | .list c _ | .chips c _ | .divider c | .spacer c _ | .image c _ _ _
  | .table c _ _ _ => c.loose

/-- The values that the conditions of known components compare with. -/
def comparedOfAll : List Component → List Value
  | [] => []
  | c :: cs => c.compared ++ comparedOfAll cs

end

def Layout.compared (layout : Layout) : List Value := comparedOfAll layout

/-- Wherever one component stands, another one can stand: the documents are the same. -/
def Component.StandsFor (back c : Component) : Prop :=
  ∀ context cs ds, Retouched context cs ds → Retouched context (c :: cs) (back :: ds)

theorem Component.standsFor_self (c : Component) : c.StandsFor c := fun _ _ _ rest => .keep c rest

mutual

/-- A component that was read is written as what is read as one that stands for it. -/
theorem exists_standsFor : ∀ {c : Component}, c.Loaded → (∀ v ∈ c.compared, v.isFiniteData) →
    ∃ v back, c.dump = .ok v ∧ readComponent v = .accepted back ∧ back.StandsFor c
  | .box c children, ⟨h, hchildren⟩, hfinite => by
    obtain ⟨hcommon, hinner⟩ := List.forall_mem_append.mp hfinite
    obtain ⟨inner, back, hdump, hread, hback⟩ := exists_retouched hchildren hinner
    obtain ⟨v, hv, hbox⟩ := readComponent_box h hcommon hdump hread
    exact ⟨v, .box c back, hv, hbox, fun context _ _ rest => .inside c (hback context) rest⟩
  | .unknown c kind extras, ⟨h, hkind, hextras⟩, _ => by
    obtain ⟨v, back, hdump, hread, hname, -⟩ := readComponent_unknown h hkind hextras
    have hkept : Kind.named? (Component.unknown c kind extras).kindName = none := hkind
    have hback : Kind.named? back.kindName = none := hname ▸ hkind
    exact ⟨v, back, hdump, hread, fun _ _ _ rest => .exchange (.inl hkept) (.inl hback) rest⟩
  | .heading .., h, hfinite | .text .., h, hfinite | .list .., h, hfinite | .chips .., h, hfinite
  | .divider .., h, hfinite | .spacer .., h, hfinite | .image .., h, hfinite | .table .., h, hfinite => by
    obtain ⟨v, hdump, hread⟩ := readComponent_dump h hfinite
    exact ⟨v, _, hdump, hread, Component.standsFor_self _⟩

/-- Components that were read are written as what is read as components with the same documents. -/
theorem exists_retouched : ∀ {cs : List Component}, LoadedAll cs → (∀ v ∈ comparedOfAll cs, v.isFiniteData) →
    ∃ vs back, dumpComponents cs = .ok vs ∧ (∀ index : Nat, readComponents index vs = .accepted back) ∧
      ∀ context, Retouched context cs back
  | [], _, _ => ⟨[], [], rfl, fun _ => rfl, fun _ => .nil⟩
  | c :: cs, ⟨h, hrest⟩, hfinite => by
    obtain ⟨hfirst, hlater⟩ := List.forall_mem_append.mp hfinite
    obtain ⟨v, back, hdump, hread, hback⟩ := exists_standsFor h hfirst
    obtain ⟨vs, backs, hdumps, hreads, hbacks⟩ := exists_retouched hrest hlater
    refine ⟨v :: vs, back :: backs, ?_, fun index => ?_, fun context => hback _ _ _ (hbacks context)⟩
    · rw [dumpComponents, hdump, hdumps]
      rfl
    · rw [readComponents, hread, hreads (index + 1)]
      rfl

end

/-- What is written of a layout that was read from plain data is read as a layout with the same documents,
and as the same layout if there is no infinity among the loose values. -/
theorem retouched_of_dumpLayout {source : Value} (hplain : source.isPlain) {layout : Layout}
    (hload : loadLayout source = .ok layout) (hfinite : ∀ v ∈ layout.compared, v.isFiniteData)
    {dump : List Value} (hdump : dumpLayout layout = .ok dump) :
    ∃ reloaded, loadLayout (.list dump) = .ok reloaded ∧ (∀ context, Retouched context layout reloaded) ∧
      ((∀ v ∈ layout.loose, v.isFiniteData) → reloaded = layout) := by
  have hloaded := loaded_of_loadLayout hplain hload
  obtain ⟨vs, reloaded, hvs, hread, hretouched⟩ := exists_retouched hloaded hfinite
  obtain rfl := Except.ok.inj (hvs.symm.trans hdump)
  refine ⟨reloaded, loadLayout_eq_ok_iff.mpr ⟨.list vs, vs, rfl, rfl, hread 0⟩, hretouched, fun hloose => ?_⟩
  obtain ⟨vs, hdumped, hsame⟩ := readComponents_dump hloaded hloose
  obtain rfl := Except.ok.inj (hdumped.symm.trans hvs)
  exact (Checked.accepted.inj ((hsame 0).symm.trans (hread 0))).symm

end DocTemplate
