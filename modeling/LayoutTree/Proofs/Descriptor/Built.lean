import LayoutTree.Proofs.Descriptor.Serial
import LayoutTree.Proofs.Section.Planned
import LayoutTree.Proofs.Yields

/-!
What the descriptor engine builds of layout nodes: items, groups, sections and layouts. All of it is
plain data.
-/

namespace LayoutTree

open Run

/-- The space between the groups of a section: none is given, or a number is. -/
inductive Value.IsGap : Value → Prop
  | none : IsGap .null
  | int (i : Int) : IsGap (.int i)
  | float (x : Double) : IsGap (.float x)

lemma Value.IsGap.bare {gap : Value} (h : gap.IsGap) : gap.bare = gap := by
  cases h <;> rfl

namespace Descriptor

/-- A section that the descriptor engine makes of a group or of a group builder. -/
inductive IsSection (ev : Evaluator) : Value → Prop
  | mk {s t : Session} {engine config requested x gap v : Value} {i : Option Insets} :
      s.Provides engine config .descriptor requested → s.IsArgument .descriptor x →
      Layout.isGroup x = true → gap.IsGap →
      (Layout.makeSection x engine config (.ofOption .insets i) gap).exec ev s = (.ok v, t) →
      IsSection ev v

/-- An item of a slot, a group, a section, or a layout of groups and sections, as the descriptor
engine makes it. -/
inductive Built (ev : Evaluator) : Value → Prop
  | item {s t : Session} {id : Nat} {C : Composer} {requested v : Value} {z : Slot}
      {vs : List Value} : s.Engaged id C .descriptor requested →
      (Composer.compose id z.toValue).exec ev s = (.ok (.list vs), t) → v ∈ vs → Built ev v
  | group {s t : Session} {id : Nat} {C : Composer} {requested v : Value} {f : Frame}
      {listed : Bool} {ds : List Draft} : s.Engaged id C .descriptor requested →
      (Composer.compose id (f.holding listed (Draft.toValues ds))).exec ev s = (.ok v, t) →
      Built ev v
  | ofSection {v : Value} : IsSection ev v → Built ev v
  | layout {s t : Session} {engine config requested v : Value} {args : List Value} :
      s.Provides engine config .descriptor requested →
      (∀ x ∈ args, s.IsArgument .descriptor x ∧ Layout.isGroup x = true ∨ IsSection ev x) →
      (Layout.make args engine config).exec ev s = (.ok v, t) → Built ev v

/-- Apart from identities the value is a dict of plain data. -/
def IsPlain (v : Value) : Prop := ∃ es : Fields, v.bare = .dict 0 es ∧ es.Serial

lemma IsPlain.serial {v : Value} (h : IsPlain v) : v.bare.Serial := by
  obtain ⟨es, hv, hes⟩ := h
  rw [hv]
  exact hes.dict

lemma IsPlain.isGroup {v : Value} (h : IsPlain v) : Layout.isGroup v = false := by
  obtain ⟨es, hv, -⟩ := h
  obtain ⟨id, fs, rfl⟩ := Value.eq_dict_of_bare hv
  rfl

lemma isPlain_of_plan {v : Value} {p : Plan} (h : v.bare = p.descriptor) : IsPlain v :=
  ⟨p.entries, h, p.serial_entries⟩

lemma isPlain_of_mem {base : Nat} {vs : List Value} {ps : List Plan}
    (h : List.Forall₂ (fun v p => EngineKind.Made base .descriptor p v) vs ps) {v : Value}
    (hv : v ∈ vs) : IsPlain v := by
  induction h with
  | nil => cases hv
  | cons hw _ ih =>
    rcases List.mem_cons.1 hv with rfl | hv
    · exact isPlain_of_plan hw
    · exact ih hv

/-! ### Sections -/

lemma serial_entry (key : String) {o : Option Value} (h : ∀ v ∈ o, v.Serial) :
    (entry key o).Serial := by
  cases o with
  | none => exact .nil
  | some v => exact .cons key (h v rfl) .nil

lemma isPlain_of_spaced {v group gap : Value} {i : Option Insets}
    (h : v.bare = ofSpaced group i gap) (hg : group.Serial) (hgap : gap.IsGap) : IsPlain v := by
  refine ⟨_, h, .cons "type" (Value.serial_text _) (.cons "group" hg (.append ?_ ?_))⟩
  · refine serial_entry "contentInsets" fun w hw => ?_
    obtain ⟨i, -, rfl⟩ := Option.map_eq_some_iff.1 hw
    exact serial_ofInsets i
  · cases hgap with
    | none => exact .nil
    | int n => exact .cons "interGroupSpacing" (Value.serial_int n) .nil
    | float x => exact .cons "interGroupSpacing" (Value.serial_float x) .nil

variable (ev : Evaluator) {s t : Session} {engine config requested : Value}

/-- A section is made of what was composed, or none is made. -/
lemma exec_section {x gap : Value} (i : Option Insets) (hx : s.IsArgument .descriptor x)
    (hgroup : Layout.isGroup x = true) (hgap : gap.IsGap) (hst : s.Advances t)
    (h : t.Provides engine config .descriptor requested) :
    ∃ y u, (Layout.makeSection x engine config (.ofOption .insets i) gap).exec ev t = (y, u) ∧
      t.Advances u ∧ ∀ v, y = .ok v → IsPlain v := by
  obtain ⟨node, listed, ds, hnode⟩ := hx.exists_node hgroup
  obtain ⟨y, u, base, hrun, hy, htu⟩ := exec_makeSection_node ev hnode hst h
    (.ofOption .insets i) gap
  rw [hrun]
  generalize (node >>= fun f => Draft.made (EngineClass.descriptor.refusal s)
    (EngineClass.descriptor.repeatsFor requested) f ds) = planned at hy
  cases hy with
  | error e => exact ⟨.error e, u, rfl, htu, fun v hv => by cases hv⟩
  | @ok g p hg =>
    have hbare : g.bare = p.descriptor := hg
    obtain ⟨w, n, hw, hwbare, hn⟩ := makes_spaced ev hbare hgap.bare i u
    refine ⟨.ok w, _, hw, htu.trans (.reserving u hn), fun v hv => ?_⟩
    cases hv
    exact isPlain_of_spaced hwbare p.serial_entries.dict hgap

variable {ev}

lemma IsSection.isPlain {v : Value} (h : IsSection ev v) : IsPlain v := by
  cases h with
  | mk h hx hgroup hgap hrun =>
    obtain ⟨y, u, hsection, -, hy⟩ := exec_section ev _ hx hgroup hgap (.refl _) h
    obtain ⟨rfl, -⟩ := Prod.mk.inj (hsection.symm.trans hrun)
    exact hy v rfl

/-! ### Layouts -/

/-- While a layout is made, each argument becomes a section. -/
lemma yields_section {x : Value} {id : Nat} {C : Composer}
    (hx : s.IsArgument .descriptor x ∧ Layout.isGroup x = true ∨ IsSection ev x) :
    (Layout.sectionWith id x).Yields ev
      (fun u => s.Advances u ∧ u.Engaged id C .descriptor requested) IsPlain := by
  intro t ⟨hst, hC⟩
  unfold Layout.sectionWith
  rcases hx with ⟨hx, hgroup⟩ | hx
  · obtain ⟨y, u, hsection, htu, hy⟩ :=
      exec_section ev none hx hgroup .none hst hC.provides
    have hrun : (Layout.makeSection x C.engine C.config .null .null).exec ev t = (y, u) := hsection
    rw [if_pos hgroup, exec_bind_ok (exec_composer ev hC.composer), hrun]
    exact ⟨⟨hst.trans htu, hC.advances htu⟩, hy⟩
  · rw [if_neg (by simp [hx.isPlain.isGroup])]
    exact ⟨⟨hst, hC⟩, fun v hv => by cases hv; exact hx.isPlain⟩

lemma isPlain_of_sections {v : Value} {vs : List Value} (hvs : ∀ w ∈ vs, IsPlain w)
    (h : v.bare = .dict 0 [("type", .text "layout"), ("sections", .list (Value.bareAll vs))]) :
    IsPlain v := by
  refine ⟨_, h, .cons "type" (Value.serial_text _) (.cons "sections" (Value.serial_list ?_) .nil)⟩
  clear h
  induction vs with
  | nil => exact fun _ hw => nomatch hw
  | cons w ws ih =>
    obtain ⟨hw, hws⟩ := List.forall_mem_cons.1 hvs
    exact List.forall_mem_cons.2 ⟨hw.serial, ih hws⟩

/-- A layout is made of the sections that its arguments become. -/
lemma isPlain_layout {args : List Value} {v : Value}
    (h : s.Provides engine config .descriptor requested)
    (ha : ∀ x ∈ args, s.IsArgument .descriptor x ∧ Layout.isGroup x = true ∨ IsSection ev x)
    (hrun : (Layout.make args engine config).exec ev s = (.ok v, t)) : IsPlain v := by
  by_cases hne : args = []
  · subst hne
    cases hrun
  obtain ⟨C, u, hmake, hC, hsu, -⟩ := exec_engage ev h
  unfold Layout.make at hrun
  rw [if_neg (by simpa using hne), exec_bind_ok hmake, Layout.resolveSections_eq_mapM] at hrun
  obtain ⟨⟨-, hC'⟩, hvs⟩ := Yields.mapM_of_mem (fun x hx => yields_section (ha x hx)) u ⟨hsu, hC⟩
  rcases hx : (args.mapM (Layout.sectionWith s.composers.size)).exec ev u with ⟨e | vs, u'⟩
  · rw [exec_bind_error hx] at hrun
    cases hrun
  rw [hx] at hC' hvs
  rw [exec_bind_ok hx, hC'.exec_layout ev vs] at hrun
  obtain ⟨w, n, hw, hbare, -⟩ := makes_layout ev vs u'
  rw [hw] at hrun
  cases hrun
  exact isPlain_of_sections (hvs vs rfl) hbare

/-! ### All that is built -/

lemma Built.isPlain {v : Value} (h : Built ev v) : IsPlain v := by
  cases h with
  | @item s t id C requested _ z vs h hrun hv =>
    obtain ⟨x, u, hcompose, hx⟩ := h.exec_composeSlot ev z
    obtain ⟨hok, -⟩ := Prod.mk.inj (hcompose.symm.trans hrun)
    generalize z.items = planned at hx
    cases hx with
    | error e => cases hok
    | ok hall =>
      cases hok
      exact isPlain_of_mem hall hv
  | @group s t id C requested _ f listed ds h hrun =>
    obtain ⟨x, u, hcompose, hx, -⟩ := h.exec_composeGroup ev f listed ds
    rw [h.exec_compose_group, hcompose] at hrun
    obtain ⟨rfl, -⟩ := Prod.mk.inj hrun
    generalize Draft.made _ _ f ds = planned at hx
    cases hx with
    | ok hv => exact isPlain_of_plan hv
  | ofSection h => exact h.isPlain
  | layout h ha hrun => exact isPlain_layout h ha hrun

variable (ev) in
/-- The engine makes what is planned of a group. -/
lemma exec_planned {id : Nat} {C : Composer} (h : s.Engaged id C .descriptor requested) {f : Frame}
    (listed : Bool) {ds : List Draft} {p : Plan}
    (hp : Draft.made (EngineClass.descriptor.refusal s)
      (EngineClass.descriptor.repeatsFor requested) f ds = .ok p) :
    ∃ v t, (Composer.compose id (f.holding listed (Draft.toValues ds))).exec ev s = (.ok v, t) ∧
      v.bare = p.descriptor := by
  obtain ⟨x, t, hcompose, hx, -⟩ := h.exec_composeGroup ev f listed ds
  rw [h.exec_compose_group, hcompose]
  rw [hp] at hx
  cases hx with
  | @ok v p hv => exact ⟨v, t, rfl, hv⟩

/-! ### A square -/

/-- The item of a slot that is so many points wide and high. -/
def square (x : Double) : Value :=
  .dict 9 [("type", .text "item"), ("layoutSize", .dict 8 [
    ("widthDimension", .dict 6 [("kind", .text "absolute"), ("value", .float x)]),
    ("heightDimension", .dict 7 [("kind", .text "absolute"), ("value", .float x)])])]

lemma built_square (x : Double) : Built .none (square x) := by
  let z : Slot := ⟨4, ⟨1, ⟨2, .absolute, x⟩, ⟨3, .absolute, x⟩⟩, none, none, 1, by decide⟩
  let s : Session := (Session.initial [] false).reserving 6
  let C : Composer := ⟨EngineClass.descriptor.engine 5, .config .null, .bool false⟩
  have hs : s.Undisturbed :=
    (Session.Advances.reserving _ (by decide)).undisturbed (Session.undisturbed_initial ..)
  have hC : (s.engaging C).Engaged 0 C .descriptor .null := .engaging hs (fun _ => rfl) rfl
  have hrun : (Composer.compose 0 z.toValue).exec .none (s.engaging C) =
      (.ok (.list [square x]), ((Composer.compose 0 z.toValue).exec .none (s.engaging C)).2) :=
    Prod.ext rfl rfl
  exact .item hC hrun List.mem_cons_self

end Descriptor

end LayoutTree
