import LayoutTree.Proofs.Section.Planned
import LayoutTree.Proofs.Section.Recomposing

/-!
A layout of groups and sections is the layout of their sections, made one by one beforehand.

While a layout is made its engine and its configuration are resolved once, and each group is
composed with what was found; beforehand they are resolved for each section anew. What is found is
the same, and a group or a builder gives the same twice, so the sections are equal one by one, and
so are the layouts of them. Only what is read of a text that writes a not-a-number is another
number each time, which equals none: without their tags these are equal too.
-/

namespace LayoutTree

open Run Value

namespace Layout

/-- The section of an argument, made on its own: a group becomes a default section, anything else is
taken for a section. -/
def sectionOf (engine config x : Value) : Run Value :=
  if isGroup x then makeSection x engine config .null .null else pure x

/-- The layout of arguments whose sections are made beforehand, from left to right. -/
def staged (args : List Value) (engine config : Value) : Run Value := do
  make (← args.mapM (sectionOf engine config)) engine config

/-- A composer composes the group of an argument, and its engine makes a default section of it. -/
def sectionOn (id : Nat) (x : Value) : Run Value := do
  let node ← groupNode x
  Run.operate (← composer id).engine "make_section" do
    return ⟨[← Composer.composeGroup id node], [("insets", .null), ("inter_group_spacing", .null)]⟩

lemma makeSection_eq (x engine config : Value) : makeSection x engine config .null .null =
    Composer.make engine config >>= (sectionOn · x) := rfl

end Layout

/-! ### Arguments -/

/-- A group; a group builder, which holds the slots and groups of its block and anything in its
other fields; or a section that is ready. Neither is a composer inside them yet to come. -/
inductive Session.Admits (s : Session) (kind : EngineKind) : Value → Prop
  | group {i : Nat} {k z n e d g : Value} {listed : Bool} {xs : List Value} :
      (∀ v ∈ [k, z, n, e, d, g], s.Knows v) → (∀ x ∈ xs, s.Composable x) →
      Admits s kind (.group i k z n e d g (.row listed xs))
  | builder {id : Nat} {b : Box} {direction space : Value} {xs : List Value} :
      s.boxes[id]? = some b → b.content = .group direction space (.tuple xs) →
      (∀ x ∈ xs, x.isBox = true ∧ s.Composable x) → (∀ v ∈ [b.insets, b.edges, space], s.Knows v) →
      s.attribute? (.box id) "build" = none → Admits s kind (.box .group id)
  | ready {v : Value} : kind.isSection v = true → Admits s kind v

/-- For an argument a dict is read that writes a not-a-number as a text: when its builder builds, or
as the size of a node, at which only the model engine looks. -/
inductive Session.ReadsNan (ev : Evaluator) (s : Session) (kind : EngineKind) : Value → Prop
  | size {v : Value} : kind = .model → s.SizesNan ev v → ReadsNan ev s kind v
  | field {id : Nat} {b : Box} {direction space children v : Value} {form : Form} :
      s.boxes[id]? = some b → b.content = .group direction space children →
      (form, v) ∈ [(Form.size, b.size), (.insets, b.insets), (.edges, b.edges),
        (.measure, space)] →
      v.WritesNan form → ReadsNan ev s kind (.box .group id)
  | child {id : Nat} {b : Box} {direction space x : Value} {xs : List Value} :
      s.boxes[id]? = some b → b.content = .group direction space (.tuple xs) → x ∈ xs →
      kind = .model → s.SizesNan ev x → ReadsNan ev s kind (.box .group id)

section ReadsNan

variable {ev : Evaluator} {s : Session} {kind : EngineKind} {id : Nat} {b : Box}
  {direction space v : Value} {xs : List Value}

lemma Session.not_readsNan (hv : ∀ id, v ≠ .box .group id) (h : ¬ s.SizesNan ev v) :
    ¬ s.ReadsNan ev kind v := by
  intro hnan
  cases hnan with
  | size _ hsize => exact h hsize
  | field => exact hv _ rfl
  | child => exact hv _ rfl

lemma Session.not_readsNan_builder (hb : s.boxes[id]? = some b)
    (hcontent : b.content = .group direction space (.tuple xs))
    (hsize : ¬ b.size.WritesNan .size) (hinsets : ¬ b.insets.WritesNan .insets)
    (hedges : ¬ b.edges.WritesNan .edges) (hspace : ¬ space.WritesNan .measure)
    (hxs : ∀ x ∈ xs, ¬ s.SizesNan ev x) : ¬ s.ReadsNan ev kind (.box .group id) := by
  intro hnan
  cases hnan with
  | size _ hbox => exact not_sizesNan_of_isBox rfl hbox
  | field hb' hcontent' hv hnan =>
    cases hb.symm.trans hb'
    cases hcontent.symm.trans hcontent'
    simp only [List.mem_cons, Prod.mk.injEq, List.not_mem_nil, or_false] at hv
    rcases hv with ⟨rfl, rfl⟩ | ⟨rfl, rfl⟩ | ⟨rfl, rfl⟩ | ⟨rfl, rfl⟩
    · exact hsize hnan
    · exact hinsets hnan
    · exact hedges hnan
    · exact hspace hnan
  | child hb' hcontent' hx _ hchild =>
    cases hb.symm.trans hb'
    cases hcontent.symm.trans hcontent'
    exact hxs _ hx hchild

end ReadsNan

/-! ### Sections -/

/-- The sections are ready for the layouts of such an engine, and equal where their doubles are seen
through the function. -/
def EngineKind.SectionTwins (f : Double → Double) (kind : EngineKind) (v w : Value) : Prop :=
  v.SameThrough f w ∧ kind.isSection v = true ∧ kind.isSection w = true

lemma EngineKind.isSection_of_forall₂ {kind : EngineKind} {f : Double → Double}
    {vs ws : List Value} (h : List.Forall₂ (kind.SectionTwins f) vs ws) :
    (∀ v ∈ vs, kind.isSection v = true) ∧ ∀ w ∈ ws, kind.isSection w = true := by
  induction h with
  | nil => simp
  | cons h _ ih =>
    obtain ⟨-, hv, hw⟩ := h
    exact ⟨List.forall_mem_cons.2 ⟨hv, ih.1⟩, List.forall_mem_cons.2 ⟨hw, ih.2⟩⟩

/-- Composing has gone on, and with the engine and the configuration the same is asked for. -/
structure Session.Upholds (s : Session) (engine config : Value) (c : EngineClass)
    (requested : Value) (t : Session) : Prop where
  advances : s.Advances t
  provides : t.Provides engine config c requested

namespace Session

variable {s t u : Session} {engine config requested : Value} {c : EngineClass}

namespace Upholds

lemma of_evolves (h : s.Upholds engine config c requested t) (htu : t.Evolves u) :
    s.Upholds engine config c requested u :=
  ⟨h.advances.trans (.of_evolves htu), h.provides.of_evolves htu⟩

lemma engaging (h : s.Upholds engine config c requested t) (C : Composer) :
    s.Upholds engine config c requested (t.engaging C) :=
  ⟨h.advances.trans (.engaging t C), h.provides.engaging C⟩

end Upholds

lemma Phase.upholds : s.Phase (s.Upholds engine config c requested) :=
  ⟨fun _ h => h.advances, fun _ _ h => h.of_evolves⟩

/-- A composer that was made is there from then on. -/
lemma Phase.engaged {P : Session → Prop} {id : Nat} {C : Composer} (h : s.Phase P) :
    s.Phase fun t => P t ∧ t.Engaged id C c requested :=
  ⟨fun t ht => h.advances t ht.1, fun t u ht htu =>
    ⟨h.stays t u ht.1 htu, ht.2.advances (.of_evolves htu)⟩⟩

end Session

section Sections

variable (ev : Evaluator) {s t : Session} {engine config requested : Value} {c : EngineClass}
  {P Q : Session → Prop} {f : Double → Double}

/-- If nothing is said about a section, the model engine takes no insets and no space. -/
lemma exec_modelDefault (t : Session) (id : Nat) (z : LayoutSize) (d : Direction)
    (vs : List Value) (m i e g : Value) :
    ∃ j n, (Model.makeSection (.itemGroup id z d vs m i e g) .null .null).exec ev t =
        (.ok (.hostSection (n + 1) (.itemGroup id z d vs m i e g) (.insets (.none j)) .zero),
          t.reserving (n + 2)) ∧
      t.serial ≤ n + 2 := by
  obtain ⟨j, n, hn, hnext⟩ := exec_insetsOrNone ev t none
  refine ⟨j, n, ?_, by omega⟩
  unfold Model.makeSection
  exact (hnext _).trans (exec_construct_section ev (t.reserving n) ..)

/-- Equal groups are in equal sections about which nothing else is said. -/
lemma sameThrough_defaultSection {v w : Value} (h : v.SameThrough f w) (i j i' j' : Nat) :
    (Value.hostSection i v (.insets (.none j)) .zero).SameThrough f
      (.hostSection i' w (.insets (.none j')) .zero) := by
  unfold SameThrough at *
  simp [through, h, Insets.same, Insets.through, Insets.none]

/-- Two groups that were composed become sections, about which nothing else is said. -/
lemma matches_defaultSection (h : s.Parallel P Q) {v w : Value}
    (hvw : c.kind.Twins s.serial f true v w) :
    Matches ev P Q (c.kind.SectionTwins f) (c.makeSection v .null .null)
      (c.makeSection w .null .null) := by
  obtain ⟨kind, label, supports⟩ := c
  cases kind with
  | model =>
    cases hvw with
    | group _ _ hsame =>
      refine h.intro fun t u _ _ => ?_
      obtain ⟨j, m, hv, hm⟩ := exec_modelDefault ev t _ _ _ _ _ _ _ _
      obtain ⟨j', m', hw, hm'⟩ := exec_modelDefault ev u _ _ _ _ _ _ _ _
      refine ⟨_, _, _, _, hv, hw, .ok ⟨?_, rfl, rfl⟩, .reserving t hm, .reserving u hm'⟩
      exact sameThrough_defaultSection hsame _ _ _ _
  | descriptor =>
    have hdict : Matches ev P Q (DictTwin f)
        (Run.newDict [("type", .text "section"), ("group", v)])
        (Run.newDict [("type", .text "section"), ("group", w)]) :=
      h.newDictTwin (.cons (.self f _) (.cons hvw.sameThrough .nil))
    refine hdict.mono fun x y hxy => ⟨hxy.sameThrough, ?_⟩
    obtain ⟨i, j, es, fs, rfl, rfl, -⟩ := hxy
    exact ⟨rfl, rfl⟩
  | trace implements =>
    have hlist : Matches ev P Q (ListTwin f)
        (EngineClass.makeSection ⟨.trace implements, label, supports⟩ v .null .null)
        (EngineClass.makeSection ⟨.trace implements, label, supports⟩ w .null .null) := by
      exact h.traced _ _ _ _ (.pure (sameThrough_list (.cons (.self f _)
        (.cons (EngineKind.Twins.sameThrough hvw) (.cons (.self f _) (.cons (.self f _) .nil))))))
    refine hlist.mono fun x y hxy => ⟨hxy.sameThrough, ?_⟩
    obtain ⟨xs, ys, rfl, rfl, -⟩ := hxy
    exact ⟨rfl, rfl⟩

/-- The group of an argument: a group is one, and a builder builds two that are alike. -/
lemma matches_groupNode {kind : EngineKind} {x : Value} (h : s.Parallel P Q)
    (hx : s.Admits kind x) (hgroup : Layout.isGroup x = true)
    (hnan : Double.Blends f ∨ ¬ s.ReadsNan ev kind x) :
    Matches ev P Q (fun v w => ∃ listed zs, GroupsAlike ev s P Q f kind listed zs v w ∧
        ∀ z ∈ zs, s.Composable z ∧ s.SettledSizes ev f kind z)
      (Layout.groupNode x) (Layout.groupNode x) := by
  cases hx with
  | @group i k z n e d g listed xs hparts hxs =>
    have hsizes : s.SettledSizes ev f kind (.group i k z n e d g (.row listed xs)) :=
      fun hkind => hnan.imp_right fun hgroup hsize => hgroup (.size hkind hsize)
    exact .pure ⟨listed, xs, h.groupsAlike hparts hsizes, fun x hx => ⟨hxs x hx, hsizes.member hx⟩⟩
  | @builder id b direction space xs hb hcontent hxs hknown hbuild =>
    have hbuilt : Matches ev P Q (GroupTwin s.Knows f xs)
        (Layout.groupNode (.box .group id)) (Layout.groupNode (.box .group id)) := by
      have hrun : ∀ t, s.Advances t → (Layout.groupNode (.box .group id)).exec ev t =
          finished "Group" (groupOf b.nodeFields fun n => (.read (.tuple xs) 1 .exact, n))
            { t with serial := t.serial + 1 } := by
        intro t ht
        have hown : t.replaced? (.box .group id) "build" = none :=
          (ht.attribute? _ _).trans hbuild
        refine (exec_callMethodOr hown).trans ?_
        exact Builder.exec_build_group hcontent (fun x hx => (hxs x hx).1) ((ht.box? _).trans hb)
      exact h.finished (matches_groupOf hcontent (hknown _ (by simp)) (hknown _ (by simp))
        (hknown _ (by simp)) fun p hp => hnan.imp_right fun hbuilder hwrites =>
          hbuilder (.field hb hcontent hp hwrites))
        hrun hrun
    refine hbuilt.mono fun v w hvw => ⟨false, xs, hvw.groupsAlike, fun x hx => ⟨(hxs x hx).2, ?_⟩⟩
    exact fun hkind => hnan.imp_right fun hbuilder hsize =>
      hbuilder (.child hb hcontent hx hkind hsize)
  | ready hready =>
    rw [EngineKind.isGroup_of_isSection hready] at hgroup
    cases hgroup

/-- A composer makes the same section of an argument as is made of it on its own. -/
lemma matches_section {x : Value} (hs : s.Undisturbed) (hk : s.KnowsAttributes)
    (hx : s.Admits c.kind x) (hnan : Double.Blends f ∨ ¬ s.ReadsNan ev c.kind x) (id : Nat)
    (C : Composer) :
    Matches ev (fun t => s.Upholds engine config c requested t ∧ t.Engaged id C c requested)
      (s.Upholds engine config c requested) (c.kind.SectionTwins f)
      (Layout.sectionWith id x) (Layout.sectionOf engine config x) := by
  intro t u ⟨ht, hC⟩ hu
  unfold Layout.sectionWith Layout.sectionOf
  cases hgroup : Layout.isGroup x with
  | false =>
    rw [if_neg (by simp), if_neg (by simp)]
    cases hx with
    | ready hready => exact ⟨.ok ⟨.self f x, hready, hready⟩, ⟨ht, hC⟩, hu⟩
    | _ => cases hgroup
  | true =>
    obtain ⟨D, t₁, hmake, hD, ht₁⟩ := hC.exec_engage ev
    obtain ⟨D', u₁, hmake', hD', hu₁, hprovides'⟩ := exec_engage ev hu.provides
    have hengaged : (t₁.engaging D).Engaged id C c requested :=
      (hC.advances (.of_evolves ht₁)).advances (.engaging t₁ D)
    let P : Session → Prop := fun v =>
      (s.Upholds engine config c requested v ∧ v.Engaged id C c requested) ∧
        v.Engaged t.composers.size D c requested
    let Q : Session → Prop := fun v =>
      s.Upholds engine config c requested v ∧ v.Engaged u.composers.size D' c requested
    have hparallel : s.Parallel P Q := ⟨hs, hk, .engaged (.engaged .upholds), .engaged .upholds⟩
    have h : s.Recomposes P Q c requested t.composers.size u.composers.size :=
      ⟨hparallel, ⟨D, fun _ h => h.2⟩, D', fun _ h => h.2⟩
    have hsection : Matches ev P Q (c.kind.SectionTwins f)
        (Layout.sectionOn t.composers.size x) (Layout.sectionOn u.composers.size x) := by
      refine .bind (matches_groupNode ev hparallel hx hgroup hnan) fun v w hvw => ?_
      obtain ⟨listed, zs, hvw, hzs⟩ := hvw
      refine ((h.composeGroup hvw (fun z hz => (hzs z hz).1) fun z hz => (hzs z hz).2).bind
        fun o o' ho => matches_defaultSection ev hparallel ho).congr (fun t ht => ?_) fun u hu => ?_
      · refine (ht.2.exec_asked ev (fun _ => ⟨rfl, rfl⟩) _).trans ?_
        rw [bind_assoc]
        rfl
      · refine (hu.2.exec_asked ev (fun _ => ⟨rfl, rfl⟩) _).trans ?_
        rw [bind_assoc]
        rfl
    obtain ⟨hagrees, ⟨hleft, -⟩, hright, -⟩ := hsection (t₁.engaging D) u₁
      ⟨⟨(ht.of_evolves ht₁).engaging D, hengaged⟩, hD⟩
      ⟨⟨hu.advances.trans hu₁, hprovides'⟩, hD'⟩
    rw [if_pos rfl, if_pos rfl, exec_bind_ok (exec_composer ev hC.composer)]
    rw [Layout.makeSection_eq, Layout.makeSection_eq, exec_bind_ok hmake, exec_bind_ok hmake']
    exact ⟨hagrees, hleft, hright⟩

/-! ### Layouts -/

/-- Equal sections become equal layouts. -/
lemma matches_makeLayout (h : s.Parallel P Q) {vs ws : List Value}
    (hvw : List.Forall₂ (c.kind.SectionTwins f) vs ws) :
    Matches ev P Q (fun v w => (v.through f).equals (w.through f) = true) (c.makeLayout (.list vs))
      (c.makeLayout (.list ws)) := by
  obtain ⟨hvs, hws⟩ := EngineKind.isSection_of_forall₂ hvw
  have hsame : (Value.list vs).SameThrough f (.list ws) :=
    sameThrough_list (hvw.imp fun _ _ h => h.1)
  have helements : Matches ev P Q (fun xs ys => (Value.list xs).SameThrough f (.list ys))
      (Run.elements (.list vs)) (Run.elements (.list ws)) := Session.Parallel.elements hsame
  obtain ⟨kind, label, supports⟩ := c
  cases kind with
  | model =>
    exact h.intro fun t u _ _ => ⟨_, _, _, _, exec_modelLayout ev t hvs, exec_modelLayout ev u hws,
      .ok ((same_hostLayout ..).trans ((same_list ..).symm.trans hsame)),
      .reserving t (by omega), .reserving u (by omega)⟩
  | descriptor =>
    have hlayout : Matches ev P Q (DictTwin f) (Descriptor.makeLayout (.list vs))
        (Descriptor.makeLayout (.list ws)) :=
      helements.bind fun xs ys hxy => h.newDictTwin (.cons (.self f _) (.cons hxy .nil))
    refine hlayout.mono fun v w hvw => ?_
    have hsame := hvw.sameThrough
    obtain ⟨i, j, es, fs, rfl, rfl, -⟩ := hvw
    exact hsame
  | trace implements =>
    have hlist : Matches ev P Q (ListTwin f)
        (EngineClass.makeLayout ⟨.trace implements, label, supports⟩ (.list vs))
        (EngineClass.makeLayout ⟨.trace implements, label, supports⟩ (.list ws)) :=
      h.traced _ _ _ _ (helements.bind fun xs ys hxy =>
        .pure (sameThrough_list (.cons (.self f _) (.cons hxy .nil))))
    refine hlist.mono fun v w hvw => ?_
    obtain ⟨xs, ys, rfl, rfl, hxy⟩ := hvw
    exact hxy

/-- Making the sections beforehand makes no difference. -/
lemma matches_staged (hs : s.Undisturbed) (hk : s.KnowsAttributes) {args : List Value}
    (ha : ∀ x ∈ args, s.Admits c.kind x)
    (hnan : Double.Blends f ∨ ∀ x ∈ args, ¬ s.ReadsNan ev c.kind x) :
    Matches ev (s.Upholds engine config c requested) (s.Upholds engine config c requested)
      (fun v w => (v.through f).equals (w.through f) = true) (Layout.make args engine config)
      (Layout.staged args engine config) := by
  intro t u ht hu
  by_cases hne : args = []
  · subst hne
    exact ⟨.error .noSections, ht, hu⟩
  obtain ⟨C, t₁, hmake, hC, htt₁, ht₁⟩ := exec_engage ev ht.provides
  obtain ⟨hsections, ⟨hleft, hC'⟩, hright⟩ := Matches.mapM_of_mem
    (fun x hx => matches_section ev hs hk (ha x hx) (hnan.imp_right fun hall => hall x hx)
      t.composers.size C)
    t₁ u ⟨⟨ht.advances.trans htt₁, ht₁⟩, hC⟩ hu
  unfold Layout.make Layout.staged
  rw [if_neg (by simpa using hne), exec_bind_ok hmake, Layout.resolveSections_eq_mapM]
  rcases hl : (args.mapM (Layout.sectionWith t.composers.size)).exec ev t₁ with ⟨x, t₂⟩
  rcases hr : (args.mapM (Layout.sectionOf engine config)).exec ev u with ⟨y, u₂⟩
  rw [hl] at hsections hleft hC'
  rw [hr] at hsections hright
  cases hsections with
  | error e =>
    rw [exec_bind_error hl, exec_bind_error hr]
    exact ⟨.error e, hleft, hright⟩
  | @ok vs ws hvw =>
    obtain ⟨-, hws⟩ := EngineKind.isSection_of_forall₂ hvw
    have hne' : ws ≠ [] := by
      rintro rfl
      exact hne (List.length_eq_zero_iff.1 (length_of_exec_mapM hr).symm)
    obtain ⟨D, u₃, hmake', hD, huu₃, hu₃⟩ := exec_engage ev hright.provides
    have hresolved : (Layout.resolveSections u₂.composers.size ws).exec ev u₃ = (.ok ws, u₃) :=
      exec_resolveSections ev u₃ _ fun w hw => EngineKind.isGroup_of_isSection (hws w hw)
    have hparallel : s.Parallel
        (fun v => s.Upholds engine config c requested v ∧
          v.Engaged t.composers.size C c requested)
        (fun v => s.Upholds engine config c requested v ∧
          v.Engaged u₂.composers.size D c requested) :=
      ⟨hs, hk, .engaged .upholds, .engaged .upholds⟩
    obtain ⟨hagrees, ⟨hleft', -⟩, hright', -⟩ := matches_makeLayout ev hparallel hvw t₂ u₃
      ⟨hleft, hC'⟩ ⟨⟨hright.advances.trans huu₃, hu₃⟩, hD⟩
    rw [exec_bind_ok hl, exec_bind_ok hr, Layout.make, if_neg (by simpa using hne'),
      exec_bind_ok hmake', exec_bind_ok hresolved, hC'.exec_layout ev vs, hD.exec_layout ev ws]
    exact ⟨hagrees, hleft', hright'⟩

/-- Sections are ready; the first group needs an engine. -/
lemma exec_sections_unknown (config : Value) (h : s.IsEngine engine) (hc : s.class? engine = none)
    (args : List Value) : (args.mapM (Layout.sectionOf engine config)).exec ev s =
      if args.any Layout.isGroup then
        (.error (s.registry.loadBundled.notFound ((s.engineMeant engine).shown s.loggerWritten)),
          { s with registry := s.registry.loadBundled })
      else (.ok args, s) := by
  induction args with
  | nil => rfl
  | cons x args ih =>
    rw [List.mapM_cons, Layout.sectionOf, List.any_cons]
    cases hx : Layout.isGroup x with
    | true =>
      have hmake := exec_make_unknown ev config h hc
      rw [if_pos rfl, Bool.true_or, if_pos rfl]
      unfold Layout.makeSection
      rw [exec_bind_error (exec_bind_error hmake)]
    | false =>
      rw [if_neg (by simp), exec_bind_ok (exec_pure ev s x), Bool.false_or]
      cases hany : args.any Layout.isGroup with
      | true =>
        rw [hany, if_pos rfl] at ih
        rw [exec_bind_error ih, if_pos rfl]
      | false =>
        rw [hany, if_neg (by simp)] at ih
        rw [exec_bind_ok ih, if_neg (by simp)]
        rfl

/-- Without an engine of the name nothing is composed, neither for the layout nor beforehand. -/
lemma exec_layouts_unknown (config : Value) (h : s.IsEngine engine) (hc : s.class? engine = none)
    {args : List Value} (hne : args ≠ []) :
    let failed : Except Fault Value × Session :=
      (.error (s.registry.loadBundled.notFound ((s.engineMeant engine).shown s.loggerWritten)),
        { s with registry := s.registry.loadBundled })
    (Layout.make args engine config).exec ev s = failed ∧
      (Layout.staged args engine config).exec ev s = failed := by
  intro failed
  have hlayout : (Layout.make args engine config).exec ev s = failed := by
    have hmake := exec_make_unknown ev config h hc
    unfold Layout.make
    rw [if_neg (by simpa using hne), exec_bind_error hmake]
  refine ⟨hlayout, ?_⟩
  have hsections := exec_sections_unknown ev config h hc args
  unfold Layout.staged
  split at hsections
  · rw [exec_bind_error hsections]
  · rw [exec_bind_ok hsections, hlayout]

/-- An engine that was not found is not found again. -/
lemma class?_loadBundled (h : s.IsEngine engine) (hc : s.class? engine = none) :
    let t : Session := { s with registry := s.registry.loadBundled }
    t.IsEngine engine ∧ t.class? engine = none := by
  intro t
  have ht : t.IsEngine engine := by
    cases h with
    | given c hown => exact .given c hown
    | named h => exact .named h
    | missing => exact .missing
  refine ⟨ht, ?_⟩
  rcases ht.elim with ⟨c, id, rfl, -, -⟩ | ⟨name, hn, -, ht⟩
  · cases hc
  · rcases h.elim with ⟨c, id, rfl, -, h⟩ | ⟨name', hn', -, h⟩
    · cases h.symm.trans hc
    · obtain rfl : name' = name := hn'.symm.trans hn
      rw [ht]
      exact Registry.find?_lookUp_loadBundled (h.symm.trans hc)

/-- **Staging**: a layout of groups, group builders and sections that are ready equals the layout of
their sections, made one by one from left to right beforehand with the engine and the configuration
of the layout: but for the tags of not-a-numbers, and with them unless a not-a-number is read of a
text. In any case both are made, or both fail for the same reason, and the first group of which no
section can be made decides. An engine that cannot be found under its name is missed before any
group is composed, and without arguments there is no layout. -/
theorem layout_staged (hs : s.Undisturbed) (hk : s.KnowsAttributes) (he : s.IsEngine engine)
    (hc : s.requested? config = some requested) (args : List Value) :
    let made := (Layout.make args engine config).exec ev s
    let staged (t : Session) := (Layout.staged args engine config).exec ev t
    (∀ c, s.class? engine = some c → (∀ x ∈ args, s.Admits c.kind x) →
      ∀ t, t = s ∨ t = made.2 →
        Agrees (fun v w => v.untagged.equals w.untagged = true ∧
            ((∀ x ∈ args, ¬ s.ReadsNan ev c.kind x) → v.equals w = true)) made.1 (staged t).1 ∧
        ∀ before x after vs u e, args = before ++ x :: after →
          (before.mapM (Layout.sectionOf engine config)).exec ev t = (.ok vs, u) →
          ((Layout.sectionOf engine config x).exec ev u).1 = .error e → made.1 = .error e) ∧
    (s.class? engine = none → args ≠ [] → staged s = made ∧ staged made.2 = made ∧ made =
      (.error (s.registry.loadBundled.notFound ((s.engineMeant engine).shown s.loggerWritten)),
        { s with registry := s.registry.loadBundled })) ∧
    ∀ engine config, (Layout.make [] engine config).exec ev s = (.error .noSections, s) ∧
      (Layout.staged [] engine config).exec ev s = (.error .noSections, s) := by
  intro made staged
  refine ⟨fun c hclass ha => ?_, fun hclass hne => ?_, fun engine config => ⟨rfl, rfl⟩⟩
  · -- an engine is found, now and after the layout was made
    have hstart : s.Upholds engine config c requested s := ⟨.refl s, hs, he, hclass, hc⟩
    have hmatches : ∀ f, (Double.Blends f ∨ ∀ x ∈ args, ¬ s.ReadsNan ev c.kind x) →
        Matches ev (s.Upholds engine config c requested) (s.Upholds engine config c requested)
          (fun v w => (v.through f).equals (w.through f) = true) (Layout.make args engine config)
          (Layout.staged args engine config) := fun _ => matches_staged ev hs hk ha
    have huntagged := hmatches _ (.inl Double.blends_untagged)
    have hend : s.Upholds engine config c requested made.2 := (huntagged s s hstart hstart).2.1
    intro t ht
    have ht : s.Upholds engine config c requested t := by
      rcases ht with rfl | rfl
      · exact hstart
      · exact hend
    obtain ⟨hagrees, -, -⟩ := huntagged s t hstart ht
    refine ⟨hagrees.and_imp fun hnan => ?_, fun before x after vs u e hargs hbefore hx => ?_⟩
    · -- no not-a-number is read, and tags may be looked at
      simpa only [through_id] using (hmatches id (.inr hnan) s t hstart ht).1
    · -- a group fails beforehand
      have hfailed : (staged t).1 = .error e := by
        rcases hu : (Layout.sectionOf engine config x).exec ev u with ⟨y, u'⟩
        obtain rfl : y = .error e := by rw [← hx, hu]
        have hargs : (args.mapM (Layout.sectionOf engine config)).exec ev t = (.error e, u') := by
          rw [hargs, List.mapM_append, exec_bind_ok hbefore, List.mapM_cons]
          exact exec_bind_error (exec_bind_error hu)
        exact congrArg Prod.fst (exec_bind_error hargs)
      have hmade : Agrees _ made.1 (staged t).1 := hagrees
      rw [hfailed] at hmade
      generalize made.1 = y at hmade ⊢
      cases hmade
      rfl
  · -- none is found, neither now nor then
    obtain ⟨hmade, hstaged⟩ := exec_layouts_unknown ev config he hclass hne
    obtain ⟨he', hclass'⟩ := class?_loadBundled he hclass
    obtain ⟨-, hagain⟩ := exec_layouts_unknown ev config he' hclass' hne
    refine ⟨hstaged.trans hmade.symm, ?_, hmade⟩
    change (Layout.staged args engine config).exec ev made.2 = made
    rw [show made = _ from hmade, hagain]
    simp only [Registry.loadBundled_loadBundled]
    rfl

/-- A column builder with its space in a dict, around a slot that holds a text among its edge
spacings, a row with that slot in a list, and a section that is ready, with the engine and the
configuration from the settings; and with an engine that nobody has registered. -/
theorem layout_staged_mixed :
    let z : LayoutSize := ⟨1, ⟨2, .absolute, .zero⟩, ⟨3, .absolute, .zero⟩⟩
    let slot : Value :=
      .slot 4 (.text "slot") (.size z) .null (.edges 5 (.text "abc") .null .null .null) (.int 2)
    let space : Value := .dict 6 [("mode", .text "fixed"), ("value", .int 5)]
    let column : Box := ⟨.size z, .null, .null, .group (.text "vertical") space (.tuple [slot])⟩
    let row : Value := .group 7 (.text "group") (.size z) .null .null (.direction .horizontal) .null
      (.row true [slot])
    let ready : Value := .hostSection 8 (.itemGroup 9 z .vertical [] .null .null .null .null)
      (.insets (.none 10)) .zero
    let args : List Value := [.box .group 0, row, ready]
    let s : Session := { Session.initial [] false with boxes := #[column], serial := 11 }
    let made (engine : Value) := (Layout.make args engine .null).exec .none s
    let staged (engine : Value) := (Layout.staged args engine .null).exec .none (made engine).2
    (∃ v w, (made .null).1 = .ok v ∧ (staged .null).1 = .ok w ∧ v.equals w = true) ∧
      staged (.text "rows") = made (.text "rows") ∧
      (made (.text "rows")).1 = .error (.unknownEngine "rows" ["model", "descriptor"]) := by
  intro z slot space column row ready args s made staged
  have hs : s.Undisturbed := ⟨fun _ _ _ => rfl, fun _ _ => rfl, .of_untouched rfl fun _ => rfl,
    .of_untouched rfl fun _ => rfl⟩
  have hk : s.KnowsAttributes := fun _ _ _ h => by cases h
  have hslot : s.Composable slot := .slot (by simp [Session.Knows])
  have hargs : ∀ x ∈ args, s.Admits .model x := by
    intro x hx
    simp only [args, List.mem_cons, List.not_mem_nil, or_false] at hx
    rcases hx with rfl | rfl | rfl
    · have hcolumn : s.boxes[0]? = some column := rfl
      refine .builder hcolumn rfl (fun x hx => ?_) (by simp [column, space, Session.Knows]) rfl
      rw [List.mem_singleton.1 hx]
      exact ⟨rfl, hslot⟩
    · refine .group (by simp [Session.Knows]) fun x hx => ?_
      rw [List.mem_singleton.1 hx]
      exact hslot
    · exact .ready rfl
  have hslotnan : ¬ s.SizesNan .none slot := Session.not_sizesNan rfl fun x hx => by cases hx
  have hspace : ¬ space.WritesNan .measure := by
    refine not_writesNan_dict fun e he part hpart => ?_
    simp only [Form.parts, List.mem_singleton, Prod.mk.injEq] at hpart
    obtain ⟨hname, rfl⟩ := hpart
    simp only [List.mem_cons, List.not_mem_nil, or_false] at he
    rcases he with rfl | rfl
    · exact absurd hname (by decide)
    · exact not_writesNan_number rfl
  have hnan : ∀ x ∈ args, ¬ s.ReadsNan .none .model x := by
    intro x hx
    simp only [args, List.mem_cons, List.not_mem_nil, or_false] at hx
    rcases hx with rfl | rfl | rfl
    · have hcolumn : s.boxes[0]? = some column := rfl
      refine Session.not_readsNan_builder hcolumn rfl (not_writesNan (by simp [Form.parts]) rfl)
        (not_writesNan (by simp [Form.parts]) rfl) (not_writesNan (by simp [Form.parts]) rfl)
        hspace fun x hx => ?_
      rw [List.mem_singleton.1 hx]
      exact hslotnan
    · refine Session.not_readsNan (by simp [row]) (Session.not_sizesNan rfl fun x hx => ?_)
      rw [List.mem_singleton.1 hx]
      exact hslotnan
    · exact Session.not_readsNan (by simp [ready]) (Session.not_sizesNan_of_isBox rfl)
  have hconfig : s.requested? .null = some .null := rfl
  have hengine : s.IsEngine (.text "rows") := .named rfl
  obtain ⟨hknown, -, -⟩ := layout_staged .none hs hk .missing hconfig args
  obtain ⟨-, hunknown, -⟩ := layout_staged .none hs hk hengine hconfig args
  obtain ⟨-, hsame, hrows⟩ := hunknown (by decide +kernel) (by simp [args])
  refine ⟨?_, hsame, congrArg Prod.fst hrows⟩
  have hok : (made .null).1.isOk = true := by decide +kernel
  have hagrees : Agrees (fun v w => v.equals w = true) (made .null).1 (staged .null).1 :=
    (hknown .model (by rfl) hargs _ (.inr rfl)).1.mono fun v w h => h.2 hnan
  generalize (made .null).1 = x at hok hagrees
  generalize (staged .null).1 = y at hagrees
  cases hagrees with
  | ok h => exact ⟨_, _, rfl, rfl, h⟩
  | error e => cases hok

/-- A builder whose space writes a not-a-number builds groups that have another one each time. -/
theorem staged_differs_nan :
    let z : LayoutSize := ⟨1, ⟨2, .absolute, .zero⟩, ⟨3, .absolute, .zero⟩⟩
    let slot : Value := .slot 4 (.text "slot") (.size z) .null .null (.int 1)
    let space : Value := .dict 5 [("mode", .text "fixed"), ("value", .text "nan")]
    let row : Box := ⟨.size z, .null, .null, .group (.text "horizontal") space (.tuple [slot])⟩
    let s : Session := { Session.initial [] false with boxes := #[row], serial := 6 }
    let made := (Layout.make [.box .group 0] .null .null).exec .none s
    let staged := (Layout.staged [.box .group 0] .null .null).exec .none made.2
    ∃ v w, made.1 = .ok v ∧ staged.1 = .ok w ∧ v.equals w = false := by
  intro z slot space row s made staged
  have hdiffer : (made.1.toOption.bind fun v => staged.1.toOption.map v.equals) = some false := by
    decide +kernel
  generalize made.1 = x at hdiffer ⊢
  generalize staged.1 = y at hdiffer ⊢
  cases x with
  | error e => cases hdiffer
  | ok v =>
    cases y with
    | error e => cases hdiffer
    | ok w => exact ⟨v, w, rfl, rfl, Option.some.inj hdiffer⟩

end Sections

end LayoutTree
