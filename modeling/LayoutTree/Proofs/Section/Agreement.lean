import LayoutTree.Proofs.Descriptor.Rebuild
import LayoutTree.Proofs.Section.Making

/-!
The two engines that come along describe the same layout. Each section and the layout around them
are made by both engines in parallel: they fail together, or what the descriptor engine makes
describes what the model engine makes.
-/

namespace LayoutTree

open Run

/-! ### One engine -/

section Engine

variable (ev : Evaluator) {s : Session} (c : EngineClass) (engine : Nat) (on : Option Bool)

lemma exists_composer (hs : s.Hosts engine) : ∃ C t,
    (Composer.make (c.engine engine) (.config (.ofBool? on))).exec ev s =
      (.ok s.composers.size, t) ∧
    (composer s.composers.size).exec ev t = (.ok C, t) ∧ C.engine = c.engine engine ∧
    C.repeats.isTruthy = (c.supports && on.getD true) ∧ (s.engaging C).Grows t := by
  obtain ⟨r, t, hmake, hr, ht⟩ := exec_make ev c engine on hs.warns
  let C : Composer := ⟨c.engine engine, .config (.ofBool? on), r⟩
  have ht : (s.engaging C).Grows t := (Session.Grows.refl _).logged ht
  have hC : t.composers[s.composers.size]? = some C := by
    rw [ht.composers_eq]
    exact s.getElem?_engaging C
  exact ⟨C, t, hmake, exec_composer ev hC, rfl, hr, ht⟩

/-- A composer is made, and its engine is asked for the section of what the composer composes. -/
lemma exec_makeSection {R : Value → Plan → Prop} (hs : s.Hosts engine)
    (hR : ∀ C : Composer, C.engine = c.engine engine →
      C.repeats.isTruthy = (c.supports && on.getD true) →
      Realizes ev s.composers.size C R fun _ => (s.engaging C).Grows)
    (f : Frame) (ts : List Tree) (insets spacing : Value) :
    ∃ x u, Agrees R x (Tree.plan (c.supports && on.getD true) f ts) ∧ u.Hosts engine ∧
      (Layout.makeSection (f.toValue (Tree.toValues ts)) (c.engine engine) (.config (.ofBool? on))
        insets spacing).exec ev s =
      ((liftM x : Run Value) >>= (c.makeSection · insets spacing)).exec ev u := by
  obtain ⟨C, t, hmake, hcomposer, he, hr, ht⟩ := exists_composer ev c engine on hs
  obtain ⟨x, u, hrun, hx, hu⟩ :=
    @Realizes.exec_composeGroup _ _ _ _ _ [] _ (hR C he hr) f ts ht
  rw [hr] at hx
  refine ⟨x, u, hx, (hs.engaging C).of_grows hu, ?_⟩
  have hnode : (Layout.groupNode (f.toValue (Tree.toValues ts))).exec ev t =
      (.ok (f.toValue (Tree.toValues ts)), t) := rfl
  have hfield : (field (c.engine engine) "make_section").exec ev t =
      (.ok (.method (c.engine engine) "make_section"), t) :=
    exec_field_method rfl (((hs.engaging C).of_grows ht).engine _) rfl
  unfold Layout.makeSection
  rw [exec_bind_ok hmake, exec_bind_ok hnode, exec_bind_ok hcomposer, he]
  unfold Run.operate
  rw [exec_bind_ok hfield, exec_bind, exec_bind, hrun]
  rcases x with e | v <;> rfl

/-- What is no group stands for itself. -/
lemma exec_resolveSections (s : Session) (id : Nat) {vs : List Value}
    (h : ∀ v ∈ vs, Layout.isGroup v = false) :
    (Layout.resolveSections id vs).exec ev s = (.ok vs, s) := by
  induction vs with
  | nil => rfl
  | cons v vs ih =>
    have hvs := ih fun w hw => h w (by simp [hw])
    rw [Layout.resolveSections, if_neg (by simp [h v (by simp)]), exec_bind_ok (exec_pure ev s v),
      exec_bind_ok hvs]
    rfl

/-- A composer is made, and its engine is asked for the layout of the sections. -/
lemma exec_makeLayout (hs : s.Hosts engine) {vs : List Value} (hne : vs ≠ [])
    (hv : ∀ v ∈ vs, Layout.isGroup v = false) :
    ∃ u, u.Hosts engine ∧ (Layout.make vs (c.engine engine) (.config (.ofBool? on))).exec ev s =
      (c.makeLayout (.list vs)).exec ev u := by
  obtain ⟨C, t, hmake, hcomposer, he, -, ht⟩ := exists_composer ev c engine on hs
  have hu := (hs.engaging C).of_grows ht
  have hfield : (field (c.engine engine) "make_layout").exec ev t =
      (.ok (.method (c.engine engine) "make_layout"), t) :=
    exec_field_method rfl (hu.engine _) rfl
  refine ⟨t, hu, ?_⟩
  unfold Layout.make
  rw [if_neg (by simpa using hne), exec_bind_ok hmake,
    exec_bind_ok (exec_resolveSections ev t _ hv), exec_bind_ok hcomposer, he]
  unfold Run.operate
  rw [exec_bind_ok hfield]
  rfl

end Engine

/-! ### Both engines -/

/-- A group that a section is made of, with the insets of the section and the space between its
groups. -/
structure Part where
  frame : Frame
  children : List Tree
  insets : Option Insets
  spacing : Option Double

/-- The section of a part, made with an engine and a configuration. -/
def Part.makeSection (p : Part) (engine : Value) (on : Option Bool) : Run Value :=
  Layout.makeSection (p.frame.toValue (Tree.toValues p.children)) engine (.config (.ofBool? on))
    (.ofOption .insets p.insets) (.ofOption .float p.spacing)

/-- The layout of the sections of parts. -/
def layoutOf (engine : Value) (on : Option Bool) (parts : List Part) : Run Value := do
  let sections ← parts.mapM (·.makeSection engine on)
  Layout.make sections engine (.config (.ofBool? on))

section Both

variable (ev : Evaluator) (engine engine' : Nat) (on on' : Option Bool)

lemma Part.exec_makeSection_model {s : Session} (hs : s.Hosts engine) (p : Part) :
    ∃ x u, (p.makeSection (EngineClass.model.engine engine) on).exec ev s = (x, u) ∧
      u.Hosts engine ∧
      Agrees (fun v q => ∃ g id j y, v = .hostSection id g (.insets (p.insets.getD (.none j))) y ∧
        (p.spacing.getD .zero).same y = true ∧ q.Modelled s.serial g) x
        (Tree.plan (on.getD true) p.frame p.children) := by
  obtain ⟨x, u, hx, hu, hrun⟩ := exec_makeSection ev .model engine on hs
    (R := fun v p => p.Modelled s.serial v)
    (fun C he _ => realizes_model ev rfl (s.getElem?_engaging C) he (hs.genuine.engaging C)
      hs.unattached)
    p.frame p.children (.ofOption .insets p.insets) (.ofOption .float p.spacing)
  change Agrees _ x (Tree.plan (on.getD true) _ _) at hx
  rcases hq : Tree.plan (on.getD true) p.frame p.children with e | q <;> rw [hq] at hx <;>
    cases hx
  · exact ⟨.error e, u, hrun, hu, .error e⟩
  · rename_i g hg
    obtain ⟨id, j, y, n, hmade, hy, hn⟩ :=
      exec_modelSection ev u p.insets p.spacing hg (Tree.isGroup_plan hq)
    exact ⟨_, _, hrun.trans hmade, hu.reserving hn, .ok ⟨g, id, j, y, rfl, hy, hg⟩⟩

lemma Part.exec_makeSection_descriptor {s : Session} (hs : s.Hosts engine) (p : Part) :
    ∃ x u, (p.makeSection (EngineClass.descriptor.engine engine) on).exec ev s = (x, u) ∧
      u.Hosts engine ∧
      Agrees (fun w q => w.bare = Descriptor.ofSection q.descriptor p.insets p.spacing) x
        (Tree.plan false p.frame p.children) := by
  obtain ⟨x, u, hx, hu, hrun⟩ := exec_makeSection ev .descriptor engine on hs
    (R := fun v p => v.bare = p.descriptor)
    (fun C he hr => realizes_descriptor ev rfl (s.getElem?_engaging C) he (by rw [hr]; rfl)
      (hs.genuine.engaging C))
    p.frame p.children (.ofOption .insets p.insets) (.ofOption .float p.spacing)
  change Agrees _ x (Tree.plan false _ _) at hx
  rcases hq : Tree.plan false p.frame p.children with e | q <;> rw [hq] at hx <;> cases hx
  · exact ⟨.error e, u, hrun, hu, .error e⟩
  · rename_i v hv
    obtain ⟨w, n, hw, hbare, hn⟩ := Descriptor.makes_section ev hv p.insets p.spacing u
    exact ⟨_, _, hrun.trans hw, hu.reserving hn, .ok hbare⟩

/-- What both engines make of a part: a section of the model engine, and a dict that describes
it. -/
def SectionsMatch (v w : Value) : Prop :=
  v.isHostSection = true ∧ Layout.isGroup w = false ∧ w.Describes v

/-- The engines make sections of a part that agree, or fail for the same reason. -/
lemma Part.matches_makeSection (p : Part) :
    Matches ev (·.Hosts engine) (·.Hosts engine') SectionsMatch
      (p.makeSection (EngineClass.model.engine engine) on)
      (p.makeSection (EngineClass.descriptor.engine engine') on') := by
  intro s t hs ht
  obtain ⟨x, u, hrun, hu, hx⟩ := p.exec_makeSection_model ev engine on hs
  obtain ⟨y, u', hrun', hu', hy⟩ := p.exec_makeSection_descriptor ev engine' on' ht
  rw [hrun, hrun']
  refine ⟨hx.join hy (Tree.agrees_plans ..) ?_, hu, hu'⟩
  rintro v q w r ⟨g, id, j, y, rfl, hspace, hg⟩ hw ⟨hr, hq, -⟩
  refine ⟨rfl, ?_, ?_⟩
  · obtain ⟨i, es, rfl⟩ := Value.eq_dict_of_bare hw
    rfl
  · rw [Value.Describes, ← Value.filled_bare, hw, Tree.descriptor_plan hr]
    exact Descriptor.section_describes (Tree.plan_describes _ (Tree.allUnits_describe _) hq hg)
      hspace id j

lemma isGroup_of_isHostSection {v : Value} (h : v.isHostSection = true) :
    Layout.isGroup v = false := by
  cases v <;> first | rfl | cases h

/-- The subitems of a host group as they are read are described one by one by the subitems that the
descriptor of the group lists. -/
theorem subitems_agree {s t : Session} (hs : s.Hosts engine) (ht : t.Hosts engine') (f : Frame)
    (ts : List Tree) :
    Agrees (fun v w => ∃ ys id es us,
        (∀ ev s, (field v "effective_subitems").exec ev s = (.ok (.list ys), s)) ∧
        w = .dict id es ∧ Fields.get? es "subitems" = some (.list us) ∧
        List.Forall₂ Value.Describes us ys)
      ((composeWith (EngineClass.model.engine engine) on
        (f.toValue (Tree.toValues ts))).exec ev s).1
      ((composeWith (EngineClass.descriptor.engine engine') on'
        (f.toValue (Tree.toValues ts))).exec ev t).1 := by
  have hx := agrees_model ev engine (c := .model) on rfl hs.genuine hs.unattached f ts
  have hy := agrees_descriptor ev engine' (c := .descriptor) on' rfl rfl ht.genuine f ts
  refine hx.join hy (Tree.agrees_plans _ f ts) fun v p w q hv hw ⟨hq, hp, _⟩ => ?_
  obtain ⟨ys, hread, hdescribes⟩ := Tree.effective_describes f ts hp hv
  rw [Tree.descriptor_plan hq] at hw
  obtain ⟨id, es, rfl⟩ := Value.eq_dict_of_bare hw
  have hentries : Value.bareEntries es = (Tree.group f (Tree.allUnits ts)).entries :=
    (Value.dict.inj hw).2
  have hsub : (Fields.get? es "subitems").map Value.bare =
      some (.list (Tree.descriptors (Tree.allUnits ts))) := by
    rw [← Value.get?_bareEntries, hentries]
    rfl
  obtain ⟨x, hx, hbare⟩ := Option.map_eq_some_iff.1 hsub
  obtain ⟨us, rfl⟩ : ∃ us, x = .list us := by
    by_contra hlist
    exact Value.bare_ne_list (fun us hus => hlist ⟨us, hus⟩) _ hbare
  refine ⟨ys, id, es, us, hread, rfl, hx, ?_⟩
  rw [← Value.list.inj hbare] at hdescribes
  rw [← Descriptor.sameAll_iff_describes, Value.filledAll_bareAll] at hdescribes
  exact Descriptor.sameAll_iff_describes.1 hdescribes

/-- The layouts of sections that agree do so as well. -/
lemma matches_make {vs ws : List Value} (h : List.Forall₂ SectionsMatch vs ws) :
    Matches ev (·.Hosts engine) (·.Hosts engine') (fun v w => w.Describes v)
      (Layout.make vs (EngineClass.model.engine engine) (.config (.ofBool? on)))
      (Layout.make ws (EngineClass.descriptor.engine engine') (.config (.ofBool? on'))) := by
  obtain ⟨hvs, hrest⟩ := (List.forall₂_and_left vs ws).1 h
  obtain ⟨hws, hdescribes⟩ : (∀ w ∈ ws, Layout.isGroup w = false) ∧
      List.Forall₂ Value.Describes ws vs := (List.forall₂_and_left ws vs).1 hrest.flip
  by_cases hne : vs = []
  · subst hne
    cases h
    exact .throw .noSections
  intro s t hs ht
  obtain ⟨u, hu, hrun⟩ := exec_makeLayout ev .model engine on hs hne fun v hv =>
    isGroup_of_isHostSection (hvs v hv)
  obtain ⟨u', hu', hrun'⟩ := exec_makeLayout ev .descriptor engine' on' ht
    (fun hw => hne (List.forall₂_nil_right_iff.1 (hw ▸ h))) hws
  obtain ⟨w, n, hw, hbare, hn⟩ := Descriptor.makes_layout ev ws u'
  rw [hrun, hrun', exec_modelLayout ev u hvs, hw]
  refine ⟨.ok ?_, hu.reserving (Nat.le_add_right ..), hu'.reserving hn⟩
  have hlayout := Descriptor.layout_describes hdescribes (u.serial + 1)
  rw [Value.Describes, ← Value.filled_bare] at hlayout ⊢
  rwa [hbare]

/-- Parts whose groups fit become sections. -/
lemma exists_sections {s : Session} (hs : s.Hosts engine) {parts : List Part}
    (h : ∀ p ∈ parts, (Tree.group p.frame p.children).Fits) :
    ∃ vs u, (parts.mapM fun p : Part => p.makeSection (EngineClass.model.engine engine) on).exec
        ev s = (.ok vs, u) ∧ u.Hosts engine ∧ vs.length = parts.length ∧
      ∀ v ∈ vs, v.isHostSection = true := by
  induction parts generalizing s with
  | nil => exact ⟨[], s, rfl, hs, rfl, by simp⟩
  | cons p parts ih =>
    obtain ⟨x, t, hrun, ht, hx⟩ := p.exec_makeSection_model ev engine on hs
    obtain ⟨q, hq⟩ := Tree.exists_plan (on.getD true) p.frame p.children (h p (by simp))
    rw [hq] at hx
    cases hx with
    | ok hv =>
      obtain ⟨g, id, j, y, rfl, -, -⟩ := hv
      obtain ⟨vs, u, hrest, hu, hlen, hvs⟩ := ih ht fun p hp => h p (by simp [hp])
      refine ⟨.hostSection id g (.insets (p.insets.getD (.none j))) y :: vs, u, ?_, hu,
        by simp [hlen], List.forall_mem_cons.2 ⟨rfl, hvs⟩⟩
      rw [List.mapM_cons, exec_bind_ok hrun, exec_bind_ok hrest]
      rfl

lemma exists_layout {s : Session} (hs : s.Hosts engine) {parts : List Part} (hne : parts ≠ [])
    (h : ∀ p ∈ parts, (Tree.group p.frame p.children).Fits) :
    ∃ v, ((layoutOf (EngineClass.model.engine engine) on parts).exec ev s).1 = .ok v := by
  obtain ⟨vs, t, hrun, ht, hlen, hvs⟩ := exists_sections ev engine on hs h
  have hvs' : vs ≠ [] := by
    rintro rfl
    exact hne (List.length_eq_zero_iff.1 hlen.symm)
  obtain ⟨u, -, hmake⟩ := exec_makeLayout ev .model engine on ht hvs' fun v hv =>
    isGroup_of_isHostSection (hvs v hv)
  exact ⟨_, by rw [layoutOf, exec_bind_ok hrun, hmake, exec_modelLayout ev u hvs]⟩

/-- **Agreement**: whatever they are told about repetition, the model engine and the descriptor
engine fail on the same parts for the same reason, or the descriptor of the layout, with all its
defaults filled in, equals the layout of the model engine as it is rendered. They do not fail if
there are parts and all groups fit. -/
theorem layout_agrees {s t : Session} (hs : s.Hosts engine) (ht : t.Hosts engine')
    (parts : List Part) :
    let made := ((layoutOf (EngineClass.model.engine engine) on parts).exec ev s).1
    let described := ((layoutOf (EngineClass.descriptor.engine engine') on' parts).exec ev t).1
    Agrees (fun v w => w.filled.same v.rendered = true) made described ∧
      (parts ≠ [] → (∀ p ∈ parts, (Tree.group p.frame p.children).Fits) → ∃ v, made = .ok v) := by
  intro made described
  refine ⟨?_, exists_layout ev engine on hs⟩
  have h := (Matches.mapM (fun p : Part => p.matches_makeSection ev engine engine' on on')
    parts).bind fun vs ws h => matches_make ev engine engine' on on' h
  exact (h s t hs ht).1

/-- A layout of two sections: a row of three items with two of them from one slot, without insets
and with space, and a column that holds such a row, with insets and without space. -/
theorem layout_agrees_nested :
    let z : LayoutSize := ⟨1, ⟨2, .absolute, .zero⟩, ⟨3, .estimated, .zero⟩⟩
    let row : Frame := ⟨4, z, none, some ⟨5, none, some ⟨6, .fixed, .zero⟩, none, none⟩,
      .horizontal, some ⟨7, .flexible, .zero⟩⟩
    let column : Frame := ⟨8, z, some (.none 9), none, .vertical, none⟩
    let slots : List Tree := [.slot ⟨10, z, none, none, 2, by decide⟩,
      .slot ⟨11, { z with id := 12 }, none, none, 1, by decide⟩]
    let parts : List Part := [⟨row, slots, none, some (.finite true 0 0)⟩,
      ⟨column, [.group row slots], some (.none 13), none⟩]
    let made := ((layoutOf (EngineClass.model.engine 0) (some true) parts).exec .none
      (.initial [] false)).1
    let described := ((layoutOf (EngineClass.descriptor.engine 0) none parts).exec .none
      (.initial [] false)).1
    ∃ v w, made = .ok v ∧ described = .ok w ∧ w.filled.same v.rendered = true := by
  intro z row column slots parts made described
  obtain ⟨h, hfit⟩ := layout_agrees .none 0 0 (some true) none (Session.hosts_initial [] false 0)
    (Session.hosts_initial [] false 0) parts
  obtain ⟨v, hv⟩ := hfit (by simp [parts])
    (by simp [parts, slots, Tree.Fits, Tree.AllFit, memoryLimit])
  change Agrees _ made described at h
  change made = .ok v at hv
  rw [hv] at h
  generalize described = y at h ⊢
  cases h with
  | ok h => exact ⟨v, _, hv, rfl, h⟩

end Both

end LayoutTree
