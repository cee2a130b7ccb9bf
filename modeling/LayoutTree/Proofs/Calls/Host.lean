import LayoutTree.Proofs.Calls.Tree

/-!
The engines that come with the library, and calling any engine. Engines of a script are foreign
code, and all that is asked of them is what is asked of such code.
-/

namespace LayoutTree

open Run

variable {ev ev' : Evaluator} {g : Environment → Environment} {foreign : Code → Prop}
  {P : Session → Prop}

/-- Only engines have these methods. -/
lemma Value.eq_engine_of_hasMethod {operation : String} (ho : operation ∈ EngineClass.operations)
    {v : Value} (h : v.hasMethod operation = true) :
    ∃ id kind label supports, v = .engine id kind label supports := by
  simp only [EngineClass.operations, List.mem_cons, List.not_mem_nil, or_false] at ho
  cases v with
  | engine id kind label supports => exact ⟨id, kind, label, supports, rfl⟩
  | box kind id =>
    cases kind <;>
      rcases ho with rfl | rfl | rfl | rfl | rfl | rfl | rfl | rfl <;>
      simp [hasMethod, ownMethods, classMethods] at h
  | _ =>
    rcases ho with rfl | rfl | rfl | rfl | rfl | rfl | rfl | rfl <;>
      simp [hasMethod, ownMethods, classMethods] at h

namespace Session.Stable

section

variable (hP : Session.Stable ev ev' g foreign P)
include hP

/-! ### The model engine -/

lemma modelConfigured (obj : Value) {name : String} (hn : name ∉ hooks) (x : Value) :
    (Model.configured obj name x).Blind ev ev' g P := by
  have hname : ∀ n ∈ hooks, (name : Text) ≠ .plain n := by
    rintro n hmem ⟨⟩
    exact hn hmem
  refine hP.field_bind (by decide) obj (fun f hf => ?_) fun _ => hP.copyWith obj hname x
  split
  · exact hP.copyWith _ hname x
  · exact .bind (hP.newDict _) fun _ => hP.call hf _

lemma modelGroup (direction size subitems : Value) :
    (Model.makeGroup direction size subitems).Blind ev ev' g P :=
  .bind (hP.elements _) fun _ => hP.construct _ _

lemma modelSection (group insets spacing : Value) :
    (Model.makeSection group insets spacing).Blind ev ev' g P := by
  unfold Model.makeSection
  dsimp only
  by_cases hi : insets.isTruthy = true
  · rw [if_pos hi]
    exact .bind (.pure _) fun _ => hP.construct _ _
  · rw [if_neg hi]
    exact .bind (hP.construct _ _) fun _ => hP.construct _ _

lemma modelLayout (sections : Value) : (Model.makeLayout sections).Blind ev ev' g P :=
  .bind (hP.elements _) fun _ => hP.construct _ _

/-! ### The descriptor engine -/

lemma descriptorMeasure (label? : Text → Option String) (v : Value) :
    (Descriptor.measure label? v).Blind ev ev' g P := by
  have hlabel : ∀ mode, (Descriptor.modeLabel label? mode).Blind ev ev' g P := by
    intro mode
    unfold Descriptor.modeLabel
    split
    · exact .throw _
    · split
      · exact .pure _
      · exact .bind (.get (fun _ => rfl) fun _ => .pure _) fun _ => .throw _
  exact .bind (blind_field _ _) fun mode => .bind (hlabel mode) fun _ =>
    .bind (blind_field _ _) fun _ => hP.newDict _

lemma descriptorSize (v : Value) : (Descriptor.size v).Blind ev ev' g P :=
  .bind (blind_field _ _) fun width => .bind (hP.descriptorMeasure _ width) fun _ =>
    .bind (blind_field _ _) fun height => .bind (hP.descriptorMeasure _ height) fun _ =>
      hP.newDict _

lemma descriptorSpacing (v : Value) : (Descriptor.spacing v).Blind ev ev' g P := by
  unfold Descriptor.spacing
  split
  · exact .pure _
  · exact hP.descriptorMeasure _ _

lemma descriptorInsets (v : Value) : (Descriptor.insets v).Blind ev ev' g P :=
  .bind (blind_field _ _) fun _ => .bind (blind_field _ _) fun _ =>
    .bind (blind_field _ _) fun _ => .bind (blind_field _ _) fun _ => hP.newDict _

lemma descriptorEdges (v : Value) : (Descriptor.edges v).Blind ev ev' g P :=
  .bind (blind_field _ _) fun leading => .bind (hP.descriptorSpacing leading) fun _ =>
    .bind (blind_field _ _) fun top => .bind (hP.descriptorSpacing top) fun _ =>
      .bind (blind_field _ _) fun trailing => .bind (hP.descriptorSpacing trailing) fun _ =>
        .bind (blind_field _ _) fun bottom => .bind (hP.descriptorSpacing bottom) fun _ =>
          hP.newDict _

lemma descriptorExtended (obj : Value) (key : Text) {describe : Run Value}
    (hd : describe.Blind ev ev' g P) : (Descriptor.extended obj key describe).Blind ev ev' g P := by
  unfold Descriptor.extended
  split
  · exact .bind hd fun _ => hP.newDict _
  · exact .throw _

lemma descriptorGroup (direction size subitems : Value) :
    (Descriptor.makeGroup direction size subitems).Blind ev ev' g P :=
  .bind (blind_field _ _) fun _ => .bind (hP.descriptorSize _) fun _ =>
    .bind (hP.elements _) fun _ => hP.newDict _

lemma descriptorSection (group insets spacing : Value) :
    (Descriptor.makeSection group insets spacing).Blind ev ev' g P := by
  unfold Descriptor.makeSection
  dsimp only
  split
  · exact .bind (.pure _) fun _ => hP.newDict _
  · exact .bind (.map _ (hP.descriptorInsets _)) fun _ => hP.newDict _

lemma descriptorLayout (sections : Value) : (Descriptor.makeLayout sections).Blind ev ev' g P :=
  .bind (hP.elements _) fun _ => hP.newDict _

/-! ### Any engine -/

lemma traced (c : EngineClass) (method : String) (operands : List Value)
    {parts : Run (List Value)} (hp : parts.Blind ev ev' g P) :
    (c.traced method operands parts).Blind ev ev' g P := by
  refine .bind (.get (fun _ => rfl) fun _ => .pure _) fun label => ?_
  exact .bind (hP.update (fun _ => rfl) fun s => .traced label method operands) fun _ =>
    .bind hp fun _ => .pure _

section Engine

variable (c : EngineClass)

lemma makeItem (size : Value) : (c.makeItem size).Blind ev ev' g P := by
  unfold EngineClass.makeItem
  split
  · exact hP.construct _ _
  · exact .bind (hP.descriptorSize _) fun _ => hP.newDict _
  · exact hP.traced c _ _ (.pure _)

lemma makeGroup (direction size subitems : Value) :
    (c.makeGroup direction size subitems).Blind ev ev' g P := by
  unfold EngineClass.makeGroup
  split
  · exact hP.modelGroup direction size subitems
  · exact hP.descriptorGroup direction size subitems
  · exact hP.traced c _ _ (.bind (hP.elements _) fun _ => .pure _)

lemma makeRepeatedGroup (direction size item count : Value) :
    (c.makeRepeatedGroup direction size item count).Blind ev ev' g P := by
  unfold EngineClass.makeRepeatedGroup
  split
  · exact hP.construct _ _
  · exact hP.traced c _ _ (.pure _)
  · exact .bind (.get (fun _ => rfl) fun _ => .pure _) fun _ => .throw _

lemma withContentInsets (obj insets : Value) :
    (c.withContentInsets obj insets).Blind ev ev' g P := by
  unfold EngineClass.withContentInsets
  split
  · exact hP.modelConfigured obj (by decide) insets
  · exact hP.descriptorExtended obj _ (hP.descriptorInsets insets)
  · exact hP.traced c _ _ (.pure _)

lemma withEdgeSpacing (obj edges : Value) : (c.withEdgeSpacing obj edges).Blind ev ev' g P := by
  unfold EngineClass.withEdgeSpacing
  split
  · exact hP.modelConfigured obj (by decide) edges
  · exact hP.descriptorExtended obj _ (hP.descriptorEdges edges)
  · exact hP.traced c _ _ (.pure _)

lemma withInterItemSpacing (obj spacing : Value) :
    (c.withInterItemSpacing obj spacing).Blind ev ev' g P := by
  unfold EngineClass.withInterItemSpacing
  split
  · exact hP.modelConfigured obj (by decide) spacing
  · exact hP.descriptorExtended obj _ (hP.descriptorSpacing spacing)
  · exact hP.traced c _ _ (.pure _)

lemma engineSection (group insets spacing : Value) :
    (c.makeSection group insets spacing).Blind ev ev' g P := by
  unfold EngineClass.makeSection
  split
  · exact hP.modelSection group insets spacing
  · exact hP.descriptorSection group insets spacing
  · exact hP.traced c _ _ (.pure _)

lemma engineLayout (sections : Value) : (c.makeLayout sections).Blind ev ev' g P := by
  unfold EngineClass.makeLayout
  split
  · exact hP.modelLayout sections
  · exact hP.descriptorLayout sections
  · exact hP.traced c _ _ (.bind (hP.elements _) fun _ => .pure _)

lemma engineOperation (operation : String) (a : Arguments) :
    (c.operate operation a).Blind ev ev' g P := by
  unfold EngineClass.operate
  split
  · exact .bind (.required _ _ _) fun z => hP.makeItem c z
  · exact .bind (.required _ _ _) fun d => .bind (.required _ _ _) fun z =>
      .bind (.required _ _ _) fun xs => hP.makeGroup c d z xs
  · exact .bind (.required _ _ _) fun d => .bind (.required _ _ _) fun z =>
      .bind (.required _ _ _) fun x => .bind (.required _ _ _) fun n =>
        hP.makeRepeatedGroup c d z x n
  · exact .bind (.required _ _ _) fun obj => .bind (.required _ _ _) fun i =>
      hP.withContentInsets c obj i
  · exact .bind (.required _ _ _) fun obj => .bind (.required _ _ _) fun e =>
      hP.withEdgeSpacing c obj e
  · exact .bind (.required _ _ _) fun obj => .bind (.required _ _ _) fun g =>
      hP.withInterItemSpacing c obj g
  · exact .bind (.required _ _ _) fun g => hP.engineSection c g _ _
  · exact .bind (.required _ _ _) fun xs => hP.engineLayout c xs
  · exact .throw _

end Engine

lemma operate (engine : Value) {operation : String} (ho : operation ∈ EngineClass.operations)
    {operands : Run Arguments} (hop : operands.Blind ev ev' g P) :
    (Run.operate engine operation operands).Blind ev ev' g P := by
  have hhook : operation ∈ hooks := List.mem_append_right _ ho
  refine hP.field_bind hhook engine (fun f hf => .bind hop fun a => ?_) fun hm =>
    .bind hop fun a => ?_
  · split
    · exact hP.engineOperation _ _ a
    · exact hP.call hf a
  · obtain ⟨id, kind, label, supports, rfl⟩ := Value.eq_engine_of_hasMethod ho hm
    exact hP.engineOperation _ _ a

lemma engineNamed (name : Value) : (Run.engineNamed name).Blind ev ev' g P := by
  unfold Run.engineNamed
  split
  · exact .throw _
  · refine .bind (hP.update (fun _ => rfl) fun s => .loaded _) fun _ => ?_
    refine .get (fun _ => rfl) fun s => ?_
    dsimp only
    split
    · exact .bind hP.fresh fun _ => .pure _
    · split
      · exact .bind (.get (fun _ => rfl) fun _ => .pure _) fun _ => .throw _
      · exact .throw _

end

end Session.Stable

end LayoutTree
