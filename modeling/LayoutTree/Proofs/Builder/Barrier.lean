import LayoutTree.Proofs.Builder.Declared
import LayoutTree.Proofs.Builder.Machine
import LayoutTree.Proofs.Compose.Engaging

/-!
What building lets through. Whatever a builder is configured with, the node that it builds is a
tree but for the spacing at its edges: what is set at a single edge is never read again. Where that
is spacing or nothing the node is a tree, and composing it fails for reasons of its own only.
-/

namespace LayoutTree

open Run Reading

/-! ### What is given -/

/-- Spacing, or none. -/
def Value.IsSpace (v : Value) : Prop := ∃ o, v = .ofOption .spacing o

lemma Tree.areEdges_of_toValue {t : Tree} {i : Nat} {k z s e n : Value}
    (h : t.toValue = .slot i k z s e n) : e.AreEdges := by
  cases t with
  | slot y =>
    rw [toValue, Slot.toValue] at h
    cases h
    exact ⟨y.edges, rfl⟩
  | group f ts =>
    rw [toValue] at h
    cases h

lemma Value.AreEdges.isSpace {v : Value} (h : v.AreEdges) (e : Edge) : (v.edge e).IsSpace := by
  obtain ⟨_ | s, rfl⟩ := h
  · exact ⟨none, rfl⟩
  · cases e <;> exact ⟨_, rfl⟩

namespace Configuration

/-- All that is given to a configuration. -/
def given : Configuration → List Value
  | size a => a.positional ++ a.named.map (·.2)
  | insets a => a.positional ++ a.named.map (·.2)
  | edges a => a.positional ++ a.named.map (·.2)
  | edge _ a => a.positional ++ a.named.map (·.2)
  | space a => a.positional ++ a.named.map (·.2)
  | assignment _ x => [x]

/-- Whatever is given holds what it is declared to hold. -/
def Sound (c : Configuration) : Prop := ∀ x ∈ c.given, x.Sound

/-- What is put at a single edge is spacing, or none. -/
def SetsSpace : Configuration → Prop
  | edge _ a => ∀ x, a.find? 0 "spacing" = some x → x.IsSpace
  | _ => True

/-- The value was put at an edge by itself. -/
def Set (cs : List Configuration) (e : Edge) (x : Value) : Prop :=
  ∃ a, edge e a ∈ cs ∧ a.find? 0 "spacing" = some x

end Configuration

lemma Arguments.mem_of_find? {a : Arguments} {i : Nat} {name : String} {x : Value}
    (h : a.find? i name = some x) : x ∈ a.positional ++ a.named.map (·.2) := by
  unfold find? at h
  rcases hp : a.positional[i]? with _ | y <;> rw [hp] at h
  · exact List.mem_append_right _ (List.mem_map.2 ⟨_, Fields.mem_of_get? h, rfl⟩)
  · cases h
    exact List.mem_append_left _ (List.mem_of_getElem? hp)

/-! ### What a builder holds -/

namespace Box

variable {cs : List Configuration} {c : Configuration} {b d : Box}

/-- At the edges of a builder there is spacing, or what was put there, and its children hold what
they are declared to hold. -/
structure Guarded (cs : List Configuration) (b : Box) : Prop where
  edge : b.edges.isEdges = true → ∀ e,
    (b.edges.edge e).IsSpace ∨ Configuration.Set cs e (b.edges.edge e)
  children : ∀ v, b.children? = some v → v.Sound

/-- **Step**: a configuration with sound values puts nothing but spacing at the edges that it does
not set by itself. -/
lemma Guarded.step (h : b.Guarded cs) (hc : c.Sound) (hd : b.Takes c d) :
    d.Guarded (c :: cs) := by
  have hlater : ∀ {e : Edge} {x : Value}, x.IsSpace ∨ Configuration.Set cs e x →
      x.IsSpace ∨ Configuration.Set (c :: cs) e x := fun hx =>
    hx.imp_right fun ⟨a, ha, hx⟩ => ⟨a, List.mem_cons_of_mem c ha, hx⟩
  have hkept : ∀ d : Box, d.edges = b.edges → d.children? = b.children? → d.Guarded (c :: cs) :=
    fun d he hcs => ⟨fun hv e => by rw [he] at hv ⊢; exact hlater (h.edge hv e),
      fun v hv => h.children v (hcs ▸ hv)⟩
  cases hd with
  | edges hx =>
    have hsound := hc _ (Arguments.mem_of_find? hx)
    exact ⟨fun hv e => .inl ((hsound.areEdges hv).isSpace e), h.children⟩
  | @edge f a x i hx he =>
    refine ⟨fun _ e => ?_, h.children⟩
    rw [Value.edge_ofEdges]
    -- the edge that is set holds what was put there, the others what they held before
    by_cases hf : e = f
    · subst hf
      rw [Function.update_self]
      exact .inr ⟨a, List.mem_cons_self, hx⟩
    · rw [Function.update_of_ne hf]
      rcases he with he | he
      · rw [Value.edge_of_isTruthy he]
        exact .inl ⟨none, rfl⟩
      · exact hlater (h.edge he e)
  | space hcontent hx => exact hkept _ rfl (by simp [children?, hcontent])
  | @stored name x d hp hs =>
    have hx : x.Sound := hc x (List.mem_singleton.2 rfl)
    unfold store? at hs
    split at hs
    · -- the size
      cases hs
      exact hkept _ rfl rfl
    · -- the insets
      cases hs
      exact hkept _ rfl rfl
    · -- the edge spacings, which are all that the value can spoil
      cases hs
      exact ⟨fun hv e => .inl ((hx.areEdges hv).isSpace e), h.children⟩
    · -- a field of items or of groups
      split at hs <;> cases hs
      · exact hkept _ rfl (by simp_all [children?])
      · exact hkept _ rfl (by simp_all [children?])
      · exact hkept _ rfl (by simp_all [children?])
      · exact ⟨(hkept b rfl rfl).edge, fun v hv => by cases hv; exact hx⟩
  | _ => exact hkept _ rfl rfl

/-- Edge spacings are none, or at each edge there is spacing or what was put there. -/
def Edged (cs : List Configuration) (e : Value) : Prop :=
  e = .null ∨ ∃ i f, e = .ofEdges i f ∧ ∀ g, (f g).IsSpace ∨ Configuration.Set cs g (f g)

lemma edged_of_areEdges {e : Value} (h : e.AreEdges) : Edged cs e := by
  have hspace := h.isSpace
  obtain ⟨_ | s, rfl⟩ := h
  · exact .inl rfl
  · exact .inr ⟨s.id, s.toValue.edge, rfl, fun g => .inl (hspace g)⟩

/-- If nothing but spacing is put at single edges there is nothing else at any edge. -/
lemma areEdges_of_edged (h : ∀ c ∈ cs, c.SetsSpace) {e : Value} (he : Edged cs e) :
    e.AreEdges := by
  rcases he with rfl | ⟨i, f, rfl, hf⟩
  · exact ⟨none, rfl⟩
  have hspace : ∀ g, (f g).IsSpace := fun g =>
    (hf g).elim id fun ⟨a, ha, hx⟩ => h _ ha _ hx
  choose o ho using hspace
  exact ⟨some ⟨i, o .leading, o .top, o .trailing, o .bottom⟩, by simp [Value.ofEdges, ho]; rfl⟩

lemma Guarded.gives_edges (h : b.Guarded cs) :
    (orNull Value.readEdges b.edges).Gives (Edged cs) := by
  refine Value.gives_edges_taken (fun _ => edged_of_areEdges) fun hv => .inr ?_
  obtain ⟨i, hi⟩ := Value.exists_eq_ofEdges hv
  exact ⟨i, b.edges.edge, hi, h.edge hv⟩

end Box

namespace Builder

/-- What is built is a tree but for what was put at single edges. -/
lemma yields_build {ev : Evaluator} {I : Session → Prop} (hI : Session.Supplies ev I)
    {cs : List Configuration} {b : Box} (hb : b.Guarded cs) :
    (construct b.nodeType b.nodeFields).Yields ev I (Value.Bordered (Box.Edged cs)) := by
  have hE : ∀ v, b.nodeFields.get? "edge_spacing" = some v →
      (orNull Value.readEdges v).Gives (Box.Edged cs) := by
    intro v hv
    cases hv
    exact hb.gives_edges
  rcases hc : b.content with columns | ⟨d, g, children⟩
  · have htype : b.nodeType = "Slot" := by rw [Box.nodeType, hc]
    rw [htype]
    exact yields_construct_slot (.inl rfl) hE hI
  · have htype : b.nodeType = "Group" := by rw [Box.nodeType, hc]
    rw [htype]
    refine yields_construct_group (.inl rfl) hE hI fun v hv => hb.children v ?_
    rw [Box.nodeFields, hc] at hv
    rw [Box.children?, hc]
    exact hv

end Builder

/-! ### Composing what is built -/

/-- Composing a tree fails only if a group in it is empty or a row of copies or the list of its
subitems cannot be made. -/
inductive Fault.OfComposing : Fault → Prop
  | emptyGroup (direction : Text) : OfComposing (.emptyGroup direction)
  | countTooLarge : OfComposing .countTooLarge
  | outOfMemory : OfComposing .outOfMemory

section Composing

variable {e : Fault}

lemma Slot.ofComposing {s : Slot} (h : s.items = .error e) : e.OfComposing := by
  rcases items_eq_error h with rfl | rfl
  · exact .countTooLarge
  · exact .outOfMemory

mutual

/-- By induction on the tree. -/
lemma Tree.ofComposing_subitems (repeats : Bool) (t : Tree) (h : t.subitems repeats = .error e) :
    e.OfComposing := by
  cases t with
  | slot s => exact s.ofComposing h
  | group f ts =>
    rw [subitems] at h
    rcases hp : groupPlan repeats f ts (allSubitems repeats 0 ts) with e' | p <;> rw [hp] at h <;>
      cases h
    rw [groupPlan] at hp
    split at hp
    · cases hp
      exact .emptyGroup _
    · rcases hx : allSubitems repeats 0 ts with e' | xs <;> rw [hx] at hp <;> cases hp
      exact ofComposing_allSubitems repeats ts hx

lemma Tree.ofComposing_allSubitems (repeats : Bool) (ts : List Tree) {held : Nat}
    (h : allSubitems repeats held ts = .error e) : e.OfComposing := by
  cases ts with
  | nil => cases h
  | cons t ts =>
    rcases appended_eq_error h with hx | rfl | ⟨n, hy⟩
    · exact ofComposing_subitems repeats t hx
    · exact .outOfMemory
    · exact ofComposing_allSubitems repeats ts hy

end

/-- With an engine of either bundled class composing does what plans say. -/
lemma Session.Engaged.realizes {s : Session} {id : Nat} {C : Composer} {c : EngineClass}
    {requested : Value} (ev : Evaluator) (h : s.Engaged id C c requested)
    (hc : c = .model ∨ c = .descriptor) :
    ∃ R Inv, Realizes ev id C R Inv ∧ Inv [] s := by
  obtain ⟨i, he, hown⟩ := h.engine
  have hs : s.Genuine id i :=
    ⟨h.own, fun p => hown p.method, h.undisturbed.logs, h.undisturbed.warns⟩
  rcases hc with rfl | rfl
  · exact ⟨_, _, realizes_model ev rfl h.composer he hs h.undisturbed.unattached, .refl s⟩
  · exact ⟨_, _, realizes_descriptor ev rfl h.composer he h.repeats hs, .refl s⟩

/-- Composing a tree with either of them fails only for reasons of its own. -/
lemma Session.Engaged.ofComposing {s u : Session} {id : Nat} {C : Composer} {c : EngineClass}
    {requested : Value} {ev : Evaluator} (h : s.Engaged id C c requested)
    (hc : c = .model ∨ c = .descriptor) {t : Tree}
    (he : (Composer.compose id t.toValue).exec ev s = (.error e, u)) : e.OfComposing := by
  cases t with
  | slot z =>
    obtain ⟨r, t, hrun, hr⟩ := h.exec_composeSlot ev z
    rw [Tree.toValue, hrun] at he
    rcases hz : z.items with e' | xs <;> rw [hz] at hr <;> cases hr <;> cases he
    exact z.ofComposing hz
  | group f ts =>
    obtain ⟨R, Inv, hR, hs⟩ := h.realizes ev hc
    obtain ⟨r, t, hrun, hr, -⟩ := hR.exec_composeGroup f ts hs
    have hcompose : (Composer.compose id (f.toValue (Tree.toValues ts))).exec ev s = (r, t) := by
      rw [← hrun, ← Tree.toValues_drafts]
      exact h.exec_compose_group ev f false (Tree.drafts ts)
    rw [Tree.toValue, hcompose] at he
    rcases hp : Tree.plan C.repeats.isTruthy f ts with e' | p <;> rw [hp] at hr <;> cases hr <;>
      cases he
    refine Tree.ofComposing_subitems C.repeats.isTruthy (.group f ts) ?_
    rw [Tree.plan] at hp
    rw [Tree.subitems, hp]
    rfl

end Composing

/-! ### The barrier -/

/-- **Building as a barrier**: after a builder is made, anything is tried on it with any values that
are themselves what they are declared to be, and then it builds a node. The node is a tree, at any
depth, but for its edge spacings: there are none, or at each edge there is spacing, nothing, or what
was put at this edge alone. If all that was put at single edges is spacing or nothing, the node is a
tree, and where it is composed with an engine of either bundled class, this fails only for an empty
group in it or for a row of copies that cannot be made. -/
theorem build_barrier (ev : Evaluator) {s s₀ : Session} {m : Builder.Making} {v : Value}
    (hm : m.run.exec ev s = (.ok v, s₀)) (hs : s₀.SetsEdges)
    (hc : ∀ id b, v = .box m.kind id → s₀.boxes[id]? = some b →
      ∀ cs, b.children? = some cs → cs.Sound) :
    ∃ id, v = .box m.kind id ∧
      ∀ cs t, Builder.History ev m.kind id (fun c => c.Fluent ∧ c.Sound) s₀ cs t →
        ∀ I, Session.Supplies ev I → I t →
          ∀ w u, (boxMethod m.kind id "build" .none).exec ev t = (.ok w, u) →
            w.Bordered (Box.Edged cs) ∧
            ((∀ c ∈ cs, c.SetsSpace) → w.IsTree ∧
              ∀ {u' u'' : Session} {i : Nat} {C : Composer} {c : EngineClass} {requested : Value}
                {e : Fault}, u'.Engaged i C c requested → c = .model ∨ c = .descriptor →
                (Composer.compose i w).exec ev u' = (.error e, u'') → e.OfComposing) := by
  obtain ⟨id, content, b₀, rfl, hb₀, -, hmade⟩ := Builder.Making.exec_run hm
  refine ⟨id, rfl, fun cs t h I hI ht w u hw => ?_⟩
  have hguarded : b₀.Guarded [] := by
    refine ⟨fun hv => ?_, hc id b₀ rfl hb₀⟩
    rcases hmade.isNull.2 (by simp) ▸ hv with ⟨⟩
  obtain ⟨b, hb, -, hguarded⟩ := h.keeps (fun _ hc => hc.1) hb₀ hs hguarded
    fun hb hc hd => hb.step hc.2 hd
  have hbuild : (boxMethod m.kind id "build" .none).exec ev t =
      (construct b.nodeType b.nodeFields).exec ev t := exec_bind_ok (exec_box ev hb)
  have hbordered : w.Bordered (Box.Edged cs) :=
    (Builder.yields_build hI hguarded t ht).2 w (by rw [← hbuild, hw])
  refine ⟨hbordered, fun hspace => ?_⟩
  have htree : w.IsTree := hbordered.isTree fun e he => Box.areEdges_of_edged hspace he
  refine ⟨htree, fun he hc hrun => ?_⟩
  obtain ⟨tree, rfl⟩ := htree
  exact he.ofComposing hc hrun

/-- An item builder whose leading edge is set to spacing and whose top edge to none. -/
theorem build_barrier_item :
    let ev := Evaluator.within 4
    let x : Dimension := ⟨0, .absolute, .zero⟩
    let m : Builder.Making := .item (.dimension x) (.dimension x) (.int 2)
    let leading : Configuration := .edge .leading ⟨[.spacing ⟨1, .fixed, .zero⟩], []⟩
    let top : Configuration := .edge .top ⟨[.null], []⟩
    ∃ s₀ t w u, m.run.exec ev (Session.initial [] false) = (.ok (.box .item 0), s₀) ∧
      Builder.History ev .item 0 (fun c => c.Fluent ∧ c.Sound) s₀ [top, leading] t ∧
      (boxMethod .item 0 "build" .none).exec ev t = (.ok w, u) ∧ w.IsTree := by
  intro ev x m leading top
  let z : Value := .size ⟨2, x, x⟩
  let g : Value := .spacing ⟨1, .fixed, .zero⟩
  let made : Box := ⟨z, .null, .null, .item (.int 2)⟩
  let s₀ : Session := { Session.initial [] false with serial := 3, boxes := #[made] }
  let box (i : Nat) : Box := { made with edges := .edges i g .null .null .null }
  let s₁ : Session := { s₀ with serial := 6, boxes := #[box 5] }
  let t : Session := { s₀ with serial := 7, boxes := #[box 6] }
  let w : Value := .slot 8 (.text "slot") z .null (.edges 6 g .null .null .null) (.int 2)
  have hm : m.run.exec ev (Session.initial [] false) = (.ok (.box .item 0), s₀) := rfl
  have hgiven : ∀ c ∈ [top, leading], c.Fluent ∧ c.Sound := by
    refine List.forall_mem_cons.2 ⟨⟨trivial, ?_⟩, List.forall_mem_singleton.2 ⟨trivial, ?_⟩⟩ <;>
      exact List.forall_mem_singleton.2 (.of_plain rfl rfl rfl)
  have hleading : Builder.History ev .item 0 (fun c => c.Fluent ∧ c.Sound) s₀ [leading] s₁ :=
    .succeeded (c := leading) (x := .box .item 0) .start (hgiven leading (by simp)) rfl
  have htop : Builder.History ev .item 0 (fun c => c.Fluent ∧ c.Sound) s₀ [top, leading] t :=
    .succeeded (c := top) (x := .box .item 0) hleading (hgiven top (by simp)) rfl
  have hbuild : (boxMethod .item 0 "build" .none).exec ev t = (.ok w, { t with serial := 9 }) := rfl
  have hspace : ∀ c ∈ [top, leading], c.SetsSpace := by
    refine List.forall_mem_cons.2 ⟨fun y hy => ?_, List.forall_mem_singleton.2 fun y hy => ?_⟩ <;>
      cases hy
    · exact ⟨none, rfl⟩
    · exact ⟨some _, rfl⟩
  obtain ⟨id, hid, hbarrier⟩ := build_barrier ev hm (.of_attributes rfl) fun id b hv hb cs hcs => by
    cases hv
    cases hb
    cases hcs
  cases hid
  have htree := ((hbarrier _ t htop _ (.of_cursors ev) rfl w _ hbuild).2 hspace).1
  exact ⟨s₀, t, w, _, hm, htop, hbuild, htree⟩

/-- A text that is put at the leading edge of an item builder is still there in the slot that is
built, and the engine of descriptors fails to compose it. -/
theorem leading_not_read :
    let ev := Evaluator.within 4
    let x : Dimension := ⟨0, .absolute, .zero⟩
    let m : Builder.Making := .item (.dimension x) (.dimension x) (.int 1)
    let leading : Configuration := .edge .leading ⟨[.text "abc"], []⟩
    ∃ s₀ t w u, m.run.exec ev (Session.initial [] false) = (.ok (.box .item 0), s₀) ∧
      leading.Fluent ∧ leading.Sound ∧
      (leading.run .item 0).exec ev s₀ = (.ok (.box .item 0), t) ∧
      (boxMethod .item 0 "build" .none).exec ev t = (.ok w, u) ∧ ¬ w.IsTree ∧
      ((do let id ← Composer.make (EngineClass.descriptor.engine 0) .null
           Composer.compose id w).exec ev u).1 = .error (.noField "str" "mode") := by
  intro ev x m leading
  let z : Value := .size ⟨2, x, x⟩
  let edges : Value := .edges 5 (.text "abc") .null .null .null
  let made : Box := ⟨z, .null, .null, .item (.int 1)⟩
  let s₀ : Session := { Session.initial [] false with serial := 3, boxes := #[made] }
  let t : Session := { s₀ with serial := 6, boxes := #[{ made with edges }] }
  let w : Value := .slot 7 (.text "slot") z .null edges (.int 1)
  have hsound : leading.Sound := by
    intro v hv
    cases List.mem_singleton.1 hv
    exact .of_plain rfl rfl rfl
  have htree : ¬ w.IsTree := by
    rintro ⟨tree, ht⟩
    have he : edges.AreEdges := Tree.areEdges_of_toValue ht.symm
    obtain ⟨_ | g, hg⟩ := he.isSpace .leading <;> cases hg
  exact ⟨s₀, t, w, { t with serial := 8 }, rfl, trivial, hsound, rfl, rfl, htree, rfl⟩

end LayoutTree
