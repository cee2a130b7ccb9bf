import LayoutTree.Proofs.Lawful.Construct
import LayoutTree.Tree.Builder

/-!
Nodes, blocks and builders in lawful sessions: flattening leaves slots and groups, what stands in a
block becomes lawful nodes, and builders are made with slots and groups as children.
-/

namespace LayoutTree

variable {kept : Prop}

open Run

variable {ev : Evaluator} {F : Fault → Prop} {v x : Value} {vs : List Value} {id : Nat}

/-! ### Flattening -/

namespace Node

/-- Lawful slots and groups. -/
def Flat (kept : Prop) (vs : List Value) : Prop := ∀ v ∈ vs, v.Lawful kept ∧ v.isChild = true

lemma Flat.append {ws : List Value} (h : Flat kept vs) (h' : Flat kept ws) :
    Flat kept (vs ++ ws) := fun v hv =>
  (List.mem_append.1 hv).elim (h v) (h' v)

lemma ensures_flattenStrangers (hev : ev.Lawful kept F) (h : v.Lawful kept) :
    (flattenStrangers v).Ensures kept ev F (Flat kept) :=
  ensures_forElements hev (fun _ _ => .throw (hev.refuses _ rfl)) h

mutual

/-- By induction on the node. -/
lemma ensures_flattenWith (hev : ev.Lawful kept F) {deep : Value → Run (List Value)}
    (hd : ∀ v : Value, v.Lawful kept → (deep v).Ensures kept ev F (Flat kept)) (v : Value)
    (h : v.Lawful kept) :
    (flattenWith deep v).Ensures kept ev F (Flat kept) := by
  cases v with
  | fragment id k items => exact ensures_flattenItems hev hd items (Value.lawful_fragment.1 h).2
  | slot => exact .pure (List.forall_mem_singleton.2 ⟨h, rfl⟩)
  | group => exact .pure (List.forall_mem_singleton.2 ⟨h, rfl⟩)
  | _ => exact .throw (hev.refuses _ rfl)

lemma ensures_flattenItems (hev : ev.Lawful kept F) {deep : Value → Run (List Value)}
    (hd : ∀ v : Value, v.Lawful kept → (deep v).Ensures kept ev F (Flat kept)) (v : Value)
    (h : v.Lawful kept) :
    (flattenItems deep v).Ensures kept ev F (Flat kept) := by
  cases v with
  | list xs => exact ensures_flattenAll hev hd xs (Value.lawful_list.1 h)
  | tuple xs => exact ensures_flattenAll hev hd xs (Value.lawful_tuple.1 h)
  | cursor kind id =>
    refine (ensures_forDrawn hev hd id).map fun xss hxss x hx => ?_
    obtain ⟨xs, hxs, hx⟩ := List.mem_flatten.1 hx
    exact hxss xs hxs x hx
  | _ => exact ensures_flattenStrangers hev h

lemma ensures_flattenAll (hev : ev.Lawful kept F) {deep : Value → Run (List Value)}
    (hd : ∀ v : Value, v.Lawful kept → (deep v).Ensures kept ev F (Flat kept)) (vs : List Value)
    (h : ∀ v ∈ vs, v.Lawful kept) : (flattenAll deep vs).Ensures kept ev F (Flat kept) := by
  cases vs with
  | nil => exact .pure fun v hv => absurd hv List.not_mem_nil
  | cons v vs =>
    obtain ⟨hv, hvs⟩ := List.forall_mem_cons.1 h
    exact .bind (ensures_flattenWith hev hd v hv) fun xs hxs =>
      .bind (ensures_flattenAll hev hd vs hvs) fun ys hys => .pure (hxs.append hys)

end

lemma ensures_flattenWithin (hev : ev.Lawful kept F) (n : Nat) (h : v.Lawful kept) :
    (flattenWithin n v).Ensures kept ev F (Flat kept) := by
  induction n generalizing v with
  | zero => exact .throw hev.tooDeep
  | succ n ih => exact ensures_flattenWith hev (fun v => ih) v h

lemma ensures_flatten (hev : ev.Lawful kept F) (h : v.Lawful kept) :
    (flatten v).Ensures kept ev F (Flat kept) :=
  .bind .read fun _ _ => ensures_flattenWithin hev _ h

end Node

/-! ### Building -/

namespace Builder

lemma lawful_nodeFields {b : Box} (h : b.Lawful kept) : b.nodeFields.Lawful kept := by
  obtain ⟨hs, hi, he, hc⟩ := h
  refine .cons hs (.cons hi (.cons he ?_))
  rcases hcontent : b.content with columns | ⟨direction, space, children⟩ <;> rw [hcontent] at hc
  · exact .cons hc .nil
  · exact .cons hc.1 (.cons hc.2.1 (.cons hc.2.2.1 .nil))

/-- Code that is run while a builder builds does not make it fail in other ways. -/
lemma ensures_build_own (hev : ev.Lawful kept F) (id : Nat) :
    (build id).Ensures kept ev Fault.Own (Value.Lawful kept) :=
  .bind (ensures_box (.inl rfl) id) fun _ hb => ensures_construct_own hev _ (lawful_nodeFields hb)

lemma ensures_build (hev : ev.Lawful kept F) (id : Nat) :
    (build id).Ensures kept ev F (Value.Lawful kept) :=
  (ensures_build_own hev id).own hev

lemma ensures_node (hev : ev.Lawful kept F) (kind : BoxKind) (id : Nat) :
    (node kind id).Ensures kept ev F (Value.Lawful kept) :=
  ensures_callMethodOr hev _ .none (ensures_build hev id)

end Builder

/-! ### Blocks -/

namespace Block

lemma ensures_fragment (hev : ev.Lawful kept F) (h : ∀ v ∈ vs, v.Lawful kept) :
    (fragment vs).Ensures kept ev F (Value.Lawful kept) :=
  ensures_construct hev _ (.cons (Value.lawful_tuple.2 h) .nil)

lemma ensures_emptyFragment (hev : ev.Lawful kept F) :
    emptyFragment.Ensures kept ev F (Value.Lawful kept) :=
  ensures_construct hev _ .nil

lemma ensures_refuse (hev : ev.Lawful kept F) (v : Value) :
    (refuse v).Ensures kept ev F (Value.Lawful kept) := by
  unfold refuse
  split
  · exact .bind (ensures_written _) fun _ _ => .throw (hev.refuses _ rfl)
  · split
    · exact .bind (ensures_written _) fun _ _ => .throw (hev.refuses _ rfl)
    · exact .throw (hev.refuses _ rfl)

lemma ensures_arrayOfStrangers (hev : ev.Lawful kept F) (vs : List Value) :
    (arrayOfStrangers vs).Ensures kept ev F (Value.Lawful kept) := by
  cases vs with
  | nil => exact ensures_fragment hev fun v hv => absurd hv List.not_mem_nil
  | cons v vs => exact ensures_refuse hev v

lemma ensures_other (hev : ev.Lawful kept F) (v : Value) :
    (other v).Ensures kept ev F (Value.Lawful kept) := by
  have hempty : (fragment []).Ensures kept ev F (Value.Lawful kept) :=
    ensures_arrayOfStrangers hev []
  unfold other
  split
  · exact hempty
  · exact ensures_refuse hev _
  · split
    · exact ensures_arrayOfStrangers hev _
    · split
      · exact ensures_refuse hev _
      · exact hempty
    · exact ensures_refuse hev _

mutual

/-- By induction on the value. -/
lemma ensures_componentWith (hev : ev.Lawful kept F) {deep : Value → Run Value}
    (hd : ∀ v : Value, v.Lawful kept → (deep v).Ensures kept ev F (Value.Lawful kept)) (v : Value)
    (h : v.Lawful kept) :
    (componentWith deep v).Ensures kept ev F (Value.Lawful kept) := by
  cases v with
  | slot => exact .pure h
  | group => exact .pure h
  | fragment => exact .pure h
  | box kind id => exact Builder.ensures_node hev kind id
  | null => exact ensures_emptyFragment hev
  | list xs =>
    exact .bind (ensures_componentsWith hev hd xs (Value.lawful_list.1 h)) fun _ =>
      ensures_fragment hev
  | tuple xs =>
    exact .bind (ensures_componentsWith hev hd xs (Value.lawful_tuple.1 h)) fun _ =>
      ensures_fragment hev
  | cursor kind id => exact .bind (ensures_forDrawn hev hd id) fun _ => ensures_fragment hev
  | _ => exact ensures_other hev _

lemma ensures_componentsWith (hev : ev.Lawful kept F) {deep : Value → Run Value}
    (hd : ∀ v : Value, v.Lawful kept → (deep v).Ensures kept ev F (Value.Lawful kept))
    (vs : List Value)
    (h : ∀ v ∈ vs, v.Lawful kept) :
    (componentsWith deep vs).Ensures kept ev F fun ws => ∀ w ∈ ws, w.Lawful kept := by
  cases vs with
  | nil => exact .pure fun v hv => absurd hv List.not_mem_nil
  | cons v vs =>
    obtain ⟨hv, hvs⟩ := List.forall_mem_cons.1 h
    exact .cons (ensures_componentWith hev hd v hv) (ensures_componentsWith hev hd vs hvs)

end

lemma ensures_componentWithin (hev : ev.Lawful kept F) (n : Nat) (h : v.Lawful kept) :
    (componentWithin n v).Ensures kept ev F (Value.Lawful kept) := by
  induction n generalizing v with
  | zero => exact .throw hev.tooDeep
  | succ n ih => exact ensures_componentWith hev (fun v => ih) v h

variable (hev : ev.Lawful kept F)
include hev

lemma ensures_component (h : v.Lawful kept) : (component v).Ensures kept ev F (Value.Lawful kept) :=
  .bind .read fun _ _ => ensures_componentWithin hev _ h

lemma ensures_components (h : ∀ v ∈ vs, v.Lawful kept) :
    (components vs).Ensures kept ev F fun ws => ∀ w ∈ ws, w.Lawful kept := by
  induction vs with
  | nil => exact .pure fun v hv => absurd hv List.not_mem_nil
  | cons v vs ih =>
    obtain ⟨hv, hvs⟩ := List.forall_mem_cons.1 h
    exact .cons (ensures_component hev hv) (ih hvs)

lemma ensures_combine (h : ∀ v ∈ vs, v.Lawful kept) :
    (combine vs).Ensures kept ev F (Value.Lawful kept) := by
  refine .bind (ensures_components hev h) fun ws hws => ?_
  split
  · exact .pure (hws _ List.mem_cons_self)
  · exact ensures_fragment hev hws

lemma ensures_optional (h : v.Lawful kept) :
    (optional v).Ensures kept ev F (Value.Lawful kept) := by
  unfold optional
  split
  · exact ensures_emptyFragment hev
  · exact ensures_component hev h

lemma ensures_fromArray (h : v.Lawful kept) : (fromArray v).Ensures kept ev F (Value.Lawful kept) :=
  .bind (ensures_forElements hev (fun _ => ensures_component hev) h) fun _ =>
    ensures_fragment hev

lemma ensures_node (h : v.Lawful kept) : (node v).Ensures kept ev F (Value.Lawful kept) := by
  unfold node
  split
  · exact .throw (hev.refuses _ rfl)
  refine .bind (ensures_call hev h .none) fun w hw => ?_
  split
  · exact .bind (ensures_components hev (Value.lawful_list.1 hw)) fun _ => ensures_combine hev
  · exact .bind (ensures_components hev (Value.lawful_tuple.1 hw)) fun _ => ensures_combine hev
  · exact .bind (ensures_forDrawn hev (fun _ => ensures_component hev) _) fun _ =>
      ensures_combine hev
  · exact ensures_component hev hw

end Block

/-! ### Making builders -/

namespace Builder

variable {width height : Value}

section Making

variable (hev : ev.Lawful kept F)
include hev

lemma ensures_direction (v : Value) : (direction v).Ensures kept ev F fun _ => True := by
  unfold direction
  split
  · exact .pure trivial
  · exact .bind (ensures_written v) fun _ _ => .throw (hev.refuses _ rfl)

lemma ensures_size (hw : width.Lawful kept) (hh : height.Lawful kept) :
    (size width height).Ensures kept ev F (Value.Lawful kept) :=
  ensures_construct hev _ (.cons hw (.cons hh .nil))

lemma ensures_uniformInsets (h : v.Lawful kept) :
    (uniformInsets v).Ensures kept ev F (Value.Lawful kept) :=
  ensures_construct hev _ (.cons h (.cons h (.cons h (.cons h .nil))))

lemma ensures_newItem (hw : width.Lawful kept) (hh : height.Lawful kept) (h : v.Lawful kept) :
    (newItem width height v).Ensures kept ev F (Value.Lawful kept) :=
  .bind (ensures_size hev hw hh) fun _ hs =>
    ensures_newBox ⟨hs, .atom rfl, .atom rfl, h⟩

/-- A group builder is made with the slots and groups that are left of its block's node. -/
lemma ensures_newGroup {block : Value} (hw : width.Lawful kept) (hh : height.Lawful kept)
    (hb : block.Lawful kept) (d : Value) :
    (newGroup width height block d).Ensures kept ev F (Value.Lawful kept) := by
  refine .bind (ensures_size hev hw hh) fun z hz => ?_
  refine .bind (ensures_direction hev d) fun d _ => ?_
  refine .bind (Block.ensures_node hev hb) fun w hw => ?_
  refine .bind (Node.ensures_flatten hev hw) fun cs hcs => ?_
  refine .bind (ensures_log hev _ _ _) fun _ _ => ?_
  obtain ⟨hchildren, hlawful⟩ := Value.lawful_children hcs
  exact ensures_newBox ⟨hz, .atom rfl, .atom rfl, .atom rfl, .atom rfl, hlawful, fun _ => hchildren⟩

end Making

end Builder

end LayoutTree
