import LayoutTree.Proofs.Calls.Footprint

/-!
Configuring and building, converting what stands in a block, and flattening. There is one law for
each function, and it asks of the code in the session only that it is foreign.
-/

namespace LayoutTree

open Run

variable {ev ev' : Evaluator} {g : Environment → Environment} {foreign : Code → Prop}
  {P : Session → Prop}

/-! ### Making a group builder in two steps -/

/-- Makes one node of what a block gave. -/
def Block.resolve (v : Value) : Run Value :=
  match v with
  | .list xs => do combine (← components xs)
  | .tuple xs => do combine (← components xs)
  | .cursor _ id => do combine (← forDrawn id component)
  | v => component v

/-- What is left to do for a group builder once its block was called. The block is not needed any
more. -/
def Builder.finish (size : Value) (d : Direction) (v : Value) : Run Value := do
  let children ← Node.flatten (← Block.resolve v)
  log "layoutbox.builder" .debug (d.text ++ " group block produced "
    ++ toString children.length ++ " children")
  newBox ⟨size, .null, .null, .group (.direction d) .null (.tuple children)⟩

lemma Block.node_of_not_callable {block : Value} (h : ¬ isCallable block = true) :
    Block.node block = throw (.notBlock block.typeName) := by
  unfold Block.node
  rw [Bool.not_eq_true] at h
  rw [h]
  rfl

lemma Builder.bind_node {block size : Value} {d : Direction}
    (h : Block.isCallable block = true) : (do
      let children ← Node.flatten (← Block.node block)
      log "layoutbox.builder" .debug (d.text ++ " group block produced "
        ++ toString children.length ++ " children")
      newBox ⟨size, .null, .null, .group (.direction d) .null (.tuple children)⟩ : Run Value) =
      (do finish size d (← call block .none)) := by
  unfold Block.node
  rw [h]
  exact bind_assoc _ _ _

/-! ### What writes nothing -/

lemma Run.Blind.required (a : Arguments) (i : Nat) (name : String) :
    (a.required i name).Blind ev ev' g P := by
  unfold Arguments.required
  split
  · exact .pure _
  · exact .throw _

lemma Run.Blind.refuse (v : Value) : (Block.refuse v).Blind ev ev' g P := by
  unfold Block.refuse
  split
  · exact .bind (.get (fun _ => rfl) fun _ => .pure _) fun _ => .throw _
  · split
    · exact .bind (.get (fun _ => rfl) fun _ => .pure _) fun _ => .throw _
    · exact .throw _

lemma Run.Blind.direction (v : Value) : (Builder.direction v).Blind ev ev' g P := by
  unfold Builder.direction
  split
  · exact .pure _
  · exact .bind (.get (fun _ => rfl) fun _ => .pure _) fun _ => .throw _

namespace Session.Stable

/-! ### Building -/

section

variable (hP : Session.Stable ev ev' g foreign P)
include hP

lemma withEdge (edges edge spacing : Value) :
    (Builder.withEdge edges edge spacing).Blind ev ev' g P := by
  unfold Builder.withEdge
  split
  · exact .throw _
  · split
    · rename_i e _
      exact hP.copyWith edges (by cases e <;> decide) spacing
    · exact .bind (.get (fun _ => rfl) fun _ => .pure _) fun _ => .throw _

lemma replacedEdge (edges edge spacing : Value) :
    (Builder.replacedEdge edges edge spacing).Blind ev ev' g P := by
  have hmethod : ∀ v : Value, v.hasMethod "with_edge" = true →
      (Builder.withEdge v edge spacing).Blind ev ev' g P := fun v _ => hP.withEdge v edge spacing
  unfold Builder.replacedEdge
  split
  · refine hP.field_bind (by decide) edges (fun f hf => ?_) (hmethod edges)
    split
    · exact hP.withEdge _ edge spacing
    · exact hP.call hf _
  · refine .bind (hP.construct _ _) fun v => ?_
    refine hP.field_bind (by decide) v (fun f hf => ?_) (hmethod v)
    split
    · exact hP.withEdge _ edge spacing
    · exact hP.call hf _

lemma build (id : Nat) : (Builder.build id).Blind ev ev' g P :=
  .bind (.box id) fun _ => hP.construct _ _

lemma node (kind : BoxKind) (id : Nat) : (Builder.node kind id).Blind ev ev' g P :=
  hP.callMethodOr (by decide) _ _ (hP.build id)

/-! ### Blocks -/

lemma other (v : Value) : (Block.other v).Blind ev ev' g P := by
  have hstrangers : ∀ xs, (Block.arrayOfStrangers xs).Blind ev ev' g P := by
    intro xs
    cases xs with
    | nil => exact hP.construct _ _
    | cons x xs => exact Blind.refuse x
  unfold Block.other
  split
  · exact hP.construct _ _
  · exact Blind.refuse _
  · split
    · exact hstrangers _
    · split
      · exact Blind.refuse _
      · exact hP.construct _ _
    · exact Blind.refuse _

end

mutual

lemma componentWith (hP : Session.Stable ev ev' g foreign P) {deep : Value → Run Value}
    (hdeep : ∀ v, (deep v).Blind ev ev' g P) (v : Value) :
    (Block.componentWith deep v).Blind ev ev' g P := by
  cases v with
  | slot | group | fragment => exact .pure _
  | box kind id => exact hP.node kind id
  | null => exact hP.construct _ _
  | list xs => exact .bind (hP.componentsWith hdeep xs) fun _ => hP.construct _ _
  | tuple xs => exact .bind (hP.componentsWith hdeep xs) fun _ => hP.construct _ _
  | cursor kind id => exact .bind (hP.forDrawn id hdeep) fun _ => hP.construct _ _
  | _ => simpa only [Block.componentWith] using hP.other _

lemma componentsWith (hP : Session.Stable ev ev' g foreign P) {deep : Value → Run Value}
    (hdeep : ∀ v, (deep v).Blind ev ev' g P) (vs : List Value) :
    (Block.componentsWith deep vs).Blind ev ev' g P := by
  cases vs with
  | nil => exact .pure _
  | cons v vs =>
    exact .bind (hP.componentWith hdeep v) fun _ => .bind (hP.componentsWith hdeep vs) fun _ =>
      .pure _

end

section

variable (hP : Session.Stable ev ev' g foreign P)
include hP

lemma component (v : Value) : (Block.component v).Blind ev ev' g P := by
  have hwithin : ∀ n v, (Block.componentWithin n v).Blind ev ev' g P := by
    intro n
    induction n with
    | zero => exact fun _ => .throw _
    | succ n ih => exact hP.componentWith ih
  exact .read (by rw [hP.depth]) <| hwithin _ v

lemma components (vs : List Value) : (Block.components vs).Blind ev ev' g P := by
  induction vs with
  | nil => exact .pure _
  | cons v vs ih => exact .bind (hP.component v) fun _ => .bind ih fun _ => .pure _

lemma combine (vs : List Value) : (Block.combine vs).Blind ev ev' g P := by
  refine .bind (hP.components vs) fun nodes => ?_
  split
  · exact .pure _
  · exact hP.construct _ _

lemma resolve (v : Value) : (Block.resolve v).Blind ev ev' g P := by
  unfold Block.resolve
  split
  · exact .bind (hP.components _) hP.combine
  · exact .bind (hP.components _) hP.combine
  · exact .bind (hP.forDrawn _ hP.component) hP.combine
  · exact hP.component _

end

/-! ### Flattening -/

mutual

lemma flattenWith (hP : Session.Stable ev ev' g foreign P) {deep : Value → Run (List Value)}
    (hdeep : ∀ v, (deep v).Blind ev ev' g P) (v : Value) :
    (Node.flattenWith deep v).Blind ev ev' g P := by
  cases v with
  | fragment id k items => exact hP.flattenItems hdeep items
  | slot | group => exact .pure _
  | _ => exact .throw _

lemma flattenItems (hP : Session.Stable ev ev' g foreign P) {deep : Value → Run (List Value)}
    (hdeep : ∀ v, (deep v).Blind ev ev' g P) (v : Value) :
    (Node.flattenItems deep v).Blind ev ev' g P := by
  have hstrangers : ∀ v, (Node.flattenStrangers v).Blind ev ev' g P := fun v =>
    hP.forElements v fun _ => .throw _
  cases v with
  | list xs => exact hP.flattenAll hdeep xs
  | tuple xs => exact hP.flattenAll hdeep xs
  | cursor kind id => exact .map _ (hP.forDrawn id hdeep)
  | _ => simpa only [Node.flattenItems] using hstrangers _

lemma flattenAll (hP : Session.Stable ev ev' g foreign P) {deep : Value → Run (List Value)}
    (hdeep : ∀ v, (deep v).Blind ev ev' g P) (vs : List Value) :
    (Node.flattenAll deep vs).Blind ev ev' g P := by
  cases vs with
  | nil => exact .pure _
  | cons v vs =>
    exact .bind (hP.flattenWith hdeep v) fun _ => .bind (hP.flattenAll hdeep vs) fun _ => .pure _

end

section

variable (hP : Session.Stable ev ev' g foreign P)
include hP

lemma flatten (v : Value) : (Node.flatten v).Blind ev ev' g P := by
  have hwithin : ∀ n v, (Node.flattenWithin n v).Blind ev ev' g P := by
    intro n
    induction n with
    | zero => exact fun _ => .throw _
    | succ n ih => exact hP.flattenWith ih
  exact .read (by rw [hP.depth]) <| hwithin _ v

end

end Session.Stable

namespace Session.StableBoxes

variable (hP : Session.StableBoxes ev ev' g foreign P)
include hP

/-! ### Configuring builders -/

lemma setSize (id : Nat) (width height : Value) :
    (Builder.setSize id width height).Blind ev ev' g P :=
  .bind (hP.construct _ _) fun size => hP.configure id (f := fun b => { b with size }) fun _ => rfl

lemma setInsets (id : Nat) (a : Builder.InsetsArgument) :
    (Builder.setInsets id a).Blind ev ev' g P := by
  refine .bind ?_ fun insets => hP.configure id (f := fun b => { b with insets }) fun _ => rfl
  unfold Builder.InsetsArgument.read
  split
  · exact hP.construct _ _
  · split
    · exact .pure _
    · exact hP.construct _ _
    · exact hP.construct _ _

lemma setEdges (id : Nat) (edges : Value) : (Builder.setEdges id edges).Blind ev ev' g P :=
  hP.configure id (f := fun b => { b with edges }) fun _ => rfl

lemma setSpace (id : Nat) (space : Value) : (Builder.setSpace id space).Blind ev ev' g P := by
  refine .look fun s hs => ?_
  rcases hb : s.boxes[id]? with _ | b
  · exact ⟨_, fun ev _ => exec_box_missing ev hb, nofun⟩
  refine ⟨_, fun ev _ => exec_box ev hb, fun c hc => ?_⟩
  cases hc
  rcases hcontent : b.content with columns | ⟨direction, gap, children⟩
  · exact Blind.throw _ s hs
  · exact ⟨rfl, hP.boxes s _ (.configured hb (by simp [Box.children?, hcontent])) hs⟩

lemma setEdge (kind : BoxKind) (id : Nat) (edge spacing : Value) :
    (Run.setEdge kind id edge spacing).Blind ev ev' g P := by
  refine hP.callMethodOr (by decide) _ _ (.bind ?_ fun _ => .pure _)
  refine .bind (.box id) fun b => .bind (hP.replacedEdge _ _ _) fun edges => ?_
  exact hP.configure id (f := fun b => { b with edges }) fun _ => rfl

lemma fluent (kind : BoxKind) (id : Nat) {method : String} (hm : method ∈ Builder.fluent)
    (a : Arguments) : (boxMethod kind id method a).Blind ev ev' g P := by
  have hedge : ∀ edge : Value, (a.required 0 "spacing" >>= fun x =>
      Run.setEdge kind id edge x).Blind ev ev' g P := fun edge =>
    .bind (Blind.required a 0 "spacing") fun x => hP.setEdge kind id edge x
  simp only [Builder.fluent, List.mem_cons, List.not_mem_nil, or_false] at hm
  rcases hm with rfl | rfl | rfl | rfl | rfl | rfl | rfl | rfl
  · exact .bind (.required _ _ _) fun w => .bind (.required _ _ _) fun h =>
      .bind (hP.setSize id w h) fun _ => .pure _
  · exact .bind (hP.setInsets id _) fun _ => .pure _
  · exact .bind (.required _ _ _) fun e => .bind (hP.setEdges id e) fun _ => .pure _
  · exact .bind (.required _ _ _) fun e => .bind (hP.setSpace id e) fun _ => .pure _
  · exact hedge (.text "leading")
  · exact hedge (.text "top")
  · exact hedge (.text "trailing")
  · exact hedge (.text "bottom")

/-! ### Group builders -/

lemma finish (size : Value) (d : Direction) (v : Value) :
    (Builder.finish size d v).Blind ev ev' g P :=
  .bind (hP.resolve v) fun n => .bind (hP.flatten n) fun _ =>
    .bind (hP.log _ (by decide) _) fun _ => hP.newBox _

/-- A group builder may be made if its block is foreign. -/
lemma newGroup (width height : Value) {block : Value} (hb : block.Runs foreign)
    (direction : Value) : (Builder.newGroup width height block direction).Blind ev ev' g P := by
  refine .bind (hP.construct _ _) fun size => .bind (.direction _) fun d => ?_
  by_cases hc : Block.isCallable block = true
  · rw [Builder.bind_node hc]
    exact .bind (hP.call hb _) (hP.finish size d)
  · rw [Block.node_of_not_callable hc]
    exact .bind (.throw _) fun n => .bind (hP.flatten n) fun _ =>
      .bind (hP.log _ (by decide) _) fun _ => hP.newBox _

end Session.StableBoxes

end LayoutTree
