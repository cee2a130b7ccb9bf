import LayoutTree.Proofs.Block.Generator
import LayoutTree.Proofs.Builder.Mutation
import LayoutTree.Script.Run

/-!
Group builders take a snapshot of what their blocks yield: each value is converted when it is
yielded, and what mutates builders afterwards changes neither the children nor any node.
-/

namespace LayoutTree

open Run Block Node

/-- What is left to do for a group builder once the nodes of its block are there. -/
def Builder.grouped (size : Value) (d : Direction) (ns : List Value) : Run Value := do
  let children ← flattenEach ns
  log "layoutbox.builder" .debug (d.text ++ " group block produced "
    ++ toString children.length ++ " children")
  newBox ⟨size, .null, .null, .group (.direction d) .null (.tuple children)⟩

section Making

variable {ev : Evaluator} {s s₁ s₂ t : Session} {width height direction block size : Value}
  {d : Direction} {r : Except Fault (List Value)}

lemma exec_newGroup (hz : (Builder.size width height).exec ev s = (.ok size, s₁))
    (hd : (Builder.direction direction).exec ev s₁ = (.ok d, s₂))
    (hn : Gives ev (Block.node block) s₂ r t) :
    ∃ u, u.Alike t ∧ (Builder.newGroup width height block direction).exec ev s = match r with
      | .error f => (.error f, u)
      | .ok ns => (Builder.grouped size d ns).exec ev u := by
  obtain ⟨x, u, hx, hxr, hu⟩ := hn
  refine ⟨u, hu, ?_⟩
  unfold Builder.newGroup
  rw [exec_bind_ok hz, exec_bind_ok hd]
  cases hxr with
  | error f => exact exec_bind_error hx
  | ok hw =>
    rw [exec_bind_ok hx, hw.flatten]
    rfl

lemma exec_grouped {ns cs : List Value} (size : Value) (d : Direction)
    (hf : (flattenEach ns).exec ev s = (.ok cs, t)) (hl : t.CanLog "layoutbox.builder" .debug) :
    ∃ u, (Builder.grouped size d ns).exec ev s = (.ok (.box .group t.boxes.size), u) ∧
      u.boxes = t.boxes.push
        ⟨size, .null, .null, .group (.direction d) .null (.tuple cs)⟩ := by
  obtain ⟨u, hu, hlog⟩ := exec_log ev hl (d.text ++ " group block produced "
    ++ toString cs.length ++ " children")
  obtain ⟨decided, records, rfl⟩ := hlog
  unfold Builder.grouped
  rw [exec_bind_ok hf, exec_bind_ok hu]
  exact ⟨_, rfl, rfl⟩

lemma exec_field_children (ev : Evaluator) {id : Nat} {b : Box} {cs : Value}
    (hb : s.boxes[id]? = some b) (hc : b.children? = some cs) (kind : BoxKind) :
    (field (.box kind id) "children").exec ev s = (.ok cs, s) := by
  obtain ⟨z, i, e, content⟩ := b
  refine exec_field ?_
  cases content with
  | item columns => cases hc
  | group direction space children =>
    cases hc
    exact exec_bind_ok (exec_box ev hb)

/-- The fields of a node are what they were when it was built. -/
lemma exec_field_node (ev : Evaluator) (s : Session) {v x : Value} {name : String}
    (hv : v.isNode = true) (hx : v.fields?.bind (·.get? name) = some x) :
    (field v name).exec ev s = (.ok x, s) := by
  refine exec_field ?_
  rw [← hx]
  cases v <;> first | rfl | cases hv

end Making

/-- **Snapshots**: a group builder whose block gives a generator runs the statements of the
generator once each in order, and its children are the slots and groups of what was yielded, each
value converted before the next statement runs; or the fault of a statement or of a conversion
ends the run and is that of the whole. Only where something that is yielded resumes the generator
itself is it otherwise. Whatever is done to builders later, the children stay as they are, and so do
the fields of nodes. -/
theorem group_of_generator (ev : Evaluator) {s s₁ s₂ s₃ : Session}
    {width height direction block size : Value} {d : Direction} {kind : CursorKind} {g : Nat}
    {body : List (Action × Expr)}
    (hz : (Builder.size width height).exec ev s = (.ok size, s₁))
    (hd : (Builder.direction direction).exec ev s₁ = (.ok d, s₂))
    (hb : isCallable block = true)
    (hc : (call block .none).exec ev s₂ = (.ok (.cursor kind g), s₃))
    (hg : s₃.cursors[g]? = some ⟨.statements body, false⟩) :
    ((∀ t, s₃.Leads ev t → t.Builds ev) →
      (∃ r t, Performs ev g body s₃ r t) ∨ Resumes ev g body s₃) ∧
    (∀ f t, Performs ev g body s₃ (.error f) t → ∃ u, u.Alike t ∧
      (Builder.newGroup width height block direction).exec ev s = (.error f, u)) ∧
    (∀ ns t, Performs ev g body s₃ (.ok ns) t → ∃ u, u.Alike t ∧
      (∀ f w, (flattenEach ns).exec ev u = (.error f, w) →
        (Builder.newGroup width height block direction).exec ev s = (.error f, w)) ∧
      ∀ cs w, (flattenEach ns).exec ev u = (.ok cs, w) → w.CanLog "layoutbox.builder" .debug →
        ∃ x, (Builder.newGroup width height block direction).exec ev s =
            (.ok (.box .group w.boxes.size), x) ∧
          ∀ y, Relation.ReflTransGen (Session.Moves ev) x y →
            (field (.box .group w.boxes.size) "children").exec ev y = (.ok (.tuple cs), y)) ∧
    (∀ t u, Relation.ReflTransGen (Session.Moves ev) t u → t.KeepsChildren u) ∧
    ∀ (v : Value) (name : String) (x : Value), v.isNode = true →
      v.fields?.bind (·.get? name) = some x → ∀ t, (field v name).exec ev t = (.ok x, t) := by
  refine ⟨fun hs => performs_or_resumes hs .refl (exec_draw_statements hg), fun f t hp => ?_,
    fun ns t hp => ?_, fun t u => keepsChildren_of_moves, fun v name x hv hx t =>
      exec_field_node ev t hv hx⟩
  · -- a statement fails
    exact exec_newGroup hz hd (hp.gives hb hc hg)
  · -- all yields give nodes
    obtain ⟨u, hu, hrun⟩ := exec_newGroup hz hd (hp.gives hb hc hg)
    refine ⟨u, hu, fun f w hf => ?_, fun cs w hf hl => ?_⟩
    · -- one of them cannot be flattened
      exact hrun.trans (exec_bind_error hf)
    · -- the children are there, and no move changes them
      obtain ⟨x, hx, hboxes⟩ := exec_grouped size d hf hl
      refine ⟨x, hrun.trans hx, fun y hy => ?_⟩
      obtain ⟨b, hb, hbc⟩ := keepsChildren_of_moves hy w.boxes.size
        ⟨size, .null, .null, .group (.direction d) .null (.tuple cs)⟩ (by rw [hboxes]; simp)
      exact exec_field_children ev hb hbc .group

/-- A builder that is reconfigured between two yields stands there twice, as it was each time, and
what it is made to be later does not show. -/
theorem group_of_generator_reconfigured :
    let ev := Evaluator.within 4
    let z : LayoutSize := ⟨0, ⟨0, .absolute, .zero⟩, ⟨0, .absolute, .zero⟩⟩
    let slot (id : Nat) (columns : Int) : Value :=
      .slot id (.text "slot") (.size z) .null .null (.int columns)
    let body : List (Action × Expr) := [(.yield, .register "b"),
      (.run, .set "columns" (.register "b") (.int 2)), (.yield, .list [.null, .register "b"])]
    let s : Session := { Session.initial [] false with
      boxes := #[⟨.size z, .null, .null, .item (.int 1)⟩]
      registers := [("b", .box .item 0)] }
    ∃ x, (Builder.newGroup (.dimension z.width) (.dimension z.height) (.block 0 (.generator body))
        (.text "vertical")).exec ev s = (.ok (.box .group 1), x) ∧
      ∀ y, Relation.ReflTransGen (Session.Moves ev) x y →
        (field (.box .group 1) "children").exec ev y = (.ok (.tuple [slot 4 1, slot 8 2]), y) := by
  intro ev z slot body s
  let s₁ : Session := { s with serial := 3 }
  let s₃ : Session := { s₁ with cursors := #[⟨.statements body, false⟩] }
  let t : Session := { s₃ with cursors := #[⟨.statements body.tail, false⟩] }
  let u : Session := { t with
    serial := 5
    boxes := #[⟨.size z, .null, .null, .item (.int 2)⟩]
    cursors := #[⟨.statements [], false⟩] }
  have hfirst : Frontier ev (ev.depth + 1) (.box .item 0) t (.ok [slot 4 1])
      { t with serial := 5 } := .built (w := slot 4 1) rfl rfl
  have hsecond : Frontier ev (ev.depth + 1) (.box .item 0) { u with serial := 7 }
      (.ok [slot 8 2]) { u with serial := 9 } := .built (w := slot 8 2) rfl rfl
  have hlist : Frontier ev (ev.depth + 1) (.list [.null, .box .item 0]) u (.ok [slot 8 2])
      { u with serial := 11 } :=
    .sequence (t := { u with serial := 9 }) rfl (.cons .null (.cons hsecond .nil))
  have hlast : Performs ev 0 [] { u with serial := 11 } (.ok []) { u with serial := 11 } := .done
  have hrun : Performs ev 0 body.tail { t with serial := 5 } (.ok [slot 8 2])
      { u with serial := 11 } :=
    .run (t := { u with cursors := #[⟨.statements body.tail.tail, true⟩] }) rfl
      (.yielded (v := .list [.null, .box .item 0])
        (t := { u with cursors := #[⟨.statements [], true⟩] }) rfl hlist rfl hlast)
  have hp : Performs ev 0 body s₃ (.ok [slot 4 1, slot 8 2]) { u with serial := 11 } :=
    .yielded (v := .box .item 0) (t := { t with cursors := #[⟨.statements body.tail, true⟩] }) rfl
      hfirst rfl hrun
  have hz : (Builder.size (.dimension z.width) (.dimension z.height)).exec ev s =
      (.ok (.size { z with id := 2 }), s₁) := rfl
  have hd : (Builder.direction (.text "vertical")).exec ev s₁ = (.ok .vertical, s₁) := rfl
  have hc : (call (.block 0 (.generator body)) .none).exec ev s₁ =
      (.ok (.cursor .generator 0), s₃) := rfl
  obtain ⟨-, -, hsnap, -⟩ := group_of_generator ev hz hd rfl hc rfl
  obtain ⟨w, hw, -, hsnap⟩ := hsnap _ _ hp
  have hf : (flattenEach [slot 4 1, slot 8 2]).exec ev w = (.ok [slot 4 1, slot 8 2], w) := rfl
  have hl : w.CanLog "layoutbox.builder" .debug := by
    rw [hw]
    exact .of_untouched rfl fun _ => rfl
  obtain ⟨x, hx, hy⟩ := hsnap _ w hf hl
  have hn : w.boxes.size = 1 := by
    rw [hw]
    rfl
  rw [hn] at hx hy
  exact ⟨x, hx, hy⟩

/-- Children are not kept where they are assigned: of a group with one child none is left. And where
a generator yields itself, its other statement is run while it is converted, so that the two values
that it yields, of one node each, leave one child. -/
theorem children_not_kept :
    let side (f : String) : Expr := .call f [.int 1] []
    let item : Expr := .call "ItemBox" [side "w", side "h"] []
    let group (block : Expr) : Expr := .call "GroupBox" [side "w", side "h", .block block] []
    let children (steps : List ScriptStep) : List (Option Nat) :=
      (Script.run ⟨steps, [], false⟩).map fun o =>
        match o.result with
        | .ok (.tuple cs) => some cs.length
        | _ => none
    children [⟨group (.generator [(.yield, item)]), some "g"⟩,
        ⟨.get "children" (.register "g"), none⟩,
        ⟨.set "_children" (.register "g") (.tuple []), none⟩,
        ⟨.get "children" (.register "g"), none⟩] = [none, some 1, none, some 0] ∧
      children [⟨.generator [(.yield, .register "s"), (.yield, item)], some "s"⟩,
        ⟨group (.register "s"), some "g"⟩,
        ⟨.get "children" (.register "g"), none⟩] = [none, none, some 1] := by
  decide +kernel

end LayoutTree
