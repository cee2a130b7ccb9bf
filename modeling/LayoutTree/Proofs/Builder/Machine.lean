import LayoutTree.Proofs.Builder.History
import LayoutTree.Script.Run

/-!
The builder as a state machine: from the making of a builder on, whatever it is configured with and
whichever configurations fail, its state is told by the last successful configuration for each
field, and what it builds is told by its state.
-/

namespace LayoutTree

open Run Reading

/-! ### Children of new builders -/

namespace Node

variable {ev : Evaluator}

/-- Slots and groups in a row. -/
def AllChildren (vs : List Value) : Prop := ∀ v ∈ vs, v.isChild = true

lemma AllChildren.append {vs ws : List Value} (h : AllChildren vs) (h' : AllChildren ws) :
    AllChildren (vs ++ ws) := fun v hv => (List.mem_append.1 hv).elim (h v) (h' v)

lemma AllChildren.flatten {vss : List (List Value)} (h : ∀ vs ∈ vss, AllChildren vs) :
    AllChildren vss.flatten := fun v hv =>
  have ⟨vs, hvs, hv⟩ := List.mem_flatten.1 hv
  h vs hvs v hv

mutual

/-- By induction on the node. -/
lemma yields_flattenWith {deep : Value → Run (List Value)}
    (hd : ∀ v, (deep v).Yields ev (fun _ => True) AllChildren) (v : Value) :
    (flattenWith deep v).Yields ev (fun _ => True) AllChildren := by
  cases v with
  | fragment id k items => exact yields_flattenItems hd items
  | slot => exact .pure (List.forall_mem_singleton.2 rfl)
  | group => exact .pure (List.forall_mem_singleton.2 rfl)
  | _ => exact .throw _

lemma yields_flattenItems {deep : Value → Run (List Value)}
    (hd : ∀ v, (deep v).Yields ev (fun _ => True) AllChildren) (v : Value) :
    (flattenItems deep v).Yields ev (fun _ => True) AllChildren := by
  have hstrangers : ∀ v, (flattenStrangers v).Yields ev (fun _ => True) AllChildren := fun v =>
    yields_forElements (fun _ => .throw _) v
  cases v with
  | list xs => exact yields_flattenAll hd xs
  | tuple xs => exact yields_flattenAll hd xs
  | cursor kind id => exact (yields_forElements hd (.cursor kind id)).map fun _ h => .flatten h
  | _ => exact hstrangers _

lemma yields_flattenAll {deep : Value → Run (List Value)}
    (hd : ∀ v, (deep v).Yields ev (fun _ => True) AllChildren) (vs : List Value) :
    (flattenAll deep vs).Yields ev (fun _ => True) AllChildren := by
  cases vs with
  | nil => exact .pure fun v hv => absurd hv List.not_mem_nil
  | cons v vs =>
    exact .bind (yields_flattenWith hd v) fun _ hxs =>
      .bind (yields_flattenAll hd vs) fun _ hys => .pure (hxs.append hys)

end

/-- Nothing but slots and groups is left of a node. -/
lemma yields_flatten (v : Value) : (flatten v).Yields ev (fun _ => True) AllChildren := by
  have hwithin : ∀ n v, (flattenWithin n v).Yields ev (fun _ => True) AllChildren := by
    intro n
    induction n with
    | zero => exact fun _ => .throw _
    | succ n ih => exact yields_flattenWith ih
  exact .bind (.of_keeps fun _ _ => trivial) fun _ _ => hwithin _ v

end Node

/-! ### Making builders -/

namespace Builder

/-- How a builder is made. -/
inductive Making where
  | item (width height columns : Value)
  | group (width height block direction : Value)

namespace Making

def run : Making → Run Value
  | item width height columns => newItem width height columns
  | group width height block direction => newGroup width height block direction

def kind : Making → BoxKind
  | item .. => .item
  | group .. => .group

def width : Making → Value
  | item width _ _ => width
  | group width _ _ _ => width

def height : Making → Value
  | item _ height _ => height
  | group _ height _ _ => height

/-- What a new builder holds besides its size: the columns, or the direction, no space, and
children. -/
inductive Gives : Making → BoxContent → Prop
  | item {width height columns : Value} : Gives (.item width height columns) (.item columns)
  | group {width height block direction : Value} {d : Direction} {cs : List Value} :
    direction.text?.bind Direction.ofText? = some d → (∀ c ∈ cs, c.isChild = true) →
    Gives (.group width height block direction) (.group (.direction d) .null (.tuple cs))

variable {ev : Evaluator} {s t : Session} {v : Value}

lemma exec_size_ok {w h : Value} (hv : (size w h).exec ev s = (.ok v, t)) :
    ∃ z : LayoutSize, v = .size z ∧ w.IsDimension z.width ∧ h.IsDimension z.height := by
  obtain ⟨z, n, hz, hr⟩ | ⟨is, n, hz, -⟩ := exec_size ev s w h <;> rw [hv] at hz <;> cases hz
  exact ⟨z, rfl, hr⟩

lemma exec_direction_ok {x : Value} {d : Direction}
    (hd : (direction x).exec ev s = (.ok d, t)) : x.text?.bind Direction.ofText? = some d := by
  unfold direction at hd
  split at hd
  · cases hd
    assumption
  · obtain ⟨w, u, -, hw⟩ := exec_bind_eq_ok hd
    cases hw

/-- **New builders** have a size, and neither insets nor edge spacings nor space. -/
lemma exec_run {m : Making} (hv : m.run.exec ev s = (.ok v, t)) : ∃ id content b,
    v = .box m.kind id ∧ t.boxes[id]? = some b ∧ m.Gives content ∧
      b.Configured m.width m.height content [] := by
  have hnew : ∀ (b : Box) (u : Session), (newBox b).exec ev u =
      (.ok (.box b.content.kind u.boxes.size), { u with boxes := u.boxes.push b }) := fun _ _ => rfl
  cases m with
  | item width height columns =>
    obtain ⟨w, u, hw, hbox⟩ := exec_bind_eq_ok hv
    obtain ⟨z, rfl, hwidth, hheight⟩ := exec_size_ok hw
    rw [hnew] at hbox
    cases hbox
    exact ⟨_, .item columns, _, rfl, by simp, .item, .made hwidth hheight _⟩
  | group width height block direction =>
    obtain ⟨w, u₁, hw, hv⟩ := exec_bind_eq_ok hv
    obtain ⟨z, rfl, hwidth, hheight⟩ := exec_size_ok hw
    obtain ⟨d, u₂, hd, hv⟩ := exec_bind_eq_ok hv
    obtain ⟨n, u₃, -, hv⟩ := exec_bind_eq_ok hv
    obtain ⟨cs, u₄, hcs, hv⟩ := exec_bind_eq_ok hv
    obtain ⟨-, u₅, -, hbox⟩ := exec_bind_eq_ok hv
    rw [hnew] at hbox
    cases hbox
    have hchildren := (Node.yields_flatten n u₃ trivial).2 cs (by rw [hcs])
    exact ⟨_, .group (.direction d) .null (.tuple cs), _, rfl, by simp,
      .group (exec_direction_ok hd) hchildren, .made hwidth hheight _⟩

lemma Gives.areChildren {m : Making} {content : BoxContent} (h : m.Gives content) (d g vs : Value)
    (hc : content = .group d g vs) : vs.AreChildren := by
  cases h with
  | item => cases hc
  | group _ hcs =>
    cases hc
    exact ⟨_, rfl, hcs⟩

end Making

end Builder

/-! ### The state machine -/

/-- **Builders as state machines**: after a builder is made, any number of configurations are tried
on it, and others things may happen that leave it alone. Its size and insets are those of the last
call for them that succeeded. Each edge is what the last successful call gave that was for that
edge or for all edges, and there are edge spacings at all if some were set since they were last
cleared. The content holds the columns, or the direction and space, that were put there last, and
the children that the builder was made with. A configuration that fails changes nothing but that
identities are taken, and one for each of two edges does the same in either order. What is built
holds just what the builder holds, and the builder stays as it is. -/
theorem builder_states (ev : Evaluator) {s s₀ : Session} {m : Builder.Making} {v : Value}
    (hm : m.run.exec ev s = (.ok v, s₀)) (hs : s₀.SetsEdges) :
    ∃ id content, v = .box m.kind id ∧ m.Gives content ∧
      ∀ cs t, Builder.History ev m.kind id Configuration.Ordinary s₀ cs t →
        ∃ b, t.boxes[id]? = some b ∧ b.Configured m.width m.height content cs ∧
          (∀ c : Configuration, c.Ordinary →
            (∃ x d u, (c.run m.kind id).exec ev t = (.ok x, u) ∧ b.Takes c d ∧
              u.boxes = t.boxes.setIfInBounds id d) ∨
            ∃ f n, (c.run m.kind id).exec ev t = (.error f, { t with serial := n }) ∧
              ∀ d, ¬ b.Takes c d) ∧
          (∀ (e f : Edge) (a a' : Arguments), e ≠ f → (a.find? 0 "spacing").isSome = true →
            (a'.find? 0 "spacing").isSome = true →
            ∃ x y u w d d',
              (do let _ ← (Configuration.edge e a).run m.kind id
                  (Configuration.edge f a').run m.kind id).exec ev t = (.ok x, u) ∧
              (do let _ ← (Configuration.edge f a').run m.kind id
                  (Configuration.edge e a).run m.kind id).exec ev t = (.ok y, w) ∧
              u.boxes[id]? = some d ∧ w.boxes[id]? = some d' ∧ d.Alike d') ∧
          ∃ r n, (boxMethod m.kind id "build" .none).exec ev t = (r, { t with serial := n }) ∧
            b.Builds r := by
  obtain ⟨id, content, b₀, rfl, hb₀, hgives, hmade⟩ := Builder.Making.exec_run hm
  refine ⟨id, content, rfl, hgives, fun cs t h => ?_⟩
  obtain ⟨b, hb, ht, hconf⟩ := h.keeps (P := fun cs b => b.Configured m.width m.height content cs)
    (fun _ => Configuration.Ordinary.fluent) hb₀ hs hmade fun h hc hd => h.step hc hd
  refine ⟨b, hb, hconf, fun c hc => ?_, fun e f a a' hne ha ha' => ?_, ?_⟩
  · -- one more call or assignment
    obtain ⟨x, d, u, hu, hd, hboxes, -⟩ | hfails :=
      Configuration.comes ev m.kind ht hb c hc.fluent
    · exact .inl ⟨x, d, u, hu, hd, hboxes⟩
    · exact .inr hfails
  · -- calls for two edges, in either order
    have hset : ∀ {u : Session} {d : Box} {a : Arguments} (e : Edge), u.SetsEdges →
        u.boxes[id]? = some d → d.edges = .null ∨ d.edges.isEdges = true →
        (a.find? 0 "spacing").isSome = true → ∃ x d' w,
          ((Configuration.edge e a).run m.kind id).exec ev u = (.ok x, w) ∧
          d.Takes (.edge e a) d' ∧ w.boxes[id]? = some d' ∧ w.SetsEdges :=
      fun e hu hd he ha => Builder.exec_edge hu hd he ha e
    obtain ⟨x₁, c₁, u₁, hu₁, h₁, hc₁, ht₁⟩ := hset e ht hb hconf.edges ha
    obtain ⟨x₂, c₂, u₂, hu₂, h₂, hc₂, -⟩ := hset f ht₁ hc₁ (.inr h₁.isEdges) ha'
    obtain ⟨y₁, d₁, w₁, hw₁, k₁, hd₁, ht₂⟩ := hset f ht hb hconf.edges ha'
    obtain ⟨y₂, d₂, w₂, hw₂, k₂, hd₂, -⟩ := hset e ht₂ hd₁ (.inr k₁.isEdges) ha
    exact ⟨x₂, y₂, u₂, w₂, c₂, d₂, (exec_bind_ok hu₁).trans hu₂, (exec_bind_ok hw₁).trans hw₂,
      hc₂, hd₂, Box.Takes.alike hne h₁ h₂ k₁ k₂⟩
  · -- building
    exact Builder.exec_build hb (hconf.sized hgives.areChildren)

/-- An item builder that gets a leading edge, three columns and a size, then another size in vain,
and in the end space four at all edges. -/
theorem builder_states_item :
    let ev := Evaluator.within 4
    let x : Dimension := ⟨0, .absolute, .zero⟩
    let y : Dimension := ⟨1, .estimated, .zero⟩
    let g : Value := .spacing ⟨2, .fixed, .zero⟩
    let m : Builder.Making := .item (.dimension x) (.dimension x) (.int 2)
    let edge : Configuration := .edge .leading ⟨[g], []⟩
    let size : Configuration := .size ⟨[.dimension y, .dimension x], []⟩
    let columns : Configuration := .assignment "columns" (.int 3)
    let insets : Configuration := .insets ⟨[], [("space", .int 4)]⟩
    ∃ s₀ s₁ t b r, m.run.exec ev (Session.initial [] false) = (.ok (.box .item 0), s₀) ∧
      Builder.History ev .item 0 Configuration.Ordinary s₀ [size, columns, edge] s₁ ∧
      (∃ f u, ((Configuration.size ⟨[.null, .dimension x], []⟩).run .item 0).exec ev s₁ =
        (.error f, u)) ∧
      Builder.History ev .item 0 Configuration.Ordinary s₀ [insets, size, columns, edge] t ∧
      t.boxes[0]? = some b ∧
      (∃ z, b.size = .size z ∧ z.width = y ∧ z.height = x) ∧
      (∃ i, b.insets = .insets i ∧ ∀ e, i.at e = .ofInt 4) ∧
      b.edges.edge .leading = g ∧ b.edges.edge .top = .null ∧
      b.content = .item (.int 3) ∧ b.Builds r := by
  intro ev x y g m edge size columns insets
  let vain : Configuration := .size ⟨[.null, .dimension x], []⟩
  let builder (serial : Nat) (b : Box) : Session :=
    { Session.initial [] false with boxes := #[b], serial }
  let s₀ := builder 3 ⟨.size ⟨2, x, x⟩, .null, .null, .item (.int 2)⟩
  let s₁ := builder 6 ⟨.size ⟨2, x, x⟩, .null, .edges 5 g .null .null .null, .item (.int 2)⟩
  let s₂ := builder 6 ⟨.size ⟨2, x, x⟩, .null, .edges 5 g .null .null .null, .item (.int 3)⟩
  let s₃ := builder 8 ⟨.size ⟨7, y, x⟩, .null, .edges 5 g .null .null .null, .item (.int 3)⟩
  let s₄ := builder 10 ⟨.size ⟨7, y, x⟩, .null, .edges 5 g .null .null .null, .item (.int 3)⟩
  have hm : m.run.exec ev (Session.initial [] false) = (.ok (.box .item 0), s₀) := rfl
  obtain ⟨id, content, hid, hgives, hstates⟩ :=
    builder_states ev (m := m) hm (.of_attributes rfl)
  cases hid
  have hcontent : Builder.Making.Gives (.item (.dimension x) (.dimension x) (.int 2)) content :=
    hgives
  cases hcontent
  have hedge : Builder.History ev .item 0 Configuration.Ordinary s₀ [edge] s₁ :=
    .succeeded .start trivial rfl
  have hcolumns : Builder.History ev .item 0 Configuration.Ordinary s₀ [columns, edge] s₂ :=
    hedge.succeeded (.inl rfl) rfl
  have hsize : Builder.History ev .item 0 Configuration.Ordinary s₀ [size, columns, edge] s₃ :=
    hcolumns.succeeded trivial rfl
  have hfails : (vain.run .item 0).exec ev s₃ = (.error _, s₄) := rfl
  have hvain : Builder.History ev .item 0 Configuration.Ordinary s₀ [size, columns, edge] s₄ :=
    hsize.failed (c := vain) trivial hfails
  obtain ⟨b₁, -, -, hcomes, -⟩ := hstates _ _ hvain
  obtain ⟨z, hz⟩ : ∃ z, (Value.int 4).IsNumber z := ⟨.ofInt 4, .int (by decide +kernel)⟩
  have hgive : Arguments.GiveInsets ⟨[], [("space", .int 4)]⟩ ⟨0, z, z, z, z⟩ :=
    .space rfl fun e => by cases e <;> exact hz
  obtain ⟨v, d, t, hrun, -⟩ | ⟨f, n, -, hnone⟩ := hcomes insets trivial
  swap
  · exact absurd (.insets hgive) (hnone _)
  have hinsets := Builder.History.succeeded (c := insets) hvain trivial hrun
  obtain ⟨b, hb, hconf, -, -, r, n, -, hbuilds⟩ := hstates _ _ hinsets
  have hleading : b.edges.edge .leading = g := hconf.edge .leading
  have htop : b.edges.edge .top = .null := hconf.edge .top
  have hlast : b.content = .item (.int 3) := hconf.content
  refine ⟨s₀, s₃, t, b, r, hm, hsize, ⟨_, s₄, hfails⟩, hinsets, hb, ?_, ?_, hleading, htop, hlast,
    hbuilds⟩
  · -- the dimensions of the call that succeeded
    obtain ⟨z, hz, hwidth, hheight⟩ := hconf.size
    exact ⟨z, hz, Value.isDimension_dimension_iff.1 hwidth,
      Value.isDimension_dimension_iff.1 hheight⟩
  · -- the number for all edges
    obtain ⟨hnone, -⟩ | ⟨a, i, ha, hi, hgive⟩ := hconf.insets
    · cases hnone
    have ha : Arguments.mk [] [("space", .int 4)] = a := Option.some.inj ha
    subst ha
    refine ⟨i, hi, fun e => ?_⟩
    cases hgive with
    | space _ hspace => exact (Value.isNumber_int_iff.1 (hspace e)).2
    | insets hnull => cases hnull
    | number hnull => cases hnull
    | edges hnull => cases hnull

end LayoutTree
