import LayoutTree.Proofs.Builder.Snapshot
import LayoutTree.Proofs.Calls.Compose
import LayoutTree.Script.Eval

/-!
The block of a group builder is called once, while the builder is made, and never again.

What is not called might do anything else instead, and nothing would be different. So a computation
avoids a block if all evaluators that agree on the rest give the same outcome.
-/

namespace LayoutTree

open Run

/-! ### What is called -/

/-- Another evaluator differs at most in what comes of the code of a value. -/
structure Evaluator.AlikeBut (block : Value) (ev ev' : Evaluator) : Prop where
  depth : ev'.depth = ev.depth
  eval : ∀ e, block.code? ≠ some (.block e) → ev'.eval e = ev.eval e
  invoke : ∀ v name, block.code? ≠ some (.method v name) → ev'.invoke v name = ev.invoke v name

namespace Run

variable {α : Type}

/-- A value is not called: whatever it does, the outcome is the same. -/
def Avoids (m : Run α) (block : Value) (ev : Evaluator) (s : Session) : Prop :=
  ∀ ev', ev.AlikeBut block ev' → m.exec ev' s = m.exec ev s

/-- A value is called without arguments, whatever it does, and what is left to do avoids it. -/
def CallsOnce (m : Run α) (block : Value) (ev : Evaluator) (s : Session) : Prop :=
  ∃ (t : Session) (rest : Value → Run α),
    (∀ ev', ev.AlikeBut block ev' → m.exec ev' s = (call block .none >>= rest).exec ev' t) ∧
    ∀ v u, (call block .none).exec ev t = (.ok v, u) → (rest v).Avoids block ev u

end Run

section Refusing

open Classical in
/-- The evaluator to which the code of a value is a certain fault. -/
noncomputable def Evaluator.refusing (ev : Evaluator) (block : Value) (f : Fault) : Evaluator where
  eval e := if block.code? = some (.block e) then throw f else ev.eval e
  invoke v name a := if block.code? = some (.method v name) then throw f else ev.invoke v name a
  depth := ev.depth

variable {ev : Evaluator} {block : Value}

lemma Evaluator.alikeBut_refusing (f : Fault) : ev.AlikeBut block (ev.refusing block f) where
  depth := rfl
  eval _ he := if_neg he
  invoke _ _ hc := funext fun _ => if_neg hc

lemma exec_call_refusing {c : Code} (hc : block.code? = some c) (f : Fault) (s : Session) :
    (call block .none).exec (ev.refusing block f) s = (.error f, s) := by
  cases block with
  | block id body =>
    have hf : (ev.refusing (.block id body) f).eval body = throw f := if_pos rfl
    change ((ev.refusing _ f).eval body).run.run s = _
    rw [hf]
    rfl
  | method v name =>
    have hf : (ev.refusing (.method v name) f).invoke v name .none = throw f := if_pos rfl
    change ((ev.refusing _ f).invoke v name .none).run.run s = _
    rw [hf]
    rfl
  | _ => cases hc

/-- What calls a value does not avoid it. -/
lemma Run.CallsOnce.not_avoids {α : Type} {m : Run α} {s : Session} {c : Code}
    (hc : block.code? = some c) (h : m.CallsOnce block ev s) : ¬ m.Avoids block ev s := by
  intro ha
  obtain ⟨t, rest, hm, -⟩ := h
  have hfault : ∀ f, m.exec ev s = (.error f, t) := by
    intro f
    rw [← ha _ (Evaluator.alikeBut_refusing f), hm _ (Evaluator.alikeBut_refusing f)]
    exact exec_bind_error (exec_call_refusing hc f t)
  have hsame := (hfault .tooDeep).symm.trans (hfault .wrongArguments)
  cases hsame

end Refusing

/-! ### Code that keeps to itself -/

/-- The children of builders stayed, and no code was left behind that is not foreign. -/
structure Session.Spared (foreign : Code → Prop) (s t : Session) : Prop where
  children : s.KeepsChildren t
  among : t.Among foreign

/-- The block is not foreign, and neither the block nor foreign code leaves it behind for the
library to find. Foreign code does not assign children of builders that are there. -/
structure Evaluator.Minds (ev : Evaluator) (block : Value) (foreign : Code → Prop) : Prop where
  apart : ∀ c, block.code? = some c → ¬ foreign c
  called : (call block .none).Keeps ev (·.Among foreign)
  evaluate : ∀ e, foreign (.block e) → ∀ s : Session, s.Among foreign →
    s.Spared foreign ((Run.evaluate e).exec ev s).2
  invoke : ∀ v name a, foreign (.method v name) → ∀ s : Session, s.Among foreign →
    s.Spared foreign ((Run.invoke v name a).exec ev s).2

namespace Session

variable {foreign : Code → Prop} {s t u : Session}

lemma Spared.refl (hs : s.Among foreign) : s.Spared foreign s := ⟨.refl s, hs⟩

lemma Spared.trans (h : s.Spared foreign t) (h' : t.Spared foreign u) : s.Spared foreign u :=
  ⟨h.children.trans h'.children, h'.among⟩

lemma Writes.spared (h : s.Writes foreign t) (hs : s.Among foreign) : s.Spared foreign t :=
  ⟨.of_boxes h.boxes, h.among hs⟩

lemma WritesBoxes.spared (h : s.WritesBoxes t) (hs : s.Among foreign) : s.Spared foreign t := by
  cases h with
  | made b =>
    refine ⟨fun id c hc => ⟨c, ?_, rfl⟩, hs.hooked, hs.pending⟩
    have hid : id < s.boxes.size := (Array.getElem?_eq_some_iff.1 hc).1
    rw [Array.getElem?_push_lt hid, ← hc, Array.getElem?_eq_getElem hid]
  | configured hb hc =>
    exact ⟨(keeps_setBox hb hc : s.KeepsChildren ((setBox _ _).exec .none s).2), hs.hooked,
      hs.pending⟩

/-- What foreign code keeps is kept, and it makes no difference what the block does. -/
lemma stable_spared {ev ev' : Evaluator} {block : Value} (hev : ev.Minds block foreign)
    (h : ev.AlikeBut block ev') (s : Session) :
    StableBoxes ev ev' id foreign (s.Spared foreign) where
  depth := h.depth
  among _ ht := ht.among
  writes _ _ hw ht := ht.trans (hw.spared ht.among)
  boxes _ _ hw ht := ht.trans (hw.spared ht.among)
  evaluate e he t ht := by
    refine ⟨?_, ht.trans (hev.evaluate e he t ht.among)⟩
    change (ev'.eval e).run.run t = (ev.eval e).run.run t
    rw [h.eval e fun hc => hev.apart _ hc he]
  invoke v name a hc t ht := by
    refine ⟨?_, ht.trans (hev.invoke v name a hc t ht.among)⟩
    change (ev'.invoke v name a).run.run t = (ev.invoke v name a).run.run t
    rw [h.invoke v name fun hb => hev.apart _ hb hc]

/-- What the library does with foreign code only avoids the block and spares what is there. -/
lemma avoids_of_blind {α : Type} {ev : Evaluator} {block : Value} {m : Run α}
    (hev : ev.Minds block foreign) (hs : s.Among foreign)
    (hm : ∀ {ev' P}, StableBoxes ev ev' id foreign P → m.Blind ev ev' id P) :
    m.Avoids block ev s ∧ s.Spared foreign (m.exec ev s).2 :=
  ⟨fun _ h => (hm (stable_spared hev h s) s (.refl hs)).1,
    (hm (stable_spared hev ⟨rfl, fun _ _ => rfl, fun _ _ _ => rfl⟩ s) s (.refl hs)).2⟩

end Session

/-! ### Making the builder -/

/-- The size can be made, the direction is one, and the block can be called. -/
def Builder.Accepts (s : Session) (width height block direction : Value) : Prop :=
  (∃ size t, ∀ ev, (Builder.size width height).exec ev s = (.ok size, t)) ∧
    (∃ d, direction.text?.bind Direction.ofText? = some d) ∧ Block.isCallable block = true

section Making

variable (s : Session) (width height : Value)

lemma Builder.exists_exec_size : ∃ x n, ∀ ev,
    (Builder.size width height).exec ev s = (x, { s with serial := n }) :=
  exec_construct_flat s (rfl : Shape.ofType "LayoutSize" = .flat)
    [("width", width), ("height", height)]

variable {s width height} {block direction : Value}

lemma Builder.exec_direction {d : Direction} (hd : direction.text?.bind Direction.ofText? = some d)
    (ev : Evaluator) (t : Session) : (Builder.direction direction).exec ev t = (.ok d, t) := by
  unfold Builder.direction
  rw [hd]
  rfl

/-- A builder is made by calling the block once and finishing with what it gave, without it. -/
lemma exec_newGroup_call {ev : Evaluator} {size : Value} {t : Session} {d : Direction}
    (hz : (Builder.size width height).exec ev s = (.ok size, t))
    (hd : direction.text?.bind Direction.ofText? = some d) (hb : Block.isCallable block = true) :
    (Builder.newGroup width height block direction).exec ev s =
      (call block .none >>= Builder.finish size d).exec ev t := by
  unfold Builder.newGroup
  rw [exec_bind_ok hz, exec_bind_ok (Builder.exec_direction hd ev t), Builder.bind_node hb]

lemma exec_newGroup_accepted (h : Builder.Accepts s width height block direction) :
    ∃ size d n, ∀ ev, (Builder.newGroup width height block direction).exec ev s =
      (call block .none >>= Builder.finish size d).exec ev { s with serial := n } := by
  obtain ⟨⟨size, t, hz⟩, ⟨d, hd⟩, hb⟩ := h
  obtain ⟨x, n, hx⟩ := Builder.exists_exec_size s width height
  refine ⟨size, d, n, fun ev => ?_⟩
  obtain ⟨rfl, rfl⟩ : x = .ok size ∧ t = { s with serial := n } := by
    have hsame := (hx ev).symm.trans (hz ev)
    cases hsame
    exact ⟨rfl, rfl⟩
  exact exec_newGroup_call (hx ev) hd hb

/-- What is not accepted is refused before anything is called. -/
lemma exec_newGroup_refused (h : ¬ Builder.Accepts s width height block direction) :
    ∃ e n, ∀ ev, (Builder.newGroup width height block direction).exec ev s =
      (.error e, { s with serial := n }) := by
  obtain ⟨x, n, hx⟩ := Builder.exists_exec_size s width height
  unfold Builder.newGroup
  cases x with
  | error e => exact ⟨e, n, fun ev => exec_bind_error (hx ev)⟩
  | ok size =>
    rcases hd : direction.text?.bind Direction.ofText? with _ | d
    · have hdirection : ∃ e, ∀ ev, (Builder.direction direction).exec ev { s with serial := n } =
          (.error e, { s with serial := n }) := by
        unfold Builder.direction
        rw [hd]
        exact ⟨_, fun ev => rfl⟩
      obtain ⟨e, he⟩ := hdirection
      refine ⟨e, n, fun ev => ?_⟩
      rw [exec_bind_ok (hx ev), exec_bind_error (he ev)]
    · have hb : ¬ Block.isCallable block = true := fun hb => h ⟨⟨_, _, hx⟩, ⟨d, hd⟩, hb⟩
      refine ⟨.notBlock block.typeName, n, fun ev => ?_⟩
      rw [exec_bind_ok (hx ev), exec_bind_ok (Builder.exec_direction hd ev _),
        Block.node_of_not_callable hb]
      rfl

end Making

/-- The builder is there if what the block gave can be resolved and flattened, and logged. -/
lemma Builder.exec_finish {ev : Evaluator} {s t u : Session} {v n : Value} {cs : List Value}
    (size : Value) (d : Direction) (hn : (Block.resolve v).exec ev s = (.ok n, t))
    (hf : (Node.flatten n).exec ev t = (.ok cs, u)) (hl : u.CanLog "layoutbox.builder" .debug) :
    ∃ w, (finish size d v).exec ev s = (.ok (.box .group u.boxes.size), w) := by
  obtain ⟨w, hw, decided, records, rfl⟩ := exec_log ev hl (d.text ++ " group block produced "
    ++ toString cs.length ++ " children")
  unfold finish
  rw [exec_bind_ok hn, exec_bind_ok hf, exec_bind_ok hw]
  exact ⟨_, rfl⟩

lemma Builder.exists_children_of_finish {ev : Evaluator} {s t : Session} {size v w : Value}
    {d : Direction} (h : (finish size d v).exec ev s = (.ok w, t)) :
    ∃ id cs b, w = .box .group id ∧ t.boxes[id]? = some b ∧ b.children? = some (.tuple cs) := by
  obtain ⟨n, s₁, -, h⟩ := exec_bind_eq_ok h
  obtain ⟨cs, s₂, -, h⟩ := exec_bind_eq_ok h
  obtain ⟨_, s₃, -, h⟩ := exec_bind_eq_ok h
  cases h
  exact ⟨s₃.boxes.size, cs, _, rfl, Array.getElem?_push_size, rfl⟩

section Calling

variable {ev : Evaluator} {foreign : Code → Prop} {s : Session}
  {width height block direction : Value}

/-- The block is called once on the way, and what is left to do avoids it. -/
lemma callsOnce_newGroup (hev : ev.Minds block foreign) (hs : s.Among foreign)
    (h : Builder.Accepts s width height block direction) :
    (Builder.newGroup width height block direction).CallsOnce block ev s := by
  obtain ⟨size, d, n, hmade⟩ := exec_newGroup_accepted h
  refine ⟨{ s with serial := n }, Builder.finish size d, fun ev' _ => hmade ev',
    fun v u hv => ?_⟩
  have hu := hev.called { s with serial := n } ((Session.Writes.serial n).among hs)
  rw [hv] at hu
  exact (Session.avoids_of_blind hev hu fun hP => hP.finish size d v).1

/-- A builder that was made is a group builder with children, and only foreign code was left
behind. -/
lemma exists_children_of_newGroup (hev : ev.Minds block foreign) (hs : s.Among foreign)
    {v : Value} {t : Session}
    (h : (Builder.newGroup width height block direction).exec ev s = (.ok v, t)) :
    t.Among foreign ∧
      ∃ id cs b, v = .box .group id ∧ t.boxes[id]? = some b ∧ b.children? = some (.tuple cs) := by
  have ha : Builder.Accepts s width height block direction := by
    refine Classical.byContradiction fun hn => ?_
    obtain ⟨e, n, he⟩ := exec_newGroup_refused hn
    rw [he ev] at h
    cases h
  obtain ⟨size, d, n, hmade⟩ := exec_newGroup_accepted ha
  rw [hmade ev] at h
  obtain ⟨x, u, hx, hfinish⟩ := exec_bind_eq_ok h
  have hu := hev.called { s with serial := n } ((Session.Writes.serial n).among hs)
  rw [hx] at hu
  have ht := (Session.avoids_of_blind hev hu fun hP => hP.finish size d x).2.among
  rw [hfinish] at ht
  exact ⟨ht, Builder.exists_children_of_finish hfinish⟩

end Calling

/-! ### Using it -/

/-- What may be done with builders once they are made. -/
inductive Use where
  /-- A fluent call, or a call of `build` or `compose`. -/
  | call (kind : BoxKind) (id : Nat) (method : String) (a : Arguments)
  /-- Composing a node with a new composer. -/
  | compose (node engine config : Value)
  | makeSection (group engine config insets spacing : Value)
  | makeLayout (sections : List Value) (engine config : Value)
  /-- Putting values one after the other, as they stand in a block. -/
  | combine (values : List Value)
  /-- Making another group builder, in whose block builders may stand. -/
  | place (width height block direction : Value)
  /-- Whatever else a script does. -/
  | evaluate (e : Expr)

namespace Use

def run : Use → Run Value
  | call kind id method a => boxMethod kind id method a
  | compose node engine config => do Composer.compose (← Composer.make engine config) node
  | makeSection group engine config insets spacing =>
    Layout.makeSection group engine config insets spacing
  | makeLayout sections engine config => Layout.make sections engine config
  | combine values => Block.combine values
  | place width height block direction => Builder.newGroup width height block direction
  | evaluate e => Run.evaluate e

/-- The methods are those meant, and the blocks of other builders and the rest of a script are
foreign. -/
def Foreign (foreign : Code → Prop) : Use → Prop
  | call _ _ method _ => method ∈ Builder.fluent ++ ["build", "compose"]
  | place _ _ block _ => block.Runs foreign
  | evaluate e => foreign (.block e)
  | _ => True

/-- One use after the other, whether they fail or not. -/
def each (us : List Use) : Run (List (Except Fault Value)) :=
  us.mapM fun u => tryCatch (.ok <$> u.run) fun e => pure (.error e)

variable {ev ev' : Evaluator} {foreign : Code → Prop} {P : Session → Prop}

/-- No use needs any code that is not foreign. -/
lemma blind_run (hP : Session.StableBoxes ev ev' id foreign P) {u : Use} (hu : u.Foreign foreign) :
    u.run.Blind ev ev' id P := by
  cases u with
  | call kind id method a =>
    rcases List.mem_append.1 hu with hm | hm
    · exact hP.fluent kind id hm a
    · simp only [List.mem_cons, List.not_mem_nil, or_false] at hm
      rcases hm with rfl | rfl
      · exact hP.build id
      · exact hP.composeBox kind _ (.same P _ _)
  | compose node engine config =>
    exact .bind (hP.makeComposer (.same P _ _)) fun c => hP.compose c node
  | makeSection group engine config insets spacing =>
    exact hP.makeSection group (.same P _ _) insets spacing
  | makeLayout sections engine config =>
    exact hP.makeLayout sections (.same P _ _) (fun _ => True) (fun _ _ => trivial)
      fun _ _ _ C _ _ => .same P C.engine C.config
  | combine values => exact hP.combine values
  | place width height block direction => exact hP.newGroup width height hu direction
  | evaluate e => exact hP.evaluate e hu

lemma blind_each (hP : Session.StableBoxes ev ev' id foreign P) {us : List Use}
    (hus : ∀ u ∈ us, u.Foreign foreign) : (each us).Blind ev ev' id P :=
  .mapM fun u hu => .tryCatch (.map _ (blind_run hP (hus u hu))) fun _ => .pure _

end Use

/-- **Blocks run once**: a group builder whose size, direction and block are accepted calls its
block exactly once, whatever the block does. Otherwise it is refused and the block is not called.
Whatever builders are used for once it is made, and however often, the block is not called again,
and the children are those that it was made with. -/
theorem block_called_once {ev : Evaluator} {foreign : Code → Prop} {block : Value}
    (hev : ev.Minds block foreign) {s : Session} (hs : s.Among foreign)
    (width height direction : Value) :
    let newGroup := Builder.newGroup width height block direction
    (Builder.Accepts s width height block direction → newGroup.CallsOnce block ev s) ∧
    (¬ Builder.Accepts s width height block direction → newGroup.Avoids block ev s ∧
      ∃ e n, newGroup.exec ev s = (.error e, { s with serial := n })) ∧
    ∀ v t, newGroup.exec ev s = (.ok v, t) →
      ∃ cs, (field v "children").exec ev t = (.ok (.tuple cs), t) ∧
        ∀ us : List Use, (∀ u ∈ us, u.Foreign foreign) → (Use.each us).Avoids block ev t ∧
          ∀ outcomes u, (Use.each us).exec ev t = (outcomes, u) →
            (field v "children").exec ev u = (.ok (.tuple cs), u) := by
  intro newGroup
  refine ⟨callsOnce_newGroup hev hs, fun hn => ?_, fun v t hv => ?_⟩
  · obtain ⟨e, n, he⟩ := exec_newGroup_refused hn
    exact ⟨fun ev' _ => (he ev').trans (he ev).symm, e, n, he ev⟩
  · obtain ⟨ht, id, cs, b, rfl, hbox, hcs⟩ := exists_children_of_newGroup hev hs hv
    refine ⟨cs, exec_field_children ev hbox hcs .group, fun us hus => ?_⟩
    obtain ⟨havoids, hspared⟩ := Session.avoids_of_blind hev ht fun hP => Use.blind_each hP hus
    refine ⟨havoids, fun outcomes u hu => ?_⟩
    rw [hu] at hspared
    obtain ⟨c, hc, hcb⟩ := hspared.children id b hbox
    exact exec_field_children ev hc (hcb.trans hcs) .group

/-- A block that takes a note gives an item builder. It is called where the direction is one and not
where it is none, and not again where the group builder is configured, built, put into the block of
another builder and composed, nor where a layout is refused. -/
theorem block_called_once_placed :
    let ev := Evaluator.within 4
    let z : LayoutSize := ⟨0, ⟨0, .absolute, .zero⟩, ⟨0, .absolute, .zero⟩⟩
    let width : Value := .dimension z.width
    let height : Value := .dimension z.height
    let block : Value := .block 0 (.note "called" (.register "item"))
    let s : Session := { Session.initial [] false with
      boxes := #[⟨.size z, .null, .null, .item (.int 1)⟩]
      registers := [("item", .box .item 0), ("group", .box .group 1)] }
    let newGroup (direction : Text) := Builder.newGroup width height block (.text direction)
    let uses : List Use := [.call .group 1 "space" ⟨[.null], []⟩, .call .group 1 "build" .none,
      .place width height (.block 1 (.register "group")) (.text "vertical"),
      .makeSection (.box .group 1) .null .null .null .null, .makeLayout [] .null .null]
    (newGroup "vertical").CallsOnce block ev s ∧ (newGroup "upwards").Avoids block ev s ∧
      ∃ t cs, (newGroup "vertical").exec ev s = (.ok (.box .group 1), t) ∧
        (Use.each uses).Avoids block ev t ∧
        ∀ outcomes u, (Use.each uses).exec ev t = (outcomes, u) →
          (field (.box .group 1) "children").exec ev u = (.ok (.tuple cs), u) := by
  intro ev z width height block s newGroup uses
  let foreign : Code → Prop := (· = .block (.register "group"))
  have hregister : ∀ name t, ((evaluate (.register name)).exec ev t).2 = t := by
    intro name t
    change ((register name).exec _ t).2 = t
    unfold register
    rw [exec_bind_ok (exec_get _ t)]
    cases t.registers.get? name <;> rfl
  have hev : ev.Minds block foreign := {
    apart := by rintro c ⟨⟩ ⟨⟩
    called := by
      intro t ht
      change Session.Among foreign ((evaluate (.register "item")).exec ev
        { t with taken := t.taken.push (.text "called") }).2
      rw [hregister]
      exact ⟨ht.hooked, ht.pending⟩
    evaluate := by
      rintro e ⟨⟩ t ht
      rw [hregister]
      exact .refl ht
    invoke := by rintro v name a ⟨⟩ }
  have hs : s.Among foreign := {
    hooked := by rintro i name v - ⟨⟩
    pending := by rintro id c body ⟨⟩ }
  have hsize : ∀ ev, (Builder.size width height).exec ev s =
      (.ok (.size { z with id := 2 }), { s with serial := 3 }) := fun _ => rfl
  have hvertical : Builder.Accepts s width height block (.text "vertical") :=
    ⟨⟨_, _, hsize⟩, ⟨.vertical, rfl⟩, rfl⟩
  have hupwards : ¬ Builder.Accepts s width height block (.text "upwards") := by
    rintro ⟨-, ⟨d, ⟨⟩⟩, -⟩
  have huses : ∀ u ∈ uses, u.Foreign foreign := by
    have hspace : "space" ∈ Builder.fluent ++ ["build", "compose"] := by decide
    have hbuild : "build" ∈ Builder.fluent ++ ["build", "compose"] := by decide
    simp only [uses, List.forall_mem_cons, List.not_mem_nil, false_imp_iff, implies_true]
    refine ⟨hspace, hbuild, ?_, trivial, trivial, trivial⟩
    rintro c ⟨⟩
    rfl
  -- The builder is made, step by step.
  let slot : Value := .slot 4 (.text "slot") (.size z) .null .null (.int 1)
  let s₁ : Session := { s with serial := 3, taken := #[.text "called"] }
  have hcall : (call block .none).exec ev { s with serial := 3 } = (.ok (.box .item 0), s₁) := rfl
  have hresolve : (Block.resolve (.box .item 0)).exec ev s₁ =
      (.ok slot, { s₁ with serial := 5 }) := rfl
  have hflatten : (Node.flatten slot).exec ev { s₁ with serial := 5 } =
      (.ok [slot], { s₁ with serial := 5 }) := rfl
  obtain ⟨t, hfinish⟩ := Builder.exec_finish (.size { z with id := 2 }) .vertical hresolve hflatten
    (.of_untouched rfl fun _ => rfl)
  have ht : (newGroup "vertical").exec ev s = (.ok (.box .group 1), t) := by
    refine (exec_newGroup_call (hsize ev) rfl rfl).trans ?_
    rw [exec_bind_ok hcall]
    exact hfinish
  obtain ⟨hcalled, -, hmade⟩ := block_called_once hev hs width height (.text "vertical")
  obtain ⟨-, hrefused, -⟩ := block_called_once hev hs width height (.text "upwards")
  obtain ⟨cs, -, hafter⟩ := hmade _ t ht
  obtain ⟨havoids, hcs⟩ := hafter uses huses
  exact ⟨hcalled hvertical, (hrefused hupwards).1, t, cs, ht, havoids, hcs⟩

end LayoutTree
