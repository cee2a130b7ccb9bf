import LayoutTree.Proofs.Lawful.Function
import LayoutTree.Script.Run

/-!
Whole scripts keep to what is lawful.

By induction on expressions their values are lawful, by induction on the levels of evaluation so
are the values of blocks, generators and methods, and by induction on the steps so is everything
that a script leaves behind. A construction that does not give something lawful fails, and unless
it fails with the error of code that it had to run, it refuses what it was given.
-/

namespace LayoutTree

variable {kept : Prop}

open Run Fault

variable {ev : Evaluator} {v : Value} {a : Arguments}

/-! ### Expressions -/

namespace Run

lemma ensures_register (name : Text) : (register name).Ensures kept ev Any (Value.Lawful kept) := by
  refine .bind .get fun s hs => ?_
  split
  · exact .pure (hs.registers.get? ‹_›)
  · exact .throw trivial

lemma ensures_callFunction (hev : ev.Lawful kept Any) {name : String} (hn : name ∉ Expr.unvalidated)
    (ha : a.Lawful kept) : (callFunction name a).Ensures kept ev Any (Value.Lawful kept) := by
  unfold callFunction
  split
  case h_1 f hf =>
    obtain ⟨_, _, hl, -⟩ := List.lookup_eq_some_iff.1 hf
    exact Function.lawful_all hev (name, f) (by rw [hl]; simp) hn a ha
  case h_2 => exact .throw trivial

mutual

/-- By induction on the expression; blocks and generators keep their code for later. -/
lemma ensures_evalExpr (hev : ev.Lawful kept Any) (e : Expr) (h : e.Lawful kept) :
    (evalExpr e).Ensures kept ev Any (Value.Lawful kept) := by
  have hi := h.inside
  cases e with
  | float x =>
    rw [evalExpr, newFloat.eq_def]
    split
    · exact .bind ensures_fresh fun _ _ => .pure (.atom rfl)
    · exact .pure (.atom rfl)
  | token => exact .bind ensures_fresh fun _ _ => .pure (.atom rfl)
  | list es => exact .map (ensures_evalAll hev es hi) fun _ => Value.lawful_list.2
  | tuple es => exact .map (ensures_evalAll hev es hi) fun _ => Value.lawful_tuple.2
  | dict es =>
    refine .bind (ensures_evalEntries hev es fun p hp => ?_) fun _ => ensures_newDict
    exact hi _ (List.mem_map_of_mem hp)
  | iterator e =>
    refine .bind (ensures_evalExpr hev e (hi e List.mem_cons_self)) fun v hv => ?_
    exact .bind (ensures_elements hev hv) fun _ hxs => ensures_newCursor hxs
  | generator body => exact ensures_newCursor fun p hp => hi _ (List.mem_map_of_mem hp)
  | block body =>
    exact .bind ensures_fresh fun _ _ => .pure (Value.lawful_block.2 (hi body List.mem_cons_self))
  | register name => exact ensures_register name
  | note t e =>
    exact .bind (ensures_note _) fun _ _ => ensures_evalExpr hev e (hi e List.mem_cons_self)
  | fail t => exact .throw trivial
  | call f args named =>
    have hnamed : ∀ p ∈ named, p.2.Lawful kept := fun p hp =>
      hi _ (List.mem_append_right _ (List.mem_map_of_mem hp))
    refine .bind (.modify fun s hs => { hs with
      registry := Function.lawful_loads f hs.registry }) fun _ _ => ?_
    refine .bind (ensures_evalAll hev args fun e he => hi e (List.mem_append_left _ he))
      fun xs hxs => .bind (ensures_evalEntries hev named hnamed) fun fs hfs => ?_
    exact ensures_callFunction hev h.allowed ⟨hxs, hfs⟩
  | method name receiver args named =>
    have hnamed : ∀ p ∈ named, p.2.Lawful kept := fun p hp =>
      hi _ (List.mem_append_right _ (List.mem_map_of_mem hp))
    refine .bind (ensures_evalExpr hev receiver (hi _ List.mem_cons_self)) fun v hv => ?_
    refine .bind (ensures_field hev hv h.allowed) fun f hf => ?_
    refine .bind (ensures_evalAll hev args fun e he =>
      hi e (List.mem_append_left _ (List.mem_cons_of_mem _ he))) fun xs hxs => ?_
    refine .bind (ensures_evalEntries hev named hnamed) fun fs hfs => ?_
    exact ensures_callValue hev hf ⟨hxs, hfs⟩
  | get name receiver =>
    exact .bind (ensures_evalExpr hev receiver (hi _ List.mem_cons_self)) fun _ hv =>
      ensures_field hev hv h.allowed
  | set name receiver value =>
    refine .bind (ensures_evalExpr hev receiver (hi _ List.mem_cons_self)) fun v hv => ?_
    have hvalue := hi value (List.mem_cons_of_mem _ List.mem_cons_self)
    refine .bind (ensures_evalExpr hev value hvalue) fun x hx => ?_
    exact .bind (ensures_assign hev hx v h.allowed) fun _ _ => .pure hv
  | _ => exact .pure (.atom rfl)

lemma ensures_evalAll (hev : ev.Lawful kept Any) (es : List Expr) (h : ∀ e ∈ es, e.Lawful kept) :
    (evalAll es).Ensures kept ev Any fun vs => ∀ v ∈ vs, v.Lawful kept := by
  cases es with
  | nil => exact .pure fun v hv => absurd hv List.not_mem_nil
  | cons e es =>
    obtain ⟨he, hes⟩ := List.forall_mem_cons.1 h
    exact .cons (ensures_evalExpr hev e he) (ensures_evalAll hev es hes)

lemma ensures_evalEntries (hev : ev.Lawful kept Any) (es : List (Text × Expr))
    (h : ∀ p ∈ es, p.2.Lawful kept) :
    (evalEntries es).Ensures kept ev Any (Fields.Lawful kept) := by
  match es with
  | [] => exact .pure .nil
  | (k, e) :: es =>
    obtain ⟨he, hes⟩ := List.forall_mem_cons.1 h
    exact .bind (ensures_evalExpr hev e he) fun v hv =>
      .bind (ensures_evalEntries hev es hes) fun fs hfs => .pure (.cons hv hfs)

end

end Run

/-! ### Evaluators -/

namespace Evaluator

/-- By induction on the levels of evaluation. -/
lemma lawful_within (n : Nat) : (within n).Lawful kept Any := by
  induction n with
  | zero => exact ⟨fun _ _ => trivial, fun _ _ s hs => ⟨hs, trivial⟩,
      fun _ _ _ _ _ _ s hs => ⟨hs, trivial⟩⟩
  | succ n ih =>
    refine ⟨fun _ _ => trivial, fun e he s hs => ensures_evalExpr ih e he s hs, ?_⟩
    exact fun v name a hv hn ha s hs => ensures_boundMethod ih hv hn ha s hs

end Evaluator

/-! ### Constructions -/

/-- The computations that make layout values, nodes and builders, or flatten nodes: the functions
for them that validate, called with lawful arguments, and what builders do when they build. -/
inductive Run.Constructs (kept : Prop) : Run Value → Prop
  | function {name : String} {f : Function} {a : Arguments} :
      (name, f) ∈ Function.layout → name ∉ Expr.unvalidated → a.Lawful kept →
      Constructs kept (f a)
  | build (id : Nat) : Constructs kept (Builder.build id)

lemma Run.Constructs.ensures {m : Run Value} (h : m.Constructs kept) {F : Fault → Prop}
    (hev : ev.Lawful kept F) : m.Ensures kept ev F (Value.Lawful kept) := by
  cases h with
  | function hf hn ha => exact Function.lawful_layout hev _ hf hn _ ha
  | build id => exact Builder.ensures_build hev id

/-! ### Runs -/

/-- The values that a builder holds. -/
def Box.values (b : Box) : List Value :=
  b.size :: b.insets :: b.edges :: match b.content with
    | .item columns => [columns]
    | .group direction space children => [direction, space, children]

/-- The children of a group builder are slots and groups. -/
def BoxContent.Regular : BoxContent → Prop
  | .item _ => True
  | .group _ _ children => children.AreChildren

instance : DecidablePred BoxContent.Regular
  | .item _ => isTrue trivial
  | .group _ _ children => inferInstanceAs (Decidable children.AreChildren)

lemma BoxContent.Lawful.regular {c : BoxContent} (h : c.Lawful kept) (hkept : kept) :
    c.Regular := by
  cases c with
  | item => trivial
  | group => exact h.2.2.2 hkept

lemma Box.Lawful.values {b : Box} (h : b.Lawful kept) : ∀ v ∈ b.values, v.Lawful kept := by
  obtain ⟨hs, hi, he, hc⟩ := h
  refine List.forall_mem_cons.2 ⟨hs, List.forall_mem_cons.2 ⟨hi, List.forall_mem_cons.2 ⟨he, ?_⟩⟩⟩
  rcases hb : b.content with _ | _ <;> rw [hb] at hc
  · exact List.forall_mem_singleton.2 hc
  · simpa using ⟨hc.1, hc.2.1, hc.2.2.1⟩

namespace Session

/-- The values that a session holds: in registers, builders, iterators and composers, and as
attributes. -/
inductive Holds (s : Session) : Value → Prop
  | register {r : Text × Value} : r ∈ s.registers → Holds s r.2
  | builder {b : Box} {v : Value} : b ∈ s.boxes → v ∈ b.values → Holds s v
  | iterator {c : Cursor} {xs : List Value} {v : Value} :
      c ∈ s.cursors → c.pending = .values xs → v ∈ xs → Holds s v
  | composer {c : Composer} {v : Value} :
      c ∈ s.composers → v ∈ [c.engine, c.config, c.repeats] → Holds s v
  | attached {p : Identity × Fields} {f : Text × Value} :
      p ∈ s.attributes → f ∈ p.2 → Holds s f.2

lemma Lawful.holds {s : Session} (h : s.Lawful kept) (hv : s.Holds v) : v.Lawful kept := by
  cases hv with
  | register hr => exact h.registers _ hr
  | builder hb hv => exact (h.boxes _ hb).values v hv
  | iterator hc hp hv =>
    have := h.cursors _ hc
    rw [hp] at this
    exact this v hv
  | composer hc hv =>
    obtain ⟨he, hconfig, hr⟩ := h.composers _ hc
    simp only [List.mem_cons, List.not_mem_nil, or_false] at hv
    rcases hv with rfl | rfl | rfl <;> assumption
  | attached hp hf => exact h.attributes _ hp _ hf

/-- A step of a lawful script leads from lawful sessions to lawful ones. -/
lemma Lawful.step {s : Session} (h : s.Lawful kept) (hev : ev.Lawful kept Any) {st : ScriptStep}
    (hst : st.expr.Lawful kept) :
    (s.step ev st).session.Lawful kept ∧ ∀ v, (s.step ev st).result = .ok v → v.Lawful kept := by
  obtain ⟨ht, hr⟩ := ensures_evalExpr hev st.expr hst s.cleared { h with }
  rcases hx : (evalExpr st.expr).exec ev s.cleared with ⟨e | v, t⟩ <;> rw [hx] at ht hr <;>
    change ((evalExpr st.expr).run ev).run s.cleared = _ at hx <;> unfold Session.step <;> rw [hx]
  · exact ⟨ht, fun v hv => by cases hv⟩
  · refine ⟨?_, fun w hw => by cases hw; exact hr⟩
    cases hreg : st.register? with
    | none => exact ht
    | some name => exact ht.setRegister name hr

/-- By induction on the steps. -/
lemma Lawful.runSteps {s : Session} (h : s.Lawful kept) (hev : ev.Lawful kept Any)
    {sts : List ScriptStep} (hsts : ∀ st ∈ sts, st.expr.Lawful kept) :
    ∀ o ∈ s.runSteps ev sts, o.session.Lawful kept ∧ ∀ v, o.result = .ok v → v.Lawful kept := by
  induction sts generalizing s with
  | nil => exact fun o ho => absurd ho List.not_mem_nil
  | cons st sts ih =>
    obtain ⟨hst, hrest⟩ := List.forall_mem_cons.1 hsts
    have hstep := h.step hev hst
    exact List.forall_mem_cons.2 ⟨hstep, ih hstep.1 hrest⟩

end Session

/-- However deep a node stands in what a script gives or leaves behind: a slot stands for one
position or more, and the children of a group are slots and groups. So are those that a group
builder holds, if they are `kept`: the script does not write to where they are stored. From any
session that a step can leave, every construction gives something lawful or fails. What is
validated fails by refusing what it was given, or is nested too deep; the others fail in these
ways, or with what code fails that they have to run. -/
theorem nodes_regular (script : Script) (lawful : ∀ st ∈ script.steps, st.expr.Lawful kept) :
    (∀ o ∈ script.run, o.session.Lawful kept ∧ (kept → ∀ b ∈ o.session.boxes, b.content.Regular) ∧
      ∀ v, o.result = .ok v ∨ o.session.Holds v → ∀ w : Value, w.Occurs v → w.Regular) ∧
    (∀ n, (Evaluator.within n).Lawful kept Any) ∧
    ∀ (ev : Evaluator) (F : Fault → Prop), ev.Lawful kept F →
      (∀ (type : String) (fs : Fields), fs.Lawful kept →
        (construct type fs).Ensures kept ev Own (Value.Lawful kept)) ∧
      (∀ id, (Builder.build id).Ensures kept ev Own (Value.Lawful kept)) ∧
      ∀ m : Run Value, m.Constructs kept → m.Ensures kept ev F (Value.Lawful kept) := by
  refine ⟨fun o ho => ?_, Evaluator.lawful_within, fun ev F hev => ⟨fun type fs hfs => ?_, ?_, ?_⟩⟩
  · obtain ⟨hs, hresult⟩ := Session.Lawful.runSteps (.initial _ _) (Evaluator.lawful_within _)
      lawful o ho
    refine ⟨hs, fun hkept b hb => (hs.boxes b hb).content.regular hkept, fun v hv w hw => ?_⟩
    have hlawful : v.Lawful kept := hv.elim (hresult v) hs.holds
    exact (Value.Lawful.occurs hw hlawful).regular
  · exact ensures_construct_own hev type hfs
  · exact Builder.ensures_build_own hev
  · exact fun m hm => hm.ensures hev

/-- A truth value counts as one position, and a group builder may take a slot. No position at all
and a fragment in a group are refused. -/
theorem nodes_regular_refused :
    let side (f : String) : Expr := .call f [.int 1] []
    let size : Text × Expr :=
      ("size", .call "LayoutSize" [] [("width", side "w"), ("height", side "h")])
    let slot (count : Expr) : Expr := .call "Slot" [] [size, ("replica_count", count)]
    let block : Expr := .block (.list [.register "s"])
    let script : Script := ⟨[
      ⟨slot (.bool true), some "s"⟩,
      ⟨.call "GroupBox" [side "w", side "h", block] [], none⟩,
      ⟨slot (.int 0), none⟩,
      ⟨.call "Group" [] [size, ("children", .list [.call "Fragment" [] []])], none⟩], [], false⟩
    (∀ st ∈ script.steps, st.expr.Lawful True) ∧
    (script.run.map fun o => match o.result with
      | .ok (.slot _ _ _ _ _ (.int n)) => n
      | _ => 0) = [1, 0, 0, 0] ∧
    (script.run.map fun o => match o.result with
      | .ok _ => false
      | .error e => e.isRefusal) = [false, false, true, true] ∧
    (∀ o ∈ script.run, ∀ b ∈ o.session.boxes, b.content.Regular) ∧
    (construct "Slot" [("replica_count", .int 0)]).Ensures True (.within 1) Own
      (Value.Lawful True) := by
  intro side size slot block script
  have hint : ∀ i : Int, (Expr.int i).Lawful True := fun i => .leaf trivial rfl
  have hside : ∀ f, f ∉ Expr.unvalidated → (side f).Lawful True := fun f hf =>
    .call hf (by simpa using hint 1) (by simp)
  have hw := hside "w" (by decide)
  have hh := hside "h" (by decide)
  have hsize : size.2.Lawful True := .call (by decide) (by simp) (by simpa using ⟨hw, hh⟩)
  have hslot : ∀ e : Expr, e.Lawful True → (slot e).Lawful True := fun e he =>
    .call (by decide) (by simp) (by simpa using ⟨hsize, he⟩)
  have hregister : (Expr.register "s").Lawful True := .leaf trivial rfl
  have hlist : (Expr.list [.register "s"]).Lawful True :=
    .intro trivial (by simpa [Expr.inside] using hregister)
  have hblock : block.Lawful True := .intro trivial (by simpa [Expr.inside, block] using hlist)
  have hfragment : (Expr.call "Fragment" [] []).Lawful True :=
    .call (by decide) (by simp) (by simp)
  have hchildren : (Expr.list [.call "Fragment" [] []]).Lawful True :=
    .intro trivial (by simpa [Expr.inside] using hfragment)
  have lawful : ∀ st ∈ script.steps, st.expr.Lawful True := by
    simp only [script, List.forall_mem_cons, List.not_mem_nil, false_implies, implies_true,
      and_true]
    exact ⟨hslot _ (.leaf trivial rfl),
      .call (by decide) (by simpa using ⟨hw, hh, hblock⟩) (by simp), hslot _ (hint 0),
      .call (by decide) (by simp) (by simpa using ⟨hsize, hchildren⟩)⟩
  obtain ⟨hrun, hwithin, hmake⟩ := nodes_regular script lawful
  exact ⟨lawful, by decide +kernel, by decide +kernel, fun o ho => (hrun o ho).2.1 trivial,
    (hmake _ _ (hwithin 1)).1 _ _ (.cons (.atom rfl) .nil)⟩

/-- What goes past validation need not be regular. Where the storage of a group builder for its
children is written to, a fragment gets there, and a copy of a slot may stand for no position. -/
theorem nodes_irregular :
    let side (f : String) : Expr := .call f [.int 1] []
    let item : Expr := .call "ItemBox" [side "w", side "h"] []
    let stored : Script := ⟨[
      ⟨.call "GroupBox" [side "w", side "h", .block (.generator [(.yield, item)])] [], some "g"⟩,
      ⟨.set "_children" (.register "g") (.tuple [.call "Fragment" [] []]), none⟩,
      ⟨.get "children" (.register "g"), none⟩], [], false⟩
    let size : Text × Expr :=
      ("size", .call "LayoutSize" [] [("width", side "w"), ("height", side "h")])
    let copied : Script := ⟨[
      ⟨.call "Slot" [] [size], some "s"⟩,
      ⟨.method "model_copy" (.register "s") [] [("update", .dict [("replica_count", .int 0)])],
        some "t"⟩], [], false⟩
    (∃ o ∈ stored.run, ∃ b ∈ o.session.boxes, ¬ b.content.Regular) ∧
    ∃ o ∈ copied.run, ∃ r ∈ o.session.registers, ¬ r.2.Regular := by
  decide +kernel

end LayoutTree
