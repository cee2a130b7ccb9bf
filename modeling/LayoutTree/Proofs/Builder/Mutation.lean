import LayoutTree.Proofs.Attribute
import LayoutTree.Proofs.Construct
import LayoutTree.Script.Method
import Mathlib.Logic.Relation

/-!
Mutating builders: whatever is called on a builder or assigned to it, group builders keep the
children that they were made with, unless these are assigned themselves.

One lemma tells this of each way to change a builder; a mutation that fails keeps them as well.
-/

namespace LayoutTree

open Run

/-- The children of a group builder. -/
def Box.children? (b : Box) : Option Value :=
  match b.content with
  | .item _ => none
  | .group _ _ children => some children

namespace Session

/-- Every builder is still there, and group builders have the children that they had. -/
def KeepsChildren (s t : Session) : Prop :=
  ∀ (id : Nat) (b : Box), s.boxes[id]? = some b →
    ∃ c : Box, t.boxes[id]? = some c ∧ c.children? = b.children?

/-- No script has replaced the methods through which edges are set. -/
structure SetsEdges (s : Session) : Prop where
  builder : ∀ v, s.replaced? v "_set_edge" = none
  edges : ∀ v, s.replaced? v "with_edge" = none

lemma KeepsChildren.of_boxes {s t : Session} (h : t.boxes = s.boxes) : s.KeepsChildren t := by
  intro id b hb
  exact ⟨b, by rw [h, hb], rfl⟩

lemma KeepsChildren.refl (s : Session) : s.KeepsChildren s := .of_boxes rfl

lemma KeepsChildren.trans {s t u : Session} (h : s.KeepsChildren t) (h' : t.KeepsChildren u) :
    s.KeepsChildren u := by
  intro id b hb
  obtain ⟨c, hc, hcb⟩ := h id b hb
  obtain ⟨d, hd, hdc⟩ := h' id c hc
  exact ⟨d, hd, hdc.trans hcb⟩

end Session

/-! ### Computations that keep children -/

section Keeping

variable {α β : Type} {ev : Evaluator} {s : Session} {m : Run α} {f : α → Run β}

lemma keeps_bind (h : s.KeepsChildren (m.exec ev s).2)
    (hf : ∀ a t, m.exec ev s = (.ok a, t) → t.KeepsChildren ((f a).exec ev t).2) :
    s.KeepsChildren ((m >>= f).exec ev s).2 := by
  rw [exec_bind]
  rcases hm : m.exec ev s with ⟨e | a, t⟩ <;> rw [hm] at h
  · exact h
  · exact h.trans (hf a t hm)

/-- What does not depend on the outcome of an argument needs to be known of its session only. -/
lemma keeps_required (a : Arguments) (i : Nat) (name : String) {f : Value → Run β}
    (hf : ∀ v, s.KeepsChildren ((f v).exec ev s).2) :
    s.KeepsChildren ((a.required i name >>= f).exec ev s).2 := by
  unfold Arguments.required
  rcases a.find? i name with _ | v
  · exact .refl s
  · exact hf v

lemma keeps_setBox {id : Nat} {b c : Box} (hb : s.boxes[id]? = some b)
    (hc : c.children? = b.children?) : s.KeepsChildren ((setBox id c).exec ev s).2 := by
  intro j d hd
  have hj : j < s.boxes.size := (Array.getElem?_eq_some_iff.1 hd).1
  change ∃ e : Box, (s.boxes.setIfInBounds id c)[j]? = some e ∧ _
  rw [Array.getElem?_setIfInBounds]
  by_cases hi : id = j
  · subst hi
    rw [hb] at hd
    cases hd
    exact ⟨c, by simp [hj], hc⟩
  · exact ⟨d, by simp [hi, hd], rfl⟩

lemma keeps_box {id : Nat} {f : Box → Run β}
    (hf : ∀ b, s.boxes[id]? = some b → s.KeepsChildren ((f b).exec ev s).2) :
    s.KeepsChildren ((box id >>= f).exec ev s).2 := by
  rcases hb : s.boxes[id]? with _ | b
  · rw [exec_bind_error (exec_box_missing ev hb)]
    exact .refl s
  · rw [exec_bind_ok (exec_box ev hb)]
    exact hf b hb

end Keeping

/-- Types without sequences are made without drawing from any cursor. -/
lemma exec_construct_flat (s : Session) {type : String} (h : Shape.ofType type = .flat)
    (fs : Fields) : ∃ x n, ∀ ev, (construct type fs).exec ev s = (x, { s with serial := n }) := by
  have hs : ∀ ev : Evaluator, (settleWithin (ev.depth + 1) (.ofType type) []
      (.dict s.serial fs)).exec ev { s with serial := s.serial + 1 } =
        (.ok (.dict s.serial fs), { s with serial := s.serial + 1 }) := by
    rw [h]
    exact fun ev => rfl
  rcases hr : Value.ofFields? type s.serial fs with _ | r
  · refine ⟨.error .wrongArguments, s.serial + 1, fun ev => ?_⟩
    unfold construct
    rw [exec_bind_ok (exec_read ev s), exec_bind_ok (exec_newDict ev s fs), exec_bind_ok (hs ev)]
    simp only [hr]
    rfl
  · have hn : (finished type r { s with serial := s.serial + 1 }).2 =
        { s with serial := (r (s.serial + 1)).2 } := by
      unfold finished
      rcases r (s.serial + 1) with ⟨_ | _, n⟩ <;> rfl
    exact ⟨_, _, fun ev => (exec_construct (hs ev) hr).trans (Prod.ext rfl hn)⟩

/-! ### Fluent calls -/

namespace Builder

variable {ev : Evaluator} {s : Session}

lemma keeps_construct {type : String} (h : Shape.ofType type = .flat) (fs : Fields) :
    s.KeepsChildren ((construct type fs).exec ev s).2 := by
  obtain ⟨x, n, hx⟩ := exec_construct_flat s h fs
  rw [hx]
  exact .of_boxes rfl

lemma keeps_setSize (id : Nat) (width height : Value) :
    s.KeepsChildren ((setSize id width height).exec ev s).2 :=
  keeps_bind (keeps_construct rfl _) fun _ _ _ => keeps_box fun _ hb => keeps_setBox hb rfl

lemma keeps_setInsets (id : Nat) (a : InsetsArgument) :
    s.KeepsChildren ((setInsets id a).exec ev s).2 := by
  have hread : s.KeepsChildren (a.read.exec ev s).2 := by
    unfold InsetsArgument.read
    split
    · exact keeps_construct rfl _
    · split
      · exact .refl s
      · exact keeps_construct rfl _
      · exact keeps_construct rfl _
  exact keeps_bind hread fun _ _ _ => keeps_box fun _ hb => keeps_setBox hb rfl

lemma keeps_setEdges (id : Nat) (edges : Value) :
    s.KeepsChildren ((setEdges id edges).exec ev s).2 :=
  keeps_box fun _ hb => keeps_setBox hb rfl

lemma keeps_setSpace (id : Nat) (space : Value) :
    s.KeepsChildren ((setSpace id space).exec ev s).2 := by
  refine keeps_box fun b hb => ?_
  rcases hc : b.content with columns | ⟨direction, gap, children⟩
  · exact .refl s
  · exact keeps_setBox hb (by simp [Box.children?, hc])

end Builder

/-! ### Setting edges -/

lemma lookup_given (name : Text) {fs : Fields} (h : fs.lookup name = none) :
    (Value.fields?.given fs).lookup name = none := by
  rw [List.lookup_eq_none_iff] at h ⊢
  intro f hf
  exact h f (List.mem_filter.1 hf).1

lemma Value.constant?_with_edge (v : Value) : v.constant? "with_edge" = none := by
  cases v with
  | slot => exact lookup_given _ rfl
  | group => exact lookup_given _ rfl
  | _ => rfl

lemma exec_inherent?_with_edge (ev : Evaluator) (s : Session) (v : Value) :
    ∃ r, (inherent? v "with_edge").exec ev s = (r, s) ∧ ∀ x, r ≠ .ok (some x) := by
  have hconst : ∀ v : Value, (inherent? v "with_edge").exec ev s =
      (.ok (v.constant? "with_edge"), s) →
      ∃ r, (inherent? v "with_edge").exec ev s = (r, s) ∧ ∀ x, r ≠ .ok (some x) := by
    intro v h
    rw [v.constant?_with_edge] at h
    exact ⟨_, h, nofun⟩
  cases v with
  | box kind id =>
    rcases hb : s.boxes[id]? with _ | b
    · exact ⟨_, exec_bind_error (exec_box_missing ev hb), nofun⟩
    · refine ⟨_, exec_bind_ok (exec_box ev hb), ?_⟩
      obtain ⟨z, i, e, c⟩ := b
      cases c <;> nofun
  | composer id =>
    rcases hc : s.composers[id]? with _ | c
    · exact ⟨_, exec_bind_error (exec_composer_missing ev hc), nofun⟩
    · exact ⟨_, exec_bind_ok (exec_composer ev hc), nofun⟩
  | _ => exact hconst _ rfl

/-- Where nothing is put in its place the method is that of edge spacings. -/
lemma exec_field_with_edge (ev : Evaluator) {s : Session}
    (h : ∀ v, s.replaced? v "with_edge" = none) (v : Value) :
    ∃ r, (field v "with_edge").exec ev s = (r, s) ∧
      ∀ f, r = .ok f → f = .method v "with_edge" ∧ v.hasMethod "with_edge" = true := by
  obtain ⟨r, hr, hx⟩ := exec_inherent?_with_edge ev s v
  change ∃ r, (inherent? v "with_edge" >>= _).exec ev s = (r, s) ∧ _
  match r, hr with
  | .error e, hr => exact ⟨_, exec_bind_error hr, nofun⟩
  | .ok (some x), _ => exact absurd rfl (hx x)
  | .ok none, hr =>
    rw [exec_bind_ok hr, exec_bind, exec_attached?, h v]
    change ∃ r, (if v.hasMethod "with_edge" then _ else _ : Run Value).exec ev s = (r, s) ∧ _
    split
    · exact ⟨_, rfl, fun f hf => ⟨(Except.ok.inj hf).symm, ‹_›⟩⟩
    · exact ⟨_, rfl, nofun⟩

/-- Copying with a field replaced changes no builder. -/
lemma keeps_copyWith (ev : Evaluator) (s : Session) (v : Value) (name : Text) (x : Value) :
    s.KeepsChildren ((Model.copyWith v name x).exec ev s).2 := by
  have hcopy : s.KeepsChildren ((Model.copy v).exec ev s).2 := by
    unfold Model.copy
    refine keeps_bind (.of_boxes rfl) fun id t _ => ?_
    refine keeps_bind (.of_boxes rfl) fun u w hu => ?_
    cases hu
    split
    · exact .of_boxes rfl
    · exact .refl _
  unfold Model.copyWith
  refine keeps_bind hcopy fun w t _ => ?_
  split
  · exact .refl t
  · split
    · exact .of_boxes rfl
    · exact .refl t

lemma keeps_withEdge (ev : Evaluator) (s : Session) (edges edge spacing : Value) :
    s.KeepsChildren ((Builder.withEdge edges edge spacing).exec ev s).2 := by
  unfold Builder.withEdge
  split
  · exact .refl s
  · split
    · exact keeps_copyWith ev s edges _ spacing
    · exact .refl s

lemma keeps_field_with_edge {ev : Evaluator} {s : Session}
    (h : ∀ v, s.replaced? v "with_edge" = none) (v : Value) {k : Value → Run Value}
    (hk : s.KeepsChildren ((k (.method v "with_edge")).exec ev s).2) :
    s.KeepsChildren ((field v "with_edge" >>= k).exec ev s).2 := by
  obtain ⟨r, hr, hf⟩ := exec_field_with_edge ev h v
  cases r with
  | error e =>
    rw [exec_bind_error hr]
    exact .refl s
  | ok f =>
    rw [exec_bind_ok hr, (hf f rfl).1]
    exact hk

lemma keeps_replacedEdge {ev : Evaluator} {s : Session}
    (h : ∀ v, s.replaced? v "with_edge" = none) (edges edge spacing : Value) :
    s.KeepsChildren ((Builder.replacedEdge edges edge spacing).exec ev s).2 := by
  unfold Builder.replacedEdge
  split
  · refine keeps_field_with_edge h edges ?_
    exact keeps_withEdge ev s edges edge spacing
  · obtain ⟨x, n, hx⟩ := exec_construct_flat s (rfl : Shape.ofType "EdgeSpacing" = .flat) []
    let t : Session := { s with serial := n }
    have hn : s.KeepsChildren t := .of_boxes rfl
    cases x with
    | error e =>
      rw [exec_bind_error (hx ev)]
      exact hn
    | ok v =>
      rw [exec_bind_ok (hx ev)]
      refine hn.trans (keeps_field_with_edge (s := t) h v ?_)
      exact keeps_withEdge ev t v edge spacing

lemma keeps_setEdge {ev : Evaluator} {s : Session} (h : s.SetsEdges) (kind : BoxKind) (id : Nat)
    (edge spacing : Value) : s.KeepsChildren ((setEdge kind id edge spacing).exec ev s).2 := by
  unfold setEdge
  rw [exec_callMethodOr (h.builder (.box kind id))]
  refine keeps_bind ?_ fun _ t _ => .refl t
  refine keeps_box fun b hb => keeps_bind (keeps_replacedEdge h.edges _ _ _) fun _ t _ => ?_
  exact keeps_box fun c hc => keeps_setBox hc rfl

/-! ### Any mutation -/

/-- The methods through which a script configures a builder. -/
def Builder.fluent : List String :=
  ["size", "insets", "edges", "space", "leading", "top", "trailing", "bottom"]

lemma keeps_boxMethod {ev : Evaluator} {s : Session} (h : s.SetsEdges) (kind : BoxKind) (id : Nat)
    {method : String} (hm : method ∈ Builder.fluent) (a : Arguments) :
    s.KeepsChildren ((boxMethod kind id method a).exec ev s).2 := by
  have hedge : ∀ edge : Value, s.KeepsChildren
      ((a.required 0 "spacing" >>= fun x => setEdge kind id edge x).exec ev s).2 := fun edge =>
    keeps_required a 0 "spacing" fun x => keeps_setEdge h kind id edge x
  simp only [Builder.fluent, List.mem_cons, List.not_mem_nil, or_false] at hm
  rcases hm with rfl | rfl | rfl | rfl | rfl | rfl | rfl | rfl
  · refine keeps_required a 0 "width" fun w => keeps_required a 1 "height" fun h => ?_
    exact keeps_bind (Builder.keeps_setSize id w h) fun _ t _ => .refl t
  · exact keeps_bind (Builder.keeps_setInsets id (insetsArgument a)) fun _ t _ => .refl t
  · refine keeps_required a 0 "edges" fun e => ?_
    exact keeps_bind (Builder.keeps_setEdges id e) fun _ t _ => .refl t
  · refine keeps_required a 0 "spacing" fun e => ?_
    exact keeps_bind (Builder.keeps_setSpace id e) fun _ t _ => .refl t
  · exact hedge (.text "leading")
  · exact hedge (.text "top")
  · exact hedge (.text "trailing")
  · exact hedge (.text "bottom")

/-- What can be assigned to a builder holds no children, but for the children themselves. -/
lemma Box.children?_of_store? {b c : Box} {name : String} {x : Value} (hn : name ≠ "_children")
    (h : b.store? name x = some c) : c.children? = b.children? := by
  unfold store? at h
  split at h
  · cases h; rfl
  · cases h; rfl
  · cases h; rfl
  · split at h <;> cases h <;> simp_all [children?]

lemma keeps_assign (ev : Evaluator) (s : Session) (kind : BoxKind) (id : Nat) {name : Text}
    (hn : name ≠ "_children") (x : Value) :
    s.KeepsChildren ((assign (.box kind id) name x).exec ev s).2 := by
  refine keeps_box fun b hb => ?_
  cases name with
  | broken => exact .of_boxes rfl
  | plain n =>
    have hn : n ≠ "_children" := fun h => hn (by rw [h])
    change s.KeepsChildren ((if (b.property? n).isSome then throw _ else _ : Run Unit).exec ev s).2
    split
    · exact .refl s
    · split
      · rename_i c hc
        exact keeps_setBox hb (Box.children?_of_store? hn hc)
      · exact .of_boxes rfl

/-- What may happen once a builder is made: a fluent call on any builder or an assignment to it,
whether it fails or not, or anything that leaves the builders that are there as they are. -/
inductive Session.Moves (ev : Evaluator) : Session → Session → Prop
  | call {s : Session} (kind : BoxKind) (id : Nat) {method : String} (a : Arguments) :
      s.SetsEdges → method ∈ Builder.fluent → Moves ev s ((boxMethod kind id method a).exec ev s).2
  | assignment {s : Session} (kind : BoxKind) (id : Nat) {name : Text} (x : Value) :
      name ≠ "_children" → Moves ev s ((assign (.box kind id) name x).exec ev s).2
  | other {s t : Session} :
      (∀ (id : Nat) (b : Box), s.boxes[id]? = some b → t.boxes[id]? = some b) → Moves ev s t

lemma Session.Moves.keepsChildren {ev : Evaluator} {s t : Session} (h : s.Moves ev t) :
    s.KeepsChildren t := by
  cases h with
  | call kind id a hs hm => exact keeps_boxMethod hs kind id hm a
  | assignment kind id x hn => exact keeps_assign ev s kind id hn x
  | other h => exact fun id b hb => ⟨b, h id b hb, rfl⟩

/-- **Children stay**: no sequence of mutations changes the children of a group builder. -/
lemma keepsChildren_of_moves {ev : Evaluator} {s t : Session}
    (h : Relation.ReflTransGen (Session.Moves ev) s t) : s.KeepsChildren t := by
  induction h with
  | refl => exact .refl s
  | tail _ hm ih => exact ih.trans hm.keepsChildren

end LayoutTree
