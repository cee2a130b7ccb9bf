import LayoutTree.Proofs.Dict
import LayoutTree.Session.Argument

/-!
What is to hold of all values that a script can get hold of.

A slot stands for one position or more, and the children of a group are slots and groups. Nodes are
kept in many places: inside other values, in registers, builders, cursors and composers, and as
attributes. Blocks and generators carry code that makes nodes later on, so what is asked of a
script is asked of them as well.

The children of a group builder are slots and groups as long as they are `kept`, that is, as long
as no script writes to where they are stored. All else holds of scripts that do so, too.
-/

namespace LayoutTree

variable {kept : Prop}

/-! ### Scripts -/

namespace Expr

/-- The expressions right inside an expression, evaluated at once or later. -/
def inside : Expr → List Expr
  | .list es => es
  | .tuple es => es
  | .dict es => es.map (·.2)
  | .iterator e => [e]
  | .generator body => body.map (·.2)
  | .block body => [body]
  | .note _ e => [e]
  | .call _ args named => args ++ named.map (·.2)
  | .method _ receiver args named => receiver :: args ++ named.map (·.2)
  | .get _ receiver => [receiver]
  | .set _ receiver value => [receiver, value]
  | _ => []

/-- The functions that make nodes without validation. -/
def unvalidated : List String :=
  ["Slot.model_construct", "Group.model_construct", "Fragment.model_construct"]

/-- The methods that do so. -/
def unvalidating : List Text := ["model_construct", "model_copy"]

/-- The expression itself does not make a node without validation. Where the children that builders
keep are to be `kept`, it does not write to the storage they are kept in, either. -/
def Allowed (kept : Prop) : Expr → Prop
  | .call f _ _ => f ∉ unvalidated
  | .method name _ _ _ => name ∉ unvalidating
  | .get field _ => field ∉ unvalidating
  | .set field _ _ => kept → field ≠ "_children"
  | _ => True

/-- The expression is allowed, and so are all that it is made of. -/
inductive Lawful (kept : Prop) : Expr → Prop
  | intro {e : Expr} : e.Allowed kept → (∀ d ∈ e.inside, Lawful kept d) → Lawful kept e

lemma Lawful.allowed {e : Expr} : e.Lawful kept → e.Allowed kept
  | .intro h _ => h

lemma Lawful.inside {e : Expr} : e.Lawful kept → ∀ d ∈ e.inside, d.Lawful kept
  | .intro _ h => h

lemma Lawful.leaf {e : Expr} (h : e.Allowed kept) (hi : e.inside = []) : e.Lawful kept :=
  .intro h fun d hd => by simp [hi] at hd

lemma Lawful.call {f : String} {args : List Expr} {named : List (Text × Expr)}
    (hf : f ∉ unvalidated) (ha : ∀ e ∈ args, e.Lawful kept)
    (hn : ∀ p ∈ named, p.2.Lawful kept) : (Expr.call f args named).Lawful kept := by
  refine .intro hf fun d hd => (List.mem_append.1 hd).elim (ha d) fun hd => ?_
  obtain ⟨p, hp, rfl⟩ := List.mem_map.1 hd
  exact hn p hp

end Expr

/-! ### Values -/

namespace Value

/-- The values right inside a value. -/
def inside : Value → List Value
  | .dict _ es => es.map (·.2)
  | .method receiver _ => [receiver]
  | .engine _ _ label _ => [label]
  | v => v.parts

/-- The value occurs in another one at some depth; in itself as well. -/
inductive Occurs (w : Value) : Value → Prop
  | self : Occurs w w
  | inside {u v : Value} : u ∈ v.inside → Occurs w u → Occurs w v

/-- The value is a slot or a group. -/
def isChild : Value → Bool
  | .slot .. => true
  | .group .. => true
  | _ => false

/-- A row of slots and groups. -/
def AreChildren (v : Value) : Prop := ∃ cs, v = .tuple cs ∧ ∀ c ∈ cs, c.isChild = true

instance : DecidablePred AreChildren := fun v =>
  decidable_of_iff ((match v with | .tuple cs => cs.all isChild | _ => false) = true) <| by
    cases v <;> simp [AreChildren]

/-- A slot stands for one position or more, and the children of a group are slots and groups. -/
def Regular : Value → Prop
  | .slot _ _ _ _ _ n => ∃ i : Int, n = .int i ∧ 1 ≤ i
  | .group _ _ _ _ _ _ _ children => children.AreChildren
  | _ => True

instance : DecidablePred Regular := fun v =>
  decidable_of_iff ((match v with
    | .slot _ _ _ _ _ (.int i) => decide (1 ≤ i)
    | .slot .. => false
    | .group _ _ _ _ _ _ _ children => decide children.AreChildren
    | _ => true) = true) <| by
      cases v with
      | slot _ _ _ _ _ n => cases n <;> simp [Regular]
      | _ => simp [Regular]

/-- The value does not bring about unvalidated nodes when it is called. -/
def Harmless (kept : Prop) : Value → Prop
  | .block _ body => body.Lawful kept
  | .method _ name => (name : Text) ∉ Expr.unvalidating
  | _ => True

/-- Nodes at any depth inside the value are regular, and nothing in it makes nodes that are not. -/
inductive Lawful (kept : Prop) : Value → Prop
  | intro {v : Value} :
    v.Regular → v.Harmless kept → (∀ w ∈ v.inside, Lawful kept w) → Lawful kept v

namespace Lawful

variable {v w : Value}

lemma regular : v.Lawful kept → v.Regular
  | .intro h _ _ => h

lemma harmless : v.Lawful kept → v.Harmless kept
  | .intro _ h _ => h

lemma inside : v.Lawful kept → ∀ w ∈ v.inside, w.Lawful kept
  | .intro _ _ h => h

/-- What occurs in a lawful value is lawful. -/
lemma occurs (h : w.Occurs v) (hv : v.Lawful kept) : w.Lawful kept := by
  induction h with
  | self => exact hv
  | inside hu _ ih => exact ih (hv.inside _ hu)

end Lawful

/-- The value is neither a node nor can it be called, and no other is inside it. -/
def isAtom : Value → Bool
  | .null | .bool _ | .int _ | .float _ | .text _ | .bytes _ | .range _ => true
  | .direction _ | .dimensionMode _ | .spacingMode _ => true
  | .dimension _ | .size _ | .spacing _ | .insets _ => true
  | .box .. | .cursor .. | .composer _ => true
  | .setting _ | .settingInfo _ | .settingKind _ | .logger _ | .token _ => true
  | .spent _ | .absent => true
  | _ => false

lemma Lawful.atom {v : Value} (h : v.isAtom = true) : v.Lawful kept := by
  cases v <;> first
    | exact .intro trivial trivial fun w hw => absurd hw List.not_mem_nil
    | cases h

@[simp] lemma lawful_text (t : Text) : (Value.text t).Lawful kept := .atom rfl

section Constructors

variable {id : Nat} {k s i e n d g cs xs l t r b label v : Value} {vs : List Value} {es : Fields}

lemma lawful_list : (Value.list vs).Lawful kept ↔ ∀ v ∈ vs, v.Lawful kept :=
  ⟨fun h => h.inside, fun h => .intro trivial trivial h⟩

lemma lawful_tuple : (Value.tuple vs).Lawful kept ↔ ∀ v ∈ vs, v.Lawful kept :=
  ⟨fun h => h.inside, fun h => .intro trivial trivial h⟩

lemma lawful_edges : (Value.edges id l t r b).Lawful kept ↔
    l.Lawful kept ∧ t.Lawful kept ∧ r.Lawful kept ∧ b.Lawful kept := by
  refine ⟨fun h => ?_, fun h => .intro trivial trivial ?_⟩
  · have := h.inside
    simpa [inside, parts] using this
  · simpa [inside, parts] using h

lemma lawful_slot : (Value.slot id k s i e n).Lawful kept ↔
    (∃ c : Int, n = .int c ∧ 1 ≤ c) ∧
      k.Lawful kept ∧ s.Lawful kept ∧ i.Lawful kept ∧ e.Lawful kept := by
  constructor
  · intro h
    have hi := h.inside
    simp only [inside, parts, List.mem_cons, List.not_mem_nil, or_false, forall_eq_or_imp,
      forall_eq] at hi
    exact ⟨h.regular, hi.1, hi.2.1, hi.2.2.1, hi.2.2.2.1⟩
  · rintro ⟨⟨c, rfl, hc⟩, h⟩
    refine .intro ⟨c, rfl, hc⟩ trivial ?_
    have hint : (Value.int c).Lawful kept := .atom rfl
    simpa [inside, parts, hint] using h

lemma lawful_group : (Value.group id k s i e d g cs).Lawful kept ↔
    cs.AreChildren ∧ k.Lawful kept ∧ s.Lawful kept ∧ i.Lawful kept ∧ e.Lawful kept ∧
      d.Lawful kept ∧ g.Lawful kept ∧ cs.Lawful kept := by
  refine ⟨fun h => ⟨h.regular, ?_⟩, fun h => .intro h.1 trivial ?_⟩
  · have := h.inside
    simpa [inside, parts] using this
  · simpa [inside, parts] using h.2

lemma lawful_fragment : (Value.fragment id k xs).Lawful kept ↔
    k.Lawful kept ∧ xs.Lawful kept := by
  refine ⟨fun h => ?_, fun h => .intro trivial trivial ?_⟩
  · have := h.inside
    simpa [inside, parts] using this
  · simpa [inside, parts] using h

lemma lawful_item {z : LayoutSize} : (Value.item id z i e).Lawful kept ↔
    i.Lawful kept ∧ e.Lawful kept := by
  refine ⟨fun h => ?_, fun h => .intro trivial trivial ?_⟩
  · have := h.inside
    simpa [inside, parts] using this
  · simpa [inside, parts] using h

lemma lawful_itemGroup {z : LayoutSize} {d : Direction} :
    (Value.itemGroup id z d vs n i e g).Lawful kept ↔
      (∀ v ∈ vs, v.Lawful kept) ∧
        n.Lawful kept ∧ i.Lawful kept ∧ e.Lawful kept ∧ g.Lawful kept := by
  refine ⟨fun h => ?_, fun h => .intro trivial trivial ?_⟩
  · have := h.inside
    simp only [inside, parts, List.mem_cons, forall_eq_or_imp] at this
    tauto
  · simp only [inside, parts, List.mem_cons, forall_eq_or_imp]
    tauto

lemma lawful_hostSection {x : Double} : (Value.hostSection id g i x).Lawful kept ↔
    g.Lawful kept ∧ i.Lawful kept := by
  refine ⟨fun h => ?_, fun h => .intro trivial trivial ?_⟩
  · have := h.inside
    simpa [inside, parts] using this
  · simpa [inside, parts] using h

lemma lawful_hostLayout : (Value.hostLayout id vs).Lawful kept ↔ ∀ v ∈ vs, v.Lawful kept :=
  ⟨fun h => h.inside, fun h => .intro trivial trivial h⟩

lemma lawful_engine {kind : EngineKind} {supports : Bool} :
    (Value.engine id kind label supports).Lawful kept ↔ label.Lawful kept := by
  refine ⟨fun h => h.inside _ (by simp [inside]), fun h => .intro trivial trivial ?_⟩
  simpa [inside] using h

lemma lawful_config : (Value.config r).Lawful kept ↔ r.Lawful kept := by
  refine ⟨fun h => h.inside _ (by simp [inside, parts]), fun h => .intro trivial trivial ?_⟩
  simpa [inside, parts] using h

lemma lawful_method {name : String} : (Value.method v name).Lawful kept ↔
    (name : Text) ∉ Expr.unvalidating ∧ v.Lawful kept := by
  refine ⟨fun h => ⟨h.harmless, h.inside _ (by simp [inside])⟩,
    fun h => .intro trivial h.1 ?_⟩
  simpa [inside] using h.2

lemma lawful_block {body : Expr} : (Value.block id body).Lawful kept ↔ body.Lawful kept :=
  ⟨fun h => h.harmless, fun h => .intro trivial h fun w hw => by cases hw⟩

end Constructors

end Value

/-! ### Fields and arguments -/

namespace Fields

/-- All values among the fields are lawful. -/
def Lawful (kept : Prop) (fs : Fields) : Prop := ∀ f ∈ fs, f.2.Lawful kept

namespace Lawful

variable {fs gs : Fields} {name : Text} {v : Value}

lemma nil : Lawful kept [] := fun f hf => by cases hf

lemma cons (hv : v.Lawful kept) (h : fs.Lawful kept) : Lawful kept ((name, v) :: fs) := by
  intro f hf
  rcases List.mem_cons.1 hf with rfl | hf
  · exact hv
  · exact h f hf

lemma append (h : fs.Lawful kept) (h' : gs.Lawful kept) : Lawful kept (fs ++ gs) := fun f hf =>
  (List.mem_append.1 hf).elim (h f) (h' f)

lemma get? (h : fs.Lawful kept) (hv : fs.get? name = some v) : v.Lawful kept :=
  h _ (mem_of_get? hv)

lemma getD {w : Value} (h : fs.Lawful kept) (hw : w.Lawful kept) :
    ((fs.get? name).getD w).Lawful kept := by
  rcases hv : fs.get? name with _ | v
  · exact hw
  · exact h.get? hv

lemma put (h : fs.Lawful kept) (hv : v.Lawful kept) : (fs.put name v).Lawful kept := by
  induction fs with
  | nil => exact .cons hv .nil
  | cons f fs ih =>
    have hfs : Fields.Lawful kept fs := fun f' hf' => h f' (List.mem_cons_of_mem _ hf')
    rw [Fields.put]
    split
    · exact .cons hv hfs
    · exact .cons (h f List.mem_cons_self) (ih hfs)

end Lawful

end Fields

lemma Value.lawful_dict {id : Nat} {es : Fields} :
    (Value.dict id es).Lawful kept ↔ es.Lawful kept := by
  refine ⟨fun h f hf => h.inside _ (List.mem_map_of_mem hf), fun h => .intro trivial trivial ?_⟩
  intro w hw
  obtain ⟨f, hf, rfl⟩ := List.mem_map.1 hw
  exact h f hf

/-- The arguments of a call are lawful. -/
structure Arguments.Lawful (kept : Prop) (a : Arguments) : Prop where
  positional : ∀ v ∈ a.positional, v.Lawful kept
  named : a.named.Lawful kept

namespace Arguments.Lawful

variable {a : Arguments} {i : Nat} {name : String} {v : Value}

lemma none : Arguments.none.Lawful kept := ⟨fun _ hv => absurd hv List.not_mem_nil, .nil⟩

lemma one (hv : v.Lawful kept) : Arguments.Lawful kept ⟨[v], []⟩ :=
  ⟨by simpa using hv, .nil⟩

lemma two {w : Value} (hv : v.Lawful kept) (hw : w.Lawful kept) :
    Arguments.Lawful kept ⟨[v, w], []⟩ :=
  ⟨by simpa using ⟨hv, hw⟩, .nil⟩

lemma find? (h : a.Lawful kept) (hv : a.find? i name = some v) : v.Lawful kept := by
  unfold Arguments.find? at hv
  rcases hp : a.positional[i]? with _ | w <;> rw [hp] at hv
  · exact h.named.get? hv
  · cases hv
    exact h.positional v (List.mem_of_getElem? hp)

lemma optional (h : a.Lawful kept) (hv : v.Lawful kept) :
    (a.optional i name v).Lawful kept := by
  unfold Arguments.optional
  rcases hw : a.find? i name with _ | w
  · exact hv
  · exact h.find? hw

lemma orNull (h : a.Lawful kept) : (a.orNull i name).Lawful kept := h.optional (.atom rfl)

lemma namedOr (h : a.Lawful kept) (hv : v.Lawful kept) : (a.namedOr name v).Lawful kept :=
  h.named.getD hv

end Arguments.Lawful

/-! ### Sessions -/

/-- What a builder holds besides its size, insets and edges is lawful. Children that are kept are
slots and groups. -/
def BoxContent.Lawful (kept : Prop) : BoxContent → Prop
  | .item columns => columns.Lawful kept
  | .group direction space children =>
    direction.Lawful kept ∧ space.Lawful kept ∧ children.Lawful kept ∧
      (kept → children.AreChildren)

structure Box.Lawful (kept : Prop) (b : Box) : Prop where
  size : b.size.Lawful kept
  insets : b.insets.Lawful kept
  edges : b.edges.Lawful kept
  content : b.content.Lawful kept

def Pending.Lawful (kept : Prop) : Pending → Prop
  | .values xs => ∀ x ∈ xs, x.Lawful kept
  | .statements body => ∀ p ∈ body, p.2.Lawful kept

structure Composer.Lawful (kept : Prop) (c : Composer) : Prop where
  engine : c.engine.Lawful kept
  config : c.config.Lawful kept
  repeats : c.repeats.Lawful kept

/-- The names of engines are lawful. -/
def Registry.Lawful (kept : Prop) (r : Registry) : Prop :=
  ∀ e ∈ r.entries, e.1.Lawful kept ∧ e.2.label.Lawful kept

/-- Everything that a session holds is lawful. Notes and records are only told. -/
structure Session.Lawful (kept : Prop) (s : Session) : Prop where
  registers : s.registers.Lawful kept
  boxes : ∀ b ∈ s.boxes, b.Lawful kept
  cursors : ∀ c ∈ s.cursors, c.pending.Lawful kept
  composers : ∀ c ∈ s.composers, c.Lawful kept
  attributes : ∀ p ∈ s.attributes, Fields.Lawful kept p.2
  registry : s.registry.Lawful kept

namespace Session.Lawful

lemma initial (environment : List (Text × Text)) (stream : Bool) :
    (Session.initial environment stream).Lawful kept where
  registers := .nil
  boxes b hb := by simp [Session.initial] at hb
  cursors c hc := by simp [Session.initial] at hc
  composers c hc := by simp [Session.initial] at hc
  attributes p hp := by cases hp
  registry e he := by cases he

variable {s : Session}

lemma attributesOf (h : s.Lawful kept) (i : Identity) : (s.attributesOf i).Lawful kept := by
  unfold Session.attributesOf
  rcases ha : s.attributes.lookup i with _ | fs
  · exact .nil
  · obtain ⟨_, _, hl, -⟩ := List.lookup_eq_some_iff.1 ha
    exact h.attributes (i, fs) (by simp [hl])

lemma attribute? (h : s.Lawful kept) {i : Identity} {name : Text} {v : Value}
    (hv : s.attribute? i name = some v) : v.Lawful kept := (h.attributesOf i).get? hv

lemma setAttributes (h : s.Lawful kept) (i : Identity) {fs : Fields} (hf : fs.Lawful kept) :
    (s.setAttributes i fs).Lawful kept where
  registers := h.registers
  boxes := h.boxes
  cursors := h.cursors
  composers := h.composers
  attributes p hp := by
    rcases List.mem_cons.1 hp with rfl | hp
    · exact hf
    · exact h.attributes p (List.mem_of_mem_filter hp)
  registry := h.registry

lemma setAttribute (h : s.Lawful kept) (i : Identity) (name : Text) {v : Value}
    (hv : v.Lawful kept) : (s.setAttribute i name v).Lawful kept :=
  h.setAttributes i ((h.attributesOf i).put hv)

lemma setRegister (h : s.Lawful kept) (name : Text) {v : Value} (hv : v.Lawful kept) :
    (s.setRegister name v).Lawful kept where
  registers := .cons hv fun f hf => h.registers f (List.mem_of_mem_filter hf)
  boxes := h.boxes
  cursors := h.cursors
  composers := h.composers
  attributes := h.attributes
  registry := h.registry

end Session.Lawful

end LayoutTree
