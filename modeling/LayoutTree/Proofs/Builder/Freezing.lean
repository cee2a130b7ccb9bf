import LayoutTree.Proofs.Builder.Configuration
import LayoutTree.Proofs.Lawful.Basic

/-!
Building: a builder whose size, insets and edges are what they should be builds a node with just
these, with the count that its columns stand for, or its direction and space. If there is no such
count, direction or space it is refused. Either way nothing changes but that identities are taken.
-/

namespace LayoutTree

open Run Reading

/-! ### Children -/

namespace Value

lemma childrenFrom_children (outer : Nesting) (i : Nat) {cs : List Value}
    (h : ∀ c ∈ cs, c.isChild = true) (n : Nat) :
    childrenFrom outer i cs n = (.read cs 0 .exact, n) := by
  induction cs generalizing i with
  | nil => rfl
  | cons c cs ih =>
    have hc : child outer c n = (.read c 0 .exact, n) := by
      have hchild := h c (by simp)
      cases c <;> first | rfl | cases hchild
    have hcs := ih (i + 1) fun d hd => h d (by simp [hd])
    simp only [childrenFrom, seq_apply, map_apply, Reading.under, Reading.judged, hc, hcs]
    rfl

lemma ne_dict_of_isChild {v : Value} (h : v.isChild = true) (id : Nat) (fs : Fields) :
    v ≠ .dict id fs := by
  rintro rfl
  cases h

end Value

/-! ### Nodes -/

namespace Box

/-- The size, insets and edges of a builder are of their types, and children are slots and
groups. -/
structure Sized (b : Box) : Prop where
  size : ∃ z, b.size = .size z
  insets : b.insets = .null ∨ ∃ i, b.insets = .insets i
  edges : b.edges = .null ∨ b.edges.isEdges = true
  children : ∀ d g cs, b.content = .group d g cs → cs.AreChildren

/-- What a builder builds: a node, or a fault if what it holds is refused. -/
inductive Builds (b : Box) : Except Fault Value → Prop
  | slot {columns : Value} {n : Int} (i : Nat) : b.content = .item columns → columns.IsCount n →
    b.Builds (.ok (.slot i (.text "slot") b.size b.insets b.edges (.int n)))
  | noSlot {columns : Value} (is : List Issue) : b.content = .item columns →
    (∀ n, ¬ columns.IsCount n) → b.Builds (.error (.invalid "Slot" is))
  | group {d g cs : Value} {d' : Direction} {g' : Option Spacing} (i : Nat) :
    b.content = .group d g cs → d.IsDirection d' → g.IsOptionalSpacing g' →
    b.Builds (.ok (.group i (.text "group") b.size b.insets b.edges (.direction d')
      (.ofOption .spacing g') cs))
  | noGroup {d g cs : Value} (is : List Issue) : b.content = .group d g cs →
    ((∀ d', ¬ d.IsDirection d') ∨ ∀ g', ¬ g.IsOptionalSpacing g') →
    b.Builds (.error (.invalid "Group" is))

variable {b : Box}

lemma Sized.readInsets (h : b.Sized) : orNull Value.readInsets b.insets = pure b.insets := by
  rcases h.insets with hi | ⟨i, hi⟩ <;> rw [hi] <;> rfl

lemma Sized.readEdges (h : b.Sized) : orNull Value.readEdges b.edges = pure b.edges := by
  rcases h.edges with he | he
  · rw [he]
    rfl
  · cases hv : b.edges with
    | edges id l t r b => rfl
    | _ => rw [hv] at he; cases he

end Box

namespace Builder

variable {α : Type} {b : Box}

/-- What slots and groups have in common, taken as it is. -/
def reader (b : Box) (kind : String) (f : Nat → Value → Value → Value → Value → α) : Reading α :=
  f <$> made <*> pure (.text kind) <*> given "size" (pure b.size)
    <*> given "insets" (pure b.insets) <*> given "edge_spacing" (pure b.edges)

variable {kind : String} {f : Nat → Value → Value → Value → Value → α}

lemma decided_reader : (reader b kind f).Decided := fun _ _ => rfl

lemma exists_reads_reader : ∃ a, (reader b kind f).Reads a := ⟨_, _, _, _, 0, rfl⟩

lemma eq_of_reads_reader {a : α} (h : (reader b kind f).Reads a) :
    ∃ i, a = f i (.text kind) b.size b.insets b.edges := by
  obtain ⟨g, e, m, n, h⟩ := h
  cases h
  exact ⟨n, rfl⟩

section Slot

variable {columns : Value}

lemma slotOf_nodeFields (h : b.Sized) (hc : b.content = .item columns) :
    Value.slotOf b.nodeFields =
      reader b "slot" Value.slot <*> given "replica_count" columns.count := by
  unfold reader
  rw [← h.readInsets, ← h.readEdges]
  obtain ⟨z, hz⟩ := h.size
  obtain ⟨size, insets, edges, content⟩ := b
  obtain rfl := hc
  obtain rfl := hz
  rfl

/-- A slot is built if the columns stand for a count. -/
lemma exec_construct_slot (h : b.Sized) (hc : b.content = .item columns) (ev : Evaluator)
    (s : Session) : ∃ r n, (construct "Slot" b.nodeFields).exec ev s = (r, { s with serial := n }) ∧
      b.Builds r := by
  have hof := slotOf_nodeFields h hc
  have hcount : (given "replica_count" columns.count).Decided := (Value.decided_count _).given _
  obtain ⟨v, n, hv, hr⟩ | ⟨is, n, hv, hr⟩ := exec_construct_decided (s := s) ev "Slot" b.nodeFields
    rfl rfl (hof ▸ decided_reader.seq hcount)
  · rw [hof] at hr
    obtain ⟨k, c, hk, hn, rfl⟩ := hr.seq
    obtain ⟨i, rfl⟩ := eq_of_reads_reader hk
    obtain ⟨c, rfl, hcount⟩ := Value.reads_count_iff.1 hn.given
    exact ⟨_, n, hv, .slot i hc hcount⟩
  · refine ⟨_, n, hv, .noSlot is hc fun c hn => ?_⟩
    obtain ⟨v, hread⟩ := exists_reads_seq hcount exists_reads_reader
      (exists_reads_given "replica_count" ⟨.int c, Value.reads_count_iff.2 ⟨c, rfl, hn⟩⟩)
    rw [← hof] at hread
    exact hr v hread

end Slot

section Group

variable {d g : Value} {cs : List Value}

lemma childrenOf_children (hc : b.content = .group d g (.tuple cs))
    (hcs : ∀ c ∈ cs, c.isChild = true) (outer : Nesting) :
    Value.childrenOf outer b.nodeFields = given "children" (pure (.tuple cs)) := by
  obtain ⟨size, insets, edges, content⟩ := b
  obtain rfl := hc
  have hfrom : Value.childrenFrom outer 0 cs = pure cs :=
    funext fun n => Value.childrenFrom_children outer 0 hcs n
  change given "children" (Value.tuple <$> Value.childrenFrom outer 0 cs) = _
  rw [hfrom]
  rfl

lemma groupOf_nodeFields (h : b.Sized) {children : Value} (hc : b.content = .group d g children)
    (r : Reading Value) : Value.groupOf b.nodeFields r = reader b "group" Value.group
      <*> given "direction" ((fun v => Value.direction <$> Value.readDirection v) d)
      <*> given "inter_item_spacing" (orNull Value.readSpacing g) <*> r := by
  unfold reader
  rw [← h.readInsets, ← h.readEdges]
  obtain ⟨z, hz⟩ := h.size
  obtain ⟨size, insets, edges, content⟩ := b
  obtain rfl := hc
  obtain rfl := hz
  rfl

/-- Nothing is settled among slots and groups. -/
lemma exec_settle_children (hc : b.content = .group d g (.tuple cs))
    (hcs : ∀ c ∈ cs, c.isChild = true) (ev : Evaluator) (s : Session) (id : Nat) :
    (settleWithin (ev.depth + 1) (.ofType "Group") [] (.dict id b.nodeFields)).exec ev s =
      (.ok (.dict id b.nodeFields), s) := by
  obtain ⟨size, insets, edges, content⟩ := b
  obtain rfl := hc
  have hpart : (settlePart (settleWithin ev.depth) .child [(id, "Group")] "children"
      (Box.nodeFields ⟨size, insets, edges, .group d g (.tuple cs)⟩)).exec ev s =
      (.ok (some (.tuple cs)), s) := by
    change (some <$> (Value.tuple <$> settleEach _ _ _ _)).exec ev _ = _
    rw [exec_map, exec_map, exec_settleEach _ _ _ _ fun v hv => Value.ne_dict_of_isChild (hcs v hv)]
    rfl
  change (settlePart _ _ _ _ _ >>= _).exec ev _ = _
  rw [exec_bind_ok hpart]
  rfl

/-- A group is built if its direction and its space are what they should be. -/
lemma exec_construct_group (h : b.Sized) {children : Value} (hc : b.content = .group d g children)
    (ev : Evaluator) (s : Session) : ∃ r n,
      (construct "Group" b.nodeFields).exec ev s = (r, { s with serial := n }) ∧ b.Builds r := by
  obtain ⟨cs, rfl, hcs⟩ := h.children d g children hc
  let direction : Reading Value :=
    given "direction" ((fun v => Value.direction <$> Value.readDirection v) d)
  let space : Reading Value := given "inter_item_spacing" (orNull Value.readSpacing g)
  let children : Reading Value := given "children" (pure (.tuple cs))
  have hdirection : direction.Decided := (Decided.of_steady (Value.steady_direction d)).given _
  have hspace : space.Decided := (Decided.orNull Value.decided_readSpacing g).given _
  have hchildren : children.Decided := (Decided.pure _).given _
  have hof : Value.ofFields? "Group" s.serial b.nodeFields =
      some (reader b "group" Value.group <*> direction <*> space <*> children) := by
    change some (Value.groupOf b.nodeFields
      (Value.childrenOf [(s.serial, "Group")] b.nodeFields)) = _
    rw [childrenOf_children hc hcs, groupOf_nodeFields h hc]
  rw [exec_construct (exec_settle_children hc hcs ev _ _) hof]
  have hreader : (reader b "group" Value.group).Decided := decided_reader
  obtain ⟨v, n, hv, hr⟩ | ⟨is, n, hv, hr⟩ := finished_of_decided "Group"
    (((hreader.seq hdirection).seq hspace).seq hchildren) { s with serial := s.serial + 1 }
  · obtain ⟨k₁, xs, hk₁, hxs, rfl⟩ := hr.seq
    obtain ⟨k₂, y, hk₂, hy, rfl⟩ := hk₁.seq
    obtain ⟨k₃, x, hk₃, hx, rfl⟩ := hk₂.seq
    obtain ⟨i, rfl⟩ := eq_of_reads_reader hk₃
    obtain ⟨d', hd', rfl⟩ := hx.given.map
    obtain rfl := hxs.given.pure
    obtain ⟨g', hg', rfl⟩ := Value.isOptionalSpacing_of_reads hy.given
    exact ⟨_, n, hv, .group i hc (Value.reads_direction_iff.1 hd') hg'⟩
  · refine ⟨_, n, hv, .noGroup is hc ?_⟩
    by_contra hnone
    simp only [not_or, not_forall, not_not] at hnone
    obtain ⟨⟨d', hd'⟩, g', hg'⟩ := hnone
    obtain ⟨v, hread⟩ := exists_reads_seq hchildren
      (exists_reads_seq hspace (exists_reads_seq hdirection exists_reads_reader
        (exists_reads_given "direction"
          (exists_reads_map ⟨d', Value.reads_direction_iff.2 hd'⟩)))
        (exists_reads_given "inter_item_spacing" (Value.exists_reads_optionalSpacing hg')))
      (exists_reads_given "children" ⟨.tuple cs, 0, .exact, 0, 0, rfl⟩)
    exact hr v hread

end Group

/-- **Building**: what a builder holds is what its node holds. -/
lemma exec_build {ev : Evaluator} {s : Session} {id : Nat} (hb : s.boxes[id]? = some b)
    (h : b.Sized) : ∃ r n, (build id).exec ev s = (r, { s with serial := n }) ∧ b.Builds r := by
  unfold build
  rw [exec_bind_ok (exec_box ev hb)]
  rcases hc : b.content with columns | ⟨d, g, cs⟩
  · have htype : b.nodeType = "Slot" := by rw [Box.nodeType, hc]
    rw [htype]
    exact exec_construct_slot h hc ev s
  · have htype : b.nodeType = "Group" := by rw [Box.nodeType, hc]
    rw [htype]
    exact exec_construct_group h hc ev s

end Builder

end LayoutTree
