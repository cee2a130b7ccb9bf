import LayoutTree.Proofs.Meaning
import Mathlib.Logic.Function.Basic

/-!
One configuration of a builder: a fluent call with any arguments, or an assignment to an attribute.

Where it succeeds it changes one field of the builder, and what it puts there is told by its
arguments alone. Where it fails nothing is left behind but identities that were taken.
-/

namespace LayoutTree

open Run

/-! ### Edges and insets -/

namespace Value

def isEdges : Value → Bool
  | .edges .. => true
  | _ => false

/-- The spacing at an edge. -/
def edge : Value → Edge → Value
  | .edges _ l _ _ _, .leading => l
  | .edges _ _ t _ _, .top => t
  | .edges _ _ _ r _, .trailing => r
  | .edges _ _ _ _ b, .bottom => b
  | _, _ => .null

def ofEdges (id : Nat) (f : Edge → Value) : Value :=
  .edges id (f .leading) (f .top) (f .trailing) (f .bottom)

@[simp] lemma edge_ofEdges (id : Nat) (f : Edge → Value) (e : Edge) :
    (ofEdges id f).edge e = f e := by
  cases e <;> rfl

lemma exists_eq_ofEdges {v : Value} (h : v.isEdges = true) : ∃ id, v = ofEdges id v.edge := by
  cases v with
  | edges id l t r b => exact ⟨id, rfl⟩
  | _ => cases h

lemma edge_of_isTruthy {v : Value} (h : v.isTruthy = false) (e : Edge) : v.edge e = .null := by
  cases v <;> first
    | rfl
    | cases h

end Value

/-- The inset at an edge. -/
def Insets.at (i : Insets) : Edge → Double
  | .leading => i.leading
  | .top => i.top
  | .trailing => i.trailing
  | .bottom => i.bottom

/-- Which insets arguments give: the space for all edges if there is one, or else the insets, or
else the number for all edges, or else the edges one by one, zero where an edge is left out. -/
inductive Arguments.GiveInsets (a : Arguments) : Insets → Prop
  | space {i : Insets} : (a.namedOr "space" .null).isNull = false →
    (∀ e : Edge, (a.namedOr "space" .null).IsNumber (i.at e)) → GiveInsets a i
  | insets {i : Insets} : (a.namedOr "space" .null).isNull = true →
    a.orNull 0 "insets" = .insets i → GiveInsets a i
  | number {i : Insets} : (a.namedOr "space" .null).isNull = true →
    (a.orNull 0 "insets").isNull = false → (∀ j, a.orNull 0 "insets" ≠ .insets j) →
    (∀ e : Edge, (a.orNull 0 "insets").IsNumber (i.at e)) → GiveInsets a i
  | edges {i : Insets} : (a.namedOr "space" .null).isNull = true →
    (a.orNull 0 "insets").isNull = true →
    (∀ e : Edge, (a.namedOr e.name (.float .zero)).IsNumber (i.at e)) → GiveInsets a i

/-! ### Configurations -/

/-- What a script does to configure a builder. -/
inductive Configuration where
  | size (a : Arguments)
  | insets (a : Arguments)
  | edges (a : Arguments)
  | edge (e : Edge) (a : Arguments)
  | space (a : Arguments)
  | assignment (name : Text) (x : Value)

namespace Configuration

def run (kind : BoxKind) (id : Nat) : Configuration → Run Value
  | size a => boxMethod kind id "size" a
  | insets a => boxMethod kind id "insets" a
  | edges a => boxMethod kind id "edges" a
  | edge e a => boxMethod kind id e.name a
  | space a => boxMethod kind id "space" a
  | assignment name x => do
    assign (.box kind id) name x
    pure .null

/-- It is not an assignment that replaces a method through which edges are set. -/
def Fluent : Configuration → Prop
  | assignment name _ => name ≠ "_set_edge" ∧ name ≠ "with_edge"
  | _ => True

end Configuration

/-- What becomes of a builder through a configuration that succeeds. -/
inductive Box.Takes (b : Box) : Configuration → Box → Prop
  | size {a : Arguments} {w h : Value} {z : LayoutSize} :
    a.find? 0 "width" = some w → a.find? 1 "height" = some h →
    w.IsDimension z.width → h.IsDimension z.height →
    b.Takes (.size a) { b with size := .size z }
  | insets {a : Arguments} {i : Insets} :
    a.GiveInsets i → b.Takes (.insets a) { b with insets := .insets i }
  | edges {a : Arguments} {x : Value} :
    a.find? 0 "edges" = some x → b.Takes (.edges a) { b with edges := x }
  | edge {e : Edge} {a : Arguments} {x : Value} (i : Nat) :
    a.find? 0 "spacing" = some x → b.edges.isTruthy = false ∨ b.edges.isEdges = true →
    b.Takes (.edge e a) { b with edges := .ofEdges i (Function.update b.edges.edge e x) }
  | space {a : Arguments} {d g x cs : Value} :
    b.content = .group d g cs → a.find? 0 "spacing" = some x →
    b.Takes (.space a) { b with content := .group d x cs }
  | stored {name : String} {x : Value} {c : Box} :
    (b.property? name) = none → b.store? name x = some c → b.Takes (.assignment name x) c
  | attached {name : Text} {x : Value} :
    (∀ n, name = .plain n → b.property? n = none ∧ b.store? n x = none) →
    b.Takes (.assignment name x) b

/-! ### Methods through which edges are set -/

namespace Session

variable {s : Session}

lemma SetsEdges.of_attribute? {t : Session} (h : s.SetsEdges)
    (ht : ∀ (i : Identity) (name : Text), name = "_set_edge" ∨ name = "with_edge" →
      s.attribute? i name = none → t.attribute? i name = none) : t.SetsEdges := by
  have hkept : ∀ (v : Value) (name : Text), name = "_set_edge" ∨ name = "with_edge" →
      s.replaced? v name = none → t.replaced? v name = none := by
    intro v name hn hr
    unfold replaced? at hr ⊢
    rcases hv : v.identity? with _ | i <;> rw [hv] at hr
    · rfl
    · exact ht i name hn hr
  exact ⟨fun v => hkept v _ (.inl rfl) (h.builder v), fun v => hkept v _ (.inr rfl) (h.edges v)⟩

/-- Nothing was attached to anything. -/
lemma SetsEdges.of_attributes (h : s.attributes = []) : s.SetsEdges := by
  have hnone : ∀ (v : Value) (name : Text), s.replaced? v name = none := by
    intro v name
    unfold replaced? attribute? attributesOf
    rw [h]
    cases v.identity? <;> rfl
  exact ⟨fun v => hnone v _, fun v => hnone v _⟩

lemma SetsEdges.serial (h : s.SetsEdges) (n : Nat) : { s with serial := n }.SetsEdges :=
  ⟨h.builder, h.edges⟩

lemma SetsEdges.boxes (h : s.SetsEdges) (bs : Array Box) : { s with boxes := bs }.SetsEdges :=
  ⟨h.builder, h.edges⟩

/-- Attributes of other names do not stand in the place of these methods. -/
lemma SetsEdges.setAttribute (h : s.SetsEdges) (i : Identity) {name : Text} (x : Value)
    (hn : name ≠ "_set_edge" ∧ name ≠ "with_edge") : (s.setAttribute i name x).SetsEdges := by
  refine h.of_attribute? fun j other ho hj => ?_
  have hne : other ≠ name := by
    rintro rfl
    exact ho.elim hn.1 hn.2
  by_cases hij : j = i
  · subst hij
    unfold attribute? Session.setAttribute at *
    rw [attributesOf_setAttributes_self, Fields.get?_put_of_ne hne, hj]
  · rw [attribute?_setAttribute_of_ne hij, hj]

/-- A copy has the attributes of the original. -/
lemma SetsEdges.setAttributes (h : s.SetsEdges) {v : Value} {i : Identity}
    (hv : v.identity? = some i) (j : Identity) :
    (s.setAttributes j (s.attributesOf i)).SetsEdges := by
  have hown : ∀ name : Text, name = "_set_edge" ∨ name = "with_edge" →
      s.attribute? i name = none := by
    rintro name (rfl | rfl)
    · simpa [replaced?, hv] using h.builder v
    · simpa [replaced?, hv] using h.edges v
  refine h.of_attribute? fun k name hn hk => ?_
  unfold attribute?
  by_cases hjk : k = j
  · subst hjk
    rw [attributesOf_setAttributes_self]
    exact hown name hn
  · rw [attributesOf_setAttributes_of_ne hjk]
    exact hk

end Session

/-! ### Edges with one replaced -/

namespace Builder

variable {ev : Evaluator} {s : Session}

/-- A copy of edge spacings with one of them replaced is made, whatever is put there. -/
lemma exec_copyWith_edges (hs : s.SetsEdges) (id : Nat) (l t r b : Value) (e : Edge) (x : Value) :
    ∃ u, (Model.copyWith (.edges id l t r b) e.name x).exec ev s =
        (.ok (.ofEdges s.serial (Function.update (Value.edges id l t r b).edge e x)), u) ∧
      u.boxes = s.boxes ∧ u.SetsEdges := by
  let s₁ : Session := { s with serial := s.serial + 1 }
  have hcopy : ∃ u, (Model.copy (.edges id l t r b)).exec ev s =
      (.ok (.edges s.serial l t r b), u) ∧ u.boxes = s.boxes ∧ u.SetsEdges := by
    have hfresh : fresh.exec ev s = (.ok s.serial, s₁) := rfl
    unfold Model.copy
    rw [exec_bind_ok hfresh, exec_bind, exec_get]
    dsimp only
    split
    · rename_i f fs hfs
      have hattr : s₁.attributesOf (.object id) = f :: fs := Option.some.inj hfs
      refine ⟨_, rfl, rfl, ?_⟩
      rw [← hattr]
      exact (hs.serial _).setAttributes (v := .edges id l t r b) rfl _
    · exact ⟨s₁, rfl, rfl, hs.serial _⟩
  obtain ⟨u, hu, hboxes, hsets⟩ := hcopy
  refine ⟨u, ?_, hboxes, hsets⟩
  unfold Model.copyWith
  rw [exec_bind_ok hu]
  cases e <;> rfl

lemma exec_construct_edges (ev : Evaluator) (s : Session) :
    (construct "EdgeSpacing" []).exec ev s =
      (.ok (.edges (s.serial + 1) .null .null .null .null), { s with serial := s.serial + 2 }) := by
  have h : (settleWithin (ev.depth + 1) (.ofType "EdgeSpacing") [] (.dict s.serial [])).exec ev
      { s with serial := s.serial + 1 } =
      (.ok (.dict s.serial []), { s with serial := s.serial + 1 }) := rfl
  rw [exec_construct h rfl]
  rfl

lemma exec_replacedEdge_edges (hs : s.SetsEdges) (id : Nat) (l t r b : Value) (e : Edge)
    (x : Value) : ∃ u, (replacedEdge (.edges id l t r b) (.text e.name) x).exec ev s =
        (.ok (.ofEdges s.serial (Function.update (Value.edges id l t r b).edge e x)), u) ∧
      u.boxes = s.boxes ∧ u.SetsEdges := by
  have hfield : (field (.edges id l t r b) "with_edge").exec ev s =
      (.ok (.method (.edges id l t r b) "with_edge"), s) :=
    exec_field_method rfl (hs.edges _) rfl
  have hwith : withEdge (.edges id l t r b) (.text e.name) x =
      Model.copyWith (.edges id l t r b) e.name x := by
    cases e <;> rfl
  have hreplaced : (replacedEdge (.edges id l t r b) (.text e.name) x).exec ev s =
      (withEdge (.edges id l t r b) (.text e.name) x).exec ev s := exec_bind_ok hfield
  rw [hreplaced, hwith]
  exact exec_copyWith_edges hs id l t r b e x

variable (ev) in
/-- An edge is set in a copy of the edge spacings, or in new ones if there are none. -/
lemma exec_replacedEdge (hs : s.SetsEdges) {v : Value}
    (hv : v.isTruthy = false ∨ v.isEdges = true) (e : Edge) (x : Value) :
    ∃ i u, (replacedEdge v (.text e.name) x).exec ev s =
        (.ok (.ofEdges i (Function.update v.edge e x)), u) ∧
      u.boxes = s.boxes ∧ u.SetsEdges := by
  rcases hv with hv | hv
  · have hnew : (replacedEdge v (.text e.name) x).exec ev s =
        (replacedEdge (.edges (s.serial + 1) .null .null .null .null) (.text e.name) x).exec ev
          { s with serial := s.serial + 2 } := by
      unfold replacedEdge
      rw [if_neg (by simp [hv]), exec_bind_ok (exec_construct_edges ev s)]
      rfl
    have hedge : v.edge = (Value.edges (s.serial + 1) .null .null .null .null).edge := by
      funext f
      rw [Value.edge_of_isTruthy hv f]
      cases f <;> rfl
    rw [hnew, hedge]
    exact ⟨_, exec_replacedEdge_edges (hs.serial _) _ _ _ _ _ e x⟩
  · cases v with
    | edges id l t r b => exact ⟨_, exec_replacedEdge_edges hs id l t r b e x⟩
    | _ => cases hv

variable (ev) in
/-- Only edge spacings have such a method. -/
lemma exec_replacedEdge_other (hs : s.SetsEdges) {v : Value} (ht : v.isTruthy = true)
    (hv : v.isEdges = false) (e : Edge) (x : Value) :
    ∃ f, (replacedEdge v (.text e.name) x).exec ev s = (.error f, s) := by
  have hmethod : v.hasMethod "with_edge" = false := by
    cases v with
    | edges => cases hv
    | box kind id => cases kind <;> rfl
    | _ => rfl
  obtain ⟨r, hr, hf⟩ := exec_field_with_edge ev hs.edges v
  cases r with
  | error f =>
    refine ⟨f, ?_⟩
    unfold replacedEdge
    rw [if_pos ht, pure_bind, exec_bind_error hr]
  | ok f =>
    rw [(hf f rfl).2] at hmethod
    cases hmethod

/-! ### Sizes and insets -/

open Reading

/-- A size of a width and a height is made, or none if they are no dimensions. -/
lemma exec_size (ev : Evaluator) (s : Session) (w h : Value) :
    (∃ (z : LayoutSize) (n : Nat), (size w h).exec ev s = (.ok (.size z), { s with serial := n }) ∧
      w.IsDimension z.width ∧ h.IsDimension z.height) ∨
    ∃ is n, (size w h).exec ev s =
        (.error (.invalid "LayoutSize" is), { s with serial := n }) ∧
      ∀ z : LayoutSize, w.IsDimension z.width → ¬ h.IsDimension z.height := by
  let fs : Fields := [("width", w), ("height", h)]
  have hof : Value.sizeOf fs = LayoutSize.mk <$> made <*> w.readDimension.given "width"
      <*> h.readDimension.given "height" := rfl
  obtain ⟨v, n, hv, hr⟩ | ⟨is, n, hv, hr⟩ := exec_construct_decided (s := s) ev "LayoutSize" fs
    rfl rfl ((Value.decided_sizeOf _).map _)
  · obtain ⟨z, hz, rfl⟩ := hr.map
    rw [hof] at hz
    obtain ⟨k, y, hk, hy, rfl⟩ := hz.seq
    obtain ⟨l, x, hl, hx, rfl⟩ := hk.seq
    obtain ⟨i, -, rfl⟩ := hl.map
    exact .inl ⟨_, n, hv, Value.isDimension_of_reads hx.given, Value.isDimension_of_reads hy.given⟩
  · refine .inr ⟨is, n, hv, fun z hx hy => ?_⟩
    obtain ⟨v, hv⟩ : ∃ v, (Value.size <$> Value.sizeOf fs).Reads v := by
      refine exists_reads_map ?_
      rw [hof]
      exact exists_reads_seq ((Value.decided_readDimension h).given _)
        (exists_reads_seq ((Value.decided_readDimension w).given _) exists_reads_made
          (exists_reads_given _ (Value.exists_reads_dimension hx)))
        (exists_reads_given _ (Value.exists_reads_dimension hy))
    exact hr v hv

/-- The fields of which insets are made. -/
def edgeFields (f : Edge → Value) : Fields :=
  [("top", f .top), ("leading", f .leading), ("bottom", f .bottom), ("trailing", f .trailing)]

/-- Insets of the numbers at the edges are made, or none if these are no numbers. -/
lemma exec_insets (ev : Evaluator) (s : Session) (f : Edge → Value) :
    (∃ (i : Insets) (n : Nat), (construct "Insets" (edgeFields f)).exec ev s =
        (.ok (.insets i), { s with serial := n }) ∧ ∀ e, (f e).IsNumber (i.at e)) ∨
    ∃ is n, (construct "Insets" (edgeFields f)).exec ev s =
        (.error (.invalid "Insets" is), { s with serial := n }) ∧
      ∀ i : Insets, ¬ ∀ e, (f e).IsNumber (i.at e) := by
  simp only [← Value.reads_number_iff]
  have hof : Value.insetsOf (edgeFields f) = Insets.mk <$> made <*> (f .top).number.given "top"
      <*> (f .leading).number.given "leading" <*> (f .bottom).number.given "bottom"
      <*> (f .trailing).number.given "trailing" := rfl
  have hdecided : ∀ e name, ((f e).number.given name).Decided := fun e name =>
    (Value.decided_number _).given name
  obtain ⟨v, n, hv, hr⟩ | ⟨is, n, hv, hr⟩ := exec_construct_decided (s := s) ev "Insets"
    (edgeFields f) rfl rfl ((Value.decided_insetsOf _).map _)
  · obtain ⟨i, hi, rfl⟩ := hr.map
    rw [hof] at hi
    obtain ⟨k₁, x₁, hk₁, hx₁, rfl⟩ := hi.seq
    obtain ⟨k₂, x₂, hk₂, hx₂, rfl⟩ := hk₁.seq
    obtain ⟨k₃, x₃, hk₃, hx₃, rfl⟩ := hk₂.seq
    obtain ⟨k₄, x₄, hk₄, hx₄, rfl⟩ := hk₃.seq
    obtain ⟨i, -, rfl⟩ := hk₄.map
    refine .inl ⟨_, n, hv, fun e => ?_⟩
    cases e with
    | leading => exact hx₃.given
    | top => exact hx₄.given
    | trailing => exact hx₁.given
    | bottom => exact hx₂.given
  · refine .inr ⟨is, n, hv, fun i hi => ?_⟩
    obtain ⟨v, hv⟩ : ∃ v, (Value.insets <$> Value.insetsOf (edgeFields f)).Reads v := by
      refine exists_reads_map ?_
      rw [hof]
      have hgiven : ∀ e name, ∃ x, ((f e).number.given name).Reads x := fun e name =>
        exists_reads_given name ⟨_, hi e⟩
      exact exists_reads_seq (hdecided _ _) (exists_reads_seq (hdecided _ _)
        (exists_reads_seq (hdecided _ _) (exists_reads_seq (hdecided _ _) exists_reads_made
          (hgiven _ _)) (hgiven _ _)) (hgiven _ _)) (hgiven _ _)
    exact hr v hv

/-- The space for all edges counts first, then insets or a number, and the single edges last. -/
lemma exec_insetsArgument (ev : Evaluator) (s : Session) (a : Arguments) :
    (∃ (i : Insets) (n : Nat), (insetsArgument a).read.exec ev s =
        (.ok (.insets i), { s with serial := n }) ∧ a.GiveInsets i) ∨
    ∃ f n, (insetsArgument a).read.exec ev s = (.error f, { s with serial := n }) ∧
      ∀ i, ¬ a.GiveInsets i := by
  have hspaced : (insetsArgument a).space = a.namedOr "space" .null := rfl
  have hgiven : (insetsArgument a).insets = a.orNull 0 "insets" := rfl
  have hedges : (insetsArgument a).edges = edgeFields fun e => a.namedOr e.name (.float .zero) :=
    rfl
  unfold InsetsArgument.read
  rw [hspaced, hgiven, hedges]
  split
  · -- the space for all edges
    rename_i hspace
    rw [Bool.not_eq_true'] at hspace
    obtain ⟨i, n, hi, hr⟩ | ⟨is, n, hi, hr⟩ := exec_insets ev s fun _ => a.namedOr "space" .null
    · exact .inl ⟨i, n, hi, .space hspace hr⟩
    · refine .inr ⟨_, n, hi, fun i hd => ?_⟩
      cases hd with
      | space _ h => exact hr i h
      | insets h => simp [hspace] at h
      | number h => simp [hspace] at h
      | edges h => simp [hspace] at h
  · rename_i hspace
    rw [Bool.not_eq_true', Bool.not_eq_false] at hspace
    split
    · -- insets
      rename_i i hinsets
      exact .inl ⟨i, s.serial, rfl, .insets hspace hinsets⟩
    · -- the single edges
      rename_i hinsets
      have hnull : (a.orNull 0 "insets").isNull = true := by rw [hinsets]; rfl
      obtain ⟨i, n, hi, hr⟩ | ⟨is, n, hi, hr⟩ :=
        exec_insets ev s fun e => a.namedOr e.name (.float .zero)
      · exact .inl ⟨i, n, hi, .edges hspace hnull hr⟩
      · refine .inr ⟨_, n, hi, fun i hd => ?_⟩
        cases hd with
        | space h => simp [hspace] at h
        | insets _ h => simp [hinsets] at h
        | number _ h => simp [hnull] at h
        | edges _ _ h => exact hr i h
    · -- a number for all edges
      rename_i hno hnull
      have hnotNull : (a.orNull 0 "insets").isNull = false := by
        cases hv : a.orNull 0 "insets" <;> first
          | rfl
          | exact absurd hv hnull
      obtain ⟨i, n, hi, hr⟩ | ⟨is, n, hi, hr⟩ := exec_insets ev s fun _ => a.orNull 0 "insets"
      · exact .inl ⟨i, n, hi, .number hspace hnotNull hno hr⟩
      · refine .inr ⟨_, n, hi, fun i hd => ?_⟩
        cases hd with
        | space h => simp [hspace] at h
        | insets _ h => exact hno _ h
        | number _ _ _ h => exact hr i h
        | edges _ h => simp [hnotNull] at h

end Builder

/-! ### What a configuration comes to -/

namespace Configuration

variable {ev : Evaluator} {s : Session} {kind : BoxKind} {id : Nat} {b : Box}

/-- Either the configuration succeeds and the builder takes it, or it fails and the builder could
not take it; then nothing has changed but that identities may have been taken. -/
def Comes (c : Configuration) (ev : Evaluator) (kind : BoxKind) (id : Nat) (s : Session)
    (b : Box) : Prop :=
  (∃ x d t, (c.run kind id).exec ev s = (.ok x, t) ∧ b.Takes c d ∧
    t.boxes = s.boxes.setIfInBounds id d ∧ t.SetsEdges) ∨
  ∃ f n, (c.run kind id).exec ev s = (.error f, { s with serial := n }) ∧ ∀ d, ¬ b.Takes c d

section Steps

lemma exec_required {a : Arguments} {i : Nat} {name : String} {v : Value}
    (h : a.find? i name = some v) (ev : Evaluator) (s : Session) :
    (a.required i name).exec ev s = (.ok v, s) := by
  unfold Arguments.required
  rw [h]
  rfl

lemma exec_required_missing {a : Arguments} {i : Nat} {name : String}
    (h : a.find? i name = none) (ev : Evaluator) (s : Session) :
    (a.required i name).exec ev s = (.error .wrongArguments, s) := by
  unfold Arguments.required
  rw [h]
  rfl

lemma exec_box_bind {α : Type} {f : Box → Run α} (hb : s.boxes[id]? = some b) :
    (Run.box id >>= f).exec ev s = (f b).exec ev s := exec_bind_ok (exec_box ev hb)

variable (hs : s.SetsEdges) (hb : s.boxes[id]? = some b)
include hs hb

lemma comes_edges (a : Arguments) : (edges a).Comes ev kind id s b := by
  rcases ha : a.find? 0 "edges" with _ | x
  · refine .inr ⟨.wrongArguments, s.serial, exec_bind_error (exec_required_missing ha ev s), ?_⟩
    rintro d ⟨⟩
    simp_all
  · have hset : (Builder.setEdges id x).exec ev s = (.ok (),
        { s with boxes := s.boxes.setIfInBounds id { b with edges := x } }) := exec_box_bind hb
    exact .inl ⟨.box kind id, { b with edges := x }, _,
      (exec_bind_ok (exec_required ha ev s)).trans (exec_bind_ok hset), .edges ha, rfl, hs.boxes _⟩

lemma comes_space (a : Arguments) : (space a).Comes ev kind id s b := by
  rcases ha : a.find? 0 "spacing" with _ | x
  · refine .inr ⟨.wrongArguments, s.serial, exec_bind_error (exec_required_missing ha ev s), ?_⟩
    rintro d ⟨⟩
    simp_all
  rcases hc : b.content with columns | ⟨d, g, cs⟩
  · -- items have no space between them
    have hset : (Builder.setSpace id x).exec ev s = (.error (.noField "ItemBox" "space"), s) := by
      unfold Builder.setSpace
      rw [exec_box_bind hb]
      simp only [hc, exec_throw]
    refine .inr ⟨_, s.serial, (exec_bind_ok (exec_required ha ev s)).trans
      (exec_bind_error hset), ?_⟩
    rintro d ⟨⟩
    simp_all
  · -- groups take it as it is
    have hset : (Builder.setSpace id x).exec ev s = (.ok (),
        { s with boxes := s.boxes.setIfInBounds id { b with content := .group d x cs } }) := by
      unfold Builder.setSpace
      rw [exec_box_bind hb]
      simp only [hc]
      rfl
    exact .inl ⟨.box kind id, _, _,
      (exec_bind_ok (exec_required ha ev s)).trans (exec_bind_ok hset), .space hc ha, rfl,
      hs.boxes _⟩

lemma comes_edge (e : Edge) (a : Arguments) : (edge e a).Comes ev kind id s b := by
  have hrun : ((edge e a).run kind id) =
      (do Run.setEdge kind id (.text e.name) (← a.required 0 "spacing")) := by
    cases e <;> rfl
  unfold Comes
  rw [hrun]
  rcases ha : a.find? 0 "spacing" with _ | x
  · refine .inr ⟨.wrongArguments, s.serial, exec_bind_error (exec_required_missing ha ev s), ?_⟩
    rintro d ⟨⟩
    simp_all
  rw [exec_bind_ok (exec_required ha ev s)]
  unfold Run.setEdge
  rw [exec_callMethodOr (hs.builder _)]
  have hset : (Builder.setEdge id (.text e.name) x).exec ev s =
      (Builder.replacedEdge b.edges (.text e.name) x >>= fun edges => do
        setBox id { ← box id with edges }).exec ev s := exec_box_bind hb
  by_cases hv : b.edges.isTruthy = false ∨ b.edges.isEdges = true
  · -- edge spacings, or nothing yet, of which a copy is changed
    obtain ⟨i, u, hu, hboxes, hsets⟩ := Builder.exec_replacedEdge ev hs hv e x
    have hbu : u.boxes[id]? = some b := by rw [hboxes, hb]
    rw [exec_bind_ok hu, exec_box_bind hbu] at hset
    refine .inl ⟨.box kind id, _, _, exec_bind_ok hset, .edge i ha hv, ?_, hsets.boxes _⟩
    change u.boxes.setIfInBounds _ _ = _
    rw [hboxes]
  · -- something else, which has no edge to change
    rw [not_or, Bool.not_eq_false, Bool.not_eq_true] at hv
    obtain ⟨f, hf⟩ := Builder.exec_replacedEdge_other ev hs hv.1 hv.2 e x
    rw [exec_bind_error hf] at hset
    refine .inr ⟨f, s.serial, exec_bind_error hset, ?_⟩
    rintro d ⟨⟩
    simp_all

lemma comes_size (a : Arguments) : (size a).Comes ev kind id s b := by
  rcases hw : a.find? 0 "width" with _ | w
  · refine .inr ⟨.wrongArguments, s.serial, exec_bind_error (exec_required_missing hw ev s), ?_⟩
    rintro d ⟨⟩
    simp_all
  rcases hh : a.find? 1 "height" with _ | h
  · refine .inr ⟨.wrongArguments, s.serial, (exec_bind_ok (exec_required hw ev s)).trans
      (exec_bind_error (exec_required_missing hh ev s)), ?_⟩
    rintro d ⟨⟩
    simp_all
  have hrun : ((size a).run kind id).exec ev s =
      (Builder.setSize id w h >>= fun _ => pure (.box kind id)).exec ev s :=
    (exec_bind_ok (exec_required hw ev s)).trans (exec_bind_ok (exec_required hh ev s))
  unfold Comes
  rw [hrun]
  obtain ⟨z, n, hz, hwidth, hheight⟩ | ⟨is, n, hz, hr⟩ := Builder.exec_size ev s w h
  · -- both dimensions are read
    have hset : (Builder.setSize id w h).exec ev s = (.ok (),
        { s with serial := n, boxes := s.boxes.setIfInBounds id { b with size := .size z } }) :=
      (exec_bind_ok hz).trans (exec_box_bind hb)
    exact .inl ⟨.box kind id, _, _, exec_bind_ok hset, .size hw hh hwidth hheight, rfl,
      (hs.serial n).boxes _⟩
  · -- one of them is refused
    refine .inr ⟨_, n, exec_bind_error (exec_bind_error hz), ?_⟩
    intro d hd
    cases hd with
    | size hw' hh' hwidth hheight =>
      rw [hw] at hw'
      rw [hh] at hh'
      cases hw'
      cases hh'
      exact hr _ hwidth hheight

lemma comes_insets (a : Arguments) : (insets a).Comes ev kind id s b := by
  obtain ⟨i, n, hi, ha⟩ | ⟨f, n, hi, ha⟩ := Builder.exec_insetsArgument ev s a
  · have hset : (Builder.setInsets id (insetsArgument a)).exec ev s = (.ok (),
        { s with serial := n, boxes := s.boxes.setIfInBounds id { b with insets := .insets i } }) :=
      (exec_bind_ok hi).trans (exec_box_bind hb)
    exact .inl ⟨.box kind id, _, _, exec_bind_ok hset, .insets ha, rfl, (hs.serial n).boxes _⟩
  · refine .inr ⟨_, n, exec_bind_error (exec_bind_error hi), ?_⟩
    intro d hd
    cases hd with
    | insets hd => exact ha _ hd

lemma comes_assignment {name : Text} (hn : name ≠ "_set_edge" ∧ name ≠ "with_edge") (x : Value) :
    (assignment name x).Comes ev kind id s b := by
  have hid : s.boxes.setIfInBounds id b = s.boxes := by
    obtain ⟨hi, rfl⟩ := Array.getElem?_eq_some_iff.1 hb
    simp [Array.setIfInBounds, hi]
  have hattached : (attach (.box id) name x).exec ev s =
      (.ok (), s.setAttribute (.box id) name x) := rfl
  have hsets : (s.setAttribute (.box id) name x).SetsEdges := hs.setAttribute _ x hn
  have hassign : ∀ {r : Except Fault Unit × Session},
      (assignToBox (.box kind id) id name x).exec ev s = r →
        (assign (.box kind id) name x).exec ev s = r := fun h => h
  unfold assignToBox at hassign
  rw [exec_box_bind hb] at hassign
  cases name with
  | broken ps =>
    exact .inl ⟨.null, b, _, exec_bind_ok (hassign hattached), .attached nofun, hid.symm, hsets⟩
  | plain n =>
    rcases hp : b.property? n with _ | v
    · rcases hc : b.store? n x with _ | c
      · -- the builder has nothing of this name, so it is attached to it
        simp only [Text.string?, hp, hc, Option.isSome_none, Bool.false_eq_true, if_false]
          at hassign
        refine .inl ⟨.null, b, _, exec_bind_ok (hassign hattached), .attached ?_, hid.symm, hsets⟩
        rintro m ⟨⟩
        exact ⟨hp, hc⟩
      · simp only [Text.string?, hp, hc, Option.isSome_none, Bool.false_eq_true, if_false]
          at hassign
        exact .inl ⟨.null, c, _, exec_bind_ok (hassign rfl), .stored hp hc, rfl, hs.boxes _⟩
    · -- what is only computed cannot be assigned
      simp only [Text.string?, hp, Option.isSome_some, if_true] at hassign
      refine .inr ⟨_, s.serial, exec_bind_error (hassign rfl), ?_⟩
      intro d hd
      cases hd with
      | stored hp' => simp [hp] at hp'
      | attached h => simp [hp] at h

variable (ev kind) in
/-- **One step**: a configuration succeeds and the builder takes it, or it fails and leaves
everything as it was. -/
lemma comes (c : Configuration) (hc : c.Fluent) : c.Comes ev kind id s b := by
  cases c with
  | size a => exact comes_size hs hb a
  | insets a => exact comes_insets hs hb a
  | edges a => exact comes_edges hs hb a
  | edge e a => exact comes_edge hs hb e a
  | space a => exact comes_space hs hb a
  | assignment name x => exact comes_assignment hs hb hc x

end Steps

end Configuration

end LayoutTree
