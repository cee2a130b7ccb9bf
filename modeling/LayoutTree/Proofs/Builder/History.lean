import LayoutTree.Proofs.Builder.Freezing
import LayoutTree.Proofs.Yields

/-!
Builders that are configured again and again.

Each field of a builder is what the last configuration for it gave that succeeded. One lemma for
each field tells what one configuration does to it, and the laws on histories follow by induction.
-/

namespace LayoutTree

open Run Reading

/-! ### What configurations put where -/

namespace Configuration

/-- Edges are given as edge spacings or as none, and what is assigned are columns or a direction. -/
def Ordinary : Configuration → Prop
  | edges a => ∀ x, a.find? 0 "edges" = some x → x = .null ∨ x.isEdges = true
  | assignment name _ => name = "columns" ∨ name = "direction"
  | _ => True

def size? : Configuration → Option (Value × Value)
  | size a => do return (← a.find? 0 "width", ← a.find? 1 "height")
  | _ => none

def insets? : Configuration → Option Arguments
  | insets a => some a
  | _ => none

/-- What is put at an edge: all edges are given at once, or this one is. -/
def edge? (e : Edge) : Configuration → Option Value
  | edges a => (a.find? 0 "edges").map (·.edge e)
  | edge f a => if f = e then a.find? 0 "spacing" else none
  | _ => none

def space? : Configuration → Option Value
  | space a => a.find? 0 "spacing"
  | _ => none

def assigned? (name : Text) : Configuration → Option Value
  | assignment n x => if n = name then some x else none
  | _ => none

/-- From here on there are no edge spacings. -/
def clearsEdges : Configuration → Bool
  | edges a => (a.find? 0 "edges").any (·.isNull)
  | _ => false

/-- From here on there are edge spacings. -/
def setsEdges : Configuration → Bool
  | edges a => (a.find? 0 "edges").any (·.isEdges)
  | edge .. => true
  | _ => false

variable {c : Configuration}

lemma Ordinary.fluent (h : c.Ordinary) : c.Fluent := by
  cases c with
  | assignment name x => rcases h with rfl | rfl <;> exact ⟨by decide, by decide⟩
  | _ => trivial

end Configuration

/-- The content of a builder after configurations, of which the last is the first. -/
def BoxContent.after (cs : List Configuration) : BoxContent → BoxContent
  | .item columns => .item ((cs.findSome? (·.assigned? "columns")).getD columns)
  | .group d g children => .group ((cs.findSome? (·.assigned? "direction")).getD d)
      ((cs.findSome? (·.space?)).getD g) children

/-! ### One configuration -/

namespace Box

variable {b d : Box} {c : Configuration}

/-- What is assigned is part of the content. -/
lemma eq_of_store? {name : String} {x : Value} (hc : (Configuration.assignment name x).Ordinary)
    (h : b.store? name x = some d) :
    d = { b with content := b.content.after [.assignment name x] } := by
  obtain ⟨size, insets, edges, content⟩ := b
  rcases hc with hn | hn <;> cases hn <;> cases content <;> cases h <;> rfl

lemma after_of_store? {name : String} {x : Value} (hc : (Configuration.assignment name x).Ordinary)
    (h : b.store? name x = none) : b.content.after [.assignment name x] = b.content := by
  obtain ⟨size, insets, edges, content⟩ := b
  rcases hc with hn | hn <;> cases hn <;> cases content <;> cases h <;> rfl

namespace Takes

variable (h : b.Takes c d) (hc : c.Ordinary)
include h hc

lemma size_eq : (c.size? = none ∧ d.size = b.size) ∨ ∃ w k z, c.size? = some (w, k) ∧
    d.size = .size z ∧ w.IsDimension z.width ∧ k.IsDimension z.height := by
  cases h with
  | size hw hk hwidth hheight =>
    exact .inr ⟨_, _, _, by simp [Configuration.size?, hw, hk], rfl, hwidth, hheight⟩
  | stored _ hs =>
    rw [eq_of_store? hc hs]
    exact .inl ⟨rfl, rfl⟩
  | _ => exact .inl ⟨rfl, rfl⟩

lemma insets_eq : (c.insets? = none ∧ d.insets = b.insets) ∨
    ∃ a i, c.insets? = some a ∧ d.insets = .insets i ∧ a.GiveInsets i := by
  cases h with
  | insets hi => exact .inr ⟨_, _, rfl, rfl, hi⟩
  | stored _ hs =>
    rw [eq_of_store? hc hs]
    exact .inl ⟨rfl, rfl⟩
  | _ => exact .inl ⟨rfl, rfl⟩

lemma edge_eq (e : Edge) : d.edges.edge e = (c.edge? e).getD (b.edges.edge e) := by
  cases h with
  | edges hx => simp [Configuration.edge?, hx]
  | @edge f a x i hx =>
    by_cases hf : f = e
    · subst hf
      simp [Configuration.edge?, hx]
    · simp [Configuration.edge?, hf, Function.update_of_ne (Ne.symm hf)]
  | stored _ hs =>
    rw [eq_of_store? hc hs]
    rfl
  | _ => rfl

/-- Edge spacings are there once they were set, until they are cleared. -/
lemma edges_eq : (c.clearsEdges = true ∧ d.edges = .null) ∨
    (c.clearsEdges = false ∧ c.setsEdges = true ∧ d.edges.isEdges = true) ∨
    (c.clearsEdges = false ∧ c.setsEdges = false ∧ d.edges = b.edges) := by
  cases h with
  | @edges a x hx =>
    rcases hc x hx with rfl | hv
    · exact .inl ⟨by simp [Configuration.clearsEdges, hx, Value.isNull], rfl⟩
    · have hnull : x.isNull = false := by cases x <;> first | rfl | cases hv
      exact .inr (.inl ⟨by simp [Configuration.clearsEdges, hx, hnull],
        by simp [Configuration.setsEdges, hx, hv], hv⟩)
  | edge => exact .inr (.inl ⟨rfl, rfl, rfl⟩)
  | stored _ hs =>
    rw [eq_of_store? hc hs]
    exact .inr (.inr ⟨rfl, rfl, rfl⟩)
  | _ => exact .inr (.inr ⟨rfl, rfl, rfl⟩)

lemma content_eq : d.content = b.content.after [c] := by
  cases h with
  | space hg hx => simp [hg, BoxContent.after, Configuration.space?, Configuration.assigned?, hx]
  | stored _ hs => rw [eq_of_store? hc hs]
  | @attached name x hs =>
    cases name with
    | broken ps => rcases hc with hn | hn <;> cases hn
    | plain n => exact (after_of_store? hc (hs n rfl).2).symm
  | _ => cases b.content <;> rfl

end Takes

end Box

/-! ### Any number of configurations -/

namespace BoxContent

lemma after_nil (content : BoxContent) : content.after [] = content := by
  cases content <;> rfl

lemma after_cons (c : Configuration) (cs : List Configuration) (content : BoxContent) :
    content.after (c :: cs) = (content.after cs).after [c] := by
  have hlast : ∀ (f : Configuration → Option Value) (v : Value),
      ((c :: cs).findSome? f).getD v = ([c].findSome? f).getD ((cs.findSome? f).getD v) := by
    intro f v
    rw [List.findSome?_cons, List.findSome?_cons]
    cases f c <;> rfl
  cases content with
  | item columns => exact congrArg BoxContent.item (hlast _ _)
  | group d g children => simp only [after, hlast]

end BoxContent

namespace Box

/-- The builder is what configurations make of it that succeeded one after another, of which the
last is the first. It was made with such a size and content. -/
structure Configured (width height : Value) (content : BoxContent) (cs : List Configuration)
    (b : Box) : Prop where
  size : ∃ z, b.size = .size z ∧
    ((cs.findSome? (·.size?)).getD (width, height)).1.IsDimension z.width ∧
    ((cs.findSome? (·.size?)).getD (width, height)).2.IsDimension z.height
  insets : (cs.findSome? (·.insets?) = none ∧ b.insets = .null) ∨ ∃ a i,
    cs.findSome? (·.insets?) = some a ∧ b.insets = .insets i ∧ a.GiveInsets i
  edge : ∀ e, b.edges.edge e = (cs.findSome? (·.edge? e)).getD .null
  edges : b.edges = .null ∨ b.edges.isEdges = true
  /-- There are edge spacings if some were set since they were last cleared. -/
  isNull : b.edges = .null ↔ ∀ c ∈ cs.takeWhile (!·.clearsEdges), c.setsEdges = false
  content : b.content = content.after cs

variable {width height : Value} {content : BoxContent} {cs : List Configuration} {b d : Box}
  {c : Configuration}

/-- A builder that was just made. -/
lemma Configured.made {z : LayoutSize} (hw : width.IsDimension z.width)
    (hh : height.IsDimension z.height) (content : BoxContent) :
    Configured width height content [] ⟨.size z, .null, .null, content⟩ where
  size := ⟨z, rfl, hw, hh⟩
  insets := .inl ⟨rfl, rfl⟩
  edge _ := rfl
  edges := .inl rfl
  isNull := by simp
  content := content.after_nil.symm

/-- **Step**: a configuration replaces what earlier ones for the same field gave. -/
lemma Configured.step (h : b.Configured width height content cs) (hc : c.Ordinary)
    (hd : b.Takes c d) : d.Configured width height content (c :: cs) where
  size := by
    rw [List.findSome?_cons]
    obtain ⟨hnone, hsize⟩ | ⟨w, k, z, hsome, hz⟩ := hd.size_eq hc
    · -- nothing is said of the size
      rw [hnone, hsize]
      exact h.size
    · -- this is the last call for it
      rw [hsome]
      exact ⟨z, hz⟩
  insets := by
    rw [List.findSome?_cons]
    obtain ⟨hnone, hinsets⟩ | ⟨a, i, hsome, hi⟩ := hd.insets_eq hc
    · rw [hnone, hinsets]
      exact h.insets
    · rw [hsome]
      exact .inr ⟨a, i, rfl, hi⟩
  edge e := by
    rw [hd.edge_eq hc e, h.edge e, List.findSome?_cons]
    cases c.edge? e <;> rfl
  edges := by
    obtain ⟨-, he⟩ | ⟨-, -, he⟩ | ⟨-, -, he⟩ := hd.edges_eq hc
    · exact .inl he
    · exact .inr he
    · rw [he]
      exact h.edges
  isNull := by
    rw [List.takeWhile_cons]
    obtain ⟨hclears, he⟩ | ⟨hclears, hsets, he⟩ | ⟨hclears, hsets, he⟩ := hd.edges_eq hc
    · -- the edge spacings are taken away
      simp [hclears, he]
    · -- an edge is set, so they are there
      have hne : d.edges ≠ .null := by
        intro hnull
        rw [hnull] at he
        cases he
      simp [hclears, hsets, hne]
    · -- they stay
      rw [he, h.isNull]
      simp [hclears, hsets]
  content := by
    rw [hd.content_eq hc, h.content]
    exact (BoxContent.after_cons c cs content).symm

/-- Children stay what they are. -/
lemma Configured.sized (h : b.Configured width height content cs)
    (hcs : ∀ d g vs, content = .group d g vs → vs.AreChildren) : b.Sized where
  size := h.size.imp fun _ hz => hz.1
  insets := h.insets.imp (·.2) fun ⟨_, i, _, hi, _⟩ => ⟨i, hi⟩
  edges := h.edges
  children d g vs hb := by
    rw [h.content] at hb
    cases content with
    | item columns => cases hb
    | group d' g' vs' =>
      cases hb
      exact hcs _ _ _ rfl

/-- Builders that differ at most in which edge spacings they have, with the same at each edge. -/
structure Alike (b d : Box) : Prop where
  size : b.size = d.size
  insets : b.insets = d.insets
  content : b.content = d.content
  isEdges : b.edges.isEdges = true ∧ d.edges.isEdges = true
  edge : ∀ e, b.edges.edge e = d.edges.edge e

lemma Takes.isEdges {e : Edge} {a : Arguments} (h : b.Takes (.edge e a) d) :
    d.edges.isEdges = true := by
  cases h with
  | edge i hx => rfl

/-- What is set at one edge is not disturbed by what is set at another. -/
lemma Takes.alike {e f : Edge} (hne : e ≠ f) {a a' : Arguments} {c₁ c₂ d₁ d₂ : Box}
    (h₁ : b.Takes (.edge e a) c₁) (h₂ : c₁.Takes (.edge f a') c₂)
    (k₁ : b.Takes (.edge f a') d₁) (k₂ : d₁.Takes (.edge e a) d₂) : c₂.Alike d₂ := by
  have hargument : ∀ {g : Edge} {a : Arguments} {b c : Box}, b.Takes (.edge g a) c →
      ∃ x, a.find? 0 "spacing" = some x := by
    intro g a b c h
    cases h with
    | edge i hx => exact ⟨_, hx⟩
  obtain ⟨x, hx⟩ := hargument h₁
  obtain ⟨y, hy⟩ := hargument h₂
  have hkept : ∀ {g : Edge} {a : Arguments} {b c : Box}, b.Takes (.edge g a) c →
      c.size = b.size ∧ c.insets = b.insets ∧ c.content = b.content ∧ c.edges.isEdges = true := by
    intro g a b c h
    cases h with
    | edge i hx => exact ⟨rfl, rfl, rfl, rfl⟩
  obtain ⟨s₁, i₁, t₁, -⟩ := hkept h₁
  obtain ⟨s₂, i₂, t₂, e₂⟩ := hkept h₂
  obtain ⟨s₃, i₃, t₃, -⟩ := hkept k₁
  obtain ⟨s₄, i₄, t₄, e₄⟩ := hkept k₂
  refine ⟨by rw [s₂, s₁, s₄, s₃], by rw [i₂, i₁, i₄, i₃], by rw [t₂, t₁, t₄, t₃], ⟨e₂, e₄⟩,
    fun g => ?_⟩
  rw [h₂.edge_eq trivial, h₁.edge_eq trivial, k₂.edge_eq trivial, k₁.edge_eq trivial]
  simp only [Configuration.edge?, hx, hy]
  by_cases he : e = g
  · have hf : f ≠ g := fun hf => hne (he.trans hf.symm)
    simp [he, hf]
  · simp [he]

end Box

/-! ### Histories -/

namespace Builder

variable {ev : Evaluator} {kind : BoxKind} {id : Nat} {p : Configuration → Prop}

/-- Configurations of a builder one after another, each of which may fail, and between them
anything that leaves the builder and the methods through which edges are set alone. Those that
succeeded are told, the last one first. -/
inductive History (ev : Evaluator) (kind : BoxKind) (id : Nat) (p : Configuration → Prop)
    (s : Session) : List Configuration → Session → Prop
  | start : History ev kind id p s [] s
  | succeeded {cs : List Configuration} {c : Configuration} {x : Value} {t u : Session} :
    History ev kind id p s cs t → p c → (c.run kind id).exec ev t = (.ok x, u) →
      History ev kind id p s (c :: cs) u
  | failed {cs : List Configuration} {c : Configuration} {f : Fault} {t u : Session} :
    History ev kind id p s cs t → p c → (c.run kind id).exec ev t = (.error f, u) →
      History ev kind id p s cs u
  | other {cs : List Configuration} {t u : Session} :
    History ev kind id p s cs t → u.boxes[id]? = t.boxes[id]? → u.SetsEdges →
      History ev kind id p s cs u

lemma getElem?_taken {s t : Session} {b d : Box} (hb : s.boxes[id]? = some b)
    (ht : t.boxes = s.boxes.setIfInBounds id d) : t.boxes[id]? = some d := by
  obtain ⟨hi, -⟩ := Array.getElem?_eq_some_iff.1 hb
  rw [ht]
  simp [hi]

/-- An edge is set whatever is put there, as long as something is. -/
lemma exec_edge {s : Session} {b : Box} (hs : s.SetsEdges) (hb : s.boxes[id]? = some b)
    (he : b.edges = .null ∨ b.edges.isEdges = true) {a : Arguments}
    (ha : (a.find? 0 "spacing").isSome = true) (e : Edge) : ∃ x d t,
      ((Configuration.edge e a).run kind id).exec ev s = (.ok x, t) ∧
      b.Takes (.edge e a) d ∧ t.boxes[id]? = some d ∧ t.SetsEdges := by
  obtain ⟨x, d, t, ht, hd, hboxes, hsets⟩ | ⟨f, n, -, hnone⟩ :=
    Configuration.comes ev kind hs hb (.edge e a) trivial
  · exact ⟨x, d, t, ht, hd, getElem?_taken hb hboxes, hsets⟩
  · obtain ⟨x, hx⟩ := Option.isSome_iff_exists.1 ha
    have hedges : b.edges.isTruthy = false ∨ b.edges.isEdges = true :=
      he.imp_left fun hnull => by rw [hnull]; rfl
    exact absurd (.edge 0 hx hedges) (hnone _)

/-- What one configuration keeps of a builder holds of it after any number of them. -/
lemma History.keeps {P : List Configuration → Box → Prop} {s t : Session}
    {cs : List Configuration} {b : Box} (h : History ev kind id p s cs t)
    (hp : ∀ c, p c → c.Fluent) (hb : s.boxes[id]? = some b) (hs : s.SetsEdges) (h₀ : P [] b)
    (hstep : ∀ {c cs b d}, P cs b → p c → b.Takes c d → P (c :: cs) d) :
    ∃ d, t.boxes[id]? = some d ∧ t.SetsEdges ∧ P cs d := by
  induction h with
  | start => exact ⟨b, hb, hs, h₀⟩
  | @succeeded cs c x t u _ hc hrun ih =>
    obtain ⟨d, hd, ht, hPd⟩ := ih
    obtain ⟨y, d', v, hv, htakes, hboxes, hsets⟩ | ⟨f, n, hv, -⟩ :=
      Configuration.comes ev kind ht hd c (hp c hc)
    · -- the builder took it
      rw [hrun] at hv
      cases hv
      exact ⟨d', getElem?_taken hd hboxes, hsets, hstep hPd hc htakes⟩
    · -- it would have failed
      rw [hrun] at hv
      cases hv
  | @failed cs c f t u _ hc hrun ih =>
    obtain ⟨d, hd, ht, hPd⟩ := ih
    obtain ⟨y, d', v, hv, -⟩ | ⟨g, n, hv, -⟩ :=
      Configuration.comes ev kind ht hd c (hp c hc)
    · -- it would have succeeded
      rw [hrun] at hv
      cases hv
    · -- the builder is as it was
      rw [hrun] at hv
      cases hv
      exact ⟨d, hd, ht.serial n, hPd⟩
  | other _ hbox hsets ih =>
    obtain ⟨d, hd, -, hPd⟩ := ih
    exact ⟨d, hbox.trans hd, hsets, hPd⟩

end Builder

end LayoutTree
