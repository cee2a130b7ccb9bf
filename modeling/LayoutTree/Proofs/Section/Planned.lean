import LayoutTree.Proofs.Builder.Building
import LayoutTree.Proofs.Compose.Engaging
import LayoutTree.Proofs.Section.Agreement

/-!
Sections of groups and of group builders whose fields are typed: what is composed for them is what
is planned of a draft.
-/

namespace LayoutTree

open Run

namespace Layout

/-- The section that a composer makes of an argument. -/
def sectionWith (id : Nat) (x : Value) : Run Value :=
  if isGroup x then do
    let composer ← composer id
    makeSection x composer.engine composer.config .null .null
  else pure x

lemma resolveSections_eq_mapM (id : Nat) (args : List Value) :
    resolveSections id args = args.mapM (sectionWith id) := by
  induction args with
  | nil => rfl
  | cons x args ih =>
    rw [resolveSections, List.mapM_cons, ih, sectionWith]
    split
    · exact (bind_assoc ..).symm
    · rfl

end Layout

/-! ### Arguments -/

/-- The value is a section that is ready for the layouts of such an engine. Only the model engine
looks at its sections. -/
def EngineKind.isSection : EngineKind → Value → Bool
  | .model, v => v.isHostSection
  | _, v => !Layout.isGroup v

lemma EngineKind.isGroup_of_isSection {kind : EngineKind} {v : Value}
    (h : kind.isSection v = true) : Layout.isGroup v = false := by
  cases kind with
  | model => exact isGroup_of_isHostSection h
  | _ => simpa [isSection] using h

/-- A group, which may be one that cannot be composed; a group builder, whose fields may be such
that it cannot be built; or a section that is ready. -/
inductive Session.IsArgument (s : Session) (kind : EngineKind) : Value → Prop
  | group (f : Frame) (listed : Bool) (ds : List Draft) :
      IsArgument s kind (f.holding listed (Draft.toValues ds))
  | builder {id : Nat} {b : Box} {direction space : Value} {ds : List Draft} :
      s.boxes[id]? = some b → b.Holds direction space ds →
      s.attribute? (.box id) "build" = none → IsArgument s kind (.box .group id)
  | ready {v : Value} : kind.isSection v = true → IsArgument s kind v

/-- Whatever composing has done meanwhile, the argument stands for the same group, or cannot be
built for the same reason. -/
def Session.StandsFor (s : Session) (x : Value) (node : Except Fault Frame) (listed : Bool)
    (ds : List Draft) : Prop :=
  ∀ ev t, s.Advances t → ∃ id n, t.serial ≤ n ∧ (Layout.groupNode x).exec ev t =
    ((fun f => (f.at id).holding listed (Draft.toValues ds)) <$> node, t.reserving n)

lemma Session.IsArgument.exists_node {s : Session} {kind : EngineKind} {x : Value}
    (h : s.IsArgument kind x) (hx : Layout.isGroup x = true) :
    ∃ node listed ds, s.StandsFor x node listed ds := by
  cases h with
  | group f listed ds =>
    exact ⟨.ok f, listed, ds, fun ev t _ => ⟨f.id, t.serial, Nat.le_refl _, rfl⟩⟩
  | @builder id b direction space ds hb hholds hbuild =>
    obtain ⟨node, hnode⟩ := Builder.exists_build hholds
    refine ⟨node, false, ds, fun ev t ht => ⟨t.serial + 1, t.serial + 2, Nat.le_add_right .., ?_⟩⟩
    have hown : t.replaced? (.box .group id) "build" = none := (ht.attribute? _ _).trans hbuild
    change (Builder.node _ _).exec ev t = _
    unfold Builder.node
    rw [exec_callMethodOr hown]
    exact hnode ev t _ ((ht.box? _).trans hb)
  | ready hready =>
    rw [EngineKind.isGroup_of_isSection hready] at hx
    cases hx

/-! ### Sections -/

section Sections

variable (ev : Evaluator) {s t : Session} {engine config requested : Value} {c : EngineClass}

/-- A group is composed before the engine is asked for the section. -/
lemma exec_makeSection_node {x : Value} {node : Except Fault Frame} {listed : Bool}
    {ds : List Draft} (hx : s.StandsFor x node listed ds) (hst : s.Advances t)
    (h : t.Provides engine config c requested) (insets spacing : Value) :
    ∃ y u base, (Layout.makeSection x engine config insets spacing).exec ev t =
        ((liftM y : Run Value) >>= (c.makeSection · insets spacing)).exec ev u ∧
      Agrees (fun v p => c.kind.Made base p v) y
        (node >>= fun f => Draft.made (c.refusal s) (c.repeatsFor requested) f ds) ∧
      t.Advances u := by
  obtain ⟨C, t₁, hmake, hC, ht₁, -⟩ := exec_engage ev h
  obtain ⟨id, n, hn, hnode⟩ := hx ev t₁ (hst.trans ht₁)
  have hgrown : t₁.Advances (t₁.reserving n) := .reserving t₁ hn
  have htt₂ : t.Advances (t₁.reserving n) := ht₁.trans hgrown
  unfold Layout.makeSection
  rw [exec_bind_ok hmake]
  rcases node with e | f
  · exact ⟨.error e, _, 0, exec_bind_error hnode, .error e, htt₂⟩
  have hC₂ := hC.advances hgrown
  obtain ⟨y, u, hrun, hy, hu⟩ := hC₂.exec_composeGroup ev (f.at id) listed ds
  rw [(hst.trans htt₂).refusal] at hy
  refine ⟨y, u, _, ?_, hy, htt₂.trans (.of_evolves hu)⟩
  rw [exec_bind_ok hnode]
  refine (hC₂.exec_asked ev (fun _ => ⟨rfl, rfl⟩) _).trans ?_
  rw [exec_bind, exec_bind, hrun]
  rcases y with e | v <;> rfl

/-- The engine of a composer is asked for a layout. -/
lemma Session.Engaged.exec_layout {id : Nat} {C : Composer} (h : t.Engaged id C c requested)
    (vs : List Value) : (do
      let composer ← Run.composer id
      Run.operate composer.engine "make_layout" do return ⟨[.list vs], []⟩).exec ev t =
      (c.makeLayout (.list vs)).exec ev t :=
  h.exec_asked ev (fun _ => ⟨rfl, rfl⟩) _

end Sections

end LayoutTree
