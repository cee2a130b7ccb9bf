import LayoutTree.Host.Section
import LayoutTree.Proofs.Section.Description

/-!
Making sections and layouts with the two engines that come along: what each makes of a group that
its engine has composed, and that a session in which nothing was replaced stays one.
-/

namespace LayoutTree

open Run

/-! ### Sessions -/

/-- No script has replaced a method of the engine or of a composer that is yet to come, nothing is
attached to identities that are not given out, and composing can log. -/
structure Session.Hosts (s : Session) (engine : Nat) : Prop where
  composers : ∀ id, s.composers.size ≤ id → ∀ name, s.attribute? (.composer id) name = none
  engine : ∀ name, s.attribute? (.object engine) name = none
  unattached : s.Unattached
  logs : s.CanLog "layoutbox.compose" .debug
  warns : s.CanLog "layoutbox.compose" .warning

namespace Session.Hosts

variable {s t : Session} {engine : Nat}

lemma genuine (h : s.Hosts engine) : s.Genuine s.composers.size engine :=
  ⟨h.composers _ (Nat.le_refl _), fun p => h.engine p.method, h.logs, h.warns⟩

lemma engaging (h : s.Hosts engine) (C : Composer) : (s.engaging C).Hosts engine where
  composers id hid := h.composers id (by
    rw [Session.engaging, Array.size_push] at hid
    omega)
  engine := h.engine
  unattached := h.unattached
  logs := ⟨h.logs.method, h.logs.number⟩
  warns := ⟨h.warns.method, h.warns.number⟩

lemma reserving (h : s.Hosts engine) {n : Nat} (hn : s.serial ≤ n) :
    (s.reserving n).Hosts engine where
  composers := h.composers
  engine := h.engine
  unattached i hi := h.unattached i (Nat.le_trans hn hi)
  logs := ⟨h.logs.method, h.logs.number⟩
  warns := ⟨h.warns.method, h.warns.number⟩

lemma of_logged (h : s.Hosts engine) (ht : s.Logged t) : t.Hosts engine := by
  have hl := h.logs.of_logged ht
  have hw := h.warns.of_logged ht
  obtain ⟨d, rs, rfl⟩ := ht
  exact ⟨h.composers, h.engine, h.unattached, hl, hw⟩

lemma of_grows (h : s.Hosts engine) (ht : s.Grows t) : t.Hosts engine := by
  obtain ⟨n, hn, ht⟩ := ht
  exact (h.reserving hn).of_logged ht

end Session.Hosts

lemma Session.hosts_initial (environment : List (Text × Text)) (stream : Bool) (engine : Nat) :
    (Session.initial environment stream).Hosts engine where
  composers _ _ _ := rfl
  engine _ := rfl
  unattached _ _ := rfl
  logs := .of_untouched rfl fun _ => rfl
  warns := .of_untouched rfl fun _ => rfl

/-! ### The engines -/

section Engines

variable (ev : Evaluator) (s : Session) (i : Option Insets) (x : Option Double)

/-- Insets that are not given are made. -/
lemma exec_insetsOrNone : ∃ j n, s.serial ≤ n ∧ ∀ next : Value → Run Value, (do
    let insets ← if (Value.ofOption .insets i).isTruthy then pure (Value.ofOption .insets i)
      else construct "Insets" []
    next insets).exec ev s = (next (.insets (i.getD (.none j)))).exec ev (s.reserving n) := by
  cases i with
  | none =>
    exact ⟨s.serial + 1, s.serial + 2, Nat.le_add_right .., fun next =>
      exec_bind_ok (exec_construct_insets ev s)⟩
  | some i => exact ⟨0, s.serial, Nat.le_refl _, fun next => rfl⟩

/-- Space that is not given, or zero, is zero. -/
lemma exists_spacingOrZero : ∃ y,
    (if (Value.ofOption .float x).isTruthy then .ofOption .float x else .float .zero) =
      Value.float y ∧ (x.getD .zero).same y = true := by
  rcases x with _ | x
  · exact ⟨.zero, rfl, rfl⟩
  · cases hz : x.isZero with
    | false => exact ⟨x, by simp [Value.ofOption, Value.isTruthy, hz], by simp⟩
    | true =>
      have hzero : Double.zero.isZero = true := rfl
      exact ⟨.zero, by simp [Value.ofOption, Value.isTruthy, hz], by simp [Double.same, hz, hzero]⟩

/-- The model engine takes its defaults for what is not given, and for a space of zero. -/
lemma exec_modelSection {g : Value} {base : Nat} {p : Plan} (hg : p.Modelled base g)
    (hp : p.isGroup = true) : ∃ id j y n,
      (EngineClass.model.makeSection g (.ofOption .insets i) (.ofOption .float x)).exec ev s =
        (.ok (.hostSection id g (.insets (i.getD (.none j))) y), s.reserving n) ∧
      (x.getD .zero).same y = true ∧ s.serial ≤ n := by
  obtain ⟨k, z, d, vs, m, e, f, h, rfl⟩ := hg.eq_itemGroup hp
  obtain ⟨j, n, hn, hnext⟩ := exec_insetsOrNone ev s i
  obtain ⟨y, hy, hsame⟩ := exists_spacingOrZero x
  refine ⟨n + 1, j, y, n + 2, ?_, hsame, by omega⟩
  change (Model.makeSection _ _ _).exec ev s = _
  unfold Model.makeSection
  rw [hy, hnext, exec_construct_section]
  rfl

lemma exec_modelLayout {vs : List Value} (h : ∀ v ∈ vs, v.isHostSection = true) :
    (EngineClass.model.makeLayout (.list vs)).exec ev s =
      (.ok (.hostLayout (s.serial + 1) vs), s.reserving (s.serial + 2)) := by
  change (Model.makeLayout _).exec ev s = _
  unfold Model.makeLayout
  rw [exec_bind_ok (exec_elements_list ev s vs), exec_construct_layout ev s h]
  rfl

end Engines

namespace Descriptor

/-- The descriptor of a section with its insets, if they are given, and with what is given for the
space between its groups. -/
def ofSpaced (group : Value) (i : Option Insets) (space : Value) : Value :=
  .dict 0 (("type", .text "section") :: ("group", group) :: (entry "contentInsets" (i.map ofInsets)
    ++ Value.entryIfSet "interGroupSpacing" space space))

/-- The descriptor of a section with its insets and the space between its groups, each if it is
given. -/
def ofSection (group : Value) (i : Option Insets) (x : Option Double) : Value :=
  .dict 0 (("type", .text "section") :: ("group", group)
    :: (entry "contentInsets" (i.map ofInsets) ++ entry "interGroupSpacing" (x.map .float)))

lemma ofSpaced_ofOption (group : Value) (i : Option Insets) (x : Option Double) :
    ofSpaced group i (.ofOption .float x) = ofSection group i x := by
  cases x <;> rfl

variable (ev : Evaluator)

lemma makes_spaced {v group space : Value} (h : v.bare = group) (hs : space.bare = space)
    (i : Option Insets) : (EngineClass.descriptor.makeSection v (.ofOption .insets i) space).Makes
      ev (ofSpaced group i space) := by
  have hspace : Value.bareEntries (if space.isNull then [] else [("interGroupSpacing", space)]) =
      Value.entryIfSet "interGroupSpacing" space space := by
    unfold Value.entryIfSet
    split
    · rfl
    · rw [Value.bareEntries, hs, Value.bareEntries]
  change (makeSection _ _ _).Makes ev _
  unfold makeSection
  cases i with
  | none =>
    refine .read (fun s => rfl) (.newDict ?_)
    simp [Value.bareEntries, h, Value.bare, hspace, entry]
  | some i =>
    have hi : (Value.ofOption Value.insets (some i)).isNull = false := rfl
    simp only [hi, Bool.false_eq_true, ↓reduceIte, bind_map_left]
    refine .bind (makes_insets ev i) fun w hw => .newDict ?_
    simp [Value.bareEntries, h, hw, Value.bare, hspace, entry]

lemma makes_section {v group : Value} (h : v.bare = group) (i : Option Insets)
    (x : Option Double) :
    (EngineClass.descriptor.makeSection v (.ofOption .insets i) (.ofOption .float x)).Makes ev
      (ofSection group i x) := by
  have hx : (Value.ofOption .float x).bare = .ofOption .float x := by
    cases x <;> rfl
  rw [← ofSpaced_ofOption]
  exact makes_spaced ev h hx i

lemma makes_layout (vs : List Value) :
    (EngineClass.descriptor.makeLayout (.list vs)).Makes ev
      (.dict 0 [("type", .text "layout"), ("sections", .list (Value.bareAll vs))]) :=
  .read (fun s => exec_elements_list ev s vs) (.newDict (by simp [Value.bareEntries, Value.bare]))

/-! What is left out of a section is filled in as the model engine fills it in. -/

lemma section_describes {w g : Value} (h : w.Describes g) {i : Option Insets} {x : Option Double}
    {y : Double} (hx : (x.getD .zero).same y = true) (id j : Nat) :
    (ofSection w i x).Describes (.hostSection id g (.insets (i.getD (.none j))) y) := by
  have hi := Insets.same_getD (Value.same_self (.ofOption .insets i)) 0 j
  rw [Value.Describes] at h ⊢
  have hfilled : (ofSection w i x).filled = .dict 0 (Fields.fill "interGroupSpacing" (.float .zero)
      (Fields.fill "contentInsets" zeros (("type", .text "section") :: ("group", w.filled)
        :: (entry "contentInsets" (i.map ofInsets)
          ++ entry "interGroupSpacing" (x.map .float))))) := by
    cases i <;> cases x <;> rfl
  rw [hfilled, Value.rendered, Value.rendered]
  cases i <;> cases x <;>
    simp_all [entry, Fields.fill, Fields.get?_cons, Fields.get?_nil, Fields.put, Value.same_dict,
      zeros, Value.compareEntries_cons_cons, Value.compareEntries_nil, same_ofInsets]

lemma layout_describes {ws vs : List Value} (h : List.Forall₂ Value.Describes ws vs) (id : Nat) :
    (Value.dict 0 [("type", .text "layout"), ("sections", .list ws)]).Describes
      (.hostLayout id vs) := by
  have hall := sameAll_iff_describes.2 h
  have hfilled : (Value.dict 0 [("type", .text "layout"), ("sections", .list ws)]).filled =
      .dict 0 [("type", .text "layout"), ("sections", .list (Value.filledAll ws))] := rfl
  rw [Value.Describes, hfilled, Value.rendered]
  simp [Value.same_dict, Value.compareEntries_cons_cons, Value.compareEntries_nil, Value.same_list,
    hall]

end Descriptor

end LayoutTree
