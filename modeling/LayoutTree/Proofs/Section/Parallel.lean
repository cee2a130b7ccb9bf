import LayoutTree.Proofs.Compose.Engaging
import LayoutTree.Proofs.Section.Rereading

/-!
Asking an engine for the same in two sessions in which composing has gone on from one session.

The sessions differ in which composers were made and in which identities are free. So what is read
of a value is the same in both, and what the engine makes differs in identities alone, and in the
tags of the not-a-numbers that were read of texts.
-/

namespace LayoutTree

open Run

/-! ### What two sessions have in common -/

namespace Session

/-- The value is no composer that is yet to be made, and neither are edge spacings in it. -/
def Knows (s : Session) : Value → Prop
  | .composer id => id < s.composers.size
  | .edges _ l t r b => s.Knows l ∧ s.Knows t ∧ s.Knows r ∧ s.Knows b
  | _ => True

/-- What is attached to values is known. -/
def KnowsAttributes (s : Session) : Prop :=
  ∀ (i : Identity) (name : Text) (v : Value), s.attribute? i name = some v → s.Knows v

/-- A property of sessions in which composing has gone on, which an engine that is asked for
something leaves as it is. -/
structure Phase (s : Session) (P : Session → Prop) : Prop where
  advances : ∀ t, P t → s.Advances t
  stays : ∀ t u, P t → t.Evolves u → P u

/-- Two computations may start from sessions in which composing has gone on. -/
structure Parallel (s : Session) (P Q : Session → Prop) : Prop where
  undisturbed : s.Undisturbed
  knows : s.KnowsAttributes
  left : s.Phase P
  right : s.Phase Q

namespace Advances

variable {s t : Session}

lemma serial_le (h : s.Advances t) : s.serial ≤ t.serial := by
  obtain ⟨cs, r, n, taken, hn, d, rs, rfl⟩ := h
  exact hn

lemma loggerWritten (h : s.Advances t) : t.loggerWritten = s.loggerWritten := by
  obtain ⟨cs, r, n, taken, hn, d, rs, rfl⟩ := h
  rfl

end Advances

end Session

/-! ### Reading fields -/

section Fields

variable (ev : Evaluator) {s : Session} {v : Value}

lemma exec_inherent?_of_advances (hv : s.Knows v) (name : String) {t : Session}
    (ht : s.Advances t) :
    (inherent? v name).exec ev t = (((inherent? v name).exec ev s).1, t) := by
  unfold inherent?
  split
  · -- a builder, which composing leaves as it is
    rename_i kind id
    rcases hb : s.boxes[id]? with _ | b
    · rw [exec_bind_error (exec_box_missing ev ((ht.box? id).trans hb)),
        exec_bind_error (exec_box_missing ev hb)]
    · rw [exec_bind_ok (exec_box ev ((ht.box? id).trans hb)), exec_bind_ok (exec_box ev hb)]
      rfl
  · -- a composer, which was there before
    rename_i id
    have hid : s.composers[id]? = some (s.composers[id]) := Array.getElem?_eq_getElem hv
    rw [exec_bind_ok (exec_composer ev (ht.composer? hid)), exec_bind_ok (exec_composer ev hid)]
    rfl
  · rename_i xs n _ _ _
    rcases Value.effectiveSubitems xs n with e | ys <;> rfl
  all_goals
    obtain ⟨cs, r, n, taken, -, d, rs, rfl⟩ := ht
    rfl

/-- What is read of a value is the same while composing goes on: an attribute that it has by its
type, one that is known because it was attached, or a method. -/
lemma exists_exec_field_of_advances (hk : s.KnowsAttributes) (hv : s.Knows v) (name : String) :
    ∃ x, (∀ t, s.Advances t → (field v name).exec ev t = (x, t)) ∧
      ∀ y, x = .ok y → (inherent? v name).exec ev s = (.ok (some y), s) ∨ s.Knows y := by
  have hx : ∀ t, s.Advances t → (inherent? v name).exec ev t =
      (((inherent? v name).exec ev s).1, t) := fun t => exec_inherent?_of_advances ev hv name
  generalize hown : ((inherent? v name).exec ev s).1 = x at hx
  have hreplaced : ∀ t, s.Advances t → t.replaced? v name = s.replaced? v name := by
    intro t ht
    unfold Session.replaced?
    exact congrArg _ (funext fun i => ht.attribute? i name)
  rcases x with e | _ | x
  · -- the look-up fails
    refine ⟨.error e, fun t ht => exec_field_error (hx t ht), fun y hy => ?_⟩
    cases hy
  · rcases ha : s.replaced? v name with _ | y
    · cases hm : v.hasMethod name with
      | true =>
        refine ⟨.ok (.method v name), fun t ht => ?_, fun y hy => .inr ?_⟩
        · exact exec_field_method (hx t ht) ((hreplaced t ht).trans ha) hm
        · cases hy
          trivial
      | false =>
        refine ⟨.error (v.noAttribute name), fun t ht => ?_, fun y hy => ?_⟩
        · exact exec_field_missing (hx t ht) ((hreplaced t ht).trans ha) hm
        · cases hy
    · -- what is attached
      refine ⟨.ok y, fun t ht => ?_, fun z hz => .inr ?_⟩
      · exact exec_field_attached (hx t ht) ((hreplaced t ht).trans ha)
      · cases hz
        obtain ⟨i, -, hy⟩ := Option.bind_eq_some_iff.1 ha
        exact hk i name y hy
  · -- what the value has by its type
    refine ⟨.ok x, fun t ht => exec_field (hx t ht), fun y hy => .inl ?_⟩
    cases hy
    exact hx s (.refl s)

/-- The names under which sizes and edge spacings hold their parts. -/
def partNames : List String := ["width", "height", "leading", "top", "trailing", "bottom"]

lemma get?_given_of_none {fs : Fields} {k : Text} (h : Fields.get? fs k = none) :
    Fields.get? (Value.fields?.given fs) k = none := by
  unfold Value.fields?.given Fields.get? at *
  rw [List.lookup_eq_none_iff] at h ⊢
  exact fun p hp => h p (List.mem_of_mem_filter hp)

/-- Parts of what is known are known. -/
lemma knows_of_inherent {name : String} {y : Value} (hname : name ∈ partNames) (hv : s.Knows v)
    (h : (inherent? v name).exec ev s = (.ok (some y), s)) : s.Knows y := by
  simp only [partNames, List.mem_cons, List.not_mem_nil, or_false] at hname
  have habsent : v.constant? name = none →
      (inherent? v name).exec ev s = (.ok (v.constant? name), s) → s.Knows y := by
    intro hnone hconst
    rw [hconst, hnone] at h
    cases h
  cases v with
  | edges id l t r b =>
    obtain ⟨hl, ht, hr, hb⟩ := hv
    rcases hname with rfl | rfl | rfl | rfl | rfl | rfl <;> cases h <;> assumption
  | slot id k z n e c =>
    refine habsent ?_ rfl
    rcases hname with rfl | rfl | rfl | rfl | rfl | rfl <;> exact get?_given_of_none rfl
  | group id k z n e d g cs =>
    refine habsent ?_ rfl
    rcases hname with rfl | rfl | rfl | rfl | rfl | rfl <;> exact get?_given_of_none rfl
  | box kind id =>
    rcases hb : s.boxes[id]? with _ | b
    · cases (exec_bind_error (exec_box_missing ev hb)).symm.trans h
    · have hbox := (exec_bind_ok (exec_box ev hb)).symm.trans h
      obtain ⟨z, n, e, content⟩ := b
      rcases hname with rfl | rfl | rfl | rfl | rfl | rfl <;> cases content <;> cases hbox
  | composer id =>
    have hid : s.composers[id]? = some (s.composers[id]) := Array.getElem?_eq_getElem hv
    have hcomposer := (exec_bind_ok (exec_composer ev hid)).symm.trans h
    rcases hname with rfl | rfl | rfl | rfl | rfl | rfl <;> cases hcomposer
  | _ =>
    rcases hname with rfl | rfl | rfl | rfl | rfl | rfl <;> cases h <;> trivial

/-- What a slot or a group has by its type is one of its parts. -/
lemma mem_parts_of_inherent {name : String} {y : Value} (hv : v.isBox = true)
    (h : (inherent? v name).exec ev s = (.ok (some y), s)) : y ∈ v.parts := by
  have hmem : ∀ {fs : Fields}, Fields.get? (Value.fields?.given fs) name = some y →
      y ∈ fs.map (·.2) := fun hy =>
    List.mem_map_of_mem (List.mem_of_mem_filter (Fields.mem_of_get? hy))
  have hconst : v.constant? name = some y := by
    cases v with
    | slot id k z n e c => exact Except.ok.inj (Prod.mk.inj h).1
    | group id k z n e d g cs => exact Except.ok.inj (Prod.mk.inj h).1
    | _ => cases hv
  cases v with
  | slot id k z n e c => exact hmem hconst
  | group id k z n e d g cs => exact hmem hconst
  | _ => cases hv

end Fields

/-! ### Parallel computations -/

namespace Session.Parallel

variable {ev : Evaluator} {s : Session} {P Q : Session → Prop}

/-- It is enough to know what happens from sessions in which composing has gone on. -/
lemma intro {α β : Type} {A : α → β → Prop} {m : Run α} {n : Run β} (h : s.Parallel P Q)
    (hmn : ∀ t u, s.Advances t → s.Advances u → ∃ x y t' u', m.exec ev t = (x, t') ∧
      n.exec ev u = (y, u') ∧ Agrees A x y ∧ t.Evolves t' ∧ u.Evolves u') :
    Matches ev P Q A m n := by
  intro t u ht hu
  obtain ⟨x, y, t', u', hm, hn, hxy, htt', huu'⟩ :=
    hmn t u (h.left.advances t ht) (h.right.advances u hu)
  rw [hm, hn]
  exact ⟨hxy, h.left.stays t t' ht htt', h.right.stays u u' hu huu'⟩

/-- What only looks finds the same in both sessions. -/
lemma look {α : Type} {A : α → α → Prop} {m : Run α} {x : Except Fault α} (h : s.Parallel P Q)
    (hm : ∀ t, s.Advances t → m.exec ev t = (x, t)) (ha : ∀ a, x = .ok a → A a a) :
    Matches ev P Q A m m :=
  .look (fun t ht => hm t (h.left.advances t ht)) (fun u hu => hm u (h.right.advances u hu))
    (.self ha)

lemma shown (h : s.Parallel P Q) (v : Value) :
    Matches ev P Q Eq (Run.shown v) (Run.shown v) :=
  h.look (fun t ht => by rw [exec_shown, ht.loggerWritten]) fun _ _ => rfl

lemma field {v : Value} (h : s.Parallel P Q) (hv : s.Knows v) (name : String) :
    Matches ev P Q Eq (Run.field v name) (Run.field v name) := by
  obtain ⟨x, hx, -⟩ := exists_exec_field_of_advances ev h.knows hv name
  exact h.look hx fun _ _ => rfl

/-- A part of a size or of edge spacings is known if they are. -/
lemma partField {v : Value} (h : s.Parallel P Q) (hv : s.Knows v) {name : String}
    (hname : name ∈ partNames) :
    Matches ev P Q (fun y z => y = z ∧ s.Knows y) (Run.field v name) (Run.field v name) := by
  obtain ⟨x, hx, hy⟩ := exists_exec_field_of_advances ev h.knows hv name
  exact h.look hx fun y hxy => ⟨rfl, (hy y hxy).elim (knows_of_inherent ev hname hv) id⟩

/-- A field of a slot or of a group is known if its parts are. -/
lemma boxField {v : Value} (h : s.Parallel P Q) (hv : s.Knows v) (hbox : v.isBox = true)
    (hparts : ∀ y ∈ v.parts, s.Knows y) (name : String) :
    Matches ev P Q (fun y z => y = z ∧ s.Knows y) (Run.field v name) (Run.field v name) := by
  obtain ⟨x, hx, hy⟩ := exists_exec_field_of_advances ev h.knows hv name
  exact h.look hx fun y hxy =>
    ⟨rfl, (hy y hxy).elim (fun hown => hparts y (mem_parts_of_inherent ev hbox hown)) id⟩

lemma log (h : s.Parallel P Q) {level : LogLevel} (hcan : s.CanLog "layoutbox.compose" level)
    (message message' : Text) :
    Matches ev P Q (fun _ _ => True) (Run.log "layoutbox.compose" level message)
      (Run.log "layoutbox.compose" level message') := by
  refine h.intro fun t u ht hu => ?_
  have hlog : ∀ {t : Session}, s.Advances t → t.CanLog "layoutbox.compose" level := by
    rintro t ⟨cs, r, n, taken, hn, d, rs, rfl⟩
    exact ⟨hcan.method, hcan.number⟩
  obtain ⟨t', hrun, htt'⟩ := exec_log ev (hlog ht) message
  obtain ⟨u', hrun', huu'⟩ := exec_log ev (hlog hu) message'
  exact ⟨_, _, t', u', hrun, hrun', .ok trivial, .of_logged htt', .of_logged huu'⟩

lemma note (h : s.Parallel P Q) (a b : Note) :
    Matches ev P Q (fun _ _ => True) (Run.note a) (Run.note b) :=
  h.intro fun t u _ _ => ⟨_, _, _, _, rfl, rfl, .ok trivial,
    ⟨t.serial, _, Nat.le_refl _, .refl _⟩, ⟨u.serial, _, Nat.le_refl _, .refl _⟩⟩

/-- Two dicts with entries that are alike. -/
lemma newDict (h : s.Parallel P Q) {A : Fields → Fields → Prop} {es fs : Fields} (hes : A es fs) :
    Matches ev P Q (fun v w => ∃ (i j : Nat) (es fs : Fields), v = .dict i es ∧ w = .dict j fs ∧
      A es fs) (Run.newDict es) (Run.newDict fs) :=
  h.intro fun t u _ _ => ⟨_, _, _, _, exec_newDict ev t es, exec_newDict ev u fs,
    .ok ⟨_, _, es, fs, rfl, rfl, hes⟩, .reserving t (Nat.le_succ _), .reserving u (Nat.le_succ _)⟩

/-- What two readings make. -/
lemma finished {A : Value → Value → Prop} {m n : Run Value} {type : String} {r q : Reading Value}
    (h : s.Parallel P Q) (hrq : r.Matches s.serial A q)
    (hm : ∀ t, s.Advances t →
      m.exec ev t = Run.finished type r { t with serial := t.serial + 1 })
    (hn : ∀ t, s.Advances t →
      n.exec ev t = Run.finished type q { t with serial := t.serial + 1 }) :
    Matches ev P Q A m n := by
  refine h.intro fun t u ht hu => ?_
  obtain ⟨hr, hq, hv⟩ := hrq (t.serial + 1) (u.serial + 1)
    (Nat.le_succ_of_le ht.serial_le) (Nat.le_succ_of_le hu.serial_le)
  rw [hm t ht, hn u hu]
  unfold Run.finished
  dsimp only
  generalize r (t.serial + 1) = x at hr hv ⊢
  generalize q (u.serial + 1) = y at hq hv ⊢
  obtain ⟨v, m'⟩ := x
  obtain ⟨w, n'⟩ := y
  have ht' : t.Evolves { t with serial := m' } :=
    .reserving t (Nat.le_trans (Nat.le_succ _) hr)
  have hu' : u.Evolves { u with serial := n' } :=
    .reserving u (Nat.le_trans (Nat.le_succ _) hq)
  cases hv with
  | read given exactness hab => exact ⟨_, _, _, _, rfl, rfl, .ok hab, ht', hu'⟩
  | refused issues => exact ⟨_, _, _, _, rfl, rfl, .error _, ht', hu'⟩

end Session.Parallel

end LayoutTree
