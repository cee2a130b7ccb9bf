import LayoutTree.Proofs.Compose.Making

/-!
Composing with a trace engine: which calls the engine gets, in which order and with which
operands, and what is made of them.

The list that a trace engine makes spells out its plan, and the note of a call names the plan's
operation and operands.
-/

namespace LayoutTree

open Run

namespace Plan

/-- The word that a trace engine puts in front of a plan's operands. -/
def word : Plan → String
  | item _ => "item"
  | group .. => "group"
  | repeated .. => "repeat"
  | insets .. => "insets"
  | edges .. => "edges"
  | spacing .. => "spacing"

mutual

/-- The operands of a plan's call, where a trace engine made the host objects. -/
def operands : Plan → List Value
  | item z => [.size z]
  | group d z ps => [.direction d, .size z, .list (traces ps)]
  | repeated d z p n => [.direction d, .size z, .list (.text p.word :: p.operands), .int n]
  | insets p i => [.list (.text p.word :: p.operands), .insets i]
  | edges p e => [.list (.text p.word :: p.operands), e.toValue]
  | spacing p g => [.list (.text p.word :: p.operands), .spacing g]

def traces : List Plan → List Value
  | [] => []
  | p :: ps => .list (.text p.word :: p.operands) :: traces ps

end

/-- What a trace engine makes of a plan. -/
def trace (p : Plan) : Value := .list (.text p.word :: p.operands)

/-- The note of a plan's call to the trace engine of a name. -/
def note (label : Text) (p : Plan) : Note := .call label p.method p.operands

lemma eq_traces {vs : List Value} {ps : List Plan}
    (h : List.Forall₂ (fun v p => v = trace p) vs ps) : vs = traces ps := by
  induction h with
  | nil => rfl
  | cons hv _ ih => rw [hv, ih, traces, trace]

lemma Takes.eq_operands {p : Plan} {vs : List Value}
    (h : p.Takes (fun v p => v = trace p) vs) : vs = p.operands := by
  cases h with
  | item z => rfl
  | group d z hv => rw [operands, eq_traces hv]
  | repeated d z n hv => rw [hv, operands, trace]
  | insets i hv => rw [hv, operands, trace]
  | edges e hv => rw [hv, operands, trace]
  | spacing g hg hv => rw [hv, operands, trace]

end Plan

namespace Session

/-- The session after some calls to the trace engine of a name, apart from the log. -/
def noting (s : Session) (label : Text) (ps : List Plan) : Session :=
  { s with taken := s.taken ++ (ps.map (Plan.note label)).toArray }

@[simp] lemma noting_nil (s : Session) (label : Text) : s.noting label [] = s := by
  simp [noting]

lemma noting_singleton (s : Session) (label : Text) (p : Plan) :
    s.noting label [p] = { s with taken := s.taken.push (p.note label) } := by
  simp [noting]

lemma noting_append (s : Session) (label : Text) (ps qs : List Plan) :
    (s.noting label ps).noting label qs = s.noting label (ps ++ qs) := by
  simp [noting]

end Session

namespace EngineClass

variable {ev : Evaluator} {implements supports : Bool} {label : Value} {p : Plan}

/-- A trace engine takes a note of a call and makes a list of its operands. -/
lemma exec_operate_trace {vs : List Value} (hp : p.Takes (fun v p => v = p.trace) vs)
    (hr : p.method = "make_repeated_group" → implements) (s : Session) :
    (operate ⟨.trace implements, label, supports⟩ p.method ⟨vs, []⟩).exec ev s =
      (.ok p.trace, s.noting (label.shown s.loggerWritten) [p]) := by
  rw [Session.noting_singleton, Plan.note, Plan.trace, ← hp.eq_operands]
  cases hp with
  | item z => rfl
  | group d z hv =>
    rename_i vs ps
    change (traced _ "make_group" [.direction d, .size z, .list vs] (do
      return [.text "group", .direction d, .size z, .list (← elements (.list vs))])).exec ev s = _
    have hparts : ∀ t, (do
        return [.text "group", .direction d, .size z, .list (← elements (.list vs))]
        : Run (List Value)).exec ev t =
        (.ok [.text "group", .direction d, .size z, .list vs], t) := by
      intro t
      rw [exec_bind_ok (exec_elements_list ev t vs)]
      rfl
    unfold traced Run.note
    rw [exec_bind_ok (exec_shown ev s label), exec_bind_ok (exec_modify ev s _),
      exec_bind_ok (hparts _)]
    rfl
  | repeated d z n hv =>
    obtain rfl := hr rfl
    rfl
  | insets i hv => rfl
  | edges e hv => rfl
  | spacing g hg hv => rfl

end EngineClass

/-! ### Composing -/

section Composing

variable (ev : Evaluator) {s : Session} {id engine : Nat} {implements supports : Bool}
  {label : Value}

/-- A trace engine that can repeat items where it says so does what plans say. -/
lemma realizes_trace (hi : supports → implements) {C : Composer}
    (hC : s.composers[id]? = some C)
    (he : C.engine = EngineClass.engine ⟨.trace implements, label, supports⟩ engine)
    (hr : C.repeats.isTruthy → supports) (hs : s.Genuine id engine) :
    Realizes ev id C (fun v p => v = p.trace)
      fun ps t => (s.noting (label.shown s.loggerWritten) ps).Logged t where
  composes := by
    rintro ps _ ⟨d, rs, rfl⟩
    exact ⟨hC, hs.composer, ⟨hs.logs.method, hs.logs.number⟩⟩
  logged := Session.Logged.trans
  makes := by
    rintro ps t p vs ⟨d, rs, ht⟩ hp hm
    have hown : t.attribute? (.object engine) p.method = none := by
      rw [ht]
      exact hs.engine p
    have hrun : (EngineClass.operate ⟨.trace implements, label, supports⟩ p.method
        ⟨vs, []⟩).exec ev t = (.ok p.trace, t.noting (label.shown t.loggerWritten) [p]) :=
      EngineClass.exec_operate_trace hp (fun h => hi (hr (hm h))) t
    rw [← Plan.exec_call ev hown, ← he] at hrun
    refine ⟨p.trace, _, hrun, rfl, d, rs, ?_⟩
    rw [ht, ← Session.noting_append]
    rfl

/-- What a trace engine makes of a group spells out its plan, and the calls were noted one by
one. -/
lemma exec_composeWith_trace {c : EngineClass} (hk : c.kind = .trace implements)
    (hi : c.supports → implements) (on : Option Bool) (s : Session)
    (hs : s.Genuine s.composers.size engine) (f : Frame) (ts : List Tree) :
    ∃ r x t, (composeWith (c.engine engine) on (f.toValue (Tree.toValues ts))).exec ev s = (x, t) ∧
      Agrees (fun v p => v = p.trace) x (Tree.plan (c.supports && on.getD true) f ts) ∧
      ((s.engaging ⟨c.engine engine, .config (.ofBool? on), r⟩).noting
        (c.label.shown s.loggerWritten)
        ((Tree.group f ts).calls (c.supports && on.getD true))).Logged t := by
  obtain ⟨kind, label, supports⟩ := c
  obtain rfl : kind = .trace implements := hk
  exact exec_composeWith ev ⟨.trace implements, label, supports⟩ engine on hs
    (R := fun v p => v = p.trace)
    (I := fun s ps t => (s.noting (label.shown s.loggerWritten) ps).Logged t)
    (fun s => by simpa using .refl s)
    (fun C he hr => realizes_trace ev hi (s.getElem?_engaging C) he (by simp [hr]; tauto)
      (hs.engaging C)) f ts

/-- **Calls**: composing a group makes the calls of its tree one by one, each with its operands,
and nothing else but the log changes. The outcome is what the last call made, or the fault at which
the calls end; there is none if no group is empty and all copies fit into memory. -/
theorem compose_calls (engine : Nat) {c : EngineClass}
    (hk : c.kind = .trace implements) (hi : c.supports → implements) (on : Option Bool)
    (s : Session) (hs : s.Genuine s.composers.size engine) (f : Frame) (ts : List Tree) :
    ∃ r t, (composeWith (c.engine engine) on (f.toValue (Tree.toValues ts))).exec ev s =
        (Plan.trace <$> Tree.plan (c.supports && on.getD true) f ts, t) ∧
      t.taken = s.taken ++ (((Tree.group f ts).calls (c.supports && on.getD true)).map
        (Plan.note (c.label.shown s.loggerWritten))).toArray ∧
      ((s.engaging ⟨c.engine engine, .config (.ofBool? on), r⟩).noting
        (c.label.shown s.loggerWritten)
        ((Tree.group f ts).calls (c.supports && on.getD true))).Logged t ∧
      ((Tree.group f ts).Fits → ∃ p, Tree.plan (c.supports && on.getD true) f ts = .ok p) := by
  obtain ⟨r, x, t, hrun, hx, ht⟩ := exec_composeWith_trace ev hk hi on s hs f ts
  refine ⟨r, t, ?_, ?_, ht, fun h => Tree.exists_plan _ f ts h⟩
  · rw [hrun, hx.eq_map]
  · obtain ⟨d, rs, rfl⟩ := ht
    rfl

/-- Two equal slots are repeated, and the slot beside their group gets its edge spacing before the
outer group is made. -/
theorem compose_calls_nested :
    let z : LayoutSize := ⟨1, ⟨2, .absolute, .zero⟩, ⟨3, .absolute, .zero⟩⟩
    let e : EdgeSpacing := ⟨4, some ⟨5, .fixed, .zero⟩, none, none, none⟩
    let row : Frame := ⟨6, z, none, none, .horizontal, none⟩
    let column : Frame := ⟨7, z, some (.none 8), none, .vertical, none⟩
    let ts : List Tree := [.group row [.slot ⟨9, z, none, none, 2, by decide⟩,
      .slot ⟨10, { z with id := 11 }, none, none, 1, by decide⟩],
      .slot ⟨12, z, none, some e, 3, by decide⟩]
    ∃ v t, (composeWith (EngineClass.engine ⟨.trace true, .text "t", true⟩ 0) none
        (column.toValue (Tree.toValues ts))).exec .none (.initial [] false) = (.ok v, t) ∧
      t.notes.toList = (["t.make_item", "t.make_item", "t.make_repeated_group", "t.make_item",
        "t.with_edge_spacing", "t.make_group", "t.with_content_insets"] : List Text) := by
  intro z e row column ts
  obtain ⟨r, t, hrun, htaken, -, hfits⟩ := compose_calls .none 0
    (c := ⟨.trace true, .text "t", true⟩) rfl (fun _ => rfl) none (.initial [] false)
    (Session.genuine_initial ..) column ts
  obtain ⟨p, hp⟩ := hfits (by simp [Tree.Fits, Tree.AllFit, memoryLimit, ts])
  refine ⟨p.trace, t, ?_, ?_⟩
  · rw [hrun, hp]
    rfl
  · rw [Session.notes, htaken, Array.toList_map, Array.toList_append, List.toList_toArray]
    rfl

end Composing

end LayoutTree
