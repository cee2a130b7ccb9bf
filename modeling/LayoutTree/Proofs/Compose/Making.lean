import LayoutTree.Proofs.Compose.Simulation

/-!
Making a composer for an engine and a configuration: whether it repeats items is what the
configuration says, as far as the engine can.
-/

namespace LayoutTree

open Run

namespace Session

/-- The session with one more composer. -/
def engaging (s : Session) (C : Composer) : Session := { s with composers := s.composers.push C }

lemma Genuine.engaging {s : Session} {composer engine : Nat} (h : s.Genuine composer engine)
    (C : Composer) : (s.engaging C).Genuine composer engine :=
  ⟨h.composer, h.engine, ⟨h.logs.method, h.logs.number⟩, ⟨h.warns.method, h.warns.number⟩⟩

lemma getElem?_engaging (s : Session) (C : Composer) :
    (s.engaging C).composers[s.composers.size]? = some C := Array.getElem?_push_size ..

end Session

/-- A composer with an engine of the class repeats items if the engine says that it can and the
configuration asks for it or says nothing. -/
def EngineClass.repeatsFor (c : EngineClass) (requested : Value) : Bool :=
  c.supports && (requested.isNull || requested.isTruthy)

variable (ev : Evaluator) {s : Session} (c : EngineClass) (engine : Nat) (on : Option Bool)

/-- What a composer has for whether it repeats items. -/
def EngineClass.repeatsOf (c : EngineClass) (requested : Value) : Value :=
  if requested.isNull then .bool c.supports
  else if requested.isTruthy && !c.supports then .bool false
  else requested

lemma EngineClass.isTruthy_repeatsOf (c : EngineClass) (requested : Value) :
    (c.repeatsOf requested).isTruthy = c.repeatsFor requested := by
  have hbool : ∀ b, (Value.bool b).isTruthy = b := fun _ => rfl
  unfold repeatsOf repeatsFor
  cases requested.isNull with
  | true => simp [hbool]
  | false => cases hask : requested.isTruthy <;> cases c.supports <;> simp [hask, hbool]

/-- The message that the engine of a name cannot repeat items. -/
def Composer.noRepeats (label : Text) : Text :=
  "Engine \x27" ++ label
    ++ "\x27 has no repeat primitive; identical items will be listed explicitly"

/-- The session after it was looked at whether items are repeated: that this is asked for though the
engine cannot is logged. -/
def Session.requested (s : Session) (c : EngineClass) (requested : Value)
    (decided : List ((Text × LogLevel) × Bool)) : Session :=
  { s with
    logging := { s.logging with decided := decided }
    records := if c.supports = false ∧ requested.isTruthy = true then
        s.recording "layoutbox.compose" .warning
          (Composer.noRepeats (c.label.shown s.loggerWritten))
      else s.records }

/-- Only where a warning is due, a logger is asked at all. -/
lemma exec_resolveRepeats (requested : Value) (h : s.CanLog "layoutbox.compose" .warning) :
    ∃ decided, (¬ (c.supports = false ∧ requested.isTruthy = true) →
        decided = s.logging.decided) ∧
      (Composer.resolveRepeats (c.engine engine) (.config requested)).exec ev s =
        (.ok (c.repeatsOf requested), s.requested c requested decided) := by
  have hc : ∀ t, (field (.config requested) "repeat_identical_items").exec ev t =
      (.ok requested, t) := fun t => exec_field rfl
  have hs : ∀ t, (field (c.engine engine) "supports_repeated_items").exec ev t =
      (.ok (.bool c.supports), t) := fun t => exec_field rfl
  have hn : ∀ t, (field (c.engine engine) "name").exec ev t = (.ok c.label, t) :=
    fun t => exec_field rfl
  have hs' : (Value.bool c.supports).isTruthy = c.supports := rfl
  unfold Composer.resolveRepeats
  rw [exec_bind_ok (hc s), exec_bind_ok (hs s), hs']
  by_cases hdue : c.supports = false ∧ requested.isTruthy = true
  · -- asked for in vain, which is warned about
    obtain ⟨hsup, hask⟩ := hdue
    have hnull : requested.isNull = false := by cases requested <;> first | rfl | cases hask
    have hr : c.repeatsOf requested = .bool false := by
      simp [EngineClass.repeatsOf, hnull, hask, hsup]
    obtain ⟨decided, hlog⟩ := exec_log_recording ev h
      (Composer.noRepeats (c.label.shown s.loggerWritten))
    refine ⟨decided, fun hnot => absurd ⟨hsup, hask⟩ hnot, ?_⟩
    rw [hr, hnull, hask, hsup, if_neg (by simp), if_pos (by rfl), exec_bind_ok (hn s),
      exec_bind_ok (exec_shown ev s _), ← Composer.noRepeats, exec_bind_ok hlog,
      Session.requested, if_pos ⟨hsup, hask⟩]
    rfl
  · -- nothing to warn about
    have hquiet : (requested.isTruthy && !c.supports) = false :=
      Bool.eq_false_iff.2 fun h => hdue (by simpa [and_comm] using h)
    refine ⟨s.logging.decided, fun _ => rfl, ?_⟩
    rw [Session.requested, if_neg hdue, EngineClass.repeatsOf, hquiet]
    cases requested.isNull <;> rfl

lemma exec_resolveRequested (requested : Value) (h : s.CanLog "layoutbox.compose" .warning) :
    ∃ r t, (Composer.resolveRepeats (c.engine engine) (.config requested)).exec ev s =
      (.ok r, t) ∧ r.isTruthy = c.repeatsFor requested ∧ s.Logged t := by
  obtain ⟨decided, -, ht⟩ := exec_resolveRepeats ev c engine requested h
  exact ⟨_, _, ht, c.isTruthy_repeatsOf requested, decided, _, rfl⟩

/-- A new composer repeats items exactly if the engine says that it can and the configuration does
not forbid it. -/
lemma exec_make (h : s.CanLog "layoutbox.compose" .warning) :
    ∃ r t, (Composer.make (c.engine engine) (.config (.ofBool? on))).exec ev s =
      (.ok s.composers.size, t) ∧ r.isTruthy = (c.supports && on.getD true) ∧
      (s.engaging ⟨c.engine engine, .config (.ofBool? on), r⟩).Logged t := by
  obtain ⟨r, t, ht, hr, d, rs, rfl⟩ := exec_resolveRequested ev c engine (.ofBool? on) h
  have hon : c.repeatsFor (.ofBool? on) = (c.supports && on.getD true) := by
    rcases on with _ | _ | _ <;> rfl
  refine ⟨r, _, ?_, hr.trans hon, d, rs, rfl⟩
  have hre : (Composer.resolveEngine (c.engine engine)).exec ev s = (.ok (c.engine engine), s) :=
    rfl
  unfold Composer.make
  rw [exec_bind_ok hre]
  simp only [Value.isNull, Bool.false_eq_true, ↓reduceIte, pure_bind]
  rw [exec_bind_ok ht]
  rfl

/-- A group composed by a new composer with an engine and a configuration. -/
def composeWith (engine : Value) (on : Option Bool) (group : Value) : Run Value := do
  let id ← Composer.make engine (.config (.ofBool? on))
  Composer.composeGroup id group

variable {R : Value → Plan → Prop} {I : Session → List Plan → Session → Prop}

/-- With an engine that does what plans say, the outcome is what the plan of the group says. -/
lemma exec_composeWith (hs : s.Genuine s.composers.size engine) (hi : ∀ s, I s [] s)
    (hR : ∀ C : Composer, C.engine = c.engine engine →
      C.repeats.isTruthy = (c.supports && on.getD true) →
      Realizes ev s.composers.size C R (I (s.engaging C)))
    (f : Frame) (ts : List Tree) :
    ∃ r x t, (composeWith (c.engine engine) on (f.toValue (Tree.toValues ts))).exec ev s = (x, t) ∧
      Agrees R x (Tree.plan (c.supports && on.getD true) f ts) ∧
      I (s.engaging ⟨c.engine engine, .config (.ofBool? on), r⟩)
        ((Tree.group f ts).calls (c.supports && on.getD true)) t := by
  obtain ⟨r, u, hmake, hr, hu⟩ := exec_make ev c engine on hs.warns
  have hR := hR ⟨c.engine engine, .config (.ofBool? on), r⟩ rfl hr
  obtain ⟨x, t, hrun, hx, ht⟩ := hR.exec_composeGroup f ts (hR.logged (hi _) hu)
  rw [hr] at hx ht
  exact ⟨r, x, t, by rw [composeWith, exec_bind_ok hmake, hrun], hx, ht⟩

end LayoutTree
