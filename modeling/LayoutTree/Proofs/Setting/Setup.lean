import LayoutTree.Proofs.Attribute
import LayoutTree.Script.Function.Setting

/-!
Setting up logging over and over.

The first call installs the handler, and it does so before it knows whether there is a level of the
name that it is given. With the handler in place no later call does anything, so the first one
counts, also where it fails.
-/

namespace LayoutTree

open Run

/-- A call that sets up logging: the environment that it is made in, and the level that it is
given, which may be null. -/
structure Setup where
  environment : Environment
  level : Value

namespace Setup

def run (c : Setup) : Run Value := do
  modify fun s => { s with environment := c.environment }
  Function.setupLogging ⟨[c.level], []⟩

/-- One call after the other, whether they fail or not. -/
def each (cs : List Setup) : Run (List (Except Fault Value)) :=
  cs.mapM fun c => tryCatch (.ok <$> c.run) fun e => pure (.error e)

/-- What a call asks for: its level, or the one that is named in the environment. -/
def asked (c : Setup) : Value :=
  if c.level.isNull then
    .text (((c.environment.get? Setting.logLevel.name).getD "WARNING").upper)
  else c.level

/-- The root level that a call asks for, or why there is no such level. -/
def rootLevel (s : Session) (c : Setup) : Except Fault RootLevel :=
  RootLevel.ofValue s.loggerWritten c.asked

end Setup

namespace Session

/-- The session once a handler is installed. -/
def handling (s : Session) : Session := { s with logging := { s.logging with handler := true } }

/-- The session once a handler is installed and the root level is set. -/
def leveled (s : Session) (l : RootLevel) : Session :=
  { s with logging := { s.logging with handler := true, level := l, decided := [] } }.setAttributes
    (.logger Logger.root) ((s.attributesOf (.logger Logger.root)).filter (·.1 != "level"))

@[simp] lemma within_within (s : Session) (e e' : Environment) :
    (s.within e).within e' = s.within e' := rfl

@[simp] lemma environment_within (s : Session) (e : Environment) :
    (s.within e).environment = e := rfl

@[simp] lemma loggerLevel_within (s : Session) (e : Environment) (logger : Text) :
    (s.within e).loggerLevel logger = s.loggerLevel logger := rfl

@[simp] lemma loggerLevel_handling (s : Session) (logger : Text) :
    s.handling.loggerLevel logger = s.loggerLevel logger := rfl

/-- A level that a script has put on the root logger gives way to the one that is set. -/
@[simp] lemma loggerLevel_leveled (s : Session) (l : RootLevel) :
    (s.leveled l).loggerLevel Logger.root = l.toValue := by
  have hnone : (s.leveled l).attribute? (.logger Logger.root) "level" = none := by
    rw [attribute?, leveled, attributesOf_setAttributes_self, Fields.get?, List.lookup_eq_none_iff]
    intro p hp
    have hne : p.1 ≠ "level" := by simpa using (List.mem_filter.1 hp).2
    exact bne_iff_ne.2 hne.symm
  rw [loggerLevel, hnone]
  rfl

end Session

namespace Setup

variable {ev : Evaluator} {s : Session} {c : Setup}

lemma exec_logLevelName (ev : Evaluator) (s : Session) : Function.logLevelName.exec ev s =
    (.ok (.text (((s.environment.get? Setting.logLevel.name).getD "WARNING").upper)), s) := by
  have hsetting : (setting .logLevel).exec ev s =
      (.ok (.text ((s.environment.get? Setting.logLevel.name).getD "WARNING")), s) := by
    change (Except.ok ((s.environment.get? _).elim _ _), s) = _
    cases s.environment.get? Setting.logLevel.name <;> rfl
  unfold Function.logLevelName
  rw [exec_bind_ok hsetting]
  rfl

/-- What configuring with what is asked for comes to. -/
def outcome (s : Session) (c : Setup) : Except Fault Unit × Logging :=
  s.logging.configure s.loggerWritten c.asked

lemma exec_run : c.run.exec ev s = (do
    set { s.within c.environment with logging := (c.outcome s).2 }
    ((c.outcome s).1 : Except Fault Unit)
    if !s.logging.handler then detach (.logger Logger.root) "level"
    return (← get).loggerLevel Logger.root : Run Value).exec ev s := by
  unfold run outcome asked
  rw [exec_bind_ok (exec_modify ev s _)]
  unfold Function.setupLogging
  change (if c.level.isNull then _ else _ : Run Value).exec ev (s.within c.environment) = _
  split
  case isTrue hnull =>
    rw [exec_bind_ok (exec_logLevelName ev _)]
    rfl
  case isFalse hgiven => rfl

/-- With a handler in place nothing is done, whatever is asked for. -/
lemma exec_run_of_handler (h : s.logging.handler = true) :
    c.run.exec ev s = (.ok (s.loggerLevel Logger.root), s.within c.environment) := by
  have ho : c.outcome s = (.ok (), s.logging) := if_pos h
  rw [exec_run, ho, h]
  rfl

lemma exec_run_of_error {f : Fault} (h : s.logging.handler = false)
    (hf : c.rootLevel s = .error f) :
    c.run.exec ev s = (.error f, (s.within c.environment).handling) := by
  have ho : c.outcome s = (.error f, { s.logging with handler := true }) := by
    unfold rootLevel at hf
    rw [outcome, Logging.configure, if_neg (by simp [h]), hf]
  rw [exec_run, ho]
  rfl

lemma exec_run_of_ok {l : RootLevel} (h : s.logging.handler = false) (hl : c.rootLevel s = .ok l) :
    c.run.exec ev s = (.ok l.toValue, (s.within c.environment).leveled l) := by
  have ho : c.outcome s =
      (.ok (), { s.logging with handler := true, level := l, decided := [] }) := by
    unfold rootLevel at hl
    rw [outcome, Logging.configure, if_neg (by simp [h]), hl]
  rw [exec_run, ho, h, ← Session.loggerLevel_leveled (s.within c.environment) l]
  rfl

/-- Calls with a handler in place answer the root level as it is. -/
lemma exec_each_of_handler (h : s.logging.handler = true) (cs : List Setup) :
    (each cs).exec ev s = (.ok (cs.map fun _ => .ok (s.loggerLevel Logger.root)),
      s.within ((cs.getLast?.map environment).getD s.environment)) := by
  unfold each
  induction cs generalizing s with
  | nil => rfl
  | cons c cs ih =>
    have hc : (tryCatch (.ok <$> c.run) fun e => pure (.error e) :
        Run (Except Fault Value)).exec ev s =
        (.ok (.ok (s.loggerLevel Logger.root)), s.within c.environment) := by
      rw [exec_tryCatch, exec_map, exec_run_of_handler h]
      rfl
    rw [List.mapM_cons, exec_bind_ok hc, exec_bind_ok (ih (s := s.within c.environment) h)]
    cases cs <;> simp [List.getLast?_cons]

variable (ev s c)

/-- There is a handler after each call, and it is the one that fails only where there was none
before. -/
lemma exec_run_cases :
    (s.logging.handler = true ∧
      c.run.exec ev s = (.ok (s.loggerLevel Logger.root), s.within c.environment)) ∨
    (∃ f, s.logging.handler = false ∧ c.rootLevel s = .error f ∧
      c.run.exec ev s = (.error f, (s.within c.environment).handling)) ∨
    (∃ l, s.logging.handler = false ∧ c.rootLevel s = .ok l ∧
      c.run.exec ev s = (.ok l.toValue, (s.within c.environment).leveled l)) := by
  rcases h : s.logging.handler with _ | _
  case true => exact .inl ⟨rfl, exec_run_of_handler h⟩
  case false =>
    rcases hl : c.rootLevel s with f | l
    case error => exact .inr (.inl ⟨f, rfl, rfl, exec_run_of_error h hl⟩)
    case ok => exact .inr (.inr ⟨l, rfl, rfl, exec_run_of_ok h hl⟩)

/-- **Only the first call that sets up logging counts, also where it fails**: a call fails where
there is no handler yet and no level of the name that it asks for. It leaves the root level as it
was, but the handler is in place by then. So calls after it, whatever they ask for, do as little as
those after a call that succeeds: they answer the root level as it is and change nothing. -/
theorem setup_counts_once (cs : List Setup) : ∃ result t, c.run.exec ev s = (result, t) ∧
    t.logging.handler = true ∧
    (∀ f, result = .error f ↔ s.logging.handler = false ∧ c.rootLevel s = .error f) ∧
    (∀ f, result = .error f → t = (s.within c.environment).handling ∧
      t.loggerLevel Logger.root = s.loggerLevel Logger.root) ∧
    (∀ v, result = .ok v → t.loggerLevel Logger.root = v) ∧
    (each cs).exec ev t = (.ok (cs.map fun _ => .ok (t.loggerLevel Logger.root)),
      t.within ((cs.getLast?.map environment).getD c.environment)) := by
  rcases exec_run_cases ev s c with ⟨h, hr⟩ | ⟨f, h, hf, hr⟩ | ⟨l, h, hl, hr⟩
  case inl =>
    exact ⟨_, _, hr, h, by simp [h], by simp, by simp,
      exec_each_of_handler (s := s.within c.environment) h cs⟩
  case inr.inl =>
    exact ⟨_, _, hr, rfl, by simp [h, hf], by simp, by simp, exec_each_of_handler rfl cs⟩
  case inr.inr =>
    exact ⟨_, _, hr, rfl, by simp [hl], by simp, by simp, exec_each_of_handler rfl cs⟩

/-- After a call with the name of no level there is a handler, and the root level is not that of the
next call, as it would be without the one that failed. -/
theorem setup_after_failed :
    (run ⟨[], .text "loud"⟩).exec .none (.initial [] true) =
      (.error (.unknownLevel "'LOUD'"), (Session.initial [] true).handling) ∧
    (Session.initial [] true).logging.handler = false ∧
    ((run ⟨[], .text "debug"⟩).exec .none (Session.initial [] true).handling).1 = .ok (.int 30) ∧
    ((run ⟨[], .text "debug"⟩).exec .none (.initial [] true)).1 = .ok (.int 10) :=
  ⟨rfl, rfl, rfl, rfl⟩

end Setup

end LayoutTree
