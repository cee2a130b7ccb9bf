import LayoutTree.Proofs.Exec

/-!
Attributes that no script has touched: fields give what the value holds, methods are those of the
type, and logging changes nothing but the log.
-/

namespace LayoutTree

/-- What a script has put under a name of a value. -/
def Session.replaced? (s : Session) (v : Value) (name : Text) : Option Value :=
  v.identity?.bind (s.attribute? · name)

namespace Run

variable {α : Type} {ev : Evaluator} {s : Session} {v x : Value} {name : String}

@[simp] lemma exec_attached? (ev : Evaluator) (s : Session) (v : Value) (name : Text) :
    (attached? v name).exec ev s = (.ok (s.replaced? v name), s) := by
  unfold attached? Session.replaced?
  cases v.identity? <;> rfl

@[simp] lemma exec_shown (ev : Evaluator) (s : Session) (v : Value) :
    (shown v).exec ev s = (.ok (v.shown s.loggerWritten), s) := rfl

lemma exec_callMethodOr {a : Arguments} {m : Run Value} (h : s.replaced? v name = none) :
    (callMethodOr v name a m).exec ev s = m.exec ev s := by
  unfold callMethodOr
  rw [exec_bind, exec_attached?, h]

lemma exec_field (h : (inherent? v name).exec ev s = (.ok (some x), s)) :
    (field v name).exec ev s = (.ok x, s) := by
  change ((inherent? v name) >>= _).exec ev s = _
  rw [exec_bind_ok h]
  rfl

lemma exec_field_error {e : Fault} (h : (inherent? v name).exec ev s = (.error e, s)) :
    (field v name).exec ev s = (.error e, s) := by
  change ((inherent? v name) >>= _).exec ev s = _
  exact exec_bind_error h

lemma exec_field_attached (h : (inherent? v name).exec ev s = (.ok none, s))
    (hr : s.replaced? v name = some x) : (field v name).exec ev s = (.ok x, s) := by
  change ((inherent? v name) >>= _).exec ev s = _
  rw [exec_bind_ok h, exec_bind, exec_attached?, hr]
  rfl

lemma exec_field_missing (h : (inherent? v name).exec ev s = (.ok none, s))
    (hr : s.replaced? v name = none) (hm : v.hasMethod name = false) :
    (field v name).exec ev s = (.error (v.noAttribute name), s) := by
  change ((inherent? v name) >>= _).exec ev s = _
  rw [exec_bind_ok h, exec_bind, exec_attached?, hr]
  change (if v.hasMethod name then _ else _ : Run Value).exec ev s = _
  rw [if_neg (by simp [hm])]
  rfl

lemma exec_field_method (h : (inherent? v name).exec ev s = (.ok none, s))
    (hr : s.replaced? v name = none) (hm : v.hasMethod name = true) :
    (field v name).exec ev s = (.ok (.method v name), s) := by
  change ((inherent? v name) >>= _).exec ev s = _
  rw [exec_bind_ok h, exec_bind, exec_attached?, hr]
  change (if v.hasMethod name then _ else _ : Run Value).exec ev s = _
  rw [if_pos hm]
  rfl

/-! Reading an attribute evaluates nothing and changes nothing. -/

section Reading

variable {ev ev' : Evaluator} {g : Environment → Environment} {P : Session → Prop} (v : Value)

lemma blind_inherent? (name : String) : (inherent? v name).Blind ev ev' g P := by
  unfold inherent?
  split
  · exact .bind (.box _) fun _ => .pure _
  · exact .bind (.composer _) fun _ => .pure _
  · exact .bind (.lift _) fun _ => .pure _
  all_goals exact .get (fun _ => rfl) fun _ => .pure _

lemma blind_attached? (name : Text) : (attached? v name).Blind ev ev' g P := by
  intro s h
  unfold BlindAt
  rw [exec_attached?, exec_attached?]
  exact ⟨rfl, h⟩

lemma blind_methodOf (name : Text) : (methodOf v name).Blind ev ev' g P := by
  unfold methodOf
  split
  · split
    · exact .pure _
    · exact .throw _
  · exact .throw _

lemma blind_field (name : Text) : (field v name).Blind ev ev' g P := by
  unfold field
  dsimp only
  split
  all_goals
    refine .bind (by first | exact blind_inherent? v _ | exact .pure _) fun own => ?_
    split
    · exact .pure _
    refine .bind (blind_attached? v name) fun x => ?_
    split
    · exact .pure _
    · exact blind_methodOf v name

end Reading

lemma exists_exec_field (ev : Evaluator) (s : Session) (v : Value) (name : Text) :
    ∃ x, (field v name).exec ev s = (x, s) :=
  ⟨_, Prod.ext rfl ((blind_field v name : (field v name).Blind ev ev id (· = s)) s rfl).2⟩

end Run

/-! ### Logging -/

namespace Session

/-- Messages at a level can be logged: the method is that of the logger, and the level that counts
is a number. -/
structure CanLog (s : Session) (logger : Text) (level : LogLevel) : Prop where
  method : s.replaced? (.logger logger) level.method = none
  number : (Logger.effectiveLevel s.loggerLevel logger).quantity?.isSome = true

/-- The other session differs at most by what was logged. -/
def Logged (s t : Session) : Prop :=
  ∃ decided records,
    t = { s with logging := { s.logging with decided := decided }, records := records }

lemma Logged.refl (s : Session) : s.Logged s := ⟨_, _, rfl⟩

lemma Logged.trans {s t u : Session} (h : s.Logged t) (h' : t.Logged u) : s.Logged u := by
  obtain ⟨d, rs, rfl⟩ := h
  obtain ⟨d', rs', rfl⟩ := h'
  exact ⟨d', rs', rfl⟩

lemma CanLog.of_logged {s t : Session} {logger : Text} {level : LogLevel}
    (h : s.CanLog logger level) (ht : s.Logged t) : t.CanLog logger level := by
  obtain ⟨d, rs, rfl⟩ := ht
  exact ⟨h.method, h.number⟩

/-- Where no level was attached to a logger, the levels are numbers. -/
lemma CanLog.of_untouched {s : Session} {logger : Text} {level : LogLevel}
    (hm : s.replaced? (.logger logger) level.method = none)
    (hl : ∀ l, s.attribute? (.logger l) "level" = none) : s.CanLog logger level where
  method := hm
  number := by
    have hown : ∀ l, (s.loggerLevel l).quantity?.isSome = true := by
      intro l
      rw [loggerLevel, hl l, Option.getD_none]
      unfold Logging.ownLevel
      split
      · cases s.logging.level <;> rfl
      · split <;> rfl
    unfold Logger.effectiveLevel
    rcases hf : ((Logger.line logger).map s.loggerLevel).find? (·.isTruthy) with _ | v <;> rw [hf]
    · rfl
    · obtain ⟨l, -, rfl⟩ := List.mem_map.1 (List.mem_of_find?_eq_some hf)
      exact hown l

end Session

/-! What is logged. -/

/-- A level that a logger has is not above a certain one. -/
def Value.allows (own : Value) (level : LogLevel) : Bool :=
  match own with
  | .int i => decide (i ≤ level.number)
  | .bool b => decide ((if b then 1 else 0) ≤ level.number)
  | .float x => x.atMost level.number
  | _ => false

namespace Session

/-- A logger lets records of a level pass. -/
def letsPass (s : Session) (logger : Text) (level : LogLevel) : Bool :=
  !((s.attribute? (.logger logger) "disabled").getD (.bool false)).isTruthy && level != .notSet &&
    (s.logging.decided.lookup (logger, level)).getD
      ((Logger.effectiveLevel s.loggerLevel logger).allows level)

/-- The records once a message was logged: there is one more if the logger lets it pass and it comes
to where records are kept or written. -/
def recording (s : Session) (logger : Text) (level : LogLevel) (message : Text) :
    Array LogRecord :=
  if s.letsPass logger level &&
      s.logging.admits (Logger.reached s.handsOn (Logger.line logger)) then
    s.records.push ⟨s.loggerShown logger, level, message⟩
  else s.records

end Session

namespace Run

variable {s : Session} {logger : Text} {level : LogLevel}

lemma exec_logsAt (ev : Evaluator) (h : s.CanLog logger level) : ∃ decided,
    (logsAt logger level).exec ev s = (.ok (s.letsPass logger level),
      { s with logging := { s.logging with decided := decided } }) := by
  have hf : (field (.logger logger) "disabled").exec ev s =
      (.ok ((s.attribute? (.logger logger) "disabled").getD (.bool false)), s) := exec_field rfl
  unfold logsAt Session.letsPass
  rw [exec_bind_ok hf]
  by_cases hoff : (((s.attribute? (.logger logger) "disabled").getD (.bool false)).isTruthy ||
      level == .notSet) = true
  · -- the logger is switched off, or the level is none
    refine ⟨s.logging.decided, ?_⟩
    rw [if_pos hoff, bne, ← Bool.not_or, hoff]
    rfl
  rw [if_neg hoff, bne, ← Bool.not_or, Bool.eq_false_iff.2 hoff, exec_bind, exec_get]
  rcases hd : s.logging.decided.lookup (logger, level) with _ | b
  · -- decided now
    have hn := h.number
    simp only [hd]
    rcases hl : Logger.effectiveLevel s.loggerLevel logger <;> rw [hl] at hn <;>
      first
        | exact ⟨_, rfl⟩
        | simp [Value.quantity?] at hn
  · -- decided before
    simp only [hd]
    exact ⟨s.logging.decided, rfl⟩

lemma exec_record (ev : Evaluator) (h : s.CanLog logger level) (message : Text) : ∃ decided,
    (record logger level message).exec ev s = (.ok (), { s with
      logging := { s.logging with decided := decided }
      records := s.recording logger level message }) := by
  obtain ⟨decided, hlogs⟩ := exec_logsAt ev h
  refine ⟨decided, ?_⟩
  unfold record Session.recording
  rw [exec_bind_ok hlogs]
  cases s.letsPass logger level with
  | false => rfl
  | true =>
    rw [if_pos rfl, Bool.true_and, exec_modify]
    change (Except.ok (), if s.logging.admits (Logger.reached s.handsOn (Logger.line logger)) = true
      then _ else _) = _
    split <;> rfl

/-- Logging gives nothing and changes nothing but the log. -/
lemma exec_log_recording (ev : Evaluator) (h : s.CanLog logger level) (message : Text) :
    ∃ decided, (log logger level message).exec ev s = (.ok (), { s with
      logging := { s.logging with decided := decided }
      records := s.recording logger level message }) := by
  obtain ⟨decided, hrecord⟩ := exec_record ev h message
  refine ⟨decided, ?_⟩
  unfold log
  rw [exec_bind, exec_callMethodOr h.method, exec_bind_ok hrecord]
  rfl

lemma exec_log (ev : Evaluator) (h : s.CanLog logger level) (message : Text) :
    ∃ t, (log logger level message).exec ev s = (.ok (), t) ∧ s.Logged t := by
  obtain ⟨decided, hlog⟩ := exec_log_recording ev h message
  exact ⟨_, hlog, decided, _, rfl⟩

end Run

end LayoutTree
