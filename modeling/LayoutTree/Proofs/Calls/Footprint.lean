import LayoutTree.Proofs.Builder.Mutation

/-!
What the library writes to a session by itself, and which code it calls.

It calls what stands in the place of some of its methods and evaluates what generators have yet to
give, and that is code of a script. A property of sessions that neither this code nor what the
library writes can break is kept by all that the library does, and to all of it two evaluators are
the same that run this code alike, and so are two environments if this code is run alike in them.
-/

namespace LayoutTree

open Run

/-! ### Code -/

/-- Code of a script that can be called: of a block, or of a method bound to a value. -/
inductive Code where
  | block (body : Expr)
  | method (receiver : Value) (name : String)

/-- The code that is run when the value is called. -/
def Value.code? : Value → Option Code
  | .block _ body => some (.block body)
  | .method v name => some (.method v name)
  | _ => none

/-- If the value can be called, then its code is among the given. -/
def Value.Runs (foreign : Code → Prop) (v : Value) : Prop := ∀ c, v.code? = some c → foreign c

/-- The methods of engines that composing calls. -/
def EngineClass.operations : List String :=
  ["make_item", "make_group", "make_repeated_group", "with_content_insets", "with_edge_spacing",
    "with_inter_item_spacing", "make_section", "make_layout"]

namespace Session

/-- The names under which the library calls what it finds. -/
def hooks : List String :=
  ["build", "_set_edge", "with_edge", "model_copy", "compose_slot", "compose_group",
    "_apply_box_config", "debug", "warning"] ++ EngineClass.operations

/-- All code that the library may come across is among the given. -/
structure Among (foreign : Code → Prop) (s : Session) : Prop where
  hooked : ∀ (i : Identity) (name : String) (v : Value), name ∈ hooks →
    s.attribute? i name = some v → v.Runs foreign
  pending : ∀ (id : Nat) (c : Cursor) (body : List (Action × Expr)), s.cursors[id]? = some c →
    c.pending = .statements body → ∀ p ∈ body, foreign (.block p.2)

/-- What the library writes by itself besides builders: identities, what it logs, notes of what
trace engines are asked for, new composers that lack nothing, engines that it loads, what is left of
a cursor, and attributes of copies. -/
inductive Writes (foreign : Code → Prop) (s : Session) : Session → Prop
  | serial (n : Nat) : s.Writes foreign { s with serial := n }
  | logged (l : Logging) (rs : Array LogRecord) :
      s.Writes foreign { s with logging := l, records := rs }
  | traced (label : Text) (method : String) (operands : List Value) :
      s.Writes foreign { s with taken := s.taken.push (.call label method operands) }
  | composed {C : Composer} : C.engine.isNull = false → C.config.isNull = false →
      s.Writes foreign { s with composers := s.composers.push C }
  | loaded (r : Registry) : s.Writes foreign { s with registry := r }
  | drawn (id : Nat) (c : Cursor) :
      (∀ body, c.pending = .statements body → ∀ p ∈ body, foreign (.block p.2)) →
      s.Writes foreign { s with cursors := s.cursors.setIfInBounds id c }
  | copied (i : Identity) (id : Nat) :
      s.Writes foreign (s.setAttributes (.object id) (s.attributesOf i))
  | attached (i : Identity) {name : Text} (x : Value) : (∀ n ∈ hooks, name ≠ .plain n) →
      s.Writes foreign (s.setAttribute i name x)

/-- What it writes of builders: new ones and the configuration of those that are there. -/
inductive WritesBoxes (s : Session) : Session → Prop
  | made (b : Box) : s.WritesBoxes { s with boxes := s.boxes.push b }
  | configured {id : Nat} {b c : Box} : s.boxes[id]? = some b → c.children? = b.children? →
      s.WritesBoxes { s with boxes := s.boxes.setIfInBounds id c }

/-- A property of sessions in which all code is foreign code, kept by what the library writes
besides builders and by that code, which two evaluators run alike in two environments. -/
structure Stable (ev ev' : Evaluator) (g : Environment → Environment) (foreign : Code → Prop)
    (P : Session → Prop) : Prop where
  depth : ev'.depth = ev.depth
  among : ∀ s, P s → s.Among foreign
  writes : ∀ s t, s.Writes foreign t → P s → P t
  evaluate : ∀ e, foreign (.block e) → (evaluate e).Blind ev ev' g P
  invoke : ∀ v name a, foreign (.method v name) → (invoke v name a).Blind ev ev' g P

/-- Besides, builders may be made and configured. -/
structure StableBoxes (ev ev' : Evaluator) (g : Environment → Environment) (foreign : Code → Prop)
    (P : Session → Prop) : Prop extends Stable ev ev' g foreign P where
  boxes : ∀ s t, s.WritesBoxes t → P s → P t

end Session

namespace Session.Writes

variable {foreign : Code → Prop} {s t : Session}

lemma among (h : s.Writes foreign t) (hs : s.Among foreign) : t.Among foreign := by
  cases h with
  | drawn id c hc =>
    refine ⟨hs.hooked, fun j d body hd hbody => ?_⟩
    change (s.cursors.setIfInBounds id c)[j]? = some d at hd
    rw [Array.getElem?_setIfInBounds] at hd
    split at hd
    · split at hd
      · cases hd
        exact hc body hbody
      · cases hd
    · exact hs.pending j d body hd hbody
  | copied i id =>
    refine ⟨fun j name v hn hv => ?_, hs.pending⟩
    by_cases hj : j = .object id
    · -- the copy, which has what its original has
      subst hj
      rw [attribute?, attributesOf_setAttributes_self] at hv
      exact hs.hooked i name v hn hv
    · rw [attribute?, attributesOf_setAttributes_of_ne hj] at hv
      exact hs.hooked j name v hn hv
  | @attached i other x hx =>
    refine ⟨fun j name v hn hv => ?_, hs.pending⟩
    by_cases hj : j = i
    · -- what is attached is no hook
      subst hj
      rw [attribute?, setAttribute, attributesOf_setAttributes_self,
        Fields.get?_put_of_ne (Ne.symm (hx name hn))] at hv
      exact hs.hooked j name v hn hv
    · rw [attribute?_setAttribute_of_ne hj] at hv
      exact hs.hooked j name v hn hv
  | _ => exact ⟨hs.hooked, hs.pending⟩

lemma boxes (h : s.Writes foreign t) : t.boxes = s.boxes := by cases h <;> rfl

end Session.Writes

/-! ### Looking up what is called -/

/-- No value has an attribute by its type under the names of what is called. -/
lemma Value.constant?_hook {name : String} (hn : name ∈ Session.hooks) (v : Value) :
    v.constant? name = none := by
  simp only [Session.hooks, EngineClass.operations, List.cons_append, List.nil_append,
    List.mem_cons, List.not_mem_nil, or_false] at hn
  rcases hn with rfl | rfl | rfl | rfl | rfl | rfl | rfl | rfl | rfl | rfl | rfl | rfl | rfl | rfl |
    rfl | rfl | rfl
  all_goals
    cases v with
    | slot => exact lookup_given _ rfl
    | group => exact lookup_given _ rfl
    | _ => rfl

lemma Box.property?_hook {name : String} (hn : name ∈ Session.hooks) (b : Box) :
    (b.property? name <|> b.stored? name) = none := by
  obtain ⟨z, i, e, content⟩ := b
  simp only [Session.hooks, EngineClass.operations, List.cons_append, List.nil_append,
    List.mem_cons, List.not_mem_nil, or_false] at hn
  rcases hn with rfl | rfl | rfl | rfl | rfl | rfl | rfl | rfl | rfl | rfl | rfl | rfl | rfl | rfl |
    rfl | rfl | rfl
  all_goals cases content <;> rfl

lemma Composer.stored?_hook {name : String} (hn : name ∈ Session.hooks) (c : Composer) :
    c.stored? name = none := by
  unfold stored?
  split <;> first | rfl | exact absurd hn (by decide)

lemma exec_inherent?_hook (s : Session) {name : String} (hn : name ∈ Session.hooks) (v : Value) :
    ∃ r, (∀ ev g, (inherent? v name).exec ev (s.amid g) = (r, s.amid g)) ∧
      ∀ x, r ≠ .ok (some x) := by
  unfold inherent?
  split
  · rename_i id
    rcases hb : s.boxes[id]? with _ | b
    · exact ⟨_, fun ev _ => exec_bind_error (exec_box_missing ev hb), nofun⟩
    · refine ⟨_, fun ev _ => exec_bind_ok (exec_box ev hb), ?_⟩
      rw [b.property?_hook hn]
      nofun
  · rename_i id
    rcases hc : s.composers[id]? with _ | c
    · exact ⟨_, fun ev _ => exec_bind_error (exec_composer_missing ev hc), nofun⟩
    · refine ⟨_, fun ev _ => exec_bind_ok (exec_composer ev hc), ?_⟩
      rw [c.stored?_hook hn]
      nofun
  · exact absurd hn (by decide)
  · exact absurd hn (by decide)
  · exact absurd hn (by decide)
  · exact absurd hn (by decide)
  · exact absurd hn (by decide)
  · rw [v.constant?_hook hn]
    exact ⟨_, fun ev _ => rfl, nofun⟩

/-- What is found under such a name was put there by a script, or it is the method of the value. -/
lemma exec_field_hook {foreign : Code → Prop} {s : Session} (hs : s.Among foreign) {name : String}
    (hn : name ∈ Session.hooks) (v : Value) :
    ∃ r, (∀ ev g, (field v name).exec ev (s.amid g) = (r, s.amid g)) ∧ ∀ f, r = .ok f →
      f.Runs foreign ∨ f = .method v name ∧ v.hasMethod name = true := by
  obtain ⟨r, hr, hx⟩ := exec_inherent?_hook s hn v
  rcases r with e | _ | x
  · refine ⟨_, fun ev g => exec_field_error (hr ev g), fun f hf => ?_⟩
    cases hf
  · rcases ha : s.replaced? v name with _ | f
    · cases hm : v.hasMethod name with
      | true =>
        exact ⟨_, fun ev g => exec_field_method (hr ev g) ha hm,
          fun f hf => .inr ⟨(Except.ok.inj hf).symm, rfl⟩⟩
      | false =>
        refine ⟨_, fun ev g => exec_field_missing (hr ev g) ha hm, fun f hf => ?_⟩
        cases hf
    · -- attached, so it runs foreign code
      refine ⟨_, fun ev g => exec_field_attached (hr ev g) ha, fun x hx => .inl ?_⟩
      cases hx
      obtain ⟨i, -, hi⟩ := Option.bind_eq_some_iff.1 ha
      exact hs.hooked i name _ hn hi
  · exact absurd rfl (hx x)

/-! ### Calling, logging and drawing -/

namespace Session.Stable

variable {α β : Type} {ev ev' : Evaluator} {g : Environment → Environment} {foreign : Code → Prop}
  {P : Session → Prop}

section

variable (hP : Session.Stable ev ev' g foreign P)
include hP

lemma update {f : Session → Session} (hg : ∀ s : Session, f (s.amid g) = (f s).amid g)
    (h : ∀ s : Session, s.Writes foreign (f s)) : (modify f : Run PUnit).Blind ev ev' g P :=
  fun s hs => ⟨congrArg _ (hg s), hP.writes s _ (h s) hs⟩

lemma fresh : Run.fresh.Blind ev ev' g P := fun s hs => ⟨rfl, hP.writes s _ (.serial _) hs⟩

lemma newDict (fs : Fields) : (Run.newDict fs).Blind ev ev' g P := .bind hP.fresh fun _ => .pure _

lemma newComposer {C : Composer} (he : C.engine.isNull = false) (hc : C.config.isNull = false) :
    (Run.newComposer C).Blind ev ev' g P :=
  fun s hs => ⟨rfl, hP.writes s _ (.composed he hc) hs⟩

lemma setCursor (id : Nat) {c : Cursor}
    (hc : ∀ body, c.pending = .statements body → ∀ p ∈ body, foreign (.block p.2)) :
    (Run.setCursor id c).Blind ev ev' g P := hP.update (fun _ => rfl) fun _ => .drawn id c hc

lemma call {f : Value} (hf : f.Runs foreign) (a : Arguments) : (Run.call f a).Blind ev ev' g P := by
  unfold Run.call
  split
  · exact hP.invoke _ _ a (hf _ rfl)
  · split
    · exact hP.evaluate _ (hf _ rfl)
    · exact .throw _
  · split
    · exact .pure _
    · exact .bind (.get (fun _ => rfl) fun _ => .pure _) fun _ => .pure _
    · exact .throw _
  · exact .pure _
  · exact .throw _

/-- What a script has put in the place of a method is foreign. -/
lemma attached {name : String} (hn : name ∈ hooks) (v : Value) {k : Option Value → Run β}
    (hsome : ∀ f, f.Runs foreign → (k (some f)).Blind ev ev' g P)
    (hnone : (k none).Blind ev ev' g P) : (attached? v name >>= k).Blind ev ev' g P := by
  refine .look fun s hs => ⟨.ok (s.replaced? v name),
    fun ev g => exec_attached? ev (s.amid g) v name, fun r hr => ?_⟩
  cases hr
  rcases ha : s.replaced? v name with _ | f
  · exact hnone s hs
  · obtain ⟨i, -, hi⟩ := Option.bind_eq_some_iff.1 ha
    exact hsome f ((hP.among s hs).hooked i name f hn hi) s hs

lemma callMethodOr {name : String} (hn : name ∈ hooks) (v : Value) (a : Arguments)
    {m : Run Value} (hm : m.Blind ev ev' g P) : (Run.callMethodOr v name a m).Blind ev ev' g P :=
  hP.attached hn v (fun _ hf => hP.call hf a) hm

/-- What is looked up to be called is foreign, or it is the method of the value. -/
lemma field_bind {name : String} (hn : name ∈ hooks) (v : Value) {k : Value → Run β}
    (hforeign : ∀ f, f.Runs foreign → (k f).Blind ev ev' g P)
    (hmethod : v.hasMethod name = true → (k (.method v name)).Blind ev ev' g P) :
    (field v name >>= k).Blind ev ev' g P := by
  refine .look fun s hs => ?_
  obtain ⟨r, hr, hf⟩ := exec_field_hook (hP.among s hs) hn v
  refine ⟨r, hr, fun f hrf => ?_⟩
  obtain hf | ⟨rfl, hm⟩ := hf f hrf
  · exact hforeign f hf s hs
  · exact hmethod hm s hs

lemma logsAt (logger : Text) (level : LogLevel) : (Run.logsAt logger level).Blind ev ev' g P := by
  unfold Run.logsAt
  refine .bind (blind_field _ _) fun _ => ?_
  split
  · exact .pure _
  · refine .get (fun _ => rfl) fun s => ?_
    dsimp only
    split
    · exact .pure _
    · have hfound : ∀ b : Bool, (do
          modify fun s => { s with logging :=
            { s.logging with decided := ((logger, level), b) :: s.logging.decided } }
          Pure.pure b : Run Bool).Blind ev ev' g P := fun b =>
        .bind (hP.update (fun _ => rfl) fun _ => .logged _ _) fun _ => .pure _
      split
      · exact .bind (.pure _) hfound
      · exact .bind (.pure _) hfound
      · exact .bind (.pure _) hfound
      · exact .bind (.throw _) hfound

lemma record (logger : Text) (level : LogLevel) (message : Text) :
    (Run.record logger level message).Blind ev ev' g P := by
  unfold Run.record
  refine .bind (hP.logsAt logger level) fun b => ?_
  split
  · refine hP.update (fun s => ?_) fun s => ?_
    · have hadmits : (s.amid g).logging.admits
          (Logger.reached (s.amid g).handsOn (Logger.line logger)) =
          s.logging.admits (Logger.reached s.handsOn (Logger.line logger)) := rfl
      dsimp only
      rw [hadmits]
      split <;> rfl
    · dsimp only
      split
      · exact .logged _ _
      · exact .serial _
  · exact .pure _

lemma log (logger : Text) {level : LogLevel} (hl : level.method ∈ hooks) (message : Text) :
    (Run.log logger level message).Blind ev ev' g P :=
  .bind (hP.callMethodOr hl _ _ (.bind (hP.record _ _ _) fun _ => .pure _)) fun _ => .pure _

lemma advance (id : Nat) {body : List (Action × Expr)} (hb : ∀ p ∈ body, foreign (.block p.2)) :
    (Run.advance id body).Blind ev ev' g P := by
  have hset : ∀ (rest : List (Action × Expr)) (running : Bool),
      (∀ p ∈ rest, foreign (.block p.2)) →
      (Run.setCursor id ⟨.statements rest, running⟩).Blind ev ev' g P := by
    intro rest running hrest
    refine hP.setCursor id fun body h => ?_
    cases h
    exact hrest
  induction body with
  | nil => exact .bind (hset [] false (by simp)) fun _ => .pure _
  | cons p rest ih =>
    obtain ⟨action, e⟩ := p
    have hrest : ∀ p ∈ rest, foreign (.block p.2) := fun p hp => hb p (List.mem_cons_of_mem _ hp)
    rw [Run.advance]
    refine .bind (hset rest true hrest) fun _ => .bind ?_ fun v => ?_
    · exact .tryCatch (hP.evaluate e (hb _ List.mem_cons_self)) fun f =>
        .bind (hset [] false (by simp)) fun _ => .throw f
    · cases action with
      | run => exact ih hrest
      | yield => exact .bind (hset rest false hrest) fun _ => .pure _

lemma draw (id : Nat) : (Run.draw id).Blind ev ev' g P := by
  refine .look fun s hs => ?_
  rcases hc : s.cursors[id]? with _ | c
  · exact ⟨_, fun ev _ => exec_cursor_missing ev hc, nofun⟩
  refine ⟨_, fun ev _ => exec_cursor ev hc, fun d hd => ?_⟩
  cases hd
  have hbody := (hP.among s hs).pending id c
  rcases c with ⟨xs | body, running⟩
  · rcases xs with _ | ⟨x, xs⟩
    · exact Blind.pure none s hs
    · have hset : (Run.setCursor id ⟨.values xs, false⟩).Blind ev ev' g P :=
        hP.setCursor id fun _ h => nomatch h
      exact Blind.bind hset (fun _ => .pure (some x)) s hs
  · cases running with
    | true => exact Blind.throw _ s hs
    | false => exact hP.advance id (hbody body hc rfl) s hs

lemma forDrawn (id : Nat) {f : Value → Run α} (hf : ∀ v, (f v).Blind ev ev' g P) :
    (Run.forDrawn id f).Blind ev ev' g P := by
  have hdrawn : ∀ n, (Run.drawn id f n).Blind ev ev' g P := by
    intro n
    induction n with
    | zero => exact .pure _
    | succ n ih =>
      refine .bind (hP.draw id) fun o => ?_
      cases o with
      | none => exact .pure _
      | some v => exact .bind (hf v) fun a => .bind ih fun as => .pure _
  exact .bind (.cursor id) fun c => hdrawn _

lemma forElements (v : Value) {f : Value → Run α} (hf : ∀ v, (f v).Blind ev ev' g P) :
    (Run.forElements v f).Blind ev ev' g P := by
  have hnumbers : ∀ first n, (forNumbers f first n).Blind ev ev' g P := by
    intro first n
    induction n generalizing first with
    | zero => exact .pure _
    | succ n ih => exact .bind (hf _) fun a => .bind (ih (first + 1)) fun as => .pure _
  unfold Run.forElements
  split
  · exact hP.forDrawn _ hf
  · exact hnumbers _ _
  · refine .bind ?_ fun o => ?_
    · unfold elementsAtHand?
      split
      · exact .map _ (.get (fun _ => rfl) fun _ => .pure _)
      · exact .pure _
    · cases o with
      | none => exact .throw _
      | some xs => exact .mapM fun v _ => hf v

lemma elements (v : Value) : (Run.elements v).Blind ev ev' g P := hP.forElements v fun v => .pure v

lemma construct (type : String) (fs : Fields) : (Run.construct type fs).Blind ev ev' g P :=
  blind_construct hP.depth hP.draw (fun s n hs => hP.writes s _ (.serial n) hs) type fs

lemma copyWith (v : Value) {name : Text} (hn : ∀ n ∈ hooks, name ≠ .plain n) (x : Value) :
    (Model.copyWith v name x).Blind ev ev' g P := by
  have hcopy : (Model.copy v).Blind ev ev' g P := by
    refine .bind hP.fresh fun id => .get_at (fun _ => rfl) fun s hs => ?_
    rcases v.identity? with _ | i
    · exact Blind.pure _ s hs
    · rw [Option.map_some]
      rcases ha : s.attributesOf i with _ | ⟨f, fs⟩
      · exact Blind.pure _ s hs
      · have := hP.writes _ _ (.copied i id) hs
        rw [ha] at this
        exact ⟨rfl, this⟩
  unfold Model.copyWith
  refine .bind hcopy fun w => ?_
  split
  · exact .pure _
  · split
    · exact .bind (hP.update (fun _ => rfl) fun s => .attached _ x hn) fun _ => .pure _
    · exact .pure w

end

end Session.Stable

/-! ### Writing builders -/

namespace Session.StableBoxes

variable {ev ev' : Evaluator} {g : Environment → Environment} {foreign : Code → Prop}
  {P : Session → Prop} (hP : Session.StableBoxes ev ev' g foreign P)
include hP

lemma newBox (b : Box) : (Run.newBox b).Blind ev ev' g P :=
  fun s hs => ⟨rfl, hP.boxes s _ (.made b) hs⟩

/-- A builder may be configured as long as its children stay. -/
lemma configure (id : Nat) {f : Box → Box} (hf : ∀ b, (f b).children? = b.children?) :
    (do setBox id (f (← box id)) : Run Unit).Blind ev ev' g P := by
  refine .look fun s hs => ?_
  rcases hb : s.boxes[id]? with _ | b
  · exact ⟨_, fun ev _ => exec_box_missing ev hb, nofun⟩
  · refine ⟨_, fun ev _ => exec_box ev hb, fun c hc => ?_⟩
    cases hc
    exact ⟨rfl, hP.boxes s _ (.configured hb (hf b)) hs⟩

end Session.StableBoxes

end LayoutTree
