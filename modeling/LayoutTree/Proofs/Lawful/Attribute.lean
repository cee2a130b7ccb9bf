import LayoutTree.Proofs.Lawful.Ensures

/-!
Attributes, calls, log messages and cursors in lawful sessions: what is read from a lawful value,
drawn from a cursor or given by a call is lawful.
-/

namespace LayoutTree

variable {kept : Prop}

/-! ### What values hold -/

namespace Value.Lawful

variable {v : Value} {fs : Fields} {xs : List Value}

lemma fields_given (h : fs.Lawful kept) : Fields.Lawful kept (Value.fields?.given fs) :=
  fun f hf => h f (List.mem_of_mem_filter hf)

lemma fields? (h : v.Lawful kept) (hf : v.fields? = some fs) : fs.Lawful kept := by
  cases v <;> simp only [Value.fields?] at hf <;> cases hf
  case dimension => exact .cons (.atom rfl) (.cons (.atom rfl) .nil)
  case size => exact .cons (.atom rfl) (.cons (.atom rfl) .nil)
  case spacing => exact .cons (.atom rfl) (.cons (.atom rfl) .nil)
  case insets =>
    exact .cons (.atom rfl) (.cons (.atom rfl) (.cons (.atom rfl) (.cons (.atom rfl) .nil)))
  case edges =>
    obtain ⟨hl, ht, hr, hb⟩ := lawful_edges.1 h
    exact .cons hl (.cons ht (.cons hr (.cons hb .nil)))
  case slot =>
    obtain ⟨⟨i, rfl, -⟩, hk, hs, hi, he⟩ := lawful_slot.1 h
    exact fields_given (.cons hk (.cons hs (.cons hi (.cons he (.cons (.atom rfl) .nil)))))
  case group =>
    obtain ⟨-, hk, hs, hi, he, hd, hg, hc⟩ := lawful_group.1 h
    exact fields_given
      (.cons hk (.cons hs (.cons hi (.cons he (.cons hd (.cons hg (.cons hc .nil)))))))
  case fragment =>
    obtain ⟨hk, hx⟩ := lawful_fragment.1 h
    exact .cons hk (.cons hx .nil)
  case item =>
    obtain ⟨hi, he⟩ := lawful_item.1 h
    exact .cons (.atom rfl) (.cons (.atom rfl) (.cons hi (.cons he .nil)))
  case itemGroup =>
    obtain ⟨hx, hn, hi, he, hg⟩ := lawful_itemGroup.1 h
    exact .cons (.atom rfl) (.cons (.atom rfl) (.cons (.atom rfl) (.cons (lawful_tuple.2 hx)
      (.cons hn (.cons hi (.cons he (.cons hg .nil)))))))
  case hostSection =>
    obtain ⟨hg, hi⟩ := lawful_hostSection.1 h
    exact .cons hg (.cons hi (.cons (.atom rfl) .nil))
  case hostLayout => exact .cons (lawful_tuple.2 (lawful_hostLayout.1 h)) .nil

lemma elements? (h : v.Lawful kept) (hx : v.elements? = some xs) : ∀ x ∈ xs, x.Lawful kept := by
  have hmap : ∀ {α : Type} (as : List α) (f : α → Value), (∀ a, (f a).isAtom = true) →
      ∀ x ∈ as.map f, x.Lawful kept := by
    intro α as f hf x hx
    obtain ⟨a, -, rfl⟩ := List.mem_map.1 hx
    exact .atom (hf a)
  unfold Value.elements? at hx
  split at hx
  · cases hx
    exact lawful_list.1 h
  · cases hx
    exact lawful_tuple.1 h
  · cases hx
    exact hmap _ _ fun _ => rfl
  · cases hx
    exact hmap _ _ fun _ => rfl
  · cases hx
    exact hmap _ _ fun _ => rfl
  · obtain ⟨t, -, rfl⟩ := Option.map_eq_some_iff.1 hx
    exact hmap _ _ fun _ => rfl

lemma ofSetting (t : SettingValue) : (Value.ofSetting t).Lawful kept := by
  cases t <;> exact .atom rfl

lemma infoField? {t : Setting} {name : String} {x : Value} (hx : t.infoField? name = some x) :
    x.Lawful kept := by
  unfold Setting.infoField? at hx
  split at hx <;> cases hx <;> first
    | exact .atom rfl
    | exact .ofSetting _

lemma constant? {name : String} {x : Value} (h : v.Lawful kept) (hx : v.constant? name = some x) :
    x.Lawful kept := by
  have hmap : ∀ {α : Type} (o : Option α) (f : α → Value), (∀ a, (f a).isAtom = true) →
      f <$> o = some x → x.Lawful kept := by
    intro α o f hf ho
    obtain ⟨a, -, rfl⟩ := Option.map_eq_some_iff.1 ho
    exact .atom (hf a)
  unfold Value.constant? at hx
  split at hx
  all_goals first
    -- a member of a choice, or another value that holds none
    | exact hmap _ _ (fun _ => rfl) hx
    | (cases hx; exact .atom rfl)
    -- what a configuration asks for, and the name of an engine
    | (cases hx; exact lawful_config.1 h)
    | (cases hx; exact lawful_engine.1 h)
    | exact .infoField? hx
    | (obtain ⟨fs, hf, hg⟩ := Option.bind_eq_some_iff.1 hx
       exact (h.fields? hf).get? hg)

end Value.Lawful

/-! ### What builders and composers hold -/

namespace Box.Lawful

variable {b b' : Box} {name : String} {x : Value}

lemma property? (h : b.Lawful kept) (hx : b.property? name = some x) : x.Lawful kept := by
  obtain ⟨hs, hi, he, hc⟩ := h
  unfold Box.property? at hx
  split at hx
  · cases hx
    exact hs
  · cases hx
    exact hi
  · cases hx
    exact he
  · split at hx <;> cases hx <;> rename_i hcontent <;> rw [hcontent] at hc
    · exact hc.2.2.1
    · exact hc.2.1

lemma stored? (h : b.Lawful kept) (hx : b.stored? name = some x) : x.Lawful kept := by
  obtain ⟨hs, hi, he, hc⟩ := h
  unfold Box.stored? at hx
  split at hx
  · cases hx
    exact hs
  · cases hx
    exact hi
  · cases hx
    exact he
  · split at hx <;> cases hx <;> rename_i hcontent <;> rw [hcontent] at hc
    · exact hc
    · exact hc.1
    · exact hc.2.1
    · exact hc.2.2.1

/-- Nothing but the storage for children that are kept is more than a lawful value. -/
lemma store? (h : b.Lawful kept) (hx : x.Lawful kept) (hn : kept → name ≠ "_children")
    (hb : b.store? name x = some b') : b'.Lawful kept := by
  obtain ⟨hs, hi, he, hc⟩ := h
  unfold Box.store? at hb
  split at hb
  · cases hb
    exact ⟨hx, hi, he, hc⟩
  · cases hb
    exact ⟨hs, hx, he, hc⟩
  · cases hb
    exact ⟨hs, hi, hx, hc⟩
  · split at hb
    case h_1 =>
      cases hb
      exact ⟨hs, hi, he, hx⟩
    case h_2 hcontent _ _ _ =>
      cases hb
      rw [hcontent] at hc
      exact ⟨hs, hi, he, And.intro hx hc.2⟩
    case h_3 hcontent _ _ _ =>
      cases hb
      rw [hcontent] at hc
      exact ⟨hs, hi, he, And.intro hc.1 ⟨hx, hc.2.2⟩⟩
    case h_4 hcontent _ _ _ =>
      cases hb
      rw [hcontent] at hc
      exact ⟨hs, hi, he, And.intro hc.1 ⟨hc.2.1, hx, fun hkept => absurd rfl (hn hkept)⟩⟩
    case h_5 => cases hb

end Box.Lawful

namespace Composer.Lawful

variable {c c' : Composer} {name : String} {x : Value}

lemma stored? (h : c.Lawful kept) (hx : c.stored? name = some x) : x.Lawful kept := by
  unfold Composer.stored? at hx
  split at hx <;> cases hx
  · exact h.engine
  · exact h.config
  · exact h.repeats

lemma store? (h : c.Lawful kept) (hx : x.Lawful kept) (hc : c.store? name x = some c') :
    c'.Lawful kept := by
  unfold Composer.store? at hc
  split at hc <;> cases hc
  · exact { h with engine := hx }
  · exact { h with config := hx }
  · exact { h with repeats := hx }

end Composer.Lawful

/-! ### Copies -/

lemma Value.Lawful.copies {v count : Value} {vs : List Value} (h : v.Lawful kept)
    (hc : v.copies count = .ok vs) : ∀ w ∈ vs, w.Lawful kept := by
  unfold Value.copies at hc
  rcases ht : count.times with f | n <;> rw [ht] at hc <;> cases hc
  intro w hw
  rw [List.eq_of_mem_replicate hw]
  exact h

lemma Value.Lawful.effectiveSubitems {vs ws : List Value} {count : Value}
    (h : ∀ v ∈ vs, v.Lawful kept) (hc : Value.effectiveSubitems vs count = .ok ws) :
    ∀ w ∈ ws, w.Lawful kept := by
  unfold Value.effectiveSubitems at hc
  split at hc
  · cases hc
    exact h
  · split at hc
    · exact (h _ List.mem_cons_self).copies hc
    · cases hc

lemma Session.Lawful.loggerLevel {s : Session} (h : s.Lawful kept) (logger : Text) :
    (s.loggerLevel logger).Lawful kept := by
  refine (h.attributesOf _).getD ?_
  unfold Logging.ownLevel
  split
  · cases s.logging.level <;> exact .atom rfl
  · split <;> exact .atom rfl

namespace Run

variable {α : Type} {ev : Evaluator} {F : Fault → Prop} {P : α → Prop} {v x : Value}
  {a : Arguments}

/-! ### Attached attributes and calls -/

lemma ensures_attached? (v : Value) (name : Text) :
    (attached? v name).Ensures kept ev F fun o => ∀ x, o = some x → x.Lawful kept := by
  unfold attached?
  split
  · exact .bind .get fun s hs => .pure fun x hx => hs.attribute? hx
  · exact .pure fun x hx => by cases hx

lemma ensures_attach (i : Identity) (name : Text) (hx : x.Lawful kept) :
    (attach i name x).Ensures kept ev F fun _ => True :=
  .modify fun _ hs => hs.setAttribute i name hx

lemma ensures_detach (i : Identity) (name : Text) :
    (detach i name).Ensures kept ev F fun _ => True :=
  .modify fun _ hs => hs.setAttributes i fun f hf =>
    hs.attributesOf i f (List.mem_of_mem_filter hf)

section Calls

variable (hev : ev.Lawful kept F)
include hev

lemma ensures_call (hv : v.Lawful kept) (ha : a.Lawful kept) :
    (call v a).Ensures kept ev F (Value.Lawful kept) := by
  unfold call
  split
  · obtain ⟨hn, hv⟩ := Value.lawful_method.1 hv
    exact hev.invoke _ _ _ hv hn ha
  · split
    · exact hev.evaluate _ (Value.lawful_block.1 hv)
    · exact .throw (hev.refuses _ rfl)
  · split
    · exact .pure (.atom rfl)
    · exact .bind (ensures_shown _) fun _ _ => .pure (.atom rfl)
    · exact .throw (hev.refuses _ rfl)
  · exact .pure (.atom rfl)
  · exact .throw (hev.refuses _ rfl)

lemma ensures_callMethodOr {name : String} {method : Run Value} (v : Value) (ha : a.Lawful kept)
    (hm : method.Ensures kept ev F (Value.Lawful kept)) :
    (callMethodOr v name a method).Ensures kept ev F (Value.Lawful kept) := by
  refine .bind (ensures_attached? v name) fun o ho => ?_
  rcases o with _ | f
  · exact hm
  · exact ensures_call hev (ho f rfl) ha

/-! ### Logging -/

lemma ensures_logsAt (logger : Text) (level : LogLevel) :
    (logsAt logger level).Ensures kept ev F fun _ => True := by
  have hfield : (field (.logger logger) "disabled").Ensures kept ev F fun _ => True := by
    intro s hs
    rw [exec_field (x := ((s.attribute? (.logger logger) "disabled").getD (.bool false))) rfl]
    exact ⟨hs, trivial⟩
  refine .bind hfield fun disabled _ => ?_
  split
  · exact .pure trivial
  refine .bind .get fun s hs => ?_
  split
  · exact .pure trivial
  have hdecided : ∀ b, (do
      modify fun s => { s with logging :=
        { s.logging with decided := ((logger, level), b) :: s.logging.decided } }
      pure b : Run Bool).Ensures kept ev F fun _ => True := fun b =>
    .bind (.modify fun t ht => { ht with }) fun _ _ => .pure trivial
  dsimp only
  split
  · exact hdecided _
  · exact hdecided _
  · exact hdecided _
  · exact .throw (hev.refuses _ rfl)

lemma ensures_record (logger : Text) (level : LogLevel) (message : Text) :
    (record logger level message).Ensures kept ev F fun _ => True := by
  refine .bind (ensures_logsAt hev logger level) fun b _ => ?_
  split
  · refine .modify fun s hs => ?_
    dsimp only
    split
    · exact { hs with }
    · exact hs
  · exact .pure trivial

lemma ensures_log (logger : Text) (level : LogLevel) (message : Text) :
    (log logger level message).Ensures kept ev F fun _ => True := by
  refine .bind (ensures_callMethodOr hev _ (.one (.atom rfl)) ?_) fun _ _ => .pure trivial
  exact .bind (ensures_record hev logger level message) fun _ _ => .pure (.atom rfl)

/-! ### Cursors -/

lemma ensures_advance (id : Nat) {body : List (Action × Expr)}
    (h : ∀ p ∈ body, p.2.Lawful kept) :
    (advance id body).Ensures kept ev F fun o => ∀ x, o = some x → x.Lawful kept := by
  induction body with
  | nil =>
    refine .bind (ensures_setCursor fun p hp => absurd hp List.not_mem_nil) fun _ _ => ?_
    exact .pure fun x hx => by cases hx
  | cons p rest ih =>
    obtain ⟨action, e⟩ := p
    have hrest : Pending.Lawful kept (.statements rest) := fun p hp =>
      h p (List.mem_cons_of_mem _ hp)
    refine .bind (ensures_setCursor hrest) fun _ _ => ?_
    have hraised : ∀ f, F f →
        (do setCursor id ⟨.statements [], false⟩; throw f : Run Value).Ensures kept ev F
          (Value.Lawful kept) := fun f hf =>
      .bind (ensures_setCursor fun p hp => absurd hp List.not_mem_nil) fun _ _ => .throw hf
    have heval := hev.evaluate e (h _ List.mem_cons_self)
    refine .bind (heval.tryCatch hraised) fun v hv => ?_
    cases action with
    | run => exact ih hrest
    | yield =>
      refine .bind (ensures_setCursor hrest) fun _ _ => .pure fun x hx => ?_
      cases hx
      exact hv

lemma ensures_draw (id : Nat) :
    (draw id).Ensures kept ev F fun o => ∀ x, o = some x → x.Lawful kept := by
  refine .bind (ensures_cursor hev.wrongArguments id) fun c hc => ?_
  rcases c with ⟨(_ | ⟨x, xs⟩) | body, running⟩
  · exact .pure fun x hx => by cases hx
  · have hxs := List.forall_mem_cons.1 hc
    refine .bind (ensures_setCursor hxs.2) fun _ _ => .pure fun y hy => ?_
    cases hy
    exact hxs.1
  · dsimp only
    split
    · exact .throw (hev.refuses _ rfl)
    · exact ensures_advance hev id hc

variable {f : Value → Run α} (hf : ∀ v : Value, v.Lawful kept → (f v).Ensures kept ev F P)
include hf

lemma ensures_drawn (id n : Nat) :
    (drawn id f n).Ensures kept ev F fun as => ∀ a ∈ as, P a := by
  induction n with
  | zero => exact .pure fun a ha => absurd ha List.not_mem_nil
  | succ n ih =>
    refine .bind (ensures_draw hev id) fun o ho => ?_
    rcases o with _ | v
    · exact .pure fun a ha => absurd ha List.not_mem_nil
    · exact .cons (hf v (ho v rfl)) ih

lemma ensures_forDrawn (id : Nat) :
    (forDrawn id f).Ensures kept ev F fun as => ∀ a ∈ as, P a :=
  .bind (ensures_cursor hev.wrongArguments id) fun _ _ => ensures_drawn hev hf id _

omit hev in
lemma ensures_forNumbers (first n : Nat) :
    (forNumbers f first n).Ensures kept ev F fun as => ∀ a ∈ as, P a := by
  induction n generalizing first with
  | zero => exact .pure fun a ha => absurd ha List.not_mem_nil
  | succ n ih => exact .cons (hf _ (.atom rfl)) (ih (first + 1))

omit hev hf in
lemma ensures_elementsAtHand? (hv : v.Lawful kept) :
    (elementsAtHand? v).Ensures kept ev F
      fun o => ∀ xs, o = some xs → ∀ x ∈ xs, x.Lawful kept := by
  unfold elementsAtHand?
  split
  case h_1 fs hfs =>
    have hpairs : (pairs v fs).Ensures kept ev F fun xs => ∀ x ∈ xs, x.Lawful kept := by
      refine .bind .get fun s hs => .pure fun x hx => ?_
      obtain ⟨g, hg, rfl⟩ := List.mem_map.1 hx
      have hlawful : g.2.Lawful kept := by
        rcases List.mem_append.1 hg with hg | hg
        · exact hv.fields? hfs g hg
        · rcases hi : v.identity? with _ | i <;> rw [hi] at hg
          · cases hg
          · exact hs.attributesOf i g (List.mem_of_mem_filter hg)
      exact Value.lawful_tuple.2 (by simpa using hlawful)
    exact hpairs.map fun xs hxs ys hys => by cases hys; exact hxs
  case h_2 => exact .pure fun xs hxs => hv.elements? hxs

lemma ensures_forElements (hv : v.Lawful kept) :
    (forElements v f).Ensures kept ev F fun as => ∀ a ∈ as, P a := by
  unfold forElements
  split
  · exact ensures_forDrawn hev hf _
  · exact ensures_forNumbers hf 0 _
  · refine .bind (ensures_elementsAtHand? hv) fun o ho => ?_
    rcases o with _ | xs
    · exact .throw (hev.refuses _ rfl)
    · exact .mapM fun x hx => hf x (ho xs rfl x hx)

omit hf in
lemma ensures_elements (hv : v.Lawful kept) :
    (elements v).Ensures kept ev F fun xs => ∀ x ∈ xs, x.Lawful kept :=
  ensures_forElements hev (fun _ hx => .pure hx) hv

end Calls

/-! ### Reading and assigning attributes -/

section Attributes

variable (hev : ev.Lawful kept Fault.Any)
include hev

lemma ensures_inherent? {name : String} (hv : v.Lawful kept) :
    (inherent? v name).Ensures kept ev Fault.Any fun o => ∀ x, o = some x → x.Lawful kept := by
  unfold inherent?
  split
  · -- a builder
    refine .bind (ensures_box hev.wrongArguments _) fun b hb => .pure fun x hx => ?_
    rcases hp : b.property? name with _ | y <;> rw [hp] at hx
    · exact hb.stored? hx
    · cases hx
      exact hb.property? hp
  · -- a composer
    exact .bind (ensures_composer hev.wrongArguments _) fun c hc => .pure fun x hx => hc.stored? hx
  · -- the subitems of a group as laid out
    refine .bind (.lift (P := fun xs => ∀ x ∈ xs, x.Lawful kept) (fun xs hxs => ?_)
      fun _ _ => trivial) fun xs hxs => .pure fun x hx => ?_
    · exact .effectiveSubitems (Value.lawful_itemGroup.1 hv).1 hxs
    · cases hx
      exact Value.lawful_list.2 hxs
  · refine .bind .get fun s hs => .pure fun x hx => ?_
    cases hx
    exact (hs.attributesOf _).getD (.atom rfl)
  · refine .bind .get fun s hs => .pure fun x hx => ?_
    cases hx
    exact hs.loggerLevel _
  · refine .bind .get fun s hs => .pure fun x hx => ?_
    cases hx
    exact (hs.attributesOf _).getD (.atom rfl)
  · refine .bind .get fun s hs => .pure fun x hx => ?_
    cases hx
    exact (hs.attributesOf _).getD (.atom rfl)
  · exact .pure fun x hx => hv.constant? hx

omit hev in
lemma ensures_methodOf (v : Value) (name : Text) :
    (methodOf v name).Ensures kept ev Fault.Any fun f =>
      ∃ n : String, name = n ∧ f = .method v n := by
  unfold methodOf
  rcases name with n | ns
  · dsimp only [Text.string?]
    split
    · exact .pure ⟨n, rfl, rfl⟩
    · exact .throw trivial
  · exact .throw trivial

/-- Reading a field gives a lawful value or a method of the value itself. -/
lemma ensures_fieldOrMethod {name : Text} (hv : v.Lawful kept) :
    (field v name).Ensures kept ev Fault.Any fun f =>
      f.Lawful kept ∨ ∃ n : String, name = n ∧ f = .method v n := by
  have hattached : ∀ f : Option Value → Run Value, (∀ x, f (some x) = pure x) →
      f none = methodOf v name → (attached? v name >>= f).Ensures kept ev Fault.Any fun f =>
        f.Lawful kept ∨ ∃ n : String, name = n ∧ f = .method v n := by
    intro f hsome hnone
    refine .bind (ensures_attached? v name) fun o ho => ?_
    rcases o with _ | x
    · rw [hnone]
      exact (ensures_methodOf v name).mono fun _ => .inr
    · rw [hsome]
      exact .pure (.inl (ho x rfl))
  unfold field
  dsimp only
  split
  · refine .bind (ensures_inherent? hev hv) fun own ho => ?_
    rcases own with _ | x
    · exact hattached _ (fun _ => rfl) rfl
    · exact .pure (.inl (ho x rfl))
  · exact hattached _ (fun _ => rfl) rfl

lemma ensures_field {name : Text} (hv : v.Lawful kept) (hn : name ∉ Expr.unvalidating) :
    (field v name).Ensures kept ev Fault.Any (Value.Lawful kept) := by
  refine (ensures_fieldOrMethod hev hv).mono fun f hf => ?_
  obtain hf | ⟨n, rfl, rfl⟩ := hf
  · exact hf
  · exact Value.lawful_method.2 ⟨hn, hv⟩

variable {name : Text} (hx : x.Lawful kept)
include hx

lemma ensures_assignToBox {id : Nat} (hn : kept → name ≠ "_children") :
    (assignToBox v id name x).Ensures kept ev Fault.Any fun _ => True := by
  refine .bind (ensures_box hev.wrongArguments id) fun b hb => ?_
  rcases name with n | ns
  · dsimp only [Text.string?]
    split
    · exact .throw trivial
    · split
      case h_1 b' hb' =>
        refine ensures_setBox (hb.store? hx (fun hkept => ?_) hb')
        rintro rfl
        exact hn hkept rfl
      case h_2 => exact ensures_attach _ _ hx
  · exact ensures_attach _ _ hx

lemma ensures_assignToComposer (id : Nat) :
    (assignToComposer id name x).Ensures kept ev Fault.Any fun _ => True := by
  refine .bind (ensures_composer hev.wrongArguments id) fun c hc => ?_
  split
  case h_1 c' hc' =>
    obtain ⟨n, -, hs⟩ := Option.bind_eq_some_iff.1 hc'
    exact ensures_setComposer (hc.store? hx hs)
  case h_2 => exact ensures_attach _ _ hx

omit hev in
lemma ensures_assignToMember (i : Identity) :
    (assignToMember i name x).Ensures kept ev Fault.Any fun _ => True := by
  unfold assignToMember
  split
  · exact .throw trivial
  · split
    · exact .throw trivial
    · exact ensures_attach _ _ hx

omit hev in
lemma ensures_assignToEngine (v : Value) (id : Nat) :
    (assignToEngine v id name x).Ensures kept ev Fault.Any fun _ => True := by
  unfold assignToEngine
  split
  · exact .throw trivial
  · split
    · split <;> exact .throw trivial
    · exact ensures_attach _ _ hx

omit hev in
lemma ensures_assignToRecord (v : Value) (i : Identity) :
    (assignToRecord v i name x).Ensures kept ev Fault.Any fun _ => True := by
  unfold assignToRecord
  split
  · exact ensures_attach _ _ hx
  · exact .throw trivial

lemma ensures_assign (v : Value) (hn : kept → name ≠ "_children") :
    (assign v name x).Ensures kept ev Fault.Any fun _ => True := by
  unfold assign
  split
  · exact ensures_assignToBox hev hx hn
  · exact ensures_assignToComposer hev hx _
  · exact .throw trivial
  · exact .throw trivial
  · exact .throw trivial
  · exact ensures_assignToEngine hx _ _
  · exact ensures_attach _ _ hx
  · exact ensures_attach _ _ hx
  · exact ensures_assignToMember hx _
  · split
    · exact ensures_assignToMember hx _
    · exact ensures_assignToRecord hx _ _
    · exact .throw trivial

end Attributes

end Run

end LayoutTree
