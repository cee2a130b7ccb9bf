import LayoutTree.Proofs.Registry.Requests

/-!
The names in a registry over whole runs of requests.

Whatever is asked for, the names are those that were registered, each once and in the order of its
first registration. So the answer to a request follows from what was asked for before, and a
request that fails is told the names that the next list will show.
-/

namespace LayoutTree

open Run

namespace Text

lemma points_append (a b : Text) : (a ++ b).points = a.points ++ b.points := by
  cases a <;> cases b <;>
    first
      | exact points_ofPoints _
      | simp [points]

lemma isEmpty_eq_isEmpty_points (t : Text) : t.isEmpty = t.points.isEmpty := by
  cases t with
  | plain s =>
    rw [Bool.eq_iff_iff]
    simp [isEmpty, points]
  | broken ns => rfl

/-- What is joined is at least as long as each of its parts. -/
lemma length_points_le_join (separator : Text) {t : Text} {ts : List Text} (h : t ∈ ts) :
    t.points.length ≤ (join separator ts).points.length := by
  induction ts with
  | nil => cases h
  | cons u ts ih =>
    cases ts with
    | nil =>
      rw [List.mem_singleton.1 h]
      exact Nat.le_refl _
    | cons v vs =>
      have hj : join separator (u :: v :: vs) = u ++ separator ++ join separator (v :: vs) := rfl
      rw [hj, points_append, points_append, List.length_append, List.length_append]
      rcases List.mem_cons.1 h with rfl | h
      · omega
      · have := ih h
        omega

end Text

namespace Registry

/-! ### What is registered -/

/-- The names under which the bundled engines are registered when they are loaded. -/
def missing (r : Registry) : List Text :=
  (if r.modelLoaded then [] else [.plain "model"]) ++
    (if r.descriptorLoaded then [] else [.plain "descriptor"])

/-- The names that a request registers, in order. -/
def Request.registered (r : Registry) : Request → List Text
  | register name _ _ => [name]
  | get name => if (r.find? (.text name)).isSome then [] else r.missing
  | list => r.missing

/-- The names that requests register, one after the other; a name that is registered again occurs
again. -/
def registrations (r : Registry) : List Request → List Text
  | [] => []
  | q :: qs => q.registered r ++ registrations (q.after r) qs

/-- A registry after a history of registrations: its names are those of the history in the order
of their first registration, and each class goes by the name under which it stands. -/
structure Lists (r : Registry) (history : List Text) : Prop where
  names : r.names = history.eraseDups.map .text
  nodup : r.names.Nodup
  own : ∀ e ∈ r.entries, e.2.label = e.1
  model : r.modelLoaded = true → .plain "model" ∈ history
  descriptor : r.descriptorLoaded = true → .plain "descriptor" ∈ history

lemma mem_put {c : EngineClass} {e : Value × EngineClass} {es : List (Value × EngineClass)}
    (h : e ∈ put c es) : e ∈ es ∨ e.2 = c ∧ e.1.same c.label = true := by
  induction es with
  | nil =>
    rw [List.mem_singleton.1 h]
    exact .inr ⟨rfl, Value.same_self _⟩
  | cons e' es ih =>
    unfold put at h
    split at h
    · next he =>
      rcases List.mem_cons.1 h with rfl | h
      · exact .inr ⟨rfl, he⟩
      · exact .inl (List.mem_cons_of_mem e' h)
    · rcases List.mem_cons.1 h with rfl | h
      · exact .inl List.mem_cons_self
      · exact (ih h).imp_left (List.mem_cons_of_mem e')

namespace Lists

variable {r : Registry} {history : List Text}

lemma empty : Registry.empty.Lists [] :=
  ⟨rfl, List.nodup_nil, nofun, nofun, nofun⟩

lemma mem_names (h : r.Lists history) {name : Text} : .text name ∈ r.names ↔ name ∈ history := by
  rw [h.names, List.mem_map]
  simp

/-- A class stands under each name of the history, and under no other one. -/
lemma any_same (h : r.Lists history) (name : Text) :
    r.entries.any (·.1.same (.text name)) = history.contains name := by
  have hany : r.entries.any (·.1.same (.text name)) = r.names.any (·.same (.text name)) := by
    simp [Registry.names, Function.comp_def]
  rw [hany, h.names, Bool.eq_iff_iff]
  simp [Value.same_text, Value.text?]

lemma isSome_find? (h : r.Lists history) {name : Text} :
    (r.find? (.text name)).isSome = true ↔ name ∈ history := by
  rw [find?, among?, Option.isSome_map, List.find?_isSome, ← List.contains_iff_mem, ← h.any_same,
    List.any_eq_true]

lemma label_of_find? (h : r.Lists history) {name : Text} {c : EngineClass}
    (hc : r.find? (.text name) = some c) : c.label = .text name := by
  obtain ⟨e, he, rfl⟩ := Option.map_eq_some_iff.1 hc
  have hmem := List.mem_of_find?_eq_some he
  have hsame := List.find?_some he
  have hname : e.1 ∈ r.names := List.mem_map_of_mem hmem
  rw [h.names] at hname
  obtain ⟨other, -, hother⟩ := List.mem_map.1 hname
  rw [← hother, Value.same_text, Value.text?, beq_iff_eq] at hsame
  rw [h.own e hmem, ← hother, Option.some.inj hsame]

/-- A registration adds its name to the history. -/
lemma register (h : r.Lists history) {c : EngineClass} {name : Text} (hc : c.label = .text name) :
    (r.register c).Lists (history ++ [name]) := by
  have hput : (r.register c).names =
      if name ∈ history then r.names else r.names ++ [.text name] := by
    have hfst := map_fst_put c r.entries
    rw [hc, h.any_same name] at hfst
    simp only [List.contains_iff_mem] at hfst
    exact hfst
  have hnames : (r.register c).names = (history ++ [name]).eraseDups.map .text := by
    rw [hput, List.eraseDups_append]
    by_cases hmem : name ∈ history
    · simp [hmem, h.names, List.removeAll]
    · simp [hmem, h.names, List.removeAll, List.eraseDups_cons]
  refine ⟨hnames, ?_, ?_, fun hm => ?_, fun hd => ?_⟩
  · -- no name is there twice
    rw [hput]
    split
    · exact h.nodup
    · next hmem =>
      refine List.nodup_append.2 ⟨h.nodup, List.pairwise_singleton _ _, ?_⟩
      rintro x hx y hy rfl
      rw [List.mem_singleton.1 hy] at hx
      exact hmem (h.mem_names.1 hx)
  · -- each class is under its own name
    intro e he
    have hmem : e.1 ∈ (r.register c).names := List.mem_map_of_mem he
    rcases mem_put he with he | ⟨rfl, hsame⟩
    · exact h.own e he
    · obtain ⟨other, -, hother⟩ := List.mem_map.1 (hnames ▸ hmem)
      rw [hc, ← hother, Value.same_text, Value.text?, beq_iff_eq] at hsame
      rw [hc, ← hother, Option.some.inj hsame]
  · exact List.mem_append_left _ (h.model hm)
  · exact List.mem_append_left _ (h.descriptor hd)

/-- Loading adds the names of the bundled engines that were not loaded. -/
lemma loadBundled (h : r.Lists history) : r.loadBundled.Lists (history ++ r.missing) := by
  have hm : r.loadModel.Lists
      (history ++ if r.modelLoaded then [] else [.plain "model"]) := by
    unfold loadModel
    split
    · simpa using h
    · have h' := h.register (show EngineClass.model.label = .text "model" from rfl)
      exact ⟨h'.names, h'.nodup, h'.own, fun _ => by simp, h'.descriptor⟩
  have hflag : r.loadModel.descriptorLoaded = r.descriptorLoaded := by
    unfold loadModel
    split <;> rfl
  unfold Registry.loadBundled loadDescriptor missing
  rw [hflag, ← List.append_assoc]
  split
  · simpa using hm
  · have h' := hm.register (show EngineClass.descriptor.label = .text "descriptor" from rfl)
    exact ⟨h'.names, h'.nodup, h'.own, h'.model, fun _ => by simp⟩

/-- A request adds to the history what it registers. -/
lemma after (h : r.Lists history) (q : Request) :
    (q.after r).Lists (history ++ q.registered r) := by
  cases q with
  | register name supports implements => exact h.register rfl
  | list => exact h.loadBundled
  | get name =>
    rw [Request.after, Request.registered]
    cases hf : r.find? (.text name) with
    | none =>
      rw [lookUp_of_none hf]
      exact h.loadBundled
    | some c =>
      rw [lookUp_of_some hf]
      simpa using h

/-- Requests add to the history what they register. -/
lemma asked (h : r.Lists history) (qs : List Request) :
    (r.asked qs).Lists (history ++ r.registrations qs) := by
  induction qs generalizing r history with
  | nil =>
    rw [registrations, List.append_nil]
    exact h
  | cons q qs ih =>
    rw [registrations, ← List.append_assoc]
    exact ih (h.after q)

/-- Once they are loaded, the bundled engines have their names. -/
lemma mem_loadBundled (h : r.Lists history) :
    .plain "model" ∈ history ++ r.missing ∧ .plain "descriptor" ∈ history ++ r.missing := by
  unfold missing
  constructor
  · cases hm : r.modelLoaded with
    | true => exact List.mem_append_left _ (h.model hm)
    | false => simp
  · cases hd : r.descriptorLoaded with
    | true => exact List.mem_append_left _ (h.descriptor hd)
    | false => simp

/-- The names that can be had are those of the history and those of the bundled engines. -/
lemma exists_lookUp (h : r.Lists history) {name : Text}
    (hn : name ∈ history ∨ name = "model" ∨ name = "descriptor") :
    ∃ c, (r.lookUp (.text name)).find? (.text name) = some c ∧ c.label = .text name := by
  have hl := h.after (.get name)
  have hmem : name ∈ history ++ (Request.get name).registered r := by
    rw [Request.registered]
    split
    · next hf => exact List.mem_append_left _ (h.isSome_find?.1 hf)
    · rcases hn with hn | rfl | rfl
      · exact List.mem_append_left _ hn
      · exact h.mem_loadBundled.1
      · exact h.mem_loadBundled.2
  obtain ⟨c, hc⟩ := Option.isSome_iff_exists.1 (hl.isSome_find?.2 hmem)
  exact ⟨c, hc, hl.label_of_find? hc⟩

end Lists

lemma mem_missing {r : Registry} {name : Text} (h : name ∈ r.missing) :
    name = "model" ∨ name = "descriptor" := by
  simp only [missing, List.mem_append, List.mem_ite_nil_left, List.mem_singleton] at h
  exact h.imp And.right And.right

/-- A name is registered only by a caller or by a bundled engine. -/
lemma registers_of_mem_registrations {r : Registry} {qs : List Request} {name : Text}
    (h : name ∈ r.registrations qs) :
    name = "model" ∨ name = "descriptor" ∨ ∃ q ∈ qs, q.registers name = true := by
  induction qs generalizing r with
  | nil => cases h
  | cons q qs ih =>
    rcases List.mem_append.1 h with h | h
    · cases q with
      | register other supports implements =>
        rw [Request.registered, List.mem_singleton] at h
        exact .inr (.inr ⟨_, List.mem_cons_self, beq_iff_eq.2 h.symm⟩)
      | get other =>
        rw [Request.registered, List.mem_ite_nil_left] at h
        exact (mem_missing h.2).imp_right .inl
      | list => exact (mem_missing h).imp_right .inl
    · obtain h | h | ⟨q', hq', h⟩ := ih h
      · exact .inl h
      · exact .inr (.inl h)
      · exact .inr (.inr ⟨q', List.mem_cons_of_mem q hq', h⟩)

lemma mem_registrations {r : Registry} {qs : List Request} {q : Request} {name : Text}
    (hq : q ∈ qs) (h : q.registers name = true) : name ∈ r.registrations qs := by
  induction qs generalizing r with
  | nil => cases hq
  | cons q' qs ih =>
    rcases List.mem_cons.1 hq with rfl | hq
    · cases q with
      | register other _ _ =>
        rw [← beq_iff_eq.1 h]
        exact List.mem_append_left _ List.mem_cons_self
      | _ => cases h
    · exact List.mem_append_right _ (ih hq)

/-! ### Answers -/

/-- Loading adds no class but the bundled ones. -/
lemma mem_entries_loadBundled {r : Registry} {e : Value × EngineClass}
    (h : e ∈ r.loadBundled.entries) : e ∈ r.entries ∨ e.2 = .model ∨ e.2 = .descriptor := by
  have hm : e ∈ r.loadModel.entries → e ∈ r.entries ∨ e.2 = .model := by
    unfold loadModel
    split
    · exact .inl
    · exact fun h => (mem_put h).imp_right And.left
  unfold loadBundled loadDescriptor at h
  split at h
  · exact (hm h).imp_right .inl
  · rcases mem_put h with h | ⟨h, -⟩
    · exact (hm h).imp_right .inl
    · exact .inr (.inr h)

lemma texts_map_text (i : Nat) (ts : List Text) : texts i (ts.map .text) = .ok ts := by
  induction ts generalizing i with
  | nil => rfl
  | cons t ts ih => rw [List.map_cons, texts, Value.text?, ih]; rfl

namespace Request

variable {s : Session} {name : Text}

lemma exec_get_known (ev : Evaluator) {c : EngineClass}
    (h : (s.registry.lookUp (.text name)).find? (.text name) = some c) :
    ((get name).perform).exec ev s = (.ok (c.engine s.serial),
      { s with registry := s.registry.lookUp (.text name), serial := s.serial + 1 }) := by
  unfold perform engineNamed
  simp only [Value.unhashable?]
  rw [exec_bind_ok (exec_modify ev s _), exec_bind_ok (Run.exec_get ev _)]
  dsimp only
  rw [h]
  rfl

lemma exec_get_unknown (ev : Evaluator) {listed : List Text}
    (h : (s.registry.lookUp (.text name)).find? (.text name) = none)
    (hl : (s.registry.lookUp (.text name)).names = listed.map .text) :
    ((get name).perform).exec ev s = (.error (.unknownEngine name listed),
      { s with registry := s.registry.lookUp (.text name) }) := by
  unfold perform engineNamed
  simp only [Value.unhashable?]
  rw [exec_bind_ok (exec_modify ev s _), exec_bind_ok (Run.exec_get ev _)]
  dsimp only
  rw [h, hl, texts_map_text]
  rfl

/-- The name is that of a bundled engine, or a caller has registered a class under it. -/
def Known (qs : List Request) (name : Text) : Prop :=
  name = "model" ∨ name = "descriptor" ∨ ∃ q ∈ qs, q.registers name = true

end Request

/-- A name that is not known is told the names there are, and never that there is none. -/
lemma message_unknownEngine (name : Text) {listed : List Text} (h : .plain "descriptor" ∈ listed) :
    (Fault.unknownEngine name listed).message =
        "Unknown engine " ++ Fault.apostrophed name ++ ". Available: " ++ Text.join ", " listed ∧
      Text.join ", " listed ≠ "(none)" := by
  have hlength : 10 ≤ (Text.join ", " listed).points.length := Text.length_points_le_join ", " h
  constructor
  · have hempty : (Text.join ", " listed).isEmpty = false := by
      rw [Text.isEmpty_eq_isEmpty_points, List.isEmpty_eq_false_iff]
      intro h
      rw [h] at hlength
      exact absurd hlength (by decide)
    simp [Fault.message, hempty]
  · intro h
    rw [h] at hlength
    exact absurd hlength (by decide)

/-- **What a registry answers** after any requests: it has the names that were registered, each
once, in the order of their first registration and for good, and each class makes engines that go
by its name. The list of engines has the bundled ones. Asking for a bundled name or for one that was
registered makes an engine of that name; asking for another one fails with the names that the next
list shows, and adds no more than the bundled engines. -/
theorem registry_answers (ev : Evaluator) (s : Session) (qs : List Request) :
    let t := { s with registry := .empty }.asked ev qs
    (∀ e ∈ t.registry.entries, ∀ id u, (field (e.2.engine id) "name").exec ev u = (.ok e.1, u)) ∧
    t.registry.names = (registrations .empty qs).eraseDups.map .text ∧
    t.registry.names.Nodup ∧
    (∀ qs', t.registry.names <+: (t.asked ev qs').registry.names) ∧
    (∃ listed : List Text,
      (Request.list.perform.exec ev t).1 = .ok (.list (listed.map .text)) ∧
      .plain "model" ∈ listed ∧ .plain "descriptor" ∈ listed) ∧
    (∀ name, Request.Known qs name → ∃ (c : EngineClass) (u : Session),
      (Request.get name).perform.exec ev t = (.ok (c.engine t.serial), u) ∧
      (field (c.engine t.serial) "name").exec ev u = (.ok (.text name), u)) ∧
    (∀ name, ¬ Request.Known qs name → ∃ (listed : List Text) (u : Session),
      (Request.get name).perform.exec ev t = (.error (.unknownEngine name listed), u) ∧
      (Fault.unknownEngine name listed).message =
        "Unknown engine " ++ Fault.apostrophed name ++ ". Available: " ++ Text.join ", " listed ∧
      Text.join ", " listed ≠ "(none)" ∧
      (Request.list.perform.exec ev u).1 = .ok (.list (listed.map .text)) ∧
      u = { t with registry := u.registry } ∧
      (∀ e ∈ u.registry.entries, e ∈ t.registry.entries ∨ e.2 = .model ∨ e.2 = .descriptor) ∧
      ∀ other : Text, other ≠ "model" → other ≠ "descriptor" →
        u.registry.find? (.text other) = t.registry.find? (.text other)) := by
  intro t
  have ht : t.registry = Registry.empty.asked qs := Session.registry_asked ev _ qs
  have h : t.registry.Lists (registrations .empty qs) := by
    rw [ht]
    exact Lists.empty.asked qs
  have hname : ∀ (c : EngineClass) (id : Nat) (u : Session),
      (field (c.engine id) "name").exec ev u = (.ok c.label, u) := fun c id u => exec_field rfl
  refine ⟨?_, h.names, h.nodup, ?_, ?_, ?_, ?_⟩
  · -- each class is under its own name
    intro e he id u
    rw [hname, h.own e he]
  · -- no name is lost or moved
    intro qs'
    rw [Session.registry_asked ev t, h.names, (h.asked qs').names, List.eraseDups_append,
      List.map_append]
    exact List.prefix_append _ _
  · -- the list
    have hlist : (Request.list.perform.exec ev t).1 = .ok (.list t.registry.loadBundled.names) :=
      rfl
    refine ⟨_, hlist.trans (by rw [h.loadBundled.names]), ?_⟩
    simpa only [List.mem_eraseDups] using h.mem_loadBundled
  · -- a name that is known
    intro name hn
    have hn : name ∈ registrations .empty qs ∨ name = "model" ∨ name = "descriptor" := by
      obtain hn | hn | ⟨q, hq, hn⟩ := hn
      · exact .inr (.inl hn)
      · exact .inr (.inr hn)
      · exact .inl (mem_registrations hq hn)
    obtain ⟨c, hc, hlabel⟩ := h.exists_lookUp hn
    exact ⟨c, _, Request.exec_get_known ev hc, by rw [hname, hlabel]⟩
  · -- a name that is not
    intro name hn
    have hnew : name ∉ registrations .empty qs := fun hmem =>
      hn (registers_of_mem_registrations hmem)
    have hf : t.registry.find? (.text name) = none := by
      rw [← Option.not_isSome_iff_eq_none, h.isSome_find?]
      exact hnew
    have hb : t.registry.loadBundled.find? (.text name) = none := by
      rw [← Option.not_isSome_iff_eq_none, h.loadBundled.isSome_find?, List.mem_append]
      rintro (hmem | hmem)
      · exact hnew hmem
      · exact hn ((mem_missing hmem).imp_right .inl)
    have hl := lookUp_of_none hf
    obtain ⟨hmessage, hnone⟩ := message_unknownEngine name
      (List.mem_eraseDups.2 h.mem_loadBundled.2)
    refine ⟨_, _, Request.exec_get_unknown ev (by rw [hl, hb]) (by rw [hl, h.loadBundled.names]),
      hmessage, hnone, ?_, rfl, ?_, ?_⟩
    · change Except.ok (Value.list (t.registry.lookUp (.text name)).loadBundled.names) = _
      rw [hl, loadBundled_loadBundled, h.loadBundled.names]
    · change ∀ e ∈ (t.registry.lookUp (.text name)).entries, _
      rw [hl]
      exact fun e => mem_entries_loadBundled
    · intro other hm hd
      change (t.registry.lookUp (.text name)).find? _ = _
      rw [hl, find?_loadBundled, pending?, if_neg hm, if_neg hd, Option.none_or]

/-- A name that a caller registers after a request has failed stands behind the bundled ones, also
when it is registered again. -/
theorem registry_answers_grid :
    let qs : List Request := [.get "rows", .register "grid" true false, .register "grid" true true]
    let t := (Session.initial [] false).asked .none qs
    t.registry.names = [.text "model", .text "descriptor", .text "grid"] ∧
    Request.Known qs "grid" ∧ ¬ Request.Known qs "rows" ∧
    (∃ (c : EngineClass) (u : Session),
      (Request.get "grid").perform.exec .none t = (.ok (c.engine t.serial), u)) ∧
    ∃ (listed : List Text) (u : Session),
      (Request.get "rows").perform.exec .none t = (.error (.unknownEngine "rows" listed), u) := by
  intro qs t
  obtain ⟨-, -, -, -, -, hknown, hunknown⟩ := registry_answers .none (.initial [] false) qs
  have hk : Request.Known qs "grid" :=
    .inr (.inr ⟨.register "grid" true false, by simp [qs], rfl⟩)
  have hu : ¬ Request.Known qs "rows" := by
    rintro (h | h | ⟨q, hq, h⟩)
    · exact absurd h (by decide)
    · exact absurd h (by decide)
    · have hqs : ∀ q ∈ qs, q.registers "rows" = false := by decide
      rw [hqs q hq] at h
      cases h
  obtain ⟨c, u, hc, -⟩ := hknown "grid" hk
  obtain ⟨listed, u', hl, -⟩ := hunknown "rows" hu
  exact ⟨rfl, hk, hu, ⟨c, u, hc⟩, listed, u', hl⟩

end Registry

end LayoutTree
