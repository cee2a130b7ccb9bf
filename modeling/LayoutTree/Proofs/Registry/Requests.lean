import LayoutTree.Proofs.Attribute
import LayoutTree.Proofs.Same
import LayoutTree.Script.Function.Engine

/-!
Runs of requests to the registry, and how long a registration lasts.

A request for a name that is not registered and a request for the list load the bundled engines,
which register themselves like any other class. So a class stays where a caller registered it,
unless it stands in the place of a bundled engine that is loaded only later.
-/

namespace LayoutTree

open Run

namespace Registry

/-! ### Requests -/

/-- What a caller may ask of the registry. -/
inductive Request where
  | register (name : Text) (supports implements : Bool)
  | get (name : Text)
  | list

namespace Request

/-- The function that a request calls. -/
def perform : Request → Run Value
  | register name supports implements =>
    Function.registerEngine ⟨[.text name, .bool supports, .bool implements], []⟩
  | get name => engineNamed (.text name)
  | list => Function.listEngines .none

/-- The caller registers a class under the name. -/
def registers (name : Text) : Request → Bool
  | register other _ _ => other == name
  | _ => false

/-- The request loads the bundled engines. -/
def loads (r : Registry) : Request → Bool
  | register .. => false
  | get name => (r.find? (.text name)).isNone
  | list => true

/-- The registry after a request. -/
def after (r : Registry) : Request → Registry
  | register name supports implements => r.register ⟨.trace implements, .text name, supports⟩
  | get name => r.lookUp (.text name)
  | list => r.loadBundled

/-- A request changes the registry as it says, whether it fails or not. -/
lemma registry_perform (ev : Evaluator) (s : Session) (q : Request) :
    (q.perform.exec ev s).2.registry = q.after s.registry := by
  cases q with
  | register name supports implements => rfl
  | list => rfl
  | get name =>
    unfold perform engineNamed
    simp only [Value.unhashable?]
    rw [exec_bind_ok (exec_modify ev s _), exec_bind_ok (exec_get ev _)]
    dsimp only
    split
    · rfl
    · split <;> rfl

end Request

/-! ### One request -/

lemma lookUp_of_some {r : Registry} {name : Value} {c : EngineClass} (h : r.find? name = some c) :
    r.lookUp name = r := by
  unfold lookUp
  rw [h]
  rfl

lemma lookUp_of_none {r : Registry} {name : Value} (h : r.find? name = none) :
    r.lookUp name = r.loadBundled := by
  unfold lookUp
  rw [h]
  rfl

/-- The bundled engine of a name, as long as it is not loaded. -/
def pending? (r : Registry) (name : Text) : Option EngineClass :=
  if name = "model" then if r.modelLoaded then none else some .model
  else if name = "descriptor" then if r.descriptorLoaded then none else some .descriptor
  else none

lemma find?_register (r : Registry) {c : EngineClass} {own : Text} (hc : c.label = .text own)
    (name : Text) :
    (r.register c).find? (.text name) = if own = name then some c else r.find? (.text name) := by
  split
  · next h =>
    rw [← h, ← hc]
    exact find?_register_self r c
  · next h =>
    apply among?_put_of_not_same
    · simpa [hc, Value.same_text, Value.text?] using h
    · intro e _ he
      rw [hc, Value.same_text, beq_iff_eq] at he
      simpa [Value.same_text, he] using h

lemma find?_loadModel (r : Registry) (name : Text) :
    r.loadModel.find? (.text name) =
      if name = "model" ∧ r.modelLoaded = false then some .model else r.find? (.text name) := by
  unfold loadModel
  cases r.modelLoaded with
  | true => simp
  | false =>
    have h := find?_register r (c := .model) rfl name
    simpa [find?, eq_comm] using h

lemma find?_loadDescriptor (r : Registry) (name : Text) :
    r.loadDescriptor.find? (.text name) =
      if name = "descriptor" ∧ r.descriptorLoaded = false then some .descriptor
      else r.find? (.text name) := by
  unfold loadDescriptor
  cases r.descriptorLoaded with
  | true => simp
  | false =>
    have h := find?_register r (c := .descriptor) rfl name
    simpa [find?, eq_comm] using h

/-- Loading puts the bundled engines that were not loaded under their names. -/
lemma find?_loadBundled (r : Registry) (name : Text) :
    r.loadBundled.find? (.text name) = (r.pending? name).or (r.find? (.text name)) := by
  have hflag : r.loadModel.descriptorLoaded = r.descriptorLoaded := by
    unfold loadModel
    split <;> rfl
  unfold loadBundled pending?
  rw [find?_loadDescriptor, find?_loadModel, hflag]
  by_cases hm : name = "model"
  · subst hm
    have hne : ("model" : Text) ≠ "descriptor" := by decide
    cases r.modelLoaded <;> simp [hne]
  · by_cases hd : name = "descriptor" <;> cases r.descriptorLoaded <;> simp [hm, hd]

/-- What is loaded once is not loaded again. -/
lemma pending?_loadBundled (r : Registry) (name : Text) : r.loadBundled.pending? name = none := by
  have hm : r.loadModel.modelLoaded = true := by
    unfold loadModel
    split
    · assumption
    · rfl
  have hk : ∀ r : Registry, r.loadDescriptor.modelLoaded = r.modelLoaded ∧
      r.loadDescriptor.descriptorLoaded = true := by
    intro r
    unfold loadDescriptor
    split
    · exact ⟨rfl, by assumption⟩
    · exact ⟨rfl, rfl⟩
  unfold pending? loadBundled
  simp [hk, hm]

namespace Request

/-- A request either loads the bundled engines, or registers a class, or changes nothing. -/
lemma after_of_loads {r : Registry} {q : Request} (h : q.loads r = true) :
    q.after r = r.loadBundled := by
  cases q with
  | register => cases h
  | list => rfl
  | get name =>
    exact lookUp_of_none (by simpa [loads] using h)

/-- A request that neither loads the bundled engines nor registers a class under the name leaves
the name as it was. -/
lemma find?_after {r : Registry} {q : Request} {name : Text} (hl : q.loads r = false)
    (hq : q.registers name = false) :
    (q.after r).find? (.text name) = r.find? (.text name) ∧
      (q.after r).pending? name = r.pending? name := by
  cases q with
  | register other supports implements =>
    have hne : other ≠ name := by simpa [registers] using hq
    exact ⟨by rw [after, find?_register r rfl, if_neg hne], rfl⟩
  | list => cases hl
  | get other =>
    have hafter : (get other).after r = r := by
      cases h : r.find? (.text other) with
      | none => simp [loads, h] at hl
      | some c => exact lookUp_of_some h
    rw [hafter]
    exact ⟨rfl, rfl⟩

end Request

/-! ### Runs -/

/-- The registry after requests, one after the other. -/
def asked (r : Registry) (qs : List Request) : Registry := qs.foldl Request.after r

/-- One of the requests loads the bundled engines. -/
def loadsIn (r : Registry) : List Request → Bool
  | [] => false
  | q :: qs => q.loads r || loadsIn (q.after r) qs

/-- Once the bundled engines are loaded, a name stays with its class until a caller registers
another one. -/
lemma find?_asked_of_loaded {r : Registry} {name : Text} (hp : r.pending? name = none)
    {qs : List Request} (hqs : ∀ q ∈ qs, q.registers name = false) :
    (r.asked qs).find? (.text name) = r.find? (.text name) := by
  induction qs generalizing r with
  | nil => rfl
  | cons q qs ih =>
    have hq := hqs q List.mem_cons_self
    have hstep : (q.after r).find? (.text name) = r.find? (.text name) ∧
        (q.after r).pending? name = none := by
      cases hl : q.loads r with
      | true =>
        rw [Request.after_of_loads hl]
        exact ⟨by rw [find?_loadBundled, hp, Option.none_or], pending?_loadBundled r name⟩
      | false =>
        obtain ⟨hf, hpend⟩ := Request.find?_after hl hq
        exact ⟨hf, by rw [hpend, hp]⟩
    rw [← hstep.1]
    exact ih hstep.2 fun q' hq' => hqs q' (List.mem_cons_of_mem q hq')

/-- A name that no caller registers anew stays with its class, or is taken by the bundled engine
of that name when this is loaded. -/
lemma find?_asked (r : Registry) {name : Text} {qs : List Request}
    (hqs : ∀ q ∈ qs, q.registers name = false) :
    (r.asked qs).find? (.text name) =
      if r.loadsIn qs then (r.pending? name).or (r.find? (.text name))
      else r.find? (.text name) := by
  induction qs generalizing r with
  | nil => rfl
  | cons q qs ih =>
    have hq := hqs q List.mem_cons_self
    have hrest : ∀ q' ∈ qs, q'.registers name = false := fun q' hq' =>
      hqs q' (List.mem_cons_of_mem q hq')
    change ((q.after r).asked qs).find? _ = _
    cases hl : q.loads r with
    | true =>
      rw [Request.after_of_loads hl, find?_asked_of_loaded (pending?_loadBundled r name) hrest,
        find?_loadBundled, loadsIn, hl, Bool.true_or, if_pos rfl]
    | false =>
      obtain ⟨hf, hp⟩ := Request.find?_after hl hq
      rw [ih (q.after r) hrest, loadsIn, hl, Bool.false_or, hf, hp]

end Registry

/-! ### Sessions -/

namespace Session

open Registry

/-- The session after requests, some of which may have failed. -/
def asked (ev : Evaluator) (s : Session) (qs : List Request) : Session :=
  qs.foldl (fun s q => (q.perform.exec ev s).2) s

lemma registry_asked (ev : Evaluator) (s : Session) (qs : List Request) :
    (s.asked ev qs).registry = s.registry.asked qs := by
  induction qs generalizing s with
  | nil => rfl
  | cons q qs ih =>
    change (((q.perform.exec ev s).2).asked ev qs).registry = (q.after s.registry).asked qs
    rw [ih, q.registry_perform]

end Session

namespace Registry

/-- Asking for a registered name makes an engine of the class. -/
lemma Request.exec_get (ev : Evaluator) {s : Session} {name : Text} {c : EngineClass}
    (h : s.registry.find? (.text name) = some c) :
    (((get name).perform).exec ev s).1 = .ok (c.engine s.serial) := by
  unfold perform engineNamed
  simp only [Value.unhashable?]
  rw [exec_bind_ok (Run.exec_modify ev s _), exec_bind_ok (Run.exec_get ev _)]
  dsimp only
  rw [lookUp_of_some h, h]
  rfl

/-- **How long a registration lasts**: whatever is asked for after a caller has registered a class
under a name, short of registering another one there, asking for the name makes an engine of that
class; but if the name is that of a bundled engine that was not loaded then, and one of the
requests loads it, an engine of the bundled class is made instead. -/
theorem get_registered (ev : Evaluator) (s : Session) (name : Text) (supports implements : Bool)
    {qs : List Request} (hqs : ∀ q ∈ qs, q.registers name = false) :
    let c : EngineClass := ⟨.trace implements, .text name, supports⟩
    let r := s.registry.register c
    let t := s.asked ev (.register name supports implements :: qs)
    (((Request.get name).perform).exec ev t).1 =
      .ok ((if r.loadsIn qs then (r.pending? name).getD c else c).engine t.serial) := by
  intro c r t
  apply Request.exec_get
  have ht : t.registry = r.asked qs := Session.registry_asked ev s (.register name _ _ :: qs)
  have hr : r.find? (.text name) = some c := by
    rw [find?_register _ rfl, if_pos rfl]
  rw [ht, find?_asked r hqs, hr]
  cases r.loadsIn qs with
  | false => rfl
  | true => cases r.pending? name <;> rfl

/-- A class under a name of its own stays there while the bundled engines are loaded and a class
is registered under another name. -/
theorem get_registered_grid :
    let qs : List Request := [.get "rows", .register "model" true true, .list, .get "grid"]
    let t := (Session.initial [] false).asked .none (.register "grid" true false :: qs)
    (∀ q ∈ qs, q.registers "grid" = false) ∧
      (((Request.get "grid").perform).exec .none t).1 =
        .ok (.engine t.serial (.trace false) (.text "grid") true) := by
  intro qs t
  have hqs : ∀ q ∈ qs, q.registers "grid" = false := by decide
  exact ⟨hqs, get_registered .none (.initial [] false) "grid" true false hqs⟩

/-- A class that a caller registers as the model engine before that is loaded is in force at first,
and is lost when the list of engines is asked for. -/
theorem registered_model_lost :
    let s := (Session.initial [] false).asked .none [.register "model" false false]
    let t := s.asked .none [.list]
    (((Request.get "model").perform).exec .none s).1 =
        .ok (.engine s.serial (.trace false) (.text "model") false) ∧
      (((Request.get "model").perform).exec .none t).1 =
        .ok (.engine t.serial .model (.text "model") true) :=
  ⟨rfl, rfl⟩

end Registry

end LayoutTree
