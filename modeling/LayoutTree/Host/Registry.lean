import LayoutTree.Value.Same

/-!
The registry of engines: classes of engine under their names, in the order of first registration.

The two bundled engines are registered when they are loaded, which happens at most once each; a
look-up that fails loads them. A name may be any value that can be a key; equal names are one.
-/

namespace LayoutTree

/-- What all engines of a class share: their kind, their name, and whether they say that they can
repeat one item. -/
structure EngineClass where
  kind : EngineKind
  label : Value
  supports : Bool

namespace EngineClass

def model : EngineClass := ⟨.model, .text "model", true⟩

def descriptor : EngineClass := ⟨.descriptor, .text "descriptor", false⟩

/-- An engine of the class. -/
def engine (c : EngineClass) (id : Nat) : Value := .engine id c.kind c.label c.supports

end EngineClass

structure Registry where
  /-- Each class with the name under which the first of its place was registered. -/
  entries : List (Value × EngineClass)
  modelLoaded : Bool
  descriptorLoaded : Bool

namespace Registry

def empty : Registry := ⟨[], false, false⟩

/-- The class among the entries that is registered under a name. -/
def among? (name : Value) (es : List (Value × EngineClass)) : Option EngineClass :=
  (es.find? fun e => e.1.same name).map (·.2)

def find? (r : Registry) (name : Value) : Option EngineClass := among? name r.entries

def names (r : Registry) : List Value := r.entries.map (·.1)

/-- Puts a class in the place of the one with its name, or after all others. -/
def put (c : EngineClass) : List (Value × EngineClass) → List (Value × EngineClass)
  | [] => [(c.label, c)]
  | e :: es => if e.1.same c.label then (e.1, c) :: es else e :: put c es

def register (r : Registry) (c : EngineClass) : Registry := { r with entries := put c r.entries }

def loadModel (r : Registry) : Registry :=
  if r.modelLoaded then r else { r.register .model with modelLoaded := true }

def loadDescriptor (r : Registry) : Registry :=
  if r.descriptorLoaded then r else { r.register .descriptor with descriptorLoaded := true }

def loadBundled (r : Registry) : Registry := r.loadModel.loadDescriptor

/-- The registry after looking for a name: the bundled engines are loaded if it is not there. -/
def lookUp (r : Registry) (name : Value) : Registry :=
  if (r.find? name).isSome then r else r.loadBundled

/-- The texts of names, or the place and the type of the first that is none. -/
def texts : Nat → List Value → Except (Nat × String) (List Text)
  | _, [] => .ok []
  | i, v :: vs =>
    match v.text? with
    | some t => (t :: ·) <$> texts (i + 1) vs
    | none => .error (i, v.typeName)

/-! ### What a registration changes -/

@[simp] theorem among?_put_self (c : EngineClass) (es : List (Value × EngineClass)) :
    among? c.label (put c es) = some c := by
  induction es with
  | nil => simp [put, among?]
  | cons e es ih =>
    by_cases he : e.1.same c.label = true
    · simp [put, among?, he]
    · simp only [among?] at ih
      simp [put, among?, he, ih]

theorem among?_put_of_not_same {c : EngineClass} {name : Value} {es : List (Value × EngineClass)}
    (hc : c.label.same name = false)
    (h : ∀ e ∈ es, e.1.same c.label = true → e.1.same name = false) :
    among? name (put c es) = among? name es := by
  induction es with
  | nil => simp [put, among?, hc]
  | cons e es ih =>
    have ih := ih fun e' he' => h e' (List.mem_cons_of_mem _ he')
    simp only [among?] at ih
    by_cases he : e.1.same c.label = true
    · have hn := h e List.mem_cons_self he
      simp [put, among?, he, hn]
    · simp [put, among?, he, List.find?_cons]
      cases e.1.same name <;> simp [ih]

/-- A name keeps its place; a new one comes last. -/
theorem map_fst_put (c : EngineClass) (es : List (Value × EngineClass)) :
    (put c es).map (·.1) = if es.any (·.1.same c.label) then es.map (·.1)
      else es.map (·.1) ++ [c.label] := by
  induction es with
  | nil => simp [put]
  | cons e es ih =>
    by_cases he : e.1.same c.label = true
    · simp [put, he]
    · have he' : e.1.same c.label = false := by simpa using he
      simp only [put, he', Bool.false_eq_true, ↓reduceIte, List.map_cons, ih, List.any_cons,
        Bool.false_or]
      split <;> simp

@[simp] theorem find?_register_self (r : Registry) (c : EngineClass) :
    (r.register c).find? c.label = some c := among?_put_self c r.entries

/-! ### What a look-up changes -/

/-- The bundled engines are loaded at most once. -/
theorem loadBundled_loadBundled (r : Registry) : r.loadBundled.loadBundled = r.loadBundled := by
  obtain ⟨es, modelLoaded, descriptorLoaded⟩ := r
  cases modelLoaded <;> cases descriptorLoaded <;> rfl

/-- For a name that is not found the bundled engines are loaded. -/
theorem lookUp_of_not_found {r : Registry} {name : Value}
    (h : (r.lookUp name).find? name = none) : r.lookUp name = r.loadBundled := by
  cases hr : r.find? name with
  | none =>
    rw [lookUp, hr]
    rfl
  | some c =>
    rw [lookUp, if_pos (by rw [hr]; rfl), hr] at h
    cases h

end Registry

end LayoutTree
