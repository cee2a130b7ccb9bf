import LayoutTree.Proofs.Json.Scan
import LayoutTree.Proofs.Section.Making
import LayoutTree.Value.Json

/-!
Plain data: which values have a JSON text, and that what the descriptor engine makes of plans is
among them.
-/

namespace LayoutTree

/-! ### Values of JSON -/

namespace Json

mutual

/-- The plain data that a JSON value stands for. Dicts are without identities. -/
def value : Json → Value
  | .null => .null
  | .bool b => .bool b
  | .int i => .int i
  | .number x => .float x
  | .text t => .text t
  | .array xs => .list (values xs)
  | .object ms => .dict 0 (entries ms)

def values : List Json → List Value
  | [] => []
  | x :: xs => x.value :: values xs

def entries : List (Text × Json) → Fields
  | [] => []
  | (k, v) :: ms => (k, v.value) :: entries ms

end

end Json

namespace Value

mutual

lemma toJson_value (x : Json) : x.value.toJson = .ok x := by
  cases x with
  | array xs => rw [Json.value, toJson, toJsonAll_values]; rfl
  | object ms => rw [Json.value, toJson, toJsonEntries_entries]; rfl
  | _ => rfl

lemma toJsonAll_values (xs : List Json) : toJsonAll (Json.values xs) = .ok xs := by
  cases xs with
  | nil => rfl
  | cons x xs =>
    rw [Json.values, toJsonAll, toJson_value, toJsonAll_values]
    rfl

lemma toJsonEntries_entries (ms : List (Text × Json)) :
    toJsonEntries (Json.entries ms) = .ok ms := by
  cases ms with
  | nil => rfl
  | cons m ms =>
    obtain ⟨k, v⟩ := m
    rw [Json.entries, toJsonEntries, toJson_value, toJsonEntries_entries]
    rfl

end

mutual

/-- Identities of dicts are not written. -/
lemma toJson_bare (v : Value) : v.bare.toJson = v.toJson := by
  cases v with
  | list xs => rw [bare, toJson, toJson, toJsonAll_bareAll]
  | dict id es => rw [bare, toJson, toJson, toJsonEntries_bareEntries]
  | _ => rfl

lemma toJsonAll_bareAll (xs : List Value) : toJsonAll (bareAll xs) = toJsonAll xs := by
  cases xs with
  | nil => rfl
  | cons x xs => rw [bareAll, toJsonAll, toJsonAll, toJson_bare, toJsonAll_bareAll]

lemma toJsonEntries_bareEntries (es : Fields) :
    toJsonEntries (bareEntries es) = toJsonEntries es := by
  cases es with
  | nil => rfl
  | cons e es =>
    obtain ⟨k, v⟩ := e
    rw [bareEntries, toJsonEntries, toJsonEntries, toJson_bare, toJsonEntries_bareEntries]

end

lemma eq_of_value {x y : Json} (h : x.value = y.value) : x = y := by
  have hjson := congrArg toJson h
  rw [toJson_value, toJson_value] at hjson
  exact Except.ok.inj hjson

/-! ### Plain data -/

/-- The value is plain data, all texts of which are strings. -/
def Serial (v : Value) : Prop := ∃ x : Json, x.Plain ∧ x.value = v

lemma serial_null : Serial .null := ⟨.null, trivial, rfl⟩

lemma serial_float (x : Double) : Serial (.float x) := ⟨.number x, trivial, rfl⟩

lemma serial_int (i : Int) : Serial (.int i) := ⟨.int i, trivial, rfl⟩

lemma serial_text (s : String) : Serial (.text s) := ⟨.text s, ⟨s, rfl⟩, rfl⟩

lemma serial_list {vs : List Value} (h : ∀ v ∈ vs, v.Serial) : Serial (.list vs) := by
  have hall : ∃ xs, Json.AllPlain xs ∧ Json.values xs = vs := by
    induction vs with
    | nil => exact ⟨[], trivial, rfl⟩
    | cons v vs ih =>
      obtain ⟨⟨x, hx, rfl⟩, hvs⟩ := List.forall_mem_cons.1 h
      obtain ⟨xs, hxs, rfl⟩ := ih hvs
      exact ⟨x :: xs, ⟨hx, hxs⟩, rfl⟩
  obtain ⟨xs, hxs, rfl⟩ := hall
  exact ⟨.array xs, hxs, rfl⟩

end Value

/-- The entries are plain data under keys that are strings. -/
def Fields.Serial (es : Fields) : Prop := ∀ e ∈ es, (∃ s : String, e.1 = s) ∧ e.2.Serial

namespace Fields.Serial

variable {es fs : Fields} {v : Value}

lemma nil : Serial [] := fun _ he => nomatch he

lemma cons (key : String) (hv : v.Serial) (h : es.Serial) : Serial ((↑key, v) :: es) :=
  List.forall_mem_cons.2 ⟨⟨⟨key, rfl⟩, hv⟩, h⟩

lemma append (h : es.Serial) (hf : fs.Serial) : Serial (es ++ fs) :=
  List.forall_mem_append.2 ⟨h, hf⟩

lemma put (h : es.Serial) (key : String) (hv : v.Serial) : (es.put key v).Serial := by
  induction es with
  | nil => exact .cons key hv .nil
  | cons e es ih =>
    obtain ⟨he, hes⟩ := List.forall_mem_cons.1 h
    rw [Fields.put]
    split
    · exact List.forall_mem_cons.2 ⟨⟨he.1, hv⟩, hes⟩
    · exact List.forall_mem_cons.2 ⟨he, ih hes⟩

lemma exists_object (h : es.Serial) : ∃ ms, (Json.object ms).Plain ∧
    (Json.object ms).value = .dict 0 es := by
  have hall : ∃ ms, Json.MembersPlain ms ∧ Json.entries ms = es := by
    induction es with
    | nil => exact ⟨[], trivial, rfl⟩
    | cons e es ih =>
      obtain ⟨k, v⟩ := e
      obtain ⟨⟨hk, x, hx, rfl⟩, hes⟩ := List.forall_mem_cons.1 h
      obtain ⟨ms, hms, rfl⟩ := ih hes
      exact ⟨(k, x) :: ms, ⟨hk, hx, hms⟩, rfl⟩
  obtain ⟨ms, hms, rfl⟩ := hall
  exact ⟨ms, hms, rfl⟩

lemma dict (h : es.Serial) : (Value.dict 0 es).Serial := by
  obtain ⟨ms, hms, hvalue⟩ := h.exists_object
  exact ⟨_, hms, hvalue⟩

end Fields.Serial

/-! ### Descriptors of plans -/

namespace Descriptor

open Value Fields.Serial

lemma serial_ofDimension (d : Dimension) : (ofDimension d).Serial :=
  (cons "kind" (serial_text _) (cons "value" (serial_float _) nil)).dict

lemma serial_ofSize (z : LayoutSize) : (ofSize z).Serial :=
  (cons "widthDimension" (serial_ofDimension _)
    (cons "heightDimension" (serial_ofDimension _) nil)).dict

lemma serial_ofInsets (i : Insets) : (ofInsets i).Serial :=
  (cons "top" (serial_float _) (cons "leading" (serial_float _) (cons "bottom" (serial_float _)
    (cons "trailing" (serial_float _) nil)))).dict

lemma serial_ofSpacing (g : Spacing) : (ofSpacing g).Serial :=
  (cons "kind" (serial_text _) (cons "value" (serial_float _) nil)).dict

lemma serial_edge (g : Option Spacing) : (Value.ofOption ofSpacing g).Serial := by
  cases g with
  | none => exact serial_null
  | some g => exact serial_ofSpacing g

lemma serial_ofEdges (e : EdgeSpacing) : (ofEdges e).Serial :=
  (cons "leading" (serial_edge _) (cons "top" (serial_edge _) (cons "trailing" (serial_edge _)
    (cons "bottom" (serial_edge _) nil)))).dict

end Descriptor

namespace Plan

open Value Fields.Serial Descriptor

mutual

lemma serial_entries (p : Plan) : p.entries.Serial := by
  cases p with
  | item z => exact cons "type" (serial_text _) (cons "layoutSize" (serial_ofSize z) nil)
  | group d z ps =>
    exact cons "type" (serial_text _) (cons "direction" (serial_text _)
      (cons "layoutSize" (serial_ofSize z)
        (cons "subitems" (serial_list (serial_descriptors ps)) nil)))
  | repeated d z p n =>
    refine cons "type" (serial_text _) (cons "direction" (serial_text _)
      (cons "layoutSize" (serial_ofSize z) (cons "subitems" (serial_list fun v hv => ?_) nil)))
    rw [(List.mem_replicate.1 hv).2]
    exact (serial_entries p).dict
  | insets p i => exact (serial_entries p).put "contentInsets" (serial_ofInsets i)
  | edges p e => exact (serial_entries p).put "edgeSpacing" (serial_ofEdges e)
  | spacing p g => exact (serial_entries p).put "interItemSpacing" (serial_ofSpacing g)

lemma serial_descriptors (ps : List Plan) : ∀ v ∈ descriptors ps, v.Serial := by
  cases ps with
  | nil => exact fun _ hv => nomatch hv
  | cons p ps => exact List.forall_mem_cons.2 ⟨(serial_entries p).dict, serial_descriptors ps⟩

end

end Plan

end LayoutTree
