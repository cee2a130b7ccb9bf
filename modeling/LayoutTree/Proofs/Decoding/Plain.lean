import LayoutTree.Proofs.Construct
import LayoutTree.Proofs.Dict

/-!
Plain data: dicts whose children and items are lists and tuples. There is nothing in them to draw
from, so they are read as they are.
-/

namespace LayoutTree

open Run

namespace Value

/-- The value is taken for a sequence. -/
def isSequence : Value → Bool
  | .list _ => true
  | .tuple _ => true
  | .cursor .. => true
  | .range _ => true
  | v => v.isRecord

mutual

/-- In a dict, and in dicts within it, lists and tuples are all that stands for children and items
and has elements. Nothing is asked of other values. -/
inductive Plain : Value → Prop
  | dict {id : Nat} {fs : Fields} : (∀ v, fs.get? "children" = some v → PlainRow v) →
      (∀ v, fs.get? "items" = some v → PlainRow v) → Plain (.dict id fs)
  | other {v : Value} : (∀ id fs, v ≠ .dict id fs) → Plain v

inductive PlainRow : Value → Prop
  | list {xs : List Value} : (∀ x ∈ xs, Plain x) → PlainRow (.list xs)
  | tuple {xs : List Value} : (∀ x ∈ xs, Plain x) → PlainRow (.tuple xs)
  | other {v : Value} : v.isSequence = false → PlainRow v

end

end Value

lemma Fields.put_get? {fs : Fields} {name : Text} {v : Value} (h : fs.get? name = some v) :
    fs.put name v = fs := by
  induction fs with
  | nil => cases h
  | cons f fs ih =>
    obtain ⟨k, w⟩ := f
    rw [Fields.get?_cons] at h
    by_cases hk : name = k
    · rw [if_pos hk] at h
      cases h
      simp [Fields.put, hk]
    · rw [if_neg hk] at h
      simp [Fields.put, Ne.symm hk, ih h]

lemma Run.replaced_get? (fs : Fields) (name : String) : replaced name (fs.get? name) fs = fs := by
  rcases h : fs.get? name with _ | v
  · rfl
  · exact Fields.put_get? h

section Settling

variable {ev : Evaluator} {s : Session} {deep : Shape → Nesting → Value → Run Value}

lemma exec_settleSequence_other {shape : Shape} {outer : Nesting} {v : Value}
    (h : v.isSequence = false) : (settleSequence deep shape outer v).exec ev s = (.ok v, s) := by
  cases v <;> first | rfl | cases h

/-- Shapes of dicts that may be nodes. -/
def Shape.IsNode (shape : Shape) : Prop := shape = .child ∨ shape = .fragment ∨ shape = .node

mutual

/-- Plain data are settled. -/
lemma exec_settleWith_plain {shape : Shape} (hs : shape.IsNode) (outer : Nesting) (v : Value)
    (h : v.Plain) : (settleWith deep shape outer v).exec ev s = (.ok v, s) := by
  cases v with
  | dict id fs =>
    obtain ⟨hchildren, hitems⟩ : (∀ v, Fields.get? fs "children" = some v → v.PlainRow) ∧
        ∀ v, Fields.get? fs "items" = some v → v.PlainRow := by
      cases h with
      | dict hc hi => exact ⟨hc, hi⟩
      | other h => exact absurd rfl (h id fs)
    have hpart : ∀ {shape : Shape} {name : String} (type : String), shape.IsNode →
        (∀ v, Fields.get? fs name = some v → v.PlainRow) → ∃ o, replaced name o fs = fs ∧
          (nested outer type id fun inner => settlePart deep shape inner name fs).exec ev s =
            (.ok o, s) := by
      intro shape name type hs hfs
      unfold nested
      rcases outer.enter? type id with _ | inner
      · exact ⟨none, rfl, rfl⟩
      · exact ⟨_, replaced_get? fs name, exec_settlePart_plain hs inner name fs hfs⟩
    rcases hs with rfl | rfl | rfl
    · -- a group
      obtain ⟨o, ho, hrun⟩ := hpart "Group" (.inl rfl) hchildren
      rw [settleWith, exec_bind_ok hrun, ho]
      rfl
    · -- a fragment
      obtain ⟨o, ho, hrun⟩ := hpart "Fragment" (.inr (.inr rfl)) hitems
      rw [settleWith, exec_bind_ok hrun, ho]
      rfl
    · -- either
      obtain ⟨o, ho, hrun⟩ := hpart "Group" (.inl rfl) hchildren
      obtain ⟨o', ho', hrun'⟩ := hpart "Fragment" (.inr (.inr rfl)) hitems
      rw [settleWith, exec_bind_ok hrun, exec_bind_ok hrun', ho, ho']
      rfl
  | _ => rfl

lemma exec_settleSequence_plain {shape : Shape} (hs : shape.IsNode) (outer : Nesting) (v : Value)
    (h : v.PlainRow) : (settleSequence deep shape outer v).exec ev s = (.ok v, s) := by
  cases v with
  | list xs =>
    cases h with
    | list hxs =>
      rw [settleSequence, exec_map, exec_settleEach_plain hs outer xs hxs]
      rfl
    | other h => cases h
  | tuple xs =>
    cases h with
    | tuple hxs =>
      rw [settleSequence, exec_map, exec_settleEach_plain hs outer xs hxs]
      rfl
    | other h => cases h
  | _ =>
    cases h
    exact exec_settleSequence_other ‹_›

lemma exec_settleEach_plain {shape : Shape} (hs : shape.IsNode) (outer : Nesting)
    (vs : List Value) (h : ∀ v ∈ vs, v.Plain) :
    (settleEach deep shape outer vs).exec ev s = (.ok vs, s) := by
  cases vs with
  | nil => rfl
  | cons v vs =>
    rw [settleEach, exec_bind_ok (exec_settleWith_plain hs outer v (h v (by simp))),
      exec_bind_ok (exec_settleEach_plain hs outer vs fun w hw => h w (by simp [hw]))]
    rfl

lemma exec_settlePart_plain {shape : Shape} (hs : shape.IsNode) (outer : Nesting) (name : String)
    (fs : Fields) (h : ∀ v, fs.get? name = some v → v.PlainRow) :
    (settlePart deep shape outer name fs).exec ev s = (.ok (fs.get? name), s) := by
  match fs with
  | [] => rfl
  | (k, v) :: fs =>
    rw [settlePart, Fields.get?_cons]
    by_cases hk : name = k
    · have hv : v.PlainRow := h v (by rw [Fields.get?_cons, if_pos hk])
      rw [if_pos (by simp [hk]), if_pos hk, exec_map, exec_settleSequence_plain hs outer v hv]
      rfl
    · rw [if_neg (by simpa using Ne.symm hk), if_neg hk]
      exact exec_settlePart_plain hs outer name fs fun w hw => h w (by
        rw [Fields.get?_cons, if_neg hk, hw])

end

end Settling

end LayoutTree
