import LayoutTree.Session.Attribute
import LayoutTree.Value.Same
import Mathlib.Algebra.GroupWithZero.Nat
import Mathlib.Data.List.Forall2

/-!
Well-typed node trees, and the plan of what an engine is asked for when one is composed.

A plan is the last call that makes a host object, with its operands; what earlier calls made
stands among them as a plan of its own. Nothing here depends on an engine or on a session.
-/

namespace LayoutTree

/-- A value that may be null. -/
def Value.ofOption {α : Type} (f : α → Value) : Option α → Value
  | none => .null
  | some a => f a

/-- The spacing at each edge of a box. -/
structure EdgeSpacing where
  id : Nat
  leading : Option Spacing
  top : Option Spacing
  trailing : Option Spacing
  bottom : Option Spacing

namespace EdgeSpacing

def toValue (e : EdgeSpacing) : Value :=
  .edges e.id (.ofOption .spacing e.leading) (.ofOption .spacing e.top)
    (.ofOption .spacing e.trailing) (.ofOption .spacing e.bottom)

end EdgeSpacing

/-! ### Trees -/

/-- A validated slot. -/
structure Slot where
  id : Nat
  size : LayoutSize
  insets : Option Insets
  edges : Option EdgeSpacing
  count : Nat
  count_pos : 0 < count

namespace Slot

def toValue (s : Slot) : Value :=
  .slot s.id (.text "slot") (.size s.size) (.ofOption .insets s.insets)
    (.ofOption EdgeSpacing.toValue s.edges) (.int s.count)

/-- What has to be equal for two slots to share one item. -/
def signature (s : Slot) : List Value :=
  [.size s.size, .ofOption .insets s.insets, .ofOption EdgeSpacing.toValue s.edges]

def alike (s t : Slot) : Bool := Value.sameAll s.signature t.signature

end Slot

/-- What a validated group holds besides its children. -/
structure Frame where
  id : Nat
  size : LayoutSize
  insets : Option Insets
  edges : Option EdgeSpacing
  direction : Direction
  spacing : Option Spacing

def Frame.toValue (f : Frame) (children : List Value) : Value :=
  .group f.id (.text "group") (.size f.size) (.ofOption .insets f.insets)
    (.ofOption EdgeSpacing.toValue f.edges) (.direction f.direction)
    (.ofOption .spacing f.spacing) (.tuple children)

/-- A validated slot or group whose fields hold what they are declared to hold. -/
inductive Tree where
  | slot (s : Slot)
  | group (f : Frame) (children : List Tree)

namespace Tree

mutual

def toValue : Tree → Value
  | slot s => s.toValue
  | group f ts => f.toValue (toValues ts)

def toValues : List Tree → List Value
  | [] => []
  | t :: ts => t.toValue :: toValues ts

end

def slot? : Tree → Option Slot
  | slot s => some s
  | group .. => none

end Tree

/-! ### Plans -/

inductive Plan where
  | item (size : LayoutSize)
  | group (direction : Direction) (size : LayoutSize) (subitems : List Plan)
  | repeated (direction : Direction) (size : LayoutSize) (item : Plan) (count : Nat)
  | insets (obj : Plan) (insets : Insets)
  | edges (obj : Plan) (edges : EdgeSpacing)
  | spacing (group : Plan) (spacing : Spacing)

namespace Plan

/-- The operation that a plan calls. -/
def method : Plan → String
  | item _ => "make_item"
  | group .. => "make_group"
  | repeated .. => "make_repeated_group"
  | insets .. => "with_content_insets"
  | edges .. => "with_edge_spacing"
  | spacing .. => "with_inter_item_spacing"

/-- The insets and then the edge spacing, each if it is set. -/
def configured (p : Plan) (i : Option Insets) (e : Option EdgeSpacing) : Plan :=
  let q := i.elim p p.insets
  e.elim q q.edges

/-- The plan makes a group. -/
def isGroup : Plan → Bool
  | item _ => false
  | group .. => true
  | repeated .. => true
  | insets p _ => p.isGroup
  | edges p _ => p.isGroup
  | spacing p _ => p.isGroup

lemma isGroup_configured (p : Plan) (i : Option Insets) (e : Option EdgeSpacing) :
    (p.configured i e).isGroup = p.isGroup := by
  cases i <;> cases e <;> rfl

/-- The call that makes an object, and those that configure it afterwards. What the object was
made of is there already. -/
def steps : Plan → List Plan
  | insets p i => p.steps ++ [insets p i]
  | edges p e => p.steps ++ [edges p e]
  | spacing p g => p.steps ++ [spacing p g]
  | p => [p]

/-- The operands `vs` are what a plan calls its operation with, if `R` tells the host objects that
were made by plans. -/
inductive Takes (R : Value → Plan → Prop) : Plan → List Value → Prop
  | item (z : LayoutSize) : Takes R (item z) [.size z]
  | group (d : Direction) (z : LayoutSize) {vs : List Value} {ps : List Plan} :
      List.Forall₂ R vs ps → Takes R (group d z ps) [.direction d, .size z, .list vs]
  | repeated (d : Direction) (z : LayoutSize) (n : Nat) {v : Value} {p : Plan} :
      R v p → Takes R (repeated d z p n) [.direction d, .size z, v, .int n]
  | insets (i : Insets) {v : Value} {p : Plan} : R v p → Takes R (insets p i) [v, .insets i]
  | edges (e : EdgeSpacing) {v : Value} {p : Plan} : R v p → Takes R (edges p e) [v, e.toValue]
  | spacing (g : Spacing) {v : Value} {p : Plan} :
      p.isGroup = true → R v p → Takes R (spacing p g) [v, .spacing g]

end Plan

/-! ### Lists in memory -/

section Lists

variable {α : Type} {held : Nat} {x : Except Fault (List α)}
  {rest : Nat → Except Fault (List α)} {xs ys : List α}

/-- Elements that are put at the end of a list, which has so many already, and after them what
comes next for the list with them. -/
def appended (held : Nat) (x : Except Fault (List α)) (rest : Nat → Except Fault (List α)) :
    Except Fault (List α) := do
  let xs ← x >>= extending held
  return xs ++ (← rest (held + xs.length))

lemma extending_of_lt (h : held + xs.length < memoryLimit) : extending held xs = .ok xs := if_pos h

lemma bind_extending_eq_ok_iff :
    (x >>= extending held) = .ok xs ↔ x = .ok xs ∧ held + xs.length < memoryLimit := by
  constructor
  · intro h
    rcases x with e | zs
    · cases h
    change extending held zs = .ok xs at h
    unfold extending at h
    split at h <;> cases h
    exact ⟨rfl, ‹_›⟩
  · rintro ⟨rfl, h⟩
    exact extending_of_lt h

lemma bind_extending_eq_error {e : Fault} (h : (x >>= extending held) = .error e) :
    x = .error e ∨ e = .outOfMemory := by
  rcases x with e' | zs
  · exact .inl h
  change extending held zs = .error e at h
  unfold extending at h
  split at h <;> cases h
  exact .inr rfl

lemma appended_eq_ok_iff : appended held x rest = .ok ys ↔ ∃ xs zs, x = .ok xs ∧
    held + xs.length < memoryLimit ∧ rest (held + xs.length) = .ok zs ∧ xs ++ zs = ys := by
  constructor
  · intro h
    rcases hx : x >>= extending held with e | xs <;> rw [appended, hx] at h
    · cases h
    change (do return xs ++ (← rest (held + xs.length))) = Except.ok ys at h
    rcases hr : rest (held + xs.length) with e | zs <;> rw [hr] at h <;> cases h
    obtain ⟨hx, hroom⟩ := bind_extending_eq_ok_iff.1 hx
    exact ⟨xs, zs, hx, hroom, hr, rfl⟩
  · rintro ⟨xs, zs, rfl, hroom, hr, rfl⟩
    rw [appended, bind_extending_eq_ok_iff.2 ⟨rfl, hroom⟩]
    change (do return xs ++ (← rest (held + xs.length))) = Except.ok (xs ++ zs)
    rw [hr]
    rfl

lemma appended_of_error {e : Fault} (h : (x >>= extending held) = .error e) :
    appended held x rest = .error e := by
  rw [appended, h]
  rfl

lemma appended_of_ok (h : (x >>= extending held) = .ok xs) :
    appended held x rest = (xs ++ ·) <$> rest (held + xs.length) := by
  rw [appended, h]
  change (do return xs ++ (← rest (held + xs.length))) = _
  cases rest (held + xs.length) <;> rfl

lemma appended_eq_error {e : Fault} (h : appended held x rest = .error e) :
    x = .error e ∨ e = .outOfMemory ∨ ∃ n, rest n = .error e := by
  rcases hx : x >>= extending held with e' | xs
  · rw [appended_of_error hx] at h
    cases h
    exact (bind_extending_eq_error hx).imp_right .inl
  · rw [appended_of_ok hx] at h
    rcases hr : rest (held + xs.length) with e' | zs <;> rw [hr] at h <;> cases h
    exact .inr (.inr ⟨_, hr⟩)

end Lists

/-! ### Planning a tree -/

namespace Slot

/-- The item of a slot, configured. -/
def leaf (s : Slot) : Plan := (Plan.item s.size).configured s.insets s.edges

/-- As many items as the slot says, if they fit into memory. -/
def items (s : Slot) : Except Fault (List Plan) :=
  (List.replicate · s.leaf) <$> (Value.int s.count).times

def total (slots : List Slot) : Nat := (slots.map count).sum

end Slot

namespace Frame

/-- The group of a frame, configured. -/
def plan (f : Frame) (core : Plan) : Plan :=
  let p := core.configured f.insets f.edges
  f.spacing.elim p p.spacing

/-- One item repeated, or all subitems in a list. -/
def core (f : Frame) (repetition : Option (Plan × Nat)) (subitems : List Plan) : Plan :=
  match repetition with
  | some (leaf, n) => .repeated f.direction f.size leaf n
  | none => .group f.direction f.size subitems

lemma isGroup_core (f : Frame) (repetition : Option (Plan × Nat)) (subitems : List Plan) :
    (f.core repetition subitems).isGroup = true := by
  cases repetition <;> rfl

lemma isGroup_plan (f : Frame) (p : Plan) : (f.plan p).isGroup = p.isGroup := by
  rw [← p.isGroup_configured f.insets f.edges, plan]
  cases f.spacing <;> rfl

end Frame

namespace Tree

/-- Children that are all slots of one configuration and make more than one item together: that
item, and how many there are. -/
def repetition? (ts : List Tree) : Option (Plan × Nat) :=
  match ts.mapM slot? with
  | some (s :: ss) =>
    if ss.all (·.alike s) && 1 < Slot.total (s :: ss) then some (s.leaf, Slot.total (s :: ss))
    else none
  | _ => none

/-- The plan of a group, from those of its subitems. A group without children has none. -/
def groupPlan (repeats : Bool) (f : Frame) (ts : List Tree)
    (subitems : Except Fault (List Plan)) : Except Fault Plan := do
  if ts.isEmpty then throw (.emptyGroup f.direction.text)
  let xs ← subitems
  return f.plan (f.core (if repeats then repetition? ts else none) xs)

mutual

/-- What a tree adds to the subitems of the group that it stands in, or why it cannot be
composed. -/
def subitems (repeats : Bool) : Tree → Except Fault (List Plan)
  | slot s => s.items
  | group f ts => ([·]) <$> groupPlan repeats f ts (allSubitems repeats 0 ts)

/-- What trees add to the subitems of the group that they stand in, which has so many already. -/
def allSubitems (repeats : Bool) (held : Nat) : List Tree → Except Fault (List Plan)
  | [] => .ok []
  | t :: ts => appended held (t.subitems repeats) fun n => allSubitems repeats n ts

end

mutual

/-- The calls that composing a tree makes, in order. They end where composing fails. -/
def calls (repeats : Bool) : Tree → List Plan
  | slot s => s.leaf.steps
  | group f ts => allCalls repeats 0 ts ++
    match groupPlan repeats f ts (allSubitems repeats 0 ts) with
    | .ok p => p.steps
    | .error _ => []

def allCalls (repeats : Bool) (held : Nat) : List Tree → List Plan
  | [] => []
  | t :: ts => t.calls repeats ++
    match t.subitems repeats >>= extending held with
    | .ok xs => allCalls repeats (held + xs.length) ts
    | .error _ => []

end

/-- The copies that the slots among the children ask for, and one for each group. -/
def width (ts : List Tree) : Nat :=
  Slot.total (ts.filterMap slot?) + (ts.filter (·.slot?.isNone)).length

mutual

/-- No group is empty, and memory holds the copies that each slot asks for and the subitems of each
group. -/
def Fits : Tree → Prop
  | slot s => s.count < memoryLimit
  | group _ ts => ts ≠ [] ∧ AllFit ts

def AllFit : List Tree → Prop
  | [] => True
  | t :: ts => t.Fits ∧ width (t :: ts) < memoryLimit ∧ AllFit ts

end

/-- The plan of a group with its children. -/
def plan (repeats : Bool) (f : Frame) (ts : List Tree) : Except Fault Plan :=
  groupPlan repeats f ts (allSubitems repeats 0 ts)

lemma isGroup_plan {repeats : Bool} {f : Frame} {ts : List Tree} {p : Plan}
    (h : plan repeats f ts = .ok p) : p.isGroup = true := by
  rw [plan, groupPlan] at h
  split at h
  · cases h
  rcases hx : allSubitems repeats 0 ts with e | xs <;> rw [hx] at h <;> cases h
  rw [f.isGroup_plan, f.isGroup_core]

end Tree

/-! ### Repetition -/

lemma Value.eq_of_times {n k : Nat} (h : (Value.int n).times = .ok k) : k = n := by
  simp only [Value.times, Int.toNat_natCast] at h
  split at h
  · cases h
  split at h
  · cases h
  · exact (Except.ok.inj h).symm

lemma Slot.items_eq {s : Slot} {xs : List Plan} (h : s.items = .ok xs) :
    xs = List.replicate s.count s.leaf := by
  unfold Slot.items at h
  rcases ht : (Value.int s.count).times with e | k
  · rw [ht] at h
    cases h
  · rw [ht] at h
    obtain rfl := Value.eq_of_times ht
    exact (Except.ok.inj h).symm

lemma Slot.items_eq_error {s : Slot} {e : Fault} (h : s.items = .error e) :
    e = .countTooLarge ∨ e = .outOfMemory := by
  rcases ht : (Value.int s.count).times with f | n <;> rw [items, ht] at h <;> cases h
  simp only [Value.times] at ht
  split at ht
  · exact .inl (Except.error.inj ht).symm
  · split at ht <;> cases ht
    exact .inr rfl

lemma Value.times_of_lt {n : Nat} (h : n < memoryLimit) : (Value.int n).times = .ok n := by
  simp only [Value.times, Int.toNat_natCast]
  unfold wordLimit memoryLimit at *
  rw [if_neg (by simp; omega), if_neg (by omega)]

lemma Slot.items_of_lt {s : Slot} (h : s.count < memoryLimit) :
    s.items = .ok (List.replicate s.count s.leaf) := by
  rw [items, Value.times_of_lt h]
  rfl

namespace Tree

/-! How many subitems trees add to their group does not depend on how they are composed. -/

@[simp] lemma width_nil : width [] = 0 := rfl

@[simp] lemma width_slot (s : Slot) (ts : List Tree) :
    width (slot s :: ts) = s.count + width ts := by
  have hslots : (slot s :: ts).filterMap slot? = s :: ts.filterMap slot? := rfl
  have hgroups : (slot s :: ts).filter (·.slot?.isNone) = ts.filter (·.slot?.isNone) := rfl
  simp only [width, hslots, hgroups, Slot.total, List.map_cons, List.sum_cons, Nat.add_assoc]

@[simp] lemma width_group (f : Frame) (us ts : List Tree) :
    width (group f us :: ts) = 1 + width ts := by
  have hslots : (group f us :: ts).filterMap slot? = ts.filterMap slot? := rfl
  have hgroups : (group f us :: ts).filter (·.slot?.isNone) =
      group f us :: ts.filter (·.slot?.isNone) := rfl
  rw [width, hslots, hgroups, List.length_cons, width]
  omega

lemma length_subitems {repeats : Bool} {t : Tree} {xs : List Plan}
    (h : t.subitems repeats = .ok xs) (ts : List Tree) :
    width (t :: ts) = xs.length + width ts := by
  cases t with
  | slot s => rw [width_slot, Slot.items_eq h, List.length_replicate]
  | group f us =>
    rcases hp : plan repeats f us with e | p <;> rw [subitems, ← plan, hp] at h <;> cases h
    rw [width_group, List.length_singleton]

lemma width_lt_of_allFit {ts : List Tree} (h : AllFit ts) : width ts < memoryLimit := by
  cases ts with
  | nil => decide
  | cons t ts => exact h.2.1

mutual

/-- Trees that fit can be composed. -/
lemma exists_subitems (repeats : Bool) (t : Tree) (h : t.Fits) :
    ∃ xs, t.subitems repeats = .ok xs := by
  cases t with
  | slot s => exact ⟨_, Slot.items_of_lt h⟩
  | group f ts =>
    obtain ⟨p, hp⟩ := exists_plan repeats f ts h
    unfold plan at hp
    exact ⟨[p], by rw [subitems, hp]; rfl⟩

lemma exists_plan (repeats : Bool) (f : Frame) (ts : List Tree) (h : (group f ts).Fits) :
    ∃ p, plan repeats f ts = .ok p := by
  obtain ⟨hne, hfit⟩ := h
  obtain ⟨xs, hxs⟩ :=
    exists_allSubitems repeats 0 ts hfit (by simpa using width_lt_of_allFit hfit)
  refine ⟨f.plan (f.core (if repeats then repetition? ts else none) xs), ?_⟩
  rw [plan, groupPlan, if_neg (by simpa using hne), hxs]
  rfl

lemma exists_allSubitems (repeats : Bool) (held : Nat) (ts : List Tree) (h : AllFit ts)
    (hroom : held + width ts < memoryLimit) : ∃ xs, allSubitems repeats held ts = .ok xs := by
  cases ts with
  | nil => exact ⟨[], rfl⟩
  | cons t ts =>
    obtain ⟨xs, hxs⟩ := exists_subitems repeats t h.1
    rw [length_subitems hxs] at hroom
    obtain ⟨ys, hys⟩ :=
      exists_allSubitems repeats (held + xs.length) ts h.2.2 (by omega)
    exact ⟨xs ++ ys, appended_eq_ok_iff.2 ⟨xs, ys, hxs, by omega, hys, rfl⟩⟩

end

/-- All children are slots that are configured as the first one is. -/
def uniform (ts : List Tree) : Bool :=
  match ts.mapM slot? with
  | some (s :: ss) => ss.all (·.alike s)
  | _ => false

lemma allSubitems_of_slots {repeats : Bool} {held : Nat} {ts : List Tree} {ss : List Slot}
    {xs : List Plan} (hs : ts.mapM slot? = some ss) (hx : allSubitems repeats held ts = .ok xs) :
    xs = ss.flatMap fun s => List.replicate s.count s.leaf := by
  induction ts generalizing held ss xs with
  | nil =>
    cases hs
    cases hx
    rfl
  | cons t ts ih =>
    rw [List.mapM_cons] at hs
    cases t with
    | group f us => cases hs
    | slot s =>
      rcases hss : ts.mapM slot? with _ | rest
      · simp [slot?, hss] at hs
      obtain rfl : s :: rest = ss := by simpa [slot?, hss] using hs
      obtain ⟨items, tail, hi, -, hr, rfl⟩ := appended_eq_ok_iff.1 hx
      rw [List.flatMap_cons, Slot.items_eq hi, ih hss hr]

lemma Slot.alike_self (s : Slot) : s.alike s = true := by
  simp [Slot.alike, Slot.signature]

/-- One item is repeated exactly for slots that are all configured as the first one is and ask for
more than one item together. -/
lemma repetition?_eq_some_iff {ts : List Tree} {leaf : Plan} {n : Nat} :
    repetition? ts = some (leaf, n) ↔ ∃ s ss, ts.mapM slot? = some (s :: ss) ∧
      (∀ t ∈ s :: ss, t.alike s = true) ∧ 1 < n ∧ leaf = s.leaf ∧ n = Slot.total (s :: ss) := by
  unfold repetition?
  constructor
  · intro h
    split at h
    · rename_i s ss hs
      split at h
      · rename_i hc
        obtain ⟨rfl, rfl⟩ : s.leaf = leaf ∧ Slot.total (s :: ss) = n := by simpa using h
        simp only [Bool.and_eq_true, List.all_eq_true, decide_eq_true_eq] at hc
        refine ⟨s, ss, hs, ?_, hc.2, rfl, rfl⟩
        intro t ht
        rcases List.mem_cons.1 ht with rfl | ht
        · exact Slot.alike_self t
        · exact hc.1 t ht
      · cases h
    · cases h
  · rintro ⟨s, ss, hs, hall, hn, rfl, rfl⟩
    have hc : (ss.all (·.alike s) && decide (1 < Slot.total (s :: ss))) = true := by
      simp only [Bool.and_eq_true, List.all_eq_true, decide_eq_true_eq]
      exact ⟨fun t ht => hall t (List.mem_cons_of_mem _ ht), hn⟩
    simp only [hs, hc, ↓reduceIte]

/-- With more than one subitem in uniform slots, the first one is repeated for all of them. -/
lemma repetition?_of_uniform {repeats : Bool} {held : Nat} {ts : List Tree} {xs : List Plan}
    (hx : allSubitems repeats held ts = .ok xs) (hu : uniform ts = true) (hl : 1 < xs.length) :
    ∃ leaf rest, xs = leaf :: rest ∧ repetition? ts = some (leaf, xs.length) := by
  unfold uniform at hu
  split at hu
  · rename_i s ss hs
    have hxs := allSubitems_of_slots hs hx
    have htotal : xs.length = Slot.total (s :: ss) := by
      simp [hxs, Slot.total, List.length_flatMap]
    obtain ⟨n, hn⟩ : ∃ n, s.count = n + 1 := ⟨s.count - 1, by have := s.count_pos; omega⟩
    refine ⟨s.leaf, List.replicate n s.leaf ++ ss.flatMap fun s => List.replicate s.count s.leaf,
      by simp [hxs, hn, List.replicate_succ], ?_⟩
    rw [htotal] at hl ⊢
    simp only [repetition?, hs, hu, hl, decide_true, Bool.and_true, ↓reduceIte]
  · cases hu

lemma repetition?_eq_none {repeats : Bool} {held : Nat} {ts : List Tree} {xs : List Plan}
    (hx : allSubitems repeats held ts = .ok xs)
    (h : (uniform ts && decide (1 < xs.length)) = false) : repetition? ts = none := by
  unfold uniform at h
  unfold repetition?
  split at h
  · rename_i s ss hs
    have hxs := allSubitems_of_slots hs hx
    have htotal : xs.length = Slot.total (s :: ss) := by
      simp [hxs, Slot.total, List.length_flatMap]
    rw [htotal] at h
    simp only [h, Bool.false_eq_true, ↓reduceIte]
  · rfl

end Tree

end LayoutTree
