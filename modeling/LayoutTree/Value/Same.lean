import LayoutTree.Number.Rounding
import LayoutTree.Value.Identity

/-!
Equality of values.

Numbers are compared by value whatever their type, members of the choices equal their texts,
dicts disregard order, layout values are compared field by field, and what else has an identity
equals itself alone. Inside a container a value also equals itself if it is not a number; on its
own a not-a-number equals nothing.
-/

namespace LayoutTree

/-- What a number stands for, whatever its type. -/
inductive Quantity where
  | whole (i : Int)
  | other (x : Double)
deriving DecidableEq

namespace Value

def quantity? : Value → Option Quantity
  | .bool b => some (.whole (if b then 1 else 0))
  | .int i => some (.whole i)
  | .float x => some (x.toInt?.elim (.other x) .whole)
  | _ => none

/-- Equality of two values as far as the values inside them do not matter. -/
def alike : Value → Value → Bool
  | .null, .null => true
  | .absent, .absent => true
  | .bytes a, .bytes b => a == b
  | .range a, .range b => a == b || (a ≤ 0 && b ≤ 0)
  | .list _, .list _ => true
  | .tuple _, .tuple _ => true
  | .dict _ es, .dict _ fs => es.length == fs.length
  | .dimension a, .dimension b => a.same b
  | .size a, .size b => a.same b
  | .spacing a, .spacing b => a.same b
  | .insets a, .insets b => a.same b
  | .edges .., .edges .. => true
  | .slot .., .slot .. => true
  | .group .., .group .. => true
  | .fragment .., .fragment .. => true
  | .item _ s _ _, .item _ s' _ _ => s.same s'
  | .itemGroup _ s d _ _ _ _ _, .itemGroup _ s' d' _ _ _ _ _ => s.same s' && d == d'
  | .hostSection _ _ _ x, .hostSection _ _ _ y => x.same y
  | .hostLayout .., .hostLayout .. => true
  | .box _ a, .box _ b => a == b
  | .cursor _ a, .cursor _ b => a == b
  | .block a _, .block b _ => a == b
  | .method v m, .method w n => m == n && sameMethod v w m
  | .engine a .., .engine b .. => a == b
  | .composer a, .composer b => a == b
  | .config _, .config _ => true
  | .setting a, .setting b => a == b
  | .settingInfo a, .settingInfo b => a == b
  | .settingKind a, .settingKind b => a == b
  | .logger a, .logger b => a == b
  | .token a, .token b => a == b
  | .spent a, .spent b => a == b
  | a, b =>
    match a.quantity?, b.quantity? with
    | some x, some y => x == y
    | none, none =>
      match a.text?, b.text? with
      | some s, some t => s == t
      | _, _ => false
    | _, _ => false

@[simp] theorem alike_self (v : Value) : v.alike v = true := by
  cases v <;> simp [alike, quantity?, text?]

/-- The values inside a value that its equals have as well, entries of dicts left out. -/
def parts : Value → List Value
  | .list xs => xs
  | .tuple xs => xs
  | .edges _ l t r b => [l, t, r, b]
  | .slot _ k s i e n => [k, s, i, e, n]
  | .group _ k s i e d g c => [k, s, i, e, d, g, c]
  | .fragment _ k xs => [k, xs]
  | .item _ _ i e => [i, e]
  | .itemGroup _ _ _ xs n i e g => n :: i :: e :: g :: xs
  | .hostSection _ g i _ => [g, i]
  | .hostLayout _ xs => xs
  | .config r => [r]
  | _ => []

/-- The entries of a dict. -/
def entries : Value → Fields
  | .dict _ es => es
  | _ => []

/-! ### Parts in common

A value may hold another one so many times over that it is far too large to walk through. So what
two values have in common is not looked into, which is right because every value equals itself. -/

/-- An answer about two things that is a yes if they are one. -/
abbrev Comparison {α : Type} (a b : α) := { yes : Bool // a = b → yes = true }

/-- The answer of a comparison, which is not made of a thing in one place with itself. -/
def Comparison.answer {α : Type} (a b : α) (c : Unit → Comparison a b) : Bool :=
  withPtrEq a b (fun _ => (c ()).1) (c ()).2

@[simp] theorem Comparison.answer_eq {α : Type} (a b : α) (c : Unit → Comparison a b) :
    answer a b c = (c ()).1 := rfl

/-- The comparison of two rows from that of their heads and that of their tails. -/
def Comparison.cons {α : Type} {x : α} {xs : List α} (c : (y : α) → Comparison x y)
    (cs : (ys : List α) → Comparison xs ys) : (ys : List α) → Comparison (x :: xs) ys
  | [] => ⟨false, nofun⟩
  | y :: ys => ⟨answer x y (fun _ => c y) && (cs ys).1, fun h => by
      obtain ⟨rfl, rfl⟩ := List.cons.inj h
      simp [(c x).2, (cs xs).2]⟩

def Comparison.nil {α : Type} (ys : List α) : Comparison [] ys :=
  ⟨ys.isEmpty, fun h => by simp [← h]⟩

/-- The comparison of two values by all that is inside them. -/
def Comparison.within {v : Value} {xs : List Value} (w : Value)
    (cs : (ys : List Value) → Comparison xs ys) (h : v.parts = xs := by rfl) : Comparison v w :=
  ⟨v.alike w && (cs w.parts).1, fun e => by subst e; simp [(cs v.parts).2 h.symm]⟩

open Comparison in
mutual

/-- The comparison that containers make. -/
def compare : (v w : Value) → Comparison v w
  | .list xs, w => within w (compareAll xs)
  | .tuple xs, w => within w (compareAll xs)
  | .dict id es, w =>
    ⟨alike (.dict id es) w && (compareEntries w.entries es w.entries).1, fun h => by
      subst h; simp [entries, (compareEntries es es es).2]⟩
  | .edges _ l t r b, w =>
    within w (cons (compare l) (cons (compare t) (cons (compare r) (cons (compare b) nil))))
  | .slot _ k s i e n, w =>
    within w (cons (compare k) (cons (compare s) (cons (compare i) (cons (compare e)
      (cons (compare n) nil)))))
  | .group _ k s i e d g c, w =>
    within w (cons (compare k) (cons (compare s) (cons (compare i) (cons (compare e)
      (cons (compare d) (cons (compare g) (cons (compare c) nil)))))))
  | .fragment _ k x, w => within w (cons (compare k) (cons (compare x) nil))
  | .item _ _ i e, w => within w (cons (compare i) (cons (compare e) nil))
  | .itemGroup _ _ _ xs n i e g, w =>
    within w (cons (compare n) (cons (compare i) (cons (compare e) (cons (compare g)
      (compareAll xs)))))
  | .hostSection _ g i _, w => within w (cons (compare g) (cons (compare i) nil))
  | .hostLayout _ xs, w => within w (compareAll xs)
  | .config r, w => within w (cons (compare r) nil)
  | v, w => ⟨v.alike w, fun h => by simp [← h]⟩
termination_by structural v => v

def compareAll : (xs ys : List Value) → Comparison xs ys
  | [], ys => nil ys
  | _ :: _, [] => ⟨false, nofun⟩
  | x :: xs, y :: ys => ⟨answer x y (fun _ => compare x y) && (compareAll xs ys).1, fun h => by
      obtain ⟨rfl, rfl⟩ := List.cons.inj h
      simp [(compare x x).2, (compareAll xs xs).2]⟩
termination_by structural xs => xs

/-- Every entry has an equal one under the same key, which stands at the same place or anywhere
among all entries. -/
def compareEntries (all : Fields) : (es fs : Fields) → Comparison es fs
  | [], _ => ⟨true, fun _ => rfl⟩
  | _ :: _, [] => ⟨false, nofun⟩
  | (k, v) :: es, (l, w) :: fs =>
    ⟨(match if k == l then some w else all.get? k with
      | some x => answer v x (fun _ => compare v x)
      | none => false) && (compareEntries all es fs).1, fun h => by
        obtain ⟨he, rfl⟩ := List.cons.inj h
        obtain ⟨rfl, rfl⟩ := Prod.mk.inj he
        simp [(compare v v).2, (compareEntries all es es).2]⟩
termination_by structural es => es

end

/-- Equality as containers test it. -/
def same (v w : Value) : Bool := (compare v w).1

@[simp] theorem same_self (v : Value) : v.same v = true := (compare v v).2 rfl

/-- Equality of rows of values, place by place. -/
def sameAll (xs ys : List Value) : Bool := (compareAll xs ys).1

@[simp] theorem sameAll_nil (ys : List Value) : sameAll [] ys = ys.isEmpty := by
  simp [sameAll, compareAll, Comparison.nil]

@[simp] theorem sameAll_cons_nil (x : Value) (xs : List Value) : sameAll (x :: xs) [] = false := by
  simp [sameAll, compareAll]

@[simp] theorem sameAll_cons_cons (x y : Value) (xs ys : List Value) :
    sameAll (x :: xs) (y :: ys) = (x.same y && sameAll xs ys) := by
  simp [sameAll, compareAll, same]

theorem same_list (xs ys : List Value) : (list xs).same (list ys) = sameAll xs ys := by
  simp [same, compare, Comparison.within, alike, parts, sameAll]

theorem same_tuple (xs ys : List Value) : (tuple xs).same (tuple ys) = sameAll xs ys := by
  simp [same, compare, Comparison.within, alike, parts, sameAll]

/-- Equality of two values on their own. -/
def equals : Value → Value → Bool
  | .float x, .float y => !x.isNan && x.same y
  | a, b => same a b

mutual

/-- The type of the first part that keeps a value out of sets and from being a key: a list or a
dict. -/
def unhashable? : Value → Option String
  | .list _ => some "list"
  | .dict .. => some "dict"
  | .tuple xs => unhashableIn? xs
  | .edges _ l t r b =>
    unhashable? l <|> unhashable? t <|> unhashable? r <|> unhashable? b
  | .slot _ k s i e n =>
    unhashable? k <|> unhashable? s <|> unhashable? i <|> unhashable? e <|> unhashable? n
  | .group _ k s i e d g c =>
    unhashable? k <|> unhashable? s <|> unhashable? i <|> unhashable? e <|> unhashable? d
      <|> unhashable? g <|> unhashable? c
  | .fragment _ k x => unhashable? k <|> unhashable? x
  | .item _ _ i e => unhashable? i <|> unhashable? e
  | .itemGroup _ _ _ xs n i e g =>
    unhashableIn? xs <|> unhashable? n <|> unhashable? i <|> unhashable? e <|> unhashable? g
  | .hostSection _ g i _ => unhashable? g <|> unhashable? i
  | .hostLayout _ xs => unhashableIn? xs
  | .config r => unhashable? r
  | _ => none

def unhashableIn? : List Value → Option String
  | [] => none
  | x :: xs => unhashable? x <|> unhashableIn? xs

end

/-- The values without those that equal an earlier one. -/
def distinct (xs : List Value) : List Value :=
  xs.foldl (fun seen x => if seen.any (same x) then seen else seen ++ [x]) []

end Value

end LayoutTree
