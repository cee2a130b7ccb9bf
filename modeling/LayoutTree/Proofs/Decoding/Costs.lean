import LayoutTree.Proofs.Dict
import LayoutTree.Proofs.Reads

/-!
How many fields are given where something is read.

A reading finds the same fields whenever it reads, and of the types that a dict may be read as the
one that finds the most counts. So it can be told beforehand which type a dict with a count in it
is read as.
-/

namespace LayoutTree

open Reading

/-- Where something is read, so many fields are given. -/
def Reading.Costs {α : Type} (r : Reading α) (c : Nat) : Prop :=
  ∀ a g e m n, r n = (.read a g e, m) → g = c

namespace Reading.Costs

variable {α β : Type} {r : Reading α} {c d : Nat}

lemma pure (a : α) : (Pure.pure a : Reading α).Costs 0 := by
  intro a' g e m n h
  cases h
  rfl

lemma refuse (kind : IssueKind) (c : Nat) : (Reading.refuse kind : Reading α).Costs c := by
  intro a g e m n h
  cases h

lemma made : made.Costs 0 := by
  intro a g e m n h
  cases h
  rfl

lemma map (f : α → β) (h : r.Costs c) : (f <$> r).Costs c := by
  intro b g e m n hb
  rw [map_apply] at hb
  rcases hr : r n with ⟨⟨a, g', e'⟩ | is, n'⟩ <;> rw [hr] at hb <;> cases hb
  exact h _ _ _ _ _ hr

lemma seq {f : Reading (α → β)} (hf : f.Costs c) (h : r.Costs d) : (f <*> r).Costs (c + d) := by
  intro b g e m n hb
  rw [seq_apply] at hb
  rcases hk : f n with ⟨⟨k, g', e'⟩ | is, n'⟩ <;> rw [hk] at hb <;>
    rcases hr : r n' with ⟨⟨a, g'', e''⟩ | js, n''⟩ <;> rw [hr] at hb <;> cases hb
  rw [hf _ _ _ _ _ hk, h _ _ _ _ _ hr]

lemma given (name : String) (h : r.Costs c) : (r.given name).Costs (c + 1) := by
  intro a g e m n ha
  change ((r n).1.given name, (r n).2) = _ at ha
  rcases hr : r n with ⟨⟨a', g', e'⟩ | is, n'⟩ <;> rw [hr] at ha <;> cases ha
  rw [h _ _ _ _ _ hr]

lemma atMost (bound : Exactness) (h : r.Costs c) : (r.atMost bound).Costs c := by
  intro a g e m n ha
  change ((r n).1.atMost bound, (r n).2) = _ at ha
  rcases hr : r n with ⟨⟨a', g', e'⟩ | is, n'⟩ <;> rw [hr] at ha <;> cases ha
  exact h _ _ _ _ _ hr

lemma check (ok : α → Bool) (kind : IssueKind) (h : r.Costs c) : (r.check ok kind).Costs c := by
  intro a g e m n ha
  change ((r n).1.check ok kind, (r n).2) = _ at ha
  rcases hr : r n with ⟨⟨a', g', e'⟩ | is, n'⟩ <;> rw [hr] at ha
  · unfold Verdict.check at ha
    dsimp only at ha
    split at ha <;> cases ha
    exact h _ _ _ _ _ hr
  · cases ha

variable {fs : Fields} {name : String} {read : Value → Reading α}

lemma withDefault_none (h : fs.get? name = none) {default : Reading α} (hd : default.Costs c) :
    (withDefault fs name default read).Costs c := by
  unfold withDefault
  rw [h]
  exact hd

lemma withDefault_some {v : Value} (h : fs.get? name = some v) {default : Reading α}
    (hv : (read v).Costs c) : (withDefault fs name default read).Costs (c + 1) := by
  unfold withDefault
  rw [h]
  exact hv.given name

end Reading.Costs

/-- Wherever something is read, the same number of fields is given. -/
def Reading.Priced {α : Type} (r : Reading α) : Prop := ∃ c, r.Costs c

namespace Reading.Priced

variable {α β : Type} {r : Reading α} {fs : Fields} {name : String} {read : Value → Reading α}

lemma pure (a : α) : (Pure.pure a : Reading α).Priced := ⟨0, .pure a⟩

lemma refuse (kind : IssueKind) : (Reading.refuse kind : Reading α).Priced := ⟨0, .refuse kind 0⟩

lemma made : made.Priced := ⟨0, .made⟩

lemma map (f : α → β) (h : r.Priced) : (f <$> r).Priced := by
  obtain ⟨c, hc⟩ := h
  exact ⟨c, hc.map f⟩

lemma seq {f : Reading (α → β)} (hf : f.Priced) (h : r.Priced) : (f <*> r).Priced := by
  obtain ⟨c, hc⟩ := hf
  obtain ⟨d, hd⟩ := h
  exact ⟨c + d, hc.seq hd⟩

lemma withDefault {default : Reading α} (hd : default.Priced) (h : ∀ v, (read v).Priced) :
    (withDefault fs name default read).Priced := by
  rcases hv : fs.get? name with _ | v
  · obtain ⟨c, hc⟩ := hd
    exact ⟨c, .withDefault_none hv hc⟩
  · obtain ⟨c, hc⟩ := h v
    exact ⟨c + 1, .withDefault_some hv hc⟩

lemma required (h : ∀ v, (read v).Priced) : (required fs name read).Priced := by
  unfold Reading.required
  rcases fs.get? name with _ | v
  · refine ⟨0, ?_⟩
    intro a g e m n ha
    cases ha
  · obtain ⟨c, hc⟩ := h v
    exact ⟨c + 1, hc.given name⟩

lemma orNull {read : Value → Reading Value} (h : ∀ v, (read v).Priced) (v : Value) :
    (orNull read v).Priced := by
  unfold Reading.orNull
  split
  · exact .pure _
  · exact h v

end Reading.Priced

namespace Value

open Reading

lemma costs_fromText {α : Type} {wrongType wrongText : IssueKind} {r : String → Reading α}
    (h : ∀ s, (r s).Costs 0) (v : Value) : (v.fromText wrongType wrongText r).Costs 0 := by
  unfold fromText
  split
  · exact (h _).atMost _
  · exact .refuse _ _
  · exact .refuse _ _

lemma costs_number (v : Value) : v.number.Costs 0 := by
  have htagged : ∀ x, (tagged x).Costs 0 := by
    intro x
    cases x with
    | nan tag =>
      intro a g e m n h
      cases h
      rfl
    | _ => exact .pure _
  have htext : ∀ v : Value, (v.fromText .notNumber .notNumeral fun s =>
      (Numeral.double? s).elim (Reading.refuse .notNumeral) tagged).Costs 0 := by
    refine fun v => costs_fromText (fun s => ?_) v
    cases Numeral.double? s with
    | none => exact .refuse _ _
    | some x => exact htagged x
  unfold number
  split
  · exact .pure _
  · exact (Costs.pure _).atMost _
  · exact ((Costs.pure _).check _ _).atMost _
  · exact htext _

lemma costs_member {α : Type} (ofText? : Text → Option α) (v : Value) :
    (v.member ofText?).Costs 0 := by
  refine costs_fromText (fun s => ?_) v
  cases ofText? s with
  | none => exact .refuse _ _
  | some a => exact .pure a

lemma priced_readSize (v : Value) : v.readSize.Priced := by
  have hmode : ∀ v : Value, v.readDimensionMode.Priced := by
    intro v
    unfold readDimensionMode
    split
    · exact .pure _
    · exact ⟨0, costs_member _ v⟩
  have hdimension : ∀ v : Value, v.readDimension.Priced := by
    intro v
    unfold readDimension
    split
    · exact .pure _
    · exact ((Priced.made.map _).seq (.required hmode)).seq (.required fun v => ⟨0, costs_number v⟩)
    · exact .refuse _
  unfold readSize
  split
  · exact .pure _
  · exact ((Priced.made.map _).seq (.required hdimension)).seq (.required hdimension)
  · exact .refuse _

lemma priced_readSpacing (v : Value) : v.readSpacing.Priced := by
  have hmode : ∀ v : Value, v.readSpacingMode.Priced := by
    intro v
    unfold readSpacingMode
    split
    · exact .pure _
    · exact ⟨0, costs_member _ v⟩
  unfold readSpacing
  split
  · exact .pure _
  · refine .map _ ?_
    exact ((Priced.made.map _).seq (.required hmode)).seq (.required fun v => ⟨0, costs_number v⟩)
  · exact .refuse _

lemma priced_readInsets (v : Value) : v.readInsets.Priced := by
  unfold readInsets
  split
  · exact .pure _
  · refine .map _ ?_
    have h : ∀ name fs, (withDefault fs name (Pure.pure .zero) number).Priced := fun _ _ =>
      .withDefault (.pure _) fun v => ⟨0, costs_number v⟩
    exact ((((Priced.made.map _).seq (h _ _)).seq (h _ _)).seq (h _ _)).seq (h _ _)
  · exact .refuse _

lemma priced_readEdges (v : Value) : v.readEdges.Priced := by
  unfold readEdges
  split
  · exact .pure _
  · have h : ∀ name fs, (withDefault fs name nothing (orNull readSpacing)).Priced := fun _ _ =>
      .withDefault (.pure _) (.orNull priced_readSpacing)
    exact ((((Priced.made.map _).seq (h _ _)).seq (h _ _)).seq (h _ _)).seq (h _ _)
  · exact .refuse _

lemma costs_whole (v : Value) : v.whole.Costs 0 := by
  have hdouble : ∀ x, (wholeOfDouble x).Costs 0 := by
    intro x
    unfold wholeOfDouble
    split
    · exact .refuse _ _
    · split
      · exact ((Costs.pure _).atMost _).check _ _
      · exact .refuse _ _
  have htext : ∀ s, (wholeOfText s).Costs 0 := by
    intro s
    unfold wholeOfText
    split
    · exact .refuse _ _
    · cases Numeral.int? s with
      | none => exact .refuse _ _
      | some i => exact .pure i
  unfold whole
  split
  · exact .pure _
  · exact (Costs.pure _).atMost _
  · exact (hdouble _).map _
  · exact (Costs.pure _).atMost _
  · exact (costs_fromText htext _).map _

lemma costs_count (v : Value) : v.count.Costs 0 := by
  unfold count
  split
  · exact .refuse _ _
  · exact (costs_whole v).check _ _

variable {fs : Fields}

/-- What is given in the fields that slots and groups have in common. -/
lemma exists_costs_shared (fs : Fields) : ∃ z i e,
    (required fs "size" fun v => Value.size <$> v.readSize).Costs z ∧
    (withDefault fs "insets" nothing (orNull readInsets)).Costs i ∧
    (withDefault fs "edge_spacing" nothing (orNull readEdges)).Costs e := by
  obtain ⟨z, hz⟩ : (required fs "size" fun v => Value.size <$> v.readSize).Priced :=
    .required fun v => (priced_readSize v).map _
  obtain ⟨i, hi⟩ : (withDefault fs "insets" nothing (orNull readInsets)).Priced :=
    .withDefault (.pure _) (.orNull priced_readInsets)
  obtain ⟨e, he⟩ : (withDefault fs "edge_spacing" nothing (orNull readEdges)).Priced :=
    .withDefault (.pure _) (.orNull priced_readEdges)
  exact ⟨z, i, e, hz, hi, he⟩

lemma childrenOf_eq (outer : Nesting) (fs : Fields) :
    childrenOf outer fs = (fs.get? "children").elim (pure (.tuple [])) fun data =>
      (.tuple <$> children outer data).given "children" := by
  induction fs with
  | nil => rfl
  | cons f fs ih =>
    obtain ⟨k, v⟩ := f
    rw [childrenOf, ih, Fields.get?_cons]
    by_cases hk : "children" = k
    · rw [if_pos (by simp [hk]), if_pos hk]
      rfl
    · rw [if_neg (by simpa using Ne.symm hk), if_neg hk]

lemma itemsOf_eq (outer : Nesting) (fs : Fields) :
    itemsOf outer fs = (fs.get? "items").elim (pure (.tuple [])) fun data =>
      (.tuple <$> items outer data).given "items" := by
  induction fs with
  | nil => rfl
  | cons f fs ih =>
    obtain ⟨k, v⟩ := f
    rw [itemsOf, ih, Fields.get?_cons]
    by_cases hk : "items" = k
    · rw [if_pos (by simp [hk]), if_pos hk]
      rfl
    · rw [if_neg (by simpa using Ne.symm hk), if_neg hk]

/-- A dict with a count gives more to a slot than to a group, unless it has fields that only groups
have. Where it has no items it gives more than to a fragment. -/
lemma exists_slot_costs (hk : fs.get? "kind" = none) {x : Value}
    (hx : fs.get? "replica_count" = some x) : ∃ c, (slotOf fs).Costs (c + 1) ∧
      (fs.get? "direction" = none → fs.get? "inter_item_spacing" = none →
        fs.get? "children" = none → ∀ outer, (groupOf fs (childrenOf outer fs)).Costs c) ∧
      (fs.get? "items" = none → ∀ outer, (fragmentOf fs (itemsOf outer fs)).Costs 0) := by
  obtain ⟨z, i, e, hz, hi, he⟩ := exists_costs_shared fs
  refine ⟨0 + 0 + z + i + e, ?_, fun hd hg hc outer => ?_, fun hi outer => ?_⟩
  · exact ((((Costs.made.map slot).seq (.withDefault_none hk (.pure _))).seq hz).seq hi |>.seq
      he).seq (.withDefault_some hx (costs_count x))
  · have hchildren : (childrenOf outer fs).Costs 0 := by
      rw [childrenOf_eq, hc]
      exact .pure _
    exact ((((((Costs.made.map group).seq (.withDefault_none hk (.pure _))).seq hz).seq hi |>.seq
      he).seq (.withDefault_none hd (.pure _))).seq (.withDefault_none hg (.pure _))).seq hchildren
  · have hitems : (itemsOf outer fs).Costs 0 := by
      rw [itemsOf_eq, hi]
      exact .pure _
    exact ((Costs.made.map fragment).seq (.withDefault_none hk (.pure _))).seq hitems

end Value

end LayoutTree
