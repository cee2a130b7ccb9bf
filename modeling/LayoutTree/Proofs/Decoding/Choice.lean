import LayoutTree.Proofs.Decoding.Costs

/-!
What was read was read by some part of a reading. Of several readings the first is chosen, unless it
reads nothing or another one finds at least as many fields given.
-/

namespace LayoutTree

open Reading

namespace Reading

variable {α : Type} {r : Reading α} {a : α}

namespace Reads

lemma withDefault_some {fs : Fields} {name : String} {default : Reading α}
    {read : Value → Reading α} (h : (withDefault fs name default read).Reads a) {v : Value}
    (hv : fs.get? name = some v) : (read v).Reads a := by
  unfold withDefault at h
  rw [hv] at h
  exact h.given

/-- A dict is read as something that may stand in itself only if there is room for one more. -/
lemma nested {outer : Nesting} {type : String} {id : Nat} {read : Nesting → Reading Value}
    {v : Value} (h : (Value.nested outer type id read).Reads v) :
    outer.length < Nesting.limit ∧ (read ((id, type) :: outer)).Reads v := by
  unfold Value.nested at h
  rcases ho : outer.enter? type id with _ | inner <;> rw [ho] at h
  · exact (refuse h).elim
  · obtain ⟨-, hroom, rfl⟩ := Nesting.enter?_eq_some_iff.1 ho
    exact ⟨hroom, h⟩

end Reads

lemma Costs.nested {outer : Nesting} {type : String} {id c : Nat} {read : Nesting → Reading Value}
    (h : ∀ inner, (read inner).Costs c) : (Value.nested outer type id read).Costs c := by
  unfold Value.nested
  rcases outer.enter? type id with _ | inner
  · exact .refuse _ _
  · exact h inner

/-- What is chosen was read by one of the readings, with as many fields given. -/
lemma exists_of_choose {rs : List (String × Reading α)} {g m n : Nat} {e : Exactness}
    (h : choose rs n = (.read a g e, m)) : ∃ p ∈ rs, ∃ k l, p.2 k = (.read a g e, l) := by
  induction rs generalizing n m with
  | nil => cases h
  | cons p rs ih =>
    obtain ⟨name, r⟩ := p
    rw [choose] at h
    rcases hr : r n with ⟨⟨b, g', e'⟩ | is, k⟩ <;>
      rcases hrs : choose rs k with ⟨⟨c, g'', e''⟩ | js, l⟩ <;>
      simp only [Reading.under, judged, hr, hrs, Verdict.under, Verdict.better, Prod.mk.injEq] at h
    · -- both can be read
      obtain ⟨h, -⟩ := h
      split at h <;> cases h
      · obtain ⟨p, hp, hread⟩ := ih hrs
        exact ⟨p, by simp [hp], hread⟩
      · exact ⟨(name, r), by simp, n, k, hr⟩
    · -- only the first can
      cases h.1
      exact ⟨(name, r), by simp, n, k, hr⟩
    · -- only one of the others can
      cases h.1
      obtain ⟨p, hp, hread⟩ := ih hrs
      exact ⟨p, by simp [hp], hread⟩
    · -- none can
      cases h.1

/-- What the first reading does not read is chosen only where it reads nothing or finds no more
fields given. -/
lemma first_or_rest {name : String} {rs : List (String × Reading α)} {c : Nat} (hd : r.Decided)
    (hc : r.Costs c) (h : (choose ((name, r) :: rs)).Reads a) : r.Reads a ∨ ∃ p ∈ rs,
      p.2.Reads a ∧ ((∀ b, ¬ r.Reads b) ∨ ∀ d, p.2.Costs d → c ≤ d) := by
  obtain ⟨g, e, m, n, h⟩ := h
  rw [choose] at h
  rcases hr : r n with ⟨⟨b, g', e'⟩ | is, k⟩ <;>
    rcases hrs : choose rs k with ⟨⟨b', g'', e''⟩ | js, l⟩ <;>
    simp only [Reading.under, judged, hr, hrs, Verdict.under, Verdict.better, Prod.mk.injEq] at h
  · -- both can be read, and the better one is taken
    obtain ⟨h, -⟩ := h
    split at h <;> cases h
    · rename_i hle
      obtain ⟨p, hp, i, j, hread⟩ := exists_of_choose hrs
      refine .inr ⟨p, hp, ⟨_, _, _, _, hread⟩, .inr fun d hpd => ?_⟩
      rw [hc _ _ _ _ _ hr, hpd _ _ _ _ _ hread] at hle
      simp only [Bool.or_eq_true, decide_eq_true_eq, Bool.and_eq_true, beq_iff_eq] at hle
      omega
    · exact .inl ⟨_, _, _, _, hr⟩
  · -- only the first can be read
    cases h.1
    exact .inl ⟨_, _, _, _, hr⟩
  · -- only one of the others can
    cases h.1
    obtain ⟨p, hp, i, j, hread⟩ := exists_of_choose hrs
    refine .inr ⟨p, hp, ⟨_, _, _, _, hread⟩, .inl fun b hb => ?_⟩
    have hsome := (hd.isSome_iff n).2 ⟨b, hb⟩
    rw [hr] at hsome
    cases hsome
  · -- none can
    cases h.1

end Reading

end LayoutTree
