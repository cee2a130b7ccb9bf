import LayoutTree.Proofs.Compose.Draft

/-!
What becomes of a draft with an engine that says that it can repeat items but refuses to. It breaks
at the first group that repeats an item too. With an engine that does not refuse, a draft is
composed as it is planned.
-/

namespace LayoutTree

/-- The host group of a frame, unless an item is to be repeated and the engine refuses to. -/
def Frame.granted (refusal : Option Fault) (f : Frame) (repetition : Option (Plan × Nat))
    (subitems : List Plan) : Except Fault Plan :=
  match refusal, repetition with
  | some e, some _ => .error e
  | _, r => .ok (f.core r subitems)

lemma Frame.granted_of_none (refusal : Option Fault) (f : Frame) (subitems : List Plan) :
    f.granted refusal none subitems = .ok (f.core none subitems) := by
  cases refusal <;> rfl

namespace Draft

variable (refusal : Option Fault) (repeats : Bool)

/-- What a group becomes, from what its children become. -/
def groupOutcome (f : Frame) (ds : List Draft) (subitems : Except Fault (List Plan)) :
    Except Fault Plan := do
  if ds.isEmpty then throw (.emptyGroup f.direction.text)
  let xs ← subitems
  return f.plan (← f.granted refusal
    (if repeats then Tree.repetition? (allTrees ds) else none) xs)

mutual

/-- What a draft becomes in the group that it stands in, or why it breaks. -/
def outcome : Draft → Except Fault (List Plan)
  | slot s => s.items
  | group f _ ds => ([·]) <$> groupOutcome refusal repeats f ds (allOutcomes 0 ds)
  | stranger v _ => .error (.strangerInGroup v.typeName)

def allOutcomes (held : Nat) : List Draft → Except Fault (List Plan)
  | [] => .ok []
  | d :: ds => appended held d.outcome fun n => allOutcomes n ds

end

mutual

/-- The calls that the engine serves, in order. -/
def served : Draft → List Plan
  | slot s => s.leaf.steps
  | group f _ ds => allServed 0 ds ++
    match groupOutcome refusal repeats f ds (allOutcomes refusal repeats 0 ds) with
    | .ok p => p.steps
    | .error _ => []
  | stranger .. => []

def allServed (held : Nat) : List Draft → List Plan
  | [] => []
  | d :: ds => d.served ++
    match d.outcome refusal repeats >>= extending held with
    | .ok xs => allServed (held + xs.length) ds
    | .error _ => []

end

def made (f : Frame) (ds : List Draft) : Except Fault Plan :=
  groupOutcome refusal repeats f ds (allOutcomes refusal repeats 0 ds)

/-! ### Without refusal -/

lemma groupOutcome_none (f : Frame) (ds : List Draft) (xs : Except Fault (List Plan)) :
    groupOutcome none repeats f ds xs = groupPlan repeats f ds xs := by
  unfold groupOutcome groupPlan
  cases xs <;> rfl

mutual

lemma outcome_none (d : Draft) : d.outcome none repeats = d.subitems repeats := by
  cases d with
  | slot s => rfl
  | group f listed ds => rw [outcome, subitems, allOutcomes_none 0 ds, groupOutcome_none]
  | stranger v hv => rfl

lemma allOutcomes_none (held : Nat) (ds : List Draft) :
    allOutcomes none repeats held ds = allSubitems repeats held ds := by
  cases ds with
  | nil => rfl
  | cons d ds => simp only [allOutcomes, allSubitems, outcome_none d, allOutcomes_none _ ds]

end

mutual

lemma served_none (d : Draft) : d.served none repeats = d.calls repeats := by
  cases d with
  | slot s => rfl
  | group f listed ds =>
    rcases hp : groupPlan repeats f ds (allSubitems repeats 0 ds) with e | p
    all_goals simp only [served, calls, allServed_none _ ds, allOutcomes_none, groupOutcome_none,
      hp]
  | stranger v hv => rfl

lemma allServed_none (held : Nat) (ds : List Draft) :
    allServed none repeats held ds = allCalls repeats held ds := by
  cases ds with
  | nil => rfl
  | cons d ds =>
    rcases hx : d.subitems repeats >>= extending held with e | xs
    all_goals simp only [allServed, allCalls, served_none d, allServed_none _ ds, outcome_none, hx]

end

lemma made_none (f : Frame) (ds : List Draft) : made none repeats f ds = plan repeats f ds := by
  rw [made, plan, allOutcomes_none, groupOutcome_none]

/-! ### With refusal -/

variable {refusal repeats}

/-- What a group with children becomes is its host group, configured. -/
lemma groupOutcome_of_granted {f : Frame} {ds : List Draft} {xs : List Plan}
    {core : Except Fault Plan} (hne : ds ≠ [])
    (h : f.granted refusal (if repeats then Tree.repetition? (allTrees ds) else none) xs = core) :
    groupOutcome refusal repeats f ds (.ok xs) = f.plan <$> core := by
  rw [groupOutcome, if_neg (by simpa using hne)]
  change f.granted refusal _ xs >>= (fun core => pure (f.plan core)) = _
  rw [h]
  cases core <;> rfl

lemma groupOutcome_eq_ok {f : Frame} {ds : List Draft} {xs : Except Fault (List Plan)} {p : Plan}
    (h : groupOutcome refusal repeats f ds xs = .ok p) :
    ∃ ys, xs = .ok ys ∧ groupPlan repeats f ds (.ok ys) = .ok p := by
  rcases ds with _ | ⟨d, ds⟩
  · cases h
  rw [groupOutcome, if_neg (by simp)] at h
  rcases xs with e | ys
  · cases h
  refine ⟨ys, rfl, ?_⟩
  rw [groupPlan, if_neg (by simp)]
  generalize (if repeats then Tree.repetition? (allTrees (d :: ds)) else none) = r at h ⊢
  cases refusal with
  | none => exact h
  | some e =>
    cases r with
    | none => exact h
    | some _ => cases h

mutual

/-- What is not refused becomes what its plan says. -/
lemma subitems_of_outcome (d : Draft) {xs : List Plan} (h : d.outcome refusal repeats = .ok xs) :
    d.subitems repeats = .ok xs := by
  cases d with
  | slot s => exact h
  | group f listed ds =>
    rw [outcome] at h
    rcases hp : groupOutcome refusal repeats f ds (allOutcomes refusal repeats 0 ds) with e | p <;>
      rw [hp] at h <;> cases h
    obtain ⟨ys, hys, hplan⟩ := groupOutcome_eq_ok hp
    rw [subitems, allSubitems_of_allOutcomes ds hys, hplan]
    rfl
  | stranger v hv => cases h

lemma allSubitems_of_allOutcomes (ds : List Draft) {held : Nat} {xs : List Plan}
    (h : allOutcomes refusal repeats held ds = .ok xs) : allSubitems repeats held ds = .ok xs := by
  cases ds with
  | nil => exact h
  | cons d ds =>
    obtain ⟨ys, zs, hy, hroom, hz, rfl⟩ := appended_eq_ok_iff.1 h
    exact appended_eq_ok_iff.2
      ⟨ys, zs, subitems_of_outcome d hy, hroom, allSubitems_of_allOutcomes ds hz, rfl⟩

end

end Draft

end LayoutTree
