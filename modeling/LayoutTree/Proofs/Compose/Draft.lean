import LayoutTree.Proofs.Compose.Plan

/-!
Drafts: group trees as they are made without validation. A group may be without children, and may
have children that are no layout nodes or are loose fragments.

Composing a draft breaks at the first such place. What was completed before it are trees.
-/

namespace LayoutTree

/-- The value may stand in a group that is composed. -/
def Value.isBox : Value → Bool
  | .slot .. => true
  | .group .. => true
  | _ => false

/-- The children of a group, as a list or as a tuple. -/
def Value.row (listed : Bool) (xs : List Value) : Value := if listed then .list xs else .tuple xs

/-- The group with what stands in the place of its children. -/
def Frame.holding (f : Frame) (listed : Bool) (children : List Value) : Value :=
  .group f.id (.text "group") (.size f.size) (.ofOption .insets f.insets)
    (.ofOption EdgeSpacing.toValue f.edges) (.direction f.direction)
    (.ofOption .spacing f.spacing) (.row listed children)

/-- A validated slot, a group of drafts, or a value that is neither slot nor group. -/
inductive Draft where
  | slot (s : Slot)
  | group (f : Frame) (listed : Bool) (children : List Draft)
  | stranger (v : Value) (h : v.isBox = false)

/-- A place at which composing fails: a group without children, or a child that is neither slot nor
group. -/
inductive Break where
  | empty (d : Direction)
  | stranger (v : Value)

namespace Break

def fault : Break → Fault
  | empty d => .emptyGroup d.text
  | stranger v => .strangerInGroup v.typeName

/-- What the message tells of the place. -/
def told : Break → Text
  | empty d => d.text
  | stranger v => v.typeName

lemma exists_message (b : Break) : ∃ t u : Text, b.fault.message = t ++ b.told ++ u := by
  cases b with
  | empty d => exact ⟨"Cannot compose an empty ", " group", rfl⟩
  | stranger v => exact ⟨"Group child ", " is not a Slot or Group", rfl⟩

end Break

namespace Draft

mutual

def toValue : Draft → Value
  | slot s => s.toValue
  | group f listed ds => f.holding listed (toValues ds)
  | stranger v _ => v

def toValues : List Draft → List Value
  | [] => []
  | d :: ds => d.toValue :: toValues ds

end

mutual

/-- No group is without children, and all children are slots and groups. -/
def Sound : Draft → Prop
  | slot _ => True
  | group _ _ ds => ds ≠ [] ∧ AllSound ds
  | stranger .. => False

def AllSound : List Draft → Prop
  | [] => True
  | d :: ds => d.Sound ∧ AllSound ds

end

mutual

/-- The places that break a draft, as they are come upon from left to right. -/
def breaks : Draft → List Break
  | slot _ => []
  | group f _ ds => if ds.isEmpty then [.empty f.direction] else allBreaks ds
  | stranger v _ => [.stranger v]

def allBreaks : List Draft → List Break
  | [] => []
  | d :: ds => d.breaks ++ allBreaks ds

end

mutual

/-- The tree of a draft, strangers left out. -/
def trees : Draft → List Tree
  | slot s => [.slot s]
  | group f _ ds => [.group f (allTrees ds)]
  | stranger .. => []

def allTrees : List Draft → List Tree
  | [] => []
  | d :: ds => d.trees ++ allTrees ds

end

mutual

/-- Memory holds the copies that each slot asks for and the subitems of each group. -/
def InMemory : Draft → Prop
  | slot s => s.count < memoryLimit
  | group _ _ ds => AllInMemory ds
  | stranger .. => True

def AllInMemory : List Draft → Prop
  | [] => True
  | d :: ds => d.InMemory ∧ Tree.width (allTrees (d :: ds)) < memoryLimit ∧ AllInMemory ds

end

mutual

/-- The largest parts that end before the first break: all of a draft that does not break, but
nothing around a break and nothing to its right. -/
def completed : Draft → List Tree
  | slot s => [.slot s]
  | group f _ ds =>
    if !ds.isEmpty && (allBreaks ds).isEmpty then [.group f (allTrees ds)] else allCompleted ds
  | stranger .. => []

def allCompleted : List Draft → List Tree
  | [] => []
  | d :: ds => if d.breaks.isEmpty then d.trees ++ allCompleted ds else d.completed

end

/-! ### Planning a draft -/

/-- The plan of a group, from those of its subitems. A group without children has none. -/
def groupPlan (repeats : Bool) (f : Frame) (ds : List Draft)
    (subitems : Except Fault (List Plan)) : Except Fault Plan := do
  if ds.isEmpty then throw (.emptyGroup f.direction.text)
  let xs ← subitems
  return f.plan (f.core (if repeats then Tree.repetition? (allTrees ds) else none) xs)

mutual

/-- What a draft adds to the subitems of the group that it stands in, or why it cannot be
composed. -/
def subitems (repeats : Bool) : Draft → Except Fault (List Plan)
  | slot s => s.items
  | group f _ ds => ([·]) <$> groupPlan repeats f ds (allSubitems repeats 0 ds)
  | stranger v _ => .error (.strangerInGroup v.typeName)

/-- What drafts add to the subitems of the group that they stand in, which has so many already. -/
def allSubitems (repeats : Bool) (held : Nat) : List Draft → Except Fault (List Plan)
  | [] => .ok []
  | d :: ds => appended held (d.subitems repeats) fun n => allSubitems repeats n ds

end

mutual

/-- The calls that composing a draft makes, in order. They end where composing fails. -/
def calls (repeats : Bool) : Draft → List Plan
  | slot s => s.leaf.steps
  | group f _ ds => allCalls repeats 0 ds ++
    match groupPlan repeats f ds (allSubitems repeats 0 ds) with
    | .ok p => p.steps
    | .error _ => []
  | stranger .. => []

def allCalls (repeats : Bool) (held : Nat) : List Draft → List Plan
  | [] => []
  | d :: ds => d.calls repeats ++
    match d.subitems repeats >>= extending held with
    | .ok xs => allCalls repeats (held + xs.length) ds
    | .error _ => []

end

def plan (repeats : Bool) (f : Frame) (ds : List Draft) : Except Fault Plan :=
  groupPlan repeats f ds (allSubitems repeats 0 ds)

end Draft

/-! ### Breaks -/

namespace Draft

variable (repeats : Bool)

mutual

lemma sound_iff (d : Draft) : d.Sound ↔ d.breaks = [] := by
  cases d with
  | slot s => simp [Sound, breaks]
  | group f listed ds =>
    rcases ds with _ | ⟨d, ds⟩
    · simp [Sound, breaks]
    · rw [Sound, breaks, if_neg (by simp), ← allSound_iff]
      simp
  | stranger v h => simp [Sound, breaks]

lemma allSound_iff (ds : List Draft) : AllSound ds ↔ allBreaks ds = [] := by
  cases ds with
  | nil => simp [AllSound, allBreaks]
  | cons d ds => rw [AllSound, allBreaks, sound_iff, allSound_iff, List.append_eq_nil_iff]

end

lemma isEmpty_allBreaks {ds : List Draft} (h : AllSound ds) : (allBreaks ds).isEmpty = true := by
  rw [(allSound_iff ds).1 h]
  rfl

/-- What is sound is planned as its tree is. -/
structure Planned (d : Draft) (t : Tree) : Prop where
  trees : d.trees = [t]
  subitems : d.subitems repeats = t.subitems repeats
  calls : d.calls repeats = t.calls repeats
  fits : d.InMemory → t.Fits

structure AllPlanned (ds : List Draft) : Prop where
  isEmpty : (allTrees ds).isEmpty = ds.isEmpty
  subitems (held : Nat) :
    allSubitems repeats held ds = Tree.allSubitems repeats held (allTrees ds)
  calls (held : Nat) : allCalls repeats held ds = Tree.allCalls repeats held (allTrees ds)
  fits : AllInMemory ds → Tree.AllFit (allTrees ds)

variable {repeats}

lemma AllPlanned.groupPlan {ds : List Draft} (h : AllPlanned repeats ds) (f : Frame) :
    plan repeats f ds = Tree.plan repeats f (allTrees ds) := by
  rw [plan, Tree.plan, Draft.groupPlan, Tree.groupPlan, h.isEmpty, h.subitems]

lemma AllPlanned.ne_nil {ds : List Draft} (h : AllPlanned repeats ds) (hne : ds ≠ []) :
    allTrees ds ≠ [] := by
  have he := h.isEmpty
  intro hn
  rw [hn] at he
  exact hne (List.isEmpty_iff.1 he.symm)

mutual

lemma exists_planned (d : Draft) (h : d.Sound) : ∃ t, Planned repeats d t := by
  cases d with
  | slot s => exact ⟨.slot s, rfl, rfl, rfl, id⟩
  | group f listed ds =>
    have hds := allPlanned ds h.2
    have hplan := hds.groupPlan f
    unfold plan Tree.plan at hplan
    refine ⟨.group f (allTrees ds), rfl, ?_, ?_, fun hm => ⟨hds.ne_nil h.1, hds.fits hm⟩⟩
    · rw [subitems, Tree.subitems, hplan]
    · rcases hp : Tree.groupPlan repeats f (allTrees ds)
        (Tree.allSubitems repeats 0 (allTrees ds)) with e | p
      all_goals simp only [calls, Tree.calls, hds.calls, hplan, hp]
  | stranger v hv => exact h.elim

lemma allPlanned (ds : List Draft) (h : AllSound ds) : AllPlanned repeats ds := by
  cases ds with
  | nil => exact ⟨rfl, fun _ => rfl, fun _ => rfl, id⟩
  | cons d ds =>
    obtain ⟨t, ht⟩ := exists_planned d h.1
    have hds := allPlanned ds h.2
    have htrees : allTrees (d :: ds) = t :: allTrees ds := by
      rw [allTrees, ht.trees]
      rfl
    refine ⟨?_, fun held => ?_, fun held => ?_, fun hm => ?_⟩
    · rw [htrees]
      rfl
    · rw [htrees, allSubitems, Tree.allSubitems, ht.subitems, funext hds.subitems]
    · rw [htrees]
      rcases hx : t.subitems repeats >>= extending held with e | xs
      all_goals simp only [allCalls, Tree.allCalls, ht.calls, ht.subitems, hds.calls, hx]
    · obtain ⟨hd, hwidth, hrest⟩ := hm
      rw [htrees] at hwidth ⊢
      exact ⟨ht.fits hd, hwidth, hds.fits hrest⟩

end

mutual

/-- What can be composed is sound. -/
lemma sound_of_subitems (d : Draft) {xs : List Plan} (h : d.subitems repeats = .ok xs) :
    d.Sound := by
  cases d with
  | slot s => trivial
  | group f listed ds =>
    rcases ds with _ | ⟨d, ds⟩
    · cases h
    · refine ⟨by simp, ?_⟩
      rcases hx : allSubitems repeats 0 (d :: ds) with e | ys
      · rw [subitems, groupPlan, if_neg (by simp), hx] at h
        cases h
      · exact allSound_of_allSubitems (d :: ds) hx
  | stranger v hv => cases h

lemma allSound_of_allSubitems (ds : List Draft) {held : Nat} {xs : List Plan}
    (h : allSubitems repeats held ds = .ok xs) : AllSound ds := by
  cases ds with
  | nil => trivial
  | cons d ds =>
    obtain ⟨ys, zs, hy, -, hz, -⟩ := appended_eq_ok_iff.1 h
    exact ⟨sound_of_subitems d hy, allSound_of_allSubitems ds hz⟩

end

lemma completed_of_sound (d : Draft) (h : d.Sound) : d.completed = d.trees := by
  cases d with
  | slot s => rfl
  | group f listed ds =>
    rw [completed, isEmpty_allBreaks h.2, if_pos (by simpa using h.1), trees]
  | stranger v hv => rfl

/-- A draft that fits into memory breaks at the first place that breaks it, and has made the calls
of what it completed until then. -/
structure Broken (repeats : Bool) (d : Draft) (b : Break) : Prop where
  subitems : d.subitems repeats = .error b.fault
  calls : d.calls repeats = d.completed.flatMap (Tree.calls repeats)

structure AllBroken (repeats : Bool) (held : Nat) (ds : List Draft) (b : Break) : Prop where
  subitems : allSubitems repeats held ds = .error b.fault
  calls : allCalls repeats held ds = (allCompleted ds).flatMap (Tree.calls repeats)

lemma width_lt_of_allInMemory {ds : List Draft} (h : AllInMemory ds) :
    Tree.width (allTrees ds) < memoryLimit := by
  cases ds with
  | nil => decide
  | cons d ds => exact h.2.1

mutual

lemma broken (d : Draft) (hm : d.InMemory) {b : Break} {bs : List Break}
    (h : d.breaks = b :: bs) : Broken repeats d b := by
  cases d with
  | slot s => cases h
  | group f listed ds =>
    rcases ds with _ | ⟨d, ds⟩
    · -- the group itself is empty
      obtain ⟨rfl, -⟩ : Break.empty f.direction = b ∧ [] = bs := by simpa [breaks] using h
      exact ⟨rfl, rfl⟩
    · -- the break is in one of its children
      rw [breaks, if_neg (by simp)] at h
      have hds : AllBroken repeats 0 (d :: ds) b :=
        allBroken 0 (d :: ds) hm (by simpa using width_lt_of_allInMemory hm) h
      have hplan : groupPlan repeats f (d :: ds) (allSubitems repeats 0 (d :: ds)) =
          .error b.fault := by
        rw [groupPlan, if_neg (by simp), hds.subitems]
        rfl
      refine ⟨?_, ?_⟩
      · rw [subitems, hplan]
        rfl
      · rw [calls, hplan, completed, h, if_neg (by simp), hds.calls]
        simp
  | stranger v hv =>
    cases h
    exact ⟨rfl, rfl⟩

lemma allBroken (held : Nat) (ds : List Draft) (hm : AllInMemory ds)
    (hroom : held + Tree.width (allTrees ds) < memoryLimit) {b : Break} {bs : List Break}
    (h : allBreaks ds = b :: bs) : AllBroken repeats held ds b := by
  cases ds with
  | nil => cases h
  | cons d ds =>
    rcases hd : d.breaks with _ | ⟨c, cs⟩
    · -- The first child is composed, and the break is to its right.
      obtain ⟨t, ht⟩ : ∃ t, Planned repeats d t := exists_planned d ((sound_iff d).2 hd)
      obtain ⟨xs, hxs⟩ := Tree.exists_subitems repeats t (ht.fits hm.1)
      rw [allTrees, ht.trees, List.singleton_append, Tree.length_subitems hxs] at hroom
      have hds : AllBroken repeats (held + xs.length) ds b :=
        allBroken _ ds hm.2.2 (by omega) (by simpa [allBreaks, hd] using h)
      have hx : (d.subitems repeats >>= extending held) = .ok xs :=
        bind_extending_eq_ok_iff.2 ⟨by rw [ht.subitems, hxs], by omega⟩
      refine ⟨?_, ?_⟩
      · rw [allSubitems, appended_of_ok hx, hds.subitems]
        rfl
      · rw [allCalls, ht.calls, hx, allCompleted, hd, if_pos List.isEmpty_nil, ht.trees]
        simp [hds.calls]
    · -- The break is within the first child.
      obtain ⟨rfl, -⟩ : c = b ∧ cs ++ allBreaks ds = bs := by simpa [allBreaks, hd] using h
      have hbroken : Broken repeats d c := broken d hm.1 hd
      have hx : (d.subitems repeats >>= extending held) = .error c.fault := by
        rw [hbroken.subitems]
        rfl
      refine ⟨?_, ?_⟩
      · rw [allSubitems, appended_of_error hx]
      · rw [allCalls, hx, hbroken.calls, allCompleted, hd, if_neg (by simp)]
        simp

end

/-- A group that fits into memory has a plan if it is sound. -/
lemma exists_plan (f : Frame) {listed : Bool} {ds : List Draft} (hm : AllInMemory ds)
    (h : (group f listed ds).Sound) : ∃ p, plan repeats f ds = .ok p := by
  have hds : AllPlanned repeats ds := allPlanned ds h.2
  rw [hds.groupPlan]
  exact Tree.exists_plan repeats f _ ⟨hds.ne_nil h.1, hds.fits hm⟩

/-- Otherwise the first break says why it has none. -/
lemma exists_break (f : Frame) {listed : Bool} {ds : List Draft} (hm : AllInMemory ds)
    (h : ¬ (group f listed ds).Sound) :
    ∃ b, (group f listed ds).breaks.head? = some b ∧ plan repeats f ds = .error b.fault := by
  rcases hb : (group f listed ds).breaks with _ | ⟨b, bs⟩
  · exact absurd ((sound_iff _).2 hb) h
  · have hx : ([·]) <$> plan repeats f ds = .error b.fault :=
      (broken (group f listed ds) hm hb).subitems
    refine ⟨b, rfl, ?_⟩
    rcases hp : plan repeats f ds with e | p <;> rw [hp] at hx <;> cases hx
    rfl

/-- The calls of a draft that fits into memory are those of what is completed. -/
lemma calls_eq_completed (d : Draft) (hm : d.InMemory) :
    d.calls repeats = d.completed.flatMap (Tree.calls repeats) := by
  rcases hb : d.breaks with _ | ⟨b, bs⟩
  · have hs := (sound_iff d).2 hb
    obtain ⟨t, ht⟩ : ∃ t, Planned repeats d t := exists_planned d hs
    rw [completed_of_sound d hs, ht.trees, ht.calls]
    simp
  · exact (broken d hm hb).calls

end Draft

/-! ### Trees as drafts -/

namespace Tree

mutual

/-- A tree is a draft with its children in tuples. -/
def draft : Tree → Draft
  | slot s => .slot s
  | group f ts => .group f false (drafts ts)

def drafts : List Tree → List Draft
  | [] => []
  | t :: ts => t.draft :: drafts ts

end

lemma isEmpty_drafts (ts : List Tree) : (drafts ts).isEmpty = ts.isEmpty := by
  cases ts <;> rfl

mutual

lemma toValue_draft (t : Tree) : t.draft.toValue = t.toValue := by
  cases t with
  | slot s => rfl
  | group f ts =>
    rw [draft, Draft.toValue, toValues_drafts]
    rfl

lemma toValues_drafts (ts : List Tree) : Draft.toValues (drafts ts) = toValues ts := by
  cases ts with
  | nil => rfl
  | cons t ts => rw [drafts, Draft.toValues, toValue_draft, toValues_drafts, toValues]

end

mutual

lemma trees_draft (t : Tree) : t.draft.trees = [t] := by
  cases t with
  | slot s => rfl
  | group f ts => rw [draft, Draft.trees, allTrees_drafts]

lemma allTrees_drafts (ts : List Tree) : Draft.allTrees (drafts ts) = ts := by
  cases ts with
  | nil => rfl
  | cons t ts =>
    rw [drafts, Draft.allTrees, trees_draft, allTrees_drafts]
    rfl

end

lemma groupPlan_drafts (repeats : Bool) (f : Frame) (ts : List Tree)
    (xs : Except Fault (List Plan)) :
    Draft.groupPlan repeats f (drafts ts) xs = groupPlan repeats f ts xs := by
  rw [Draft.groupPlan, groupPlan, isEmpty_drafts, allTrees_drafts]

mutual

lemma subitems_draft (repeats : Bool) (t : Tree) :
    t.draft.subitems repeats = t.subitems repeats := by
  cases t with
  | slot s => rfl
  | group f ts =>
    rw [draft, Draft.subitems, allSubitems_drafts, groupPlan_drafts, subitems]

lemma allSubitems_drafts (repeats : Bool) (held : Nat) (ts : List Tree) :
    Draft.allSubitems repeats held (drafts ts) = allSubitems repeats held ts := by
  cases ts with
  | nil => rfl
  | cons t ts =>
    simp only [drafts, Draft.allSubitems, allSubitems, subitems_draft repeats t,
      allSubitems_drafts repeats _ ts]

end

mutual

lemma calls_draft (repeats : Bool) (t : Tree) : t.draft.calls repeats = t.calls repeats := by
  cases t with
  | slot s => rfl
  | group f ts =>
    rcases hp : groupPlan repeats f ts (allSubitems repeats 0 ts) with e | p
    all_goals simp only [draft, Draft.calls, calls, allCalls_drafts repeats _ ts,
      allSubitems_drafts, groupPlan_drafts, hp]

lemma allCalls_drafts (repeats : Bool) (held : Nat) (ts : List Tree) :
    Draft.allCalls repeats held (drafts ts) = allCalls repeats held ts := by
  cases ts with
  | nil => rfl
  | cons t ts =>
    rcases hx : t.subitems repeats >>= extending held with e | xs
    all_goals simp only [drafts, Draft.allCalls, allCalls, calls_draft repeats t,
      allCalls_drafts repeats _ ts, subitems_draft, hx]

end

end Tree

end LayoutTree
