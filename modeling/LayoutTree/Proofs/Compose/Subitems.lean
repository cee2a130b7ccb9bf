import LayoutTree.Proofs.Compose.Engaging

/-!
The host groups that the model engine makes of a tree, and how many subitems they are laid out
with: one for each copy that a slot asks for, and one for each group.
-/

namespace LayoutTree

open Run

/-! ### Host groups -/

namespace Value

mutual

/-- The host groups in a host object, each before those among its subitems. -/
def hostGroups : Value → List Value
  | .itemGroup id z d xs n i e g => .itemGroup id z d xs n i e g :: allHostGroups xs
  | _ => []

def allHostGroups : List Value → List Value
  | [] => []
  | x :: xs => x.hostGroups ++ allHostGroups xs

end

lemma allHostGroups_append (xs ys : List Value) :
    allHostGroups (xs ++ ys) = allHostGroups xs ++ allHostGroups ys := by
  induction xs with
  | nil => rfl
  | cons x xs ih => rw [List.cons_append, allHostGroups, ih, allHostGroups, List.append_assoc]

/-- The value is an item of the model engine. -/
def IsItem (v : Value) : Prop := ∃ id z i e, v = .item id z i e

/-- The count and the subitems of a host group: it lists one subitem or more, or it repeats a
single item twice or more. -/
inductive Filled : Value → List Value → Prop
  | listed {xs : List Value} : xs ≠ [] → Filled .null xs
  | repeated {n : Nat} {x : Value} : 2 ≤ n → x.IsItem → Filled (.int n) [x]

end Value

namespace Tree

mutual

/-- The groups in a tree with their children, each before those among its children. -/
def groups : Tree → List (Frame × List Tree)
  | slot _ => []
  | group f ts => (f, ts) :: allGroups ts

def allGroups : List Tree → List (Frame × List Tree)
  | [] => []
  | t :: ts => t.groups ++ allGroups ts

end

lemma width_append (ts us : List Tree) : width (ts ++ us) = width ts + width us := by
  simp only [width, Slot.total, List.filterMap_append, List.filter_append, List.map_append,
    List.sum_append, List.length_append]
  omega

lemma width_pos {ts : List Tree} (h : ts ≠ []) : 0 < width ts := by
  rcases ts with _ | ⟨_ | _, ts⟩
  · exact absurd rfl h
  · rename_i s
    have := s.count_pos
    rw [width_slot]
    omega
  · rw [width_group]
    omega

lemma eq_map_slot {ts : List Tree} {ss : List Slot} (h : ts.mapM slot? = some ss) :
    ts = ss.map slot := by
  induction ts generalizing ss with
  | nil =>
    cases h
    rfl
  | cons t ts ih =>
    rcases t with s | ⟨f, us⟩
    · rcases hss : ts.mapM slot? with _ | rest
      · simp [slot?, hss] at h
      obtain rfl : s :: rest = ss := by simpa [slot?, hss] using h
      rw [List.map_cons, ih hss]
    · simp [slot?] at h

lemma width_slots (ss : List Slot) : width (ss.map slot) = Slot.total ss := by
  induction ss with
  | nil => rfl
  | cons s ss ih =>
    rw [List.map_cons, width_slot, ih]
    simp [Slot.total]

lemma allGroups_slots (ss : List Slot) : allGroups (ss.map slot) = [] := by
  induction ss with
  | nil => rfl
  | cons s ss ih => rw [List.map_cons, allGroups, ih, groups, List.append_nil]

end Tree

/-- A host group was made of a group: it is filled, and has the size and the direction of the group
and its children. Its subitems as laid out can be read at any time; there are some, and as many as
the children of the group ask for. -/
def Value.Hosts (v : Value) (f : Frame) (ts : List Tree) : Prop :=
  ∃ id xs n i e g, v = .itemGroup id f.size f.direction xs n i e g ∧ Filled n xs ∧
    ∃ ys, (∀ ev s, (field v "effective_subitems").exec ev s = (.ok (.list ys), s)) ∧ ys ≠ [] ∧
      ys.length = Tree.width ts

/-! ### Reading the subitems -/

section Reading

variable (ev : Evaluator) (s : Session)

lemma exec_effectiveSubitems (id : Nat) (z : LayoutSize) (d : Direction) (xs : List Value)
    (n i e g : Value) :
    (field (.itemGroup id z d xs n i e g) "effective_subitems").exec ev s =
      (Value.list <$> Value.effectiveSubitems xs n, s) := by
  have hown : (inherent? (.itemGroup id z d xs n i e g) "effective_subitems").exec ev s =
      ((fun ys => some (.list ys)) <$> Value.effectiveSubitems xs n, s) := by
    change ((liftM (Value.effectiveSubitems xs n) : Run (List Value)) >>= fun ys =>
      pure (some (Value.list ys))).exec ev s = _
    rw [exec_bind, exec_lift]
    cases Value.effectiveSubitems xs n <;> rfl
  change ((inherent? _ "effective_subitems") >>= _).exec ev s = _
  rw [exec_bind, hown]
  cases Value.effectiveSubitems xs n <;> rfl

end Reading

lemma Value.Filled.ne_bool {n : Value} {xs : List Value} (h : Filled n xs) (b : Bool) :
    n ≠ .bool b := by
  cases h <;> nofun

/-- The subitems of a host group as they are read are those as laid out. -/
lemma Value.Hosts.reads {v : Value} {f : Frame} {ts : List Tree} (h : v.Hosts f ts) :
    ∃ id xs n i e g ys, v = .itemGroup id f.size f.direction xs n i e g ∧ Filled n xs ∧
      effectiveSubitems xs n = .ok ys ∧
      ∀ ev s, (field v "effective_subitems").exec ev s = (.ok (.list ys), s) := by
  obtain ⟨id, xs, n, i, e, g, rfl, hfilled, ys, hread, -⟩ := h
  have hys := congrArg Prod.fst (hread .none (.initial [] false))
  rw [exec_effectiveSubitems] at hys
  rcases heffective : effectiveSubitems xs n with f | zs <;> rw [heffective] at hys <;> cases hys
  exact ⟨id, xs, n, i, e, g, ys, rfl, hfilled, heffective, hread⟩

/-- Listed subitems are laid out as they are. -/
lemma Value.Hosts.of_listed {f : Frame} {ts : List Tree} {xs : List Value} (id : Nat)
    (i e g : Value) (hne : ts ≠ []) (hx : xs.length = Tree.width ts) :
    (Value.itemGroup id f.size f.direction xs .null i e g).Hosts f ts := by
  have hxs : xs ≠ [] := by
    have := Tree.width_pos hne
    rintro rfl
    simp at hx
    omega
  exact ⟨_, _, _, _, _, _, rfl, .listed hxs, xs,
    fun ev s => exec_effectiveSubitems ev s .., hxs, hx⟩

/-- A repeated item is laid out as often as the count says, if memory holds so many. -/
lemma Value.Hosts.of_repeated {f : Frame} {ts : List Tree} {x : Value} (id : Nat) (i e g : Value)
    (hw : 2 ≤ Tree.width ts) (hfit : Tree.width ts < memoryLimit) (hx : x.IsItem) :
    (Value.itemGroup id f.size f.direction [x] (.int (Tree.width ts)) i e g).Hosts f ts := by
  have heffective : effectiveSubitems [x] (.int (Tree.width ts)) =
      .ok (List.replicate (Tree.width ts) x) := by
    unfold effectiveSubitems copies
    dsimp only
    rw [Value.times_of_lt hfit]
    rfl
  refine ⟨_, _, _, _, _, _, rfl, .repeated hw hx, List.replicate (Tree.width ts) x,
    fun ev s => ?_, ?_, List.length_replicate⟩
  · rw [exec_effectiveSubitems, heffective]
    rfl
  · rw [Ne, List.replicate_eq_nil_iff]
    omega

/-! ### What plans become -/

/-- What of a host group no configuration replaces. -/
def Value.core? : Value → Option (LayoutSize × Direction × List Value × Value)
  | .itemGroup _ z d xs n _ _ _ => some (z, d, xs, n)
  | _ => none

namespace Plan

variable {base : Nat} {p : Plan} {v : Value}

lemma Modelled.of_insets {i : Insets} (h : (p.insets i).Modelled base v) :
    ∃ w, p.Modelled base w ∧ w.core? = v.core? := by
  cases h with
  | insetsItem _ h => exact ⟨_, h, rfl⟩
  | insetsGroup _ h => exact ⟨_, h, rfl⟩

lemma Modelled.of_edges {e : EdgeSpacing} (h : (p.edges e).Modelled base v) :
    ∃ w, p.Modelled base w ∧ w.core? = v.core? := by
  cases h with
  | edgesItem _ h => exact ⟨_, h, rfl⟩
  | edgesGroup _ h => exact ⟨_, h, rfl⟩

lemma Modelled.of_spacing {g : Spacing} (h : (p.spacing g).Modelled base v) :
    ∃ w, p.Modelled base w ∧ w.core? = v.core? := by
  cases h with
  | spacing _ h => exact ⟨_, h, rfl⟩

lemma Modelled.of_configured {i : Option Insets} {e : Option EdgeSpacing}
    (h : (p.configured i e).Modelled base v) : ∃ w, p.Modelled base w ∧ w.core? = v.core? := by
  have hinsets : ∀ {w : Value}, (i.elim p p.insets).Modelled base w →
      ∃ x, p.Modelled base x ∧ x.core? = w.core? := by
    intro w hw
    cases i with
    | none => exact ⟨w, hw, rfl⟩
    | some i => exact hw.of_insets
  cases e with
  | none => exact hinsets h
  | some e =>
    obtain ⟨w, hw, hcore⟩ := Modelled.of_edges h
    obtain ⟨x, hx, hcore'⟩ := hinsets hw
    exact ⟨x, hx, hcore'.trans hcore⟩

/-- A configured host group has the subitems and the count that it was made with. -/
lemma Modelled.of_frame {f : Frame} (h : (f.plan p).Modelled base v) :
    ∃ w, p.Modelled base w ∧ w.core? = v.core? := by
  unfold Frame.plan at h
  cases hg : f.spacing with
  | none =>
    rw [hg] at h
    exact Modelled.of_configured h
  | some g =>
    rw [hg] at h
    obtain ⟨w, hw, hcore⟩ := Modelled.of_spacing h
    obtain ⟨x, hx, hcore'⟩ := hw.of_configured
    exact ⟨x, hx, hcore'.trans hcore⟩

/-- What is not planned as a group becomes an item. -/
lemma Modelled.isItem {p : Plan} {v : Value} (h : p.Modelled base v) (hp : p.isGroup = false) :
    v.IsItem := by
  cases h with
  | insetsGroup _ h =>
    obtain ⟨_, _, _, _, h⟩ := Modelled.isItem h hp
    cases h
  | edgesGroup _ h =>
    obtain ⟨_, _, _, _, h⟩ := Modelled.isItem h hp
    cases h
  | group => cases hp
  | repeated => cases hp
  | spacing _ h =>
    obtain ⟨_, _, _, _, h⟩ := Modelled.isItem h hp
    cases h
  | _ => exact ⟨_, _, _, _, rfl⟩

lemma Modelled.isItem_leaf {s : Slot} (h : s.leaf.Modelled base v) : v.IsItem :=
  h.isItem (Plan.isGroup_configured ..)

/-- The copies that a slot asks for are items. -/
lemma AllModelled.items {s : Slot} {n : Nat} {vs : List Value}
    (h : AllModelled base (List.replicate n s.leaf) vs) :
    vs.length = n ∧ Value.allHostGroups vs = [] := by
  induction n generalizing vs with
  | zero =>
    cases h
    exact ⟨rfl, rfl⟩
  | succ n ih =>
    cases h with
    | cons hv hvs =>
      obtain ⟨hlength, hgroups⟩ := ih hvs
      obtain ⟨id, z, i, e, rfl⟩ := hv.isItem_leaf
      exact ⟨congrArg (· + 1) hlength, hgroups⟩

end Plan

/-! ### What trees become -/

namespace Tree

variable {base : Nat} {repeats : Bool}

/-- Host groups were made of groups, one by one. -/
abbrev Hosted (vs : List Value) (gs : List (Frame × List Tree)) : Prop :=
  List.Forall₂ (fun v g => v.Hosts g.1 g.2) vs gs

lemma plan_eq_ok {f : Frame} {ts : List Tree} {p : Plan} (h : plan repeats f ts = .ok p) :
    ts ≠ [] ∧ ∃ xs, allSubitems repeats 0 ts = .ok xs ∧
      p = f.plan (f.core (if repeats then repetition? ts else none) xs) := by
  rw [plan, groupPlan] at h
  split at h
  · cases h
  · rename_i hne
    rcases hx : allSubitems repeats 0 ts with e | xs <;> rw [hx] at h <;> cases h
    exact ⟨by simpa using hne, xs, rfl, rfl⟩

/-- The subitems of trees that were composed were put in a list, which memory holds. -/
lemma width_lt_of_allSubitems {held : Nat} {ts : List Tree} {xs : List Plan}
    (h : allSubitems repeats held ts = .ok xs) (hheld : held < memoryLimit) :
    held + width ts < memoryLimit := by
  induction ts generalizing held xs with
  | nil => exact hheld
  | cons t ts ih =>
    obtain ⟨ys, zs, hy, hroom, hz, -⟩ := appended_eq_ok_iff.1 h
    rw [length_subitems hy, ← Nat.add_assoc]
    exact ih hz hroom

/-- Whatever host objects the model engine makes of trees, they are as many as the trees ask for,
and the host groups among them were made of the groups among the trees. -/
def SubitemsHosted (repeats : Bool) (base : Nat) (ts : List Tree) : Prop :=
  ∀ {held : Nat} {ps : List Plan} {vs : List Value}, allSubitems repeats held ts = .ok ps →
    Plan.AllModelled base ps vs →
    vs.length = width ts ∧ Hosted (Value.allHostGroups vs) (allGroups ts)

/-- The host group of a group and those within it. -/
lemma hosted_plan (f : Frame) {ts : List Tree} (hts : SubitemsHosted repeats base ts) {p : Plan}
    {v : Value} (h : plan repeats f ts = .ok p) (hv : p.Modelled base v) :
    Hosted v.hostGroups (group f ts).groups := by
  obtain ⟨hne, xs, hxs, rfl⟩ := plan_eq_ok h
  obtain ⟨w, hw, hcore⟩ := hv.of_frame
  obtain ⟨id, z, d, vs, n, i, e, g, rfl⟩ :=
    hv.eq_itemGroup ((f.isGroup_plan _).trans (f.isGroup_core ..))
  rcases hr : (if repeats then repetition? ts else none) with _ | ⟨leaf, k⟩ <;> rw [hr] at hw
  · -- a group that lists its subitems
    cases hw with
    | group _ hvs =>
      cases hcore
      obtain ⟨hlength, hgroups⟩ := hts hxs hvs
      exact .cons (.of_listed id i e g hne hlength) hgroups
  · -- a group that repeats the item of its slots
    have hrep : repetition? ts = some (leaf, k) := by
      split at hr
      · exact hr
      · cases hr
    have hfit : width ts < memoryLimit := by
      simpa using width_lt_of_allSubitems hxs (by decide)
    obtain ⟨s, ss, hss, -, hk, rfl, rfl⟩ := repetition?_eq_some_iff.1 hrep
    cases hw with
    | repeated _ hx =>
      cases hcore
      have hitem := hx.isItem_leaf
      obtain rfl := eq_map_slot hss
      rw [← width_slots] at hk ⊢
      have hfirst := Value.Hosts.of_repeated (f := f) id i e g hk hfit hitem
      obtain ⟨j, y, a, b, rfl⟩ := hitem
      rw [groups, allGroups_slots]
      exact .cons hfirst .nil

mutual

/-- The host objects that a tree adds to the subitems of a group. -/
lemma hosted_subitems (t : Tree) {ps : List Plan} {vs : List Value}
    (h : t.subitems repeats = .ok ps) (hv : Plan.AllModelled base ps vs) :
    vs.length = width [t] ∧ Hosted (Value.allHostGroups vs) t.groups := by
  cases t with
  | slot s =>
    rw [Slot.items_eq h] at hv
    obtain ⟨hlength, hgroups⟩ := hv.items
    rw [hlength, hgroups, width_slot]
    exact ⟨rfl, .nil⟩
  | group f ts =>
    rcases hp : plan repeats f ts with e | p <;> rw [subitems, ← plan, hp] at h <;> cases h
    cases hv with
    | cons hv hnil =>
      cases hnil
      refine ⟨rfl, ?_⟩
      rw [Value.allHostGroups, Value.allHostGroups, List.append_nil]
      exact hosted_plan f (hosted_allSubitems ts) hp hv

lemma hosted_allSubitems (ts : List Tree) : SubitemsHosted repeats base ts := by
  intro held ps vs h hv
  cases ts with
  | nil =>
    cases h
    cases hv
    exact ⟨rfl, .nil⟩
  | cons t ts =>
    obtain ⟨xs, ys, hx, -, hy, rfl⟩ := appended_eq_ok_iff.1 h
    obtain ⟨us, ws, rfl, hus, hws⟩ := hv.exists_append
    obtain ⟨hlength, hgroups⟩ := hosted_subitems t hx hus
    obtain ⟨hlength', hgroups'⟩ := hosted_allSubitems ts hy hws
    rw [List.length_append, hlength, hlength', Value.allHostGroups_append, allGroups,
      ← width_append]
    exact ⟨rfl, List.rel_append hgroups hgroups'⟩

end

lemma hosts_plan (f : Frame) (ts : List Tree) {p : Plan} {v : Value}
    (h : plan repeats f ts = .ok p) (hv : p.Modelled base v) : v.Hosts f ts := by
  obtain ⟨id, z, d, vs, n, i, e, g, rfl⟩ := hv.eq_itemGroup (isGroup_plan h)
  cases hosted_plan f (hosted_allSubitems ts) h hv with
  | cons hhead _ => exact hhead

end Tree

/-! ### Composing -/

section Composing

variable (ev : Evaluator) {s t : Session} {engine config requested v : Value} {c : EngineClass}

/-- What a composer with the model engine makes of a group is planned. -/
lemma Session.Provides.modelled (h : s.Provides engine config c requested) (hc : c.kind = .model)
    (f : Frame) (ts : List Tree)
    (hv : (do Composer.compose (← Composer.make engine config) (f.toValue (Tree.toValues ts)) :
      Run Value).exec ev s = (.ok v, t)) :
    ∃ base p, Tree.plan (c.repeatsFor requested) f ts = .ok p ∧ p.Modelled base v := by
  obtain ⟨C, u, hmake, hu, -, -⟩ := exec_engage ev h
  obtain ⟨x, w, hrun, hx, -⟩ := hu.exec_composeGroup ev f false (Tree.drafts ts)
  have hvalue : f.holding false (Draft.toValues (Tree.drafts ts)) =
      f.toValue (Tree.toValues ts) := by
    rw [Tree.toValues_drafts]
    rfl
  rw [exec_bind_ok hmake, ← hvalue, hu.exec_compose_group, hrun] at hv
  cases hv
  have hnone : c.refusal u = none := by rw [EngineClass.refusal, hc]
  have hplan : Draft.made (c.refusal u) (c.repeatsFor requested) f (Tree.drafts ts) =
      Tree.plan (c.repeatsFor requested) f ts := by
    rw [hnone, Draft.made_none, Draft.plan, Tree.groupPlan_drafts, Tree.allSubitems_drafts,
      Tree.plan]
  rw [hplan, hc] at hx
  rcases hp : Tree.plan (c.repeatsFor requested) f ts with e | p <;> rw [hp] at hx <;> cases hx
  exact ⟨u.serial, p, rfl, ‹_›⟩

/-- **Host groups**: whatever the configuration asks for, the host groups that the model engine
makes of a tree of groups are one for each group in it, in the same order. Each of them lists one
subitem or more, or repeats a single item twice or more, so that its subitems as laid out can be
read: there are some, and as many as the slots of the group ask for together and the groups in it.
-/
theorem compose_hosts (h : s.Provides engine config c requested) (hc : c.kind = .model)
    (f : Frame) (ts : List Tree)
    (hv : (do Composer.compose (← Composer.make engine config) (f.toValue (Tree.toValues ts)) :
      Run Value).exec ev s = (.ok v, t)) :
    List.Forall₂ (fun w g => w.Hosts g.1 g.2) v.hostGroups (Tree.group f ts).groups := by
  obtain ⟨base, p, hp, hv⟩ := h.modelled ev hc f ts hv
  exact Tree.hosted_plan f (Tree.hosted_allSubitems ts) hp hv

/-- The subitems as laid out are the same with repetition and without, up to the groups within them
that repeat items. -/
theorem effective_repeats {engine : Nat} {on : Option Bool} (hc : c.kind = .model)
    (hs : s.Genuine s.composers.size engine) (hu : s.Unattached)
    (ht : t.Genuine t.composers.size engine) (hu' : t.Unattached) (f : Frame) (ts : List Tree) :
    Agrees (fun v w => ∃ xs ys,
        (∀ ev s, (field v "effective_subitems").exec ev s = (.ok (.list xs), s)) ∧
        (∀ ev s, (field w "effective_subitems").exec ev s = (.ok (.list ys), s)) ∧
        Value.sameAll ys (Value.unrolledAll xs) = true)
      ((composeWith (c.engine engine) on (f.toValue (Tree.toValues ts))).exec ev s).1
      ((composeWith (c.engine engine) (some false) (f.toValue (Tree.toValues ts))).exec ev
        t).1 := by
  have hx := agrees_model ev engine on hc hs hu f ts
  have hy := agrees_model ev engine (some false) hc ht hu' f ts
  rw [show (c.supports && (some false).getD true) = false by simp] at hy
  refine hx.join hy (Tree.agrees_plans _ f ts) fun v p w q hv hw ⟨hq, hp, hlike⟩ => ?_
  have hsame := hlike.same_modelled hw hv.unrolled
  obtain ⟨id, xs, n, i, e, g, xs', rfl, hn, hxs, hread⟩ := (Tree.hosts_plan f ts hp hv).reads
  obtain ⟨id', ys, m, i', e', g', ys', rfl, hm, hys, hread'⟩ := (Tree.hosts_plan f ts hq hw).reads
  rw [Value.unrolled_of_effective hn.ne_bool hxs, Value.same_itemGroup] at hsame
  simp only [Bool.and_eq_true] at hsame
  obtain ⟨-, hnull, -, -, -, hsame⟩ := hsame
  cases hm with
  | listed =>
    cases hys
    exact ⟨xs', ys, hread, hread', hsame⟩
  | repeated => cases hnull

/-- A column of a slot and of a row whose slots ask for five items together. -/
theorem compose_hosts_column :
    let z : LayoutSize := ⟨1, ⟨2, .absolute, .zero⟩, ⟨3, .absolute, .zero⟩⟩
    let row : Frame := ⟨4, z, some (.none 5), none, .horizontal, some ⟨6, .fixed, .zero⟩⟩
    let column : Frame := ⟨7, z, none, none, .vertical, none⟩
    let slots : List Tree := [.slot ⟨8, z, none, none, 2, by decide⟩,
      .slot ⟨9, { z with id := 10 }, none, none, 3, by decide⟩]
    let ts : List Tree := [.slot ⟨11, z, none, none, 1, by decide⟩, .group row slots]
    let composing : Run Value := do
      Composer.compose (← Composer.make .null .null) (column.toValue (Tree.toValues ts))
    let run := composing.exec .none (.initial [] false)
    ∃ v, run.1 = .ok v ∧
      List.Forall₂ (fun w g => w.Hosts g.1 g.2) v.hostGroups [(column, ts), (row, slots)] ∧
      Tree.width ts = 2 ∧ Tree.width slots = 5 := by
  intro z row column slots ts composing run
  have hs : (Session.initial [] false).Provides .null .null .model .null :=
    ⟨Session.undisturbed_initial .., .missing, rfl, rfl⟩
  have hok : run.1.isOk = true := by decide +kernel
  rcases hrun : run with ⟨e | v, t⟩
  · rw [hrun] at hok
    cases hok
  · exact ⟨v, rfl, compose_hosts .none hs rfl column ts hrun, by decide, by decide⟩

end Composing

end LayoutTree
