import LayoutTree.Proofs.Builder.Configuration
import LayoutTree.Proofs.Lawful.Construct
import LayoutTree.Proofs.Yields

/-!
What is read where nodes are declared. Nodes and edge spacings are taken as they are, so as long as
those that are handed in hold what their fields are declared to hold, a well-typed tree is read, or
nothing.

Settling and reading go together: a value is settled so that what is read from it afterwards is a
tree.
-/

namespace LayoutTree

open Run Reading

/-! ### Values that hold what they are declared to hold -/

namespace Value

/-- The node of a tree. -/
def IsTree (v : Value) : Prop := ∃ t : Tree, v = t.toValue

/-- Edge spacings hold spacings, and slots and groups are trees. -/
structure Typed (v : Value) : Prop where
  edges : v.isEdges = true → ∃ e : EdgeSpacing, v = e.toValue
  node : v.isChild = true → v.IsTree

/-- Whatever occurs in the value holds what it is declared to hold. -/
def Sound (v : Value) : Prop := ∀ w : Value, w.Occurs v → w.Typed

namespace Sound

variable {v : Value}

lemma typed (h : v.Sound) : v.Typed := h v .self

/-- What holds nothing and is nothing that could holds what it is declared to hold. -/
lemma of_plain (hi : v.inside = []) (he : v.isEdges = false) (hc : v.isChild = false) :
    v.Sound := by
  intro w hw
  cases hw with
  | self => exact ⟨fun h => by simp [he] at h, fun h => by simp [hc] at h⟩
  | inside hu _ => simp [hi] at hu

lemma inside (h : v.Sound) {u : Value} (hu : u ∈ v.inside) : u.Sound := fun w hw =>
  h w (.inside hu hw)

lemma list {xs : List Value} (h : (Value.list xs).Sound) : ∀ x ∈ xs, x.Sound := fun _ hx =>
  h.inside hx

lemma tuple {xs : List Value} (h : (Value.tuple xs).Sound) : ∀ x ∈ xs, x.Sound := fun _ hx =>
  h.inside hx

lemma get? {id : Nat} {fs : Fields} (h : (Value.dict id fs).Sound) {name : Text}
    (hv : fs.get? name = some v) : v.Sound :=
  h.inside (List.mem_map.2 ⟨_, Fields.mem_of_get? hv, rfl⟩)

end Sound

end Value

/-- The node of a tree with something else for its edge spacings. -/
def Tree.withEdges (e : Value) : Tree → Value
  | slot s => .slot s.id (.text "slot") (.size s.size) (.ofOption .insets s.insets) e (.int s.count)
  | group f ts => .group f.id (.text "group") (.size f.size) (.ofOption .insets f.insets) e
    (.direction f.direction) (.ofOption .spacing f.spacing) (.tuple (toValues ts))

/-- Declared edge spacings, or none. -/
def Value.AreEdges (v : Value) : Prop := ∃ o, v = .ofOption EdgeSpacing.toValue o

lemma Value.Sound.areEdges {v : Value} (h : v.Sound) (hv : v.isEdges = true) : v.AreEdges :=
  let ⟨e, he⟩ := h.typed.edges hv
  ⟨some e, he⟩

lemma Tree.isTree_withEdges (t : Tree) {e : Value} (h : e.AreEdges) : (t.withEdges e).IsTree := by
  obtain ⟨o, rfl⟩ := h
  cases t with
  | slot s => exact ⟨.slot { s with edges := o }, rfl⟩
  | group f ts => exact ⟨.group { f with edges := o } ts, rfl⟩

/-! ### Reading -/

namespace Value

variable {fs : Fields} {v : Value}

/-- What is read is given in one form. -/
lemma gives_form {α : Type} (f : α → Value) (r : Reading α) :
    (f <$> r).Gives fun v => ∃ a, v = f a :=
  (Gives.any r).map fun a _ => ⟨a, rfl⟩

/-- A field that may be left out or null is empty or has a value in one form. -/
lemma gives_optional {α : Type} {f : α → Value} {r : Value → Reading Value}
    (h : ∀ v, (r v).Gives fun w => ∃ a, w = f a) (name : String) :
    (withDefault fs name nothing (orNull r)).Gives fun w => ∃ o, w = .ofOption f o := by
  refine .withDefault (.pure ⟨none, rfl⟩) fun v _ => ?_
  unfold orNull
  split
  · exact .pure ⟨none, rfl⟩
  · exact (h _).mono fun w ⟨a, ha⟩ => ⟨some a, ha⟩

lemma gives_spacing (v : Value) : v.readSpacing.Gives fun w => ∃ g, w = .spacing g := by
  unfold readSpacing
  split
  · exact .pure ⟨_, rfl⟩
  · exact gives_form _ _
  · exact .refuse _

lemma gives_insets (v : Value) : v.readInsets.Gives fun w => ∃ i, w = .insets i := by
  unfold readInsets
  split
  · exact .pure ⟨_, rfl⟩
  · exact gives_form _ _
  · exact .refuse _

/-- Edge spacings that are made hold spacings. -/
lemma gives_edges_made (fs : Fields) : (edgesOf fs).Gives AreEdges := by
  refine .seq (.seq (.seq (.seq (.map (.any _) ?_) (gives_optional gives_spacing _))
    (gives_optional gives_spacing _)) (gives_optional gives_spacing _))
    (gives_optional gives_spacing _)
  rintro id - _ ⟨l, rfl⟩ _ ⟨t, rfl⟩ _ ⟨r, rfl⟩ _ ⟨b, rfl⟩
  exact ⟨some ⟨id, l, t, r, b⟩, rfl⟩

/-- Edge spacings that are handed in are taken as they are. -/
lemma gives_edges_taken {E : Value → Prop} (hE : ∀ w, AreEdges w → E w)
    (h : v.isEdges = true → E v) : (orNull readEdges v).Gives E := by
  unfold orNull
  split
  · exact .pure (hE _ ⟨none, rfl⟩)
  · unfold readEdges
    split
    · exact .pure (h rfl)
    · exact (gives_edges_made _).mono hE
    · exact .refuse _

/-- A kind that is read is the one that is expected. -/
lemma gives_kind (fs : Fields) (kind : String) :
    (withDefault fs "kind" (pure (.text kind)) (word kind)).Gives fun k => k = .text kind := by
  refine .withDefault (.pure rfl) fun v _ => ?_
  unfold word
  split
  · split
    · exact .pure (by simp_all)
    · exact .refuse _
  · exact .refuse _
  · exact .refuse _

/-- What is read from fields is a node of a tree but for its edge spacings, of which this is
known. -/
def Bordered (E : Value → Prop) (v : Value) : Prop :=
  ∃ (t : Tree) (e : Value), v = t.withEdges e ∧ E e

lemma exists_trees {vs : List Value} (h : ∀ v ∈ vs, v.IsTree) : ∃ ts, vs = Tree.toValues ts := by
  induction vs with
  | nil => exact ⟨[], rfl⟩
  | cons v vs ih =>
    obtain ⟨⟨t, rfl⟩, hvs⟩ := List.forall_mem_cons.1 h
    obtain ⟨ts, rfl⟩ := ih hvs
    exact ⟨t :: ts, rfl⟩

section Nodes

variable {E : Value → Prop} (hnull : E .null)
  (hE : ∀ v, fs.get? "edge_spacing" = some v → (orNull readEdges v).Gives E)
include hnull hE

lemma gives_slot_bordered : (slotOf fs).Gives (Bordered E) := by
  refine .seq (.seq (.seq (.seq (.seq (.map (.any _) ?_) (gives_kind fs _))
    (.required fun v _ => gives_form .size _)) (gives_optional gives_insets _))
    (.withDefault (.pure hnull) hE)) (.withDefault (.pure ⟨1, rfl, by decide⟩) fun v _ =>
      gives_count v)
  rintro id - _ rfl _ ⟨z, rfl⟩ _ ⟨i, rfl⟩ e he _ ⟨n, rfl, hn⟩
  lift n to Nat using by omega
  exact ⟨.slot ⟨id, z, i, none, n, by omega⟩, e, rfl, he⟩

lemma gives_group_bordered {children : Reading Value}
    (hc : children.Gives fun v => ∃ vs, v = .tuple vs ∧ ∀ w ∈ vs, w.IsTree) :
    (groupOf fs children).Gives (Bordered E) := by
  refine .seq (.seq (.seq (.seq (.seq (.seq (.seq (.map (.any _) ?_) (gives_kind fs _))
    (.required fun v _ => gives_form .size _)) (gives_optional gives_insets _))
    (.withDefault (.pure hnull) hE))
    (.withDefault (.pure ⟨.horizontal, rfl⟩) fun v _ => gives_form .direction _))
    (gives_optional gives_spacing _)) hc
  rintro id - _ rfl _ ⟨z, rfl⟩ _ ⟨i, rfl⟩ e he _ ⟨d, rfl⟩ _ ⟨g, rfl⟩ _ ⟨vs, rfl, hvs⟩
  obtain ⟨ts, rfl⟩ := exists_trees hvs
  exact ⟨.group ⟨id, z, i, none, d, g⟩ ts, e, rfl, he⟩

end Nodes

/-- Nodes of trees in a row. -/
def AllTrees (vs : List Value) : Prop := ∀ v ∈ vs, v.IsTree

/-- Edge spacings in a field of a dict that holds what it is declared to hold. -/
lemma Sound.gives_edges {id : Nat} (h : (dict id fs).Sound) (name : Text) (v : Value)
    (hv : fs.get? name = some v) : (orNull readEdges v).Gives AreEdges :=
  gives_edges_taken (fun _ hw => hw) (h.get? hv).areEdges

lemma Bordered.isTree {E : Value → Prop} (h : Bordered E v) (hE : ∀ e, E e → e.AreEdges) :
    v.IsTree := by
  obtain ⟨t, e, rfl, he⟩ := h
  exact t.isTree_withEdges (hE e he)

/-! ### Settling -/

/-- What is read as a child of a group is the node of a tree. -/
def Ready (outer : Nesting) (v : Value) : Prop := (child outer v).Gives IsTree

/-- What is read as the children of a group are nodes of trees. -/
def ReadyRow (outer : Nesting) (v : Value) : Prop := (children outer v).Gives AllTrees

variable {outer : Nesting}

/-- Neither nodes nor dicts are read as children. -/
lemma ready_of_refused (hc : v.isChild = false) (hd : v.isDict = false) : Ready outer v := by
  have hrefuse : (choose [("Slot", refuse .notModel), ("Group", refuse .notModel)] :
      Reading Value).Gives IsTree := by
    refine .choose fun p hp => ?_
    simp only [List.mem_cons, List.not_mem_nil, or_false] at hp
    rcases hp with rfl | rfl <;> exact .refuse _
  unfold Ready
  cases v with
  | slot => cases hc
  | group => cases hc
  | dict => cases hd
  | _ => exact hrefuse

lemma gives_childrenFrom_ready (i : Nat) {vs : List Value} (h : ∀ v ∈ vs, Ready outer v) :
    (childrenFrom outer i vs).Gives AllTrees := by
  induction vs generalizing i with
  | nil => exact .pure fun v hv => absurd hv List.not_mem_nil
  | cons v vs ih =>
    obtain ⟨hv, hvs⟩ := List.forall_mem_cons.1 h
    rw [childrenFrom]
    exact gives_cons hv (ih (i + 1) hvs)

lemma readyRow_list {vs : List Value} (h : ∀ v ∈ vs, Ready outer v) :
    ReadyRow outer (.list vs) := (gives_childrenFrom_ready 0 h).atMost _

lemma readyRow_tuple {vs : List Value} (h : ∀ v ∈ vs, Ready outer v) :
    ReadyRow outer (.tuple vs) := gives_childrenFrom_ready 0 h

/-- What is no sequence has no children. -/
lemma readyRow_of_refused (hl : ∀ vs, v ≠ .list vs) (ht : ∀ vs, v ≠ .tuple vs) :
    ReadyRow outer v := by
  unfold ReadyRow
  cases v <;> first
    | exact absurd rfl (hl _)
    | exact absurd rfl (ht _)
    | (simp only [children]; exact gives_noElements _)

/-- The children among fields are read as nodes of trees. -/
def Furnished (outer : Nesting) (fs : Fields) : Prop :=
  (childrenOf outer fs).Gives fun v => ∃ vs, v = .tuple vs ∧ AllTrees vs

lemma furnished_cons {w : Value} (h : ReadyRow outer w) (fs : Fields) :
    Furnished outer (("children", w) :: fs) := by
  unfold Furnished
  rw [childrenOf, if_pos (by simp)]
  exact .given _ (.map h fun vs hvs => ⟨vs, rfl, hvs⟩)

lemma furnished_skip {k : Text} (hk : (k == "children") = false) {w : Value} :
    Furnished outer ((k, w) :: fs) ↔ Furnished outer fs := by
  unfold Furnished
  rw [childrenOf, if_neg (by simp [hk])]

/-- A dict is read as a group whose children are nodes of trees. -/
lemma gives_nested_bordered {E : Value → Prop} (hnull : E .null)
    (hE : ∀ v, fs.get? "edge_spacing" = some v → (orNull readEdges v).Gives E) (id : Nat)
    (h : ∀ inner, outer.enter? "Group" id = some inner → Furnished inner fs) :
    (nested outer "Group" id fun inner => groupOf fs (childrenOf inner fs)).Gives (Bordered E) := by
  unfold nested
  rcases hi : outer.enter? "Group" id with _ | inner
  · exact .refuse _
  · exact gives_group_bordered hnull hE (h inner hi)

lemma ready_dict {id : Nat}
    (hE : ∀ v, fs.get? "edge_spacing" = some v → (orNull readEdges v).Gives AreEdges)
    (h : ∀ inner, outer.enter? "Group" id = some inner → Furnished inner fs) :
    Ready outer (.dict id fs) := by
  refine .choose fun p hp => ?_
  simp only [List.mem_cons, List.not_mem_nil, or_false] at hp
  rcases hp with rfl | rfl
  · exact (gives_slot_bordered ⟨none, rfl⟩ hE).mono fun _ hv => hv.isTree fun _ he => he
  · exact (gives_nested_bordered ⟨none, rfl⟩ hE id h).mono fun _ hv => hv.isTree fun _ he => he

end Value

/-! ### Settling -/

/-- What is drawn from cursors, in such a session and later, holds what it is declared to hold. -/
structure Session.Supplies (ev : Evaluator) (I : Session → Prop) : Prop where
  serial : ∀ s n, I s → I { s with serial := n }
  draw : ∀ id, (draw id).Yields ev I fun o => ∀ x, o = some x → x.Sound

/-- Where there are no cursors nothing is drawn. -/
lemma Session.Supplies.of_cursors (ev : Evaluator) :
    Session.Supplies ev fun s => s.cursors = #[] where
  serial _ _ h := h
  draw id s h := by
    have hrun : (Run.draw id).exec ev s = (.error .wrongArguments, s) :=
      exec_bind_error (exec_cursor_missing ev (by simp [h]))
    rw [hrun]
    exact ⟨h, nofun⟩

namespace Run

open Value

variable {ev : Evaluator} {I : Session → Prop} {outer : Nesting} {v : Value} {fs : Fields}

lemma replaced_cons {k : Text} {name : String} (hk : (k == name) = false) (v : Value)
    (o : Option Value) (fs : Fields) :
    replaced name o ((k, v) :: fs) = (k, v) :: replaced name o fs := by
  cases o with
  | none => rfl
  | some w => simp [replaced, Fields.put, hk]

lemma get?_replaced {name : String} {other : Text} (h : other ≠ name) (o : Option Value)
    (fs : Fields) : (replaced name o fs).get? other = fs.get? other := by
  cases o with
  | none => rfl
  | some w => exact Fields.get?_put_of_ne h fs w

variable (outer) in
/-- Elements that a value has by itself, if it is no sequence, are neither nodes nor dicts. -/
lemma yields_elementsAtHand? (hl : ∀ vs, v ≠ .list vs) (ht : ∀ vs, v ≠ .tuple vs) :
    (elementsAtHand? v).Yields ev I fun o => ∀ xs, o = some xs → ∀ x ∈ xs, Ready outer x := by
  have hpairs : ∀ fs, (pairs v fs).Yields ev I fun xs => ∀ x ∈ xs, Ready outer x := by
    refine fun fs s hs => ⟨hs, fun xs hxs x hx => ?_⟩
    cases hxs
    obtain ⟨f, -, rfl⟩ := List.mem_map.1 hx
    exact ready_of_refused rfl rfl
  unfold elementsAtHand?
  split
  · exact (hpairs _).map fun xs hxs ys hys => by cases hys; exact hxs
  · refine .pure fun xs hxs x hx => ?_
    cases v with
    | list vs => exact absurd rfl (hl vs)
    | tuple vs => exact absurd rfl (ht vs)
    | _ =>
      simp only [elements?, Value.text?, Option.map_none, Option.map_some, reduceCtorEq,
        Option.some.injEq] at hxs
      try subst hxs
      try obtain ⟨y, -, rfl⟩ := List.mem_map.1 hx
      try exact ready_of_refused rfl rfl

/-- What is settled in the place of a value that is no sequence is read as a row of trees. -/
lemma yields_settleOther (hl : ∀ vs, v ≠ .list vs) (ht : ∀ vs, v ≠ .tuple vs) :
    (settleOther v).Yields ev I (ReadyRow outer) := by
  unfold settleOther
  split
  · exact .pure (readyRow_of_refused hl ht)
  · exact .pure (readyRow_of_refused hl ht)
  · split
    · exact .pure (readyRow_of_refused hl ht)
    · refine .bind (yields_elementsAtHand? outer hl ht) fun o ho => ?_
      rcases o with _ | xs
      · exact .pure (readyRow_of_refused hl ht)
      · exact .pure (readyRow_list (ho xs rfl))

lemma yields_settleDrawn (hI : Session.Supplies ev I) (id : Nat) {settle : Value → Run Value}
    (hs : ∀ v : Value, v.Sound → (settle v).Yields ev I (Ready outer)) (n : Nat) {xs : List Value}
    (h : ∀ x ∈ xs, Ready outer x) : (settleDrawn id settle n xs).Yields ev I (ReadyRow outer) := by
  have hlist : ∀ {ys : List Value}, (∀ y ∈ ys, Ready outer y) →
      ReadyRow outer (Value.list ys.reverse) := fun hys =>
    readyRow_list fun y hy => hys y (List.mem_reverse.1 hy)
  induction n generalizing xs with
  | zero => exact .pure (hlist h)
  | succ n ih =>
    have hdraw : (tryCatch (some <$> draw id) fun _ => pure none : Run (Option (Option Value))
        ).Yields ev I fun o => ∀ x, o = some (some x) → x.Sound := by
      refine .tryCatch (.map (hI.draw id) fun o ho x hx => ?_)
        fun _ => .pure fun x hx => by cases hx
      cases hx
      exact ho x rfl
    refine .bind hdraw fun o ho => ?_
    rcases o with _ | _ | x
    · exact .pure (readyRow_of_refused nofun nofun)
    · exact .pure (hlist h)
    · exact .bind (hs x (ho x rfl)) fun y hy => ih (List.forall_mem_cons.2 ⟨hy, h⟩)

/-- Values that hold what they are declared to hold are settled so that trees are read. -/
def SettlesTrees (ev : Evaluator) (I : Session → Prop)
    (deep : Shape → Nesting → Value → Run Value) : Prop :=
  ∀ outer (v : Value), v.Sound → (deep .child outer v).Yields ev I (Ready outer)

section Settling

variable {deep : Shape → Nesting → Value → Run Value}

/-- Settling a dict that is read as a child leaves its edge spacings as they are. -/
lemma yields_dict (outer : Nesting) (id : Nat)
    (h : ∀ inner, (settlePart deep .child inner "children" fs).Yields ev I fun o =>
      Furnished inner (replaced "children" o fs)) :
    (settleWith deep .child outer (.dict id fs)).Yields ev I fun w => ∃ gs : Fields,
      w = .dict id gs ∧ gs.get? "edge_spacing" = fs.get? "edge_spacing" ∧
      ∀ inner, outer.enter? "Group" id = some inner → Furnished inner gs := by
  have hother : ("edge_spacing" : Text) ≠ "children" := by decide
  refine .bind (P := fun o => ∀ inner, outer.enter? "Group" id = some inner →
    Furnished inner (replaced "children" o fs)) ?_ fun o ho =>
      .pure ⟨_, rfl, get?_replaced hother o fs, ho⟩
  unfold nested
  rcases hi : outer.enter? "Group" id with _ | inner
  · exact .pure nofun
  · refine (h inner).mono fun o ho => ?_
    rintro _ ⟨⟩
    exact ho

mutual

/-- By induction on the value. -/
lemma yields_settleWith (hI : Session.Supplies ev I) (hd : SettlesTrees ev I deep)
    (outer : Nesting) (v : Value) (h : v.Sound) :
    (settleWith deep .child outer v).Yields ev I (Ready outer) := by
  have hself : v.isDict = false → Ready outer v := by
    intro hv
    cases hc : v.isChild with
    | false => exact ready_of_refused hc hv
    | true =>
      have ht := h.typed.node hc
      cases v <;> first
        | exact .pure ht
        | exact nomatch hc
  cases v with
  | dict id fs =>
    refine (yields_dict outer id fun inner =>
      yields_settlePart hI hd inner fs fun v hv => h.get? hv).mono ?_
    rintro _ ⟨gs, rfl, he, hf⟩
    exact ready_dict (fun v hv => h.gives_edges "edge_spacing" v (he ▸ hv)) hf
  | _ => exact .pure (hself rfl)

lemma yields_settleSequence (hI : Session.Supplies ev I) (hd : SettlesTrees ev I deep)
    (outer : Nesting) (v : Value) (h : v.Sound) :
    (settleSequence deep .child outer v).Yields ev I (ReadyRow outer) := by
  cases v with
  | list xs => exact (yields_settleEach hI hd outer xs h.list).map fun _ => readyRow_list
  | tuple xs => exact (yields_settleEach hI hd outer xs h.tuple).map fun _ => readyRow_tuple
  | cursor kind id =>
    exact .bind (.of_keeps (.cursor id)) fun c _ =>
      yields_settleDrawn hI id (hd outer) _ fun x hx => absurd hx List.not_mem_nil
  | _ => exact yields_settleOther nofun nofun

lemma yields_settleEach (hI : Session.Supplies ev I) (hd : SettlesTrees ev I deep)
    (outer : Nesting) (vs : List Value) (h : ∀ v ∈ vs, v.Sound) :
    (settleEach deep .child outer vs).Yields ev I fun ws => ∀ w ∈ ws, Ready outer w := by
  cases vs with
  | nil => exact .pure fun v hv => absurd hv List.not_mem_nil
  | cons v vs =>
    obtain ⟨hv, hvs⟩ := List.forall_mem_cons.1 h
    exact .cons (yields_settleWith hI hd outer v hv) (yields_settleEach hI hd outer vs hvs)

lemma yields_settlePart (hI : Session.Supplies ev I) (hd : SettlesTrees ev I deep)
    (inner : Nesting) (fs : Fields)
    (h : ∀ v, fs.get? "children" = some v → v.Sound) :
    (settlePart deep .child inner "children" fs).Yields ev I fun o =>
      Furnished inner (replaced "children" o fs) := by
  match fs with
  | [] => exact .pure (.pure ⟨[], rfl, fun v hv => absurd hv List.not_mem_nil⟩)
  | (k, v) :: fs =>
    rw [settlePart]
    split
    · rename_i hk
      obtain rfl := eq_of_beq hk
      refine (yields_settleSequence hI hd inner v (h v (by simp [Fields.get?]))).map fun w hw => ?_
      simpa [replaced, Fields.put] using furnished_cons hw fs
    · rename_i hk
      have hk : (k == "children") = false := by simpa using hk
      refine (yields_settlePart hI hd inner fs fun v hv => h v ?_).mono fun o ho => ?_
      · rw [Fields.get?_cons, if_neg (fun h => by simp [h] at hk), hv]
      · rw [replaced_cons hk]
        exact (furnished_skip hk).2 ho

end

end Settling

lemma yields_settleWithin (hI : Session.Supplies ev I) (n : Nat) :
    SettlesTrees ev I (settleWithin n) := by
  induction n with
  | zero => exact fun _ _ _ => .throw _
  | succ n ih => exact yields_settleWith hI ih

/-! ### Making nodes -/

lemma yields_finish (hI : Session.Supplies ev I) {r : Reading Value} {P : Value → Prop}
    (hr : r.Gives P) (type : String) : (finish type r).Yields ev I P := by
  intro s hs
  rw [exec_finish]
  unfold finished
  rcases hv : r s.serial with ⟨⟨v, g, e⟩ | is, n⟩
  · refine ⟨hI.serial s n hs, fun w hw => ?_⟩
    cases hw
    exact hr _ _ _ _ _ hv
  · exact ⟨hI.serial s n hs, nofun⟩

/-- What is made is what is read from the fields once they are settled. -/
lemma yields_construct (hI : Session.Supplies ev I) {type : String} {P : Value → Prop}
    (h : ∀ id, (settleWithin (ev.depth + 1) (.ofType type) [] (.dict id fs)).Yields ev I fun w =>
      ∃ gs, w = .dict id gs ∧ ∀ r, ofFields? type id gs = some r → r.Gives P) :
    (construct type fs).Yields ev I P := by
  refine .bind (P := fun e => e = ev) (fun s hs => ⟨hs, fun e he => by cases he; rfl⟩) ?_
  rintro _ rfl
  refine .bind (P := fun v => ∃ id, v = .dict id fs)
    (fun s hs => ⟨hI.serial s _ hs, fun v hv => ?_⟩) ?_
  · cases hv
    exact ⟨_, rfl⟩
  rintro _ ⟨id, rfl⟩
  refine .bind (h id) ?_
  rintro _ ⟨gs, rfl, hr⟩
  dsimp only
  split
  · exact yields_finish hI (hr _ ‹_›) type
  · exact .throw _

variable {E : Value → Prop} (hnull : E .null)
  (hE : ∀ v, fs.get? "edge_spacing" = some v → (orNull readEdges v).Gives E)
include hnull hE

/-- A slot is a tree but for its edge spacings. -/
lemma yields_construct_slot (hI : Session.Supplies ev I) :
    (construct "Slot" fs).Yields ev I (Bordered E) := by
  refine yields_construct hI fun id => .pure ⟨fs, rfl, fun r hr => ?_⟩
  cases hr
  exact gives_slot_bordered hnull hE

/-- A group of children that hold what they are declared to hold is a tree but for its edge
spacings. -/
lemma yields_construct_group (hI : Session.Supplies ev I)
    (hc : ∀ v, fs.get? "children" = some v → v.Sound) :
    (construct "Group" fs).Yields ev I (Bordered E) := by
  refine yields_construct hI fun id => ?_
  refine (yields_dict [] id fun inner =>
    yields_settlePart hI (yields_settleWithin hI _) inner fs hc).mono ?_
  rintro _ ⟨gs, rfl, he, hf⟩
  refine ⟨gs, rfl, fun r hr => ?_⟩
  cases hr
  exact gives_nested_bordered hnull (fun v hv => hE v (he ▸ hv)) id hf

end Run

end LayoutTree
