import LayoutTree.Proofs.Decoding.Choice
import LayoutTree.Proofs.Decoding.Plain
import LayoutTree.Proofs.Meaning
import LayoutTree.Script.Eval

/-!
What becomes of a dict with a count of copies among the plain data for a group or a fragment.

The dict is decoded as a slot with that count, or the data are refused, if it says that it is a
slot. If it does not say so, it may also be taken for a group or a fragment, which know no counts:
where it is refused as a slot, or where it has fields that only groups and fragments have.
-/

namespace LayoutTree

open Reading

namespace Value

/-! ### Nodes and the fields they are read from -/

lemma eq_of_reads_word {fs : Fields} {expected : String} {default : Reading Value} {k v : Value}
    (h : (withDefault fs "kind" default (word expected)).Reads k) (hv : fs.get? "kind" = some v) :
    v = .text expected := by
  replace h := h.withDefault_some hv
  unfold word at h
  split at h
  · split at h
    · rename_i s hs
      rw [beq_iff_eq] at hs
      rw [hs]
    · exact h.refuse.elim
  · exact h.refuse.elim
  · exact h.refuse.elim

variable {fs : Fields} {v : Value}

lemma reads_slotOf (h : (slotOf fs).Reads v) : ∃ id k s i e n, v = .slot id k s i e n ∧
    (∀ x, fs.get? "kind" = some x → x = .text "slot") ∧
    ∀ x, fs.get? "replica_count" = some x → x.count.Reads n := by
  obtain ⟨_, n, h₁, hn, rfl⟩ := h.seq
  obtain ⟨_, e, h₂, -, rfl⟩ := h₁.seq
  obtain ⟨_, i, h₃, -, rfl⟩ := h₂.seq
  obtain ⟨_, s, h₄, -, rfl⟩ := h₃.seq
  obtain ⟨_, k, h₅, hk, rfl⟩ := h₄.seq
  obtain ⟨id, -, rfl⟩ := h₅.map
  exact ⟨id, k, s, i, e, n, rfl, fun x => eq_of_reads_word hk, fun x => hn.withDefault_some⟩

lemma reads_groupOf {children : Reading Value} (h : (groupOf fs children).Reads v) :
    ∃ id k s i e d g cs, v = .group id k s i e d g cs ∧
      (∀ x, fs.get? "kind" = some x → x = .text "group") ∧ children.Reads cs := by
  obtain ⟨_, cs, h₁, hcs, rfl⟩ := h.seq
  obtain ⟨_, g, h₂, -, rfl⟩ := h₁.seq
  obtain ⟨_, d, h₃, -, rfl⟩ := h₂.seq
  obtain ⟨_, e, h₄, -, rfl⟩ := h₃.seq
  obtain ⟨_, i, h₅, -, rfl⟩ := h₄.seq
  obtain ⟨_, s, h₆, -, rfl⟩ := h₅.seq
  obtain ⟨_, k, h₇, hk, rfl⟩ := h₆.seq
  obtain ⟨id, -, rfl⟩ := h₇.map
  exact ⟨id, k, s, i, e, d, g, cs, rfl, fun x => eq_of_reads_word hk, hcs⟩

lemma reads_fragmentOf {items : Reading Value} (h : (fragmentOf fs items).Reads v) :
    ∃ id k xs, v = .fragment id k xs ∧
      (∀ x, fs.get? "kind" = some x → x = .text "fragment") ∧ items.Reads xs := by
  obtain ⟨_, xs, h₁, hxs, rfl⟩ := h.seq
  obtain ⟨_, k, h₂, hk, rfl⟩ := h₁.seq
  obtain ⟨id, -, rfl⟩ := h₂.map
  exact ⟨id, k, xs, rfl, fun x => eq_of_reads_word hk, hxs⟩

lemma decided_slotOf (fs : Fields) : (slotOf fs).Decided := by
  have hword : ∀ v, (word "slot" v).Decided := by
    intro v
    unfold word
    split
    · split
      · exact .pure _
      · exact .refuse _
    · exact .refuse _
    · exact .refuse _
  have hsize : ∀ v : Value, (Value.size <$> v.readSize).Decided := by
    intro v
    refine .map _ ?_
    unfold readSize
    split
    · exact .pure _
    · exact decided_sizeOf _
    · exact .refuse _
  have hinsets : ∀ v : Value, v.readInsets.Decided := by
    intro v
    unfold readInsets
    split
    · exact .pure _
    · exact .map _ (decided_insetsOf _)
    · exact .refuse _
  have hedges : ∀ v : Value, v.readEdges.Decided := by
    intro v
    unfold readEdges
    split
    · exact .pure _
    · have h : ∀ name fs, (withDefault fs name nothing (orNull readSpacing)).Decided := fun _ _ =>
        .withDefault (.pure _) (.orNull decided_readSpacing)
      exact ((((Decided.made.map _).seq (h _ _)).seq (h _ _)).seq (h _ _)).seq (h _ _)
    · exact .refuse _
  exact (((((Decided.made.map _).seq (.withDefault (.pure _) hword)).seq (.required hsize)).seq
    (.withDefault (.pure _) (.orNull hinsets))).seq (.withDefault (.pure _) (.orNull hedges))).seq
    (.withDefault (.pure _) decided_count)

/-- A node is read from these fields. -/
def ReadFrom (fs : Fields) (v : Value) : Prop :=
  (slotOf fs).Reads v ∨ ∃ inner, (groupOf fs (childrenOf inner fs)).Reads v ∨
    (fragmentOf fs (itemsOf inner fs)).Reads v

/-! ### A dict among children or items -/

/-- What a dict with a count is decoded as: a slot with that count, or a group or a fragment
without it. The latter happens only to dicts that do not say that they are slots, and of these only
to those that are refused as slots or have fields that only groups and fragments have. -/
inductive Counted (fs : Fields) (x : Value) : Value → Prop
  | kept {id : Nat} {k s i e : Value} {n : Int} : 1 ≤ n → x.Denotes n →
      Counted fs x (.slot id k s i e (.int n))
  | dropped {v : Value} : v.typeName = "Group" ∨ v.typeName = "Fragment" →
      fs.get? "kind" ≠ some (.text "slot") →
      ((∀ w, ¬ (slotOf fs).Reads w) ∨
        ∃ name ∈ ["direction", "inter_item_spacing", "children", "items"],
          fs.get? (.plain name) ≠ none) → Counted fs x v

/-- A node stands at the place of a dict and is what becomes of it. -/
def Decoded (x v : Value) : Prop :=
  ∀ (id : Nat) (fs : Fields), x = .dict id fs → ReadFrom fs v ∧
    ∀ n, fs.get? "replica_count" = some n → Counted fs n v

lemma counted_of_slotOf {x : Value} (h : (slotOf fs).Reads v)
    (hx : fs.get? "replica_count" = some x) : Counted fs x v := by
  obtain ⟨_, _, _, _, _, _, rfl, -, hcount⟩ := reads_slotOf h
  obtain ⟨n, rfl, hwhole, hn⟩ := reads_count_iff.1 (hcount x hx)
  exact .kept hn hwhole.denotes

/-- What is read as a group or as a fragment does not say that it is a slot. -/
lemma kind_of_other {inner : Nesting} (h : (groupOf fs (childrenOf inner fs)).Reads v ∨
      (fragmentOf fs (itemsOf inner fs)).Reads v) :
    (v.typeName = "Group" ∨ v.typeName = "Fragment") ∧ fs.get? "kind" ≠ some (.text "slot") := by
  rcases h with h | h
  · obtain ⟨_, _, _, _, _, _, _, _, rfl, hk, -⟩ := reads_groupOf h
    exact ⟨.inl rfl, fun hslot => by simpa using hk _ hslot⟩
  · obtain ⟨_, _, _, rfl, hk, -⟩ := reads_fragmentOf h
    exact ⟨.inr rfl, fun hslot => by simpa using hk _ hslot⟩

section Choosing

variable {id : Nat} {rs : List (String × Reading Value)}

/-- Beside slots, a dict is read as groups or fragments. -/
lemma decoded_of_choose (outer : Nesting) (hrs : ∀ p ∈ rs,
      p.2 = nested outer "Group" id (fun inner => groupOf fs (childrenOf inner fs)) ∨
      p.2 = nested outer "Fragment" id fun inner => fragmentOf fs (itemsOf inner fs))
    (h : (choose (("Slot", slotOf fs) :: rs)).Reads v) : Decoded (.dict id fs) v := by
  have hrest : ∀ p ∈ rs, p.2.Reads v → ∃ inner, (groupOf fs (childrenOf inner fs)).Reads v ∨
      (fragmentOf fs (itemsOf inner fs)).Reads v := by
    intro p hp hread
    rcases hrs p hp with hp | hp <;> rw [hp] at hread
    · exact ⟨_, .inl hread.nested.2⟩
    · exact ⟨_, .inr hread.nested.2⟩
  have hother : ∀ p ∈ rs, p.2.Reads v → (v.typeName = "Group" ∨ v.typeName = "Fragment") ∧
      fs.get? "kind" ≠ some (.text "slot") := by
    intro p hp hread
    obtain ⟨inner, hread⟩ := hrest p hp hread
    exact kind_of_other hread
  rintro _ _ ⟨⟩
  obtain ⟨g, e, m, n, hg⟩ := h
  obtain ⟨p, hp, k, l, hread⟩ := exists_of_choose hg
  replace hread : p.2.Reads v := ⟨_, _, _, _, hread⟩
  rcases List.mem_cons.1 hp with rfl | hp
  · exact ⟨.inl hread, fun x hx => counted_of_slotOf hread hx⟩
  refine ⟨.inr (hrest p hp hread), fun x hx => ?_⟩
  by_cases hk : fs.get? "kind" = none
  · -- without a kind the cheapest reading is chosen
    obtain ⟨c, hc, hgroup, hfragment⟩ := exists_slot_costs hk hx
    rcases first_or_rest (decided_slotOf fs) hc ⟨_, _, _, _, hg⟩ with hv | ⟨q, hq, hread, hless⟩
    · exact counted_of_slotOf hv hx
    refine .dropped (hother q hq hread).1 (hother q hq hread).2 (hless.imp_right fun hless => ?_)
    -- if none of the names is given, the slot would have been chosen
    by_contra hnames
    have hnone : ∀ name ∈ ["direction", "inter_item_spacing", "children", "items"],
        fs.get? (.plain name) = none := fun name hmem => by
      by_contra hne
      exact hnames ⟨name, hmem, hne⟩
    rcases hrs q hq with hq | hq <;> rw [hq] at hless
    · have := hless c (.nested (hgroup (hnone _ (by simp)) (hnone _ (by simp)) (hnone _ (by simp))))
      omega
    · have := hless 0 (.nested (hfragment (hnone _ (by simp))))
      omega
  · -- the kind is not that of slots
    obtain ⟨x, hkind⟩ := Option.ne_none_iff_exists'.1 hk
    refine .dropped (hother p hp hread).1 (hother p hp hread).2 (.inl fun w hw => ?_)
    obtain ⟨_, _, _, _, _, _, rfl, hword, -⟩ := reads_slotOf hw
    exact (hother p hp hread).2 (hword x hkind ▸ hkind)

end Choosing

lemma decoded_of_child {outer : Nesting} {x : Value} (h : (child outer x).Reads v) :
    Decoded x v := by
  rintro id fs rfl
  exact decoded_of_choose outer (by simp) h id fs rfl

lemma decoded_of_node {outer : Nesting} {x : Value} (h : (node outer x).Reads v) :
    Decoded x v := by
  rintro id fs rfl
  exact decoded_of_choose outer (by simp) h id fs rfl

/-! ### All elements, at any depth -/

/-- The fields of a group or a fragment hold such elements, and such nodes stand in it. -/
inductive Row (fs : Fields) : Value → List Value → List Value → Prop
  | group {id : Nat} {k s i e d g data : Value} {xs cs : List Value} :
      fs.get? "children" = some data → data = .list xs ∨ data = .tuple xs →
      Row fs (.group id k s i e d g (.tuple cs)) xs cs
  | fragment {id : Nat} {k data : Value} {xs cs : List Value} :
      fs.get? "items" = some data → data = .list xs ∨ data = .tuple xs →
      Row fs (.fragment id k (.tuple cs)) xs cs

/-- A node is decoded from some fields, at some depth in what is decoded from others. -/
inductive Reached (fs : Fields) (v : Value) : Fields → Value → Prop
  | root : Reached fs v fs v
  | element {gs hs : Fields} {u w : Value} {xs cs : List Value} {i id : Nat} :
      Reached fs v gs u → Row gs u xs cs → xs[i]? = some (.dict id hs) → cs[i]? = some w →
      Reached fs v hs w

lemma decoded_childrenFrom {outer : Nesting} {i : Nat} {xs cs : List Value}
    (h : (childrenFrom outer i xs).Reads cs) : List.Forall₂ Decoded xs cs := by
  induction xs generalizing i cs with
  | nil =>
    cases h.pure
    exact .nil
  | cons x xs ih =>
    obtain ⟨_, cs, hcons, hcs, rfl⟩ := Reads.seq h
    obtain ⟨c, hc, rfl⟩ := hcons.map
    exact .cons (decoded_of_child hc.under) (ih hcs)

lemma decoded_itemsFrom {outer : Nesting} {i : Nat} {xs cs : List Value}
    (h : (itemsFrom outer i xs).Reads cs) : List.Forall₂ Decoded xs cs := by
  induction xs generalizing i cs with
  | nil =>
    cases h.pure
    exact .nil
  | cons x xs ih =>
    obtain ⟨_, cs, hcons, hcs, rfl⟩ := Reads.seq h
    obtain ⟨c, hc, rfl⟩ := hcons.map
    exact .cons (decoded_of_node hc.under) (ih hcs)

lemma reads_childrenOf {outer : Nesting} (h : (childrenOf outer fs).Reads v) {data : Value}
    (hd : fs.get? "children" = some data) :
    ∃ cs, v = .tuple cs ∧ (children outer data).Reads cs := by
  rw [childrenOf_eq, hd] at h
  obtain ⟨cs, hcs, rfl⟩ := h.given.map
  exact ⟨cs, rfl, hcs⟩

lemma reads_itemsOf {outer : Nesting} (h : (itemsOf outer fs).Reads v) {data : Value}
    (hd : fs.get? "items" = some data) : ∃ xs, v = .tuple xs ∧ (items outer data).Reads xs := by
  rw [itemsOf_eq, hd] at h
  obtain ⟨xs, hxs, rfl⟩ := h.given.map
  exact ⟨xs, rfl, hxs⟩

/-- One node is decoded from each element. -/
lemma Row.decoded {xs cs : List Value} (h : Row fs v xs cs) (hv : ReadFrom fs v) :
    List.Forall₂ Decoded xs cs := by
  cases h with
  | group hd hxs =>
    obtain hv | ⟨inner, hv | hv⟩ := hv
    · obtain ⟨_, _, _, _, _, _, hv, -⟩ := reads_slotOf hv
      cases hv
    · -- only a group has a row of children
      obtain ⟨_, _, _, _, _, _, _, _, hv, -, hcs⟩ := reads_groupOf hv
      cases hv
      obtain ⟨_, hcs', hcs⟩ := reads_childrenOf hcs hd
      cases hcs'
      rcases hxs with rfl | rfl
      · exact decoded_childrenFrom (Reads.atMost hcs)
      · exact decoded_childrenFrom hcs
    · obtain ⟨_, _, _, hv, -⟩ := reads_fragmentOf hv
      cases hv
  | fragment hd hxs =>
    obtain hv | ⟨inner, hv | hv⟩ := hv
    · obtain ⟨_, _, _, _, _, _, hv, -⟩ := reads_slotOf hv
      cases hv
    · obtain ⟨_, _, _, _, _, _, _, _, hv, -⟩ := reads_groupOf hv
      cases hv
    · -- only a fragment has a row of items
      obtain ⟨_, _, _, hv, -, hcs⟩ := reads_fragmentOf hv
      cases hv
      obtain ⟨_, hcs', hcs⟩ := reads_itemsOf hcs hd
      cases hcs'
      rcases hxs with rfl | rfl
      · exact decoded_itemsFrom (Reads.atMost hcs)
      · exact decoded_itemsFrom hcs

lemma Reached.readFrom {gs : Fields} {u : Value} (h : Reached fs v gs u) (hv : ReadFrom fs v) :
    ReadFrom gs u := by
  induction h with
  | root => exact hv
  | element _ hrow hx hw ih =>
    obtain ⟨hlength, hdecoded⟩ := List.forall₂_iff_get.1 (hrow.decoded ih)
    obtain ⟨hi, hx⟩ := List.getElem?_eq_some_iff.1 hx
    obtain ⟨hj, hw⟩ := List.getElem?_eq_some_iff.1 hw
    have h := hdecoded _ hi hj
    rw [List.get_eq_getElem, List.get_eq_getElem, hw] at h
    exact (h _ _ hx).1

end Value

open Run

/-- **Counts in plain data**: making a group or a fragment from plain data is refused, or every
element of the children or items, at any depth, is decoded as one node, and a dict with a count as a
slot with the positive whole number that the count stands for. Other nodes, in which the count is
lost, only come of dicts that do not say that they are slots, and only where no slot can be read
from them or they have fields that slots do not have. -/
theorem construct_counts (ev : Evaluator) (s : Session) {type : String} {id : Nat} {fs : Fields}
    (ht : type = "Group" ∨ type = "Fragment") (hp : (Value.dict id fs).Plain) :
    (∃ is n, (construct type fs).exec ev s =
      (.error (.invalid type is), { s with serial := n })) ∨
    ∃ v n, (construct type fs).exec ev s = (.ok v, { s with serial := n }) ∧
      ∀ gs u xs cs, Value.Reached fs v gs u → Value.Row gs u xs cs →
        List.Forall₂ (fun x w => ∀ (id : Nat) (hs : Fields) (count : Value), x = .dict id hs →
          hs.get? "replica_count" = some count → Value.Counted hs count w) xs cs := by
  have hshape : (Shape.ofType type).IsNode := by
    rcases ht with rfl | rfl
    · exact .inl rfl
    · exact .inr (.inl rfl)
  have hplain : (Value.dict s.serial fs).Plain := by
    cases hp with
    | dict hc hi => exact .dict hc hi
    | other h => exact absurd rfl (h id fs)
  have hsettle : (settleWithin (ev.depth + 1) (.ofType type) [] (.dict s.serial fs)).exec ev
      { s with serial := s.serial + 1 } =
      (.ok (.dict s.serial fs), { s with serial := s.serial + 1 }) :=
    exec_settleWith_plain hshape [] _ hplain
  obtain ⟨r, hr, hread⟩ : ∃ r, Value.ofFields? type s.serial fs = some r ∧
      ∀ v, r.Reads v → Value.ReadFrom fs v := by
    rcases ht with rfl | rfl
    · exact ⟨_, rfl, fun v hv => .inr ⟨_, .inl hv.nested.2⟩⟩
    · exact ⟨_, rfl, fun v hv => .inr ⟨_, .inr hv.nested.2⟩⟩
  rw [exec_construct hsettle hr]
  unfold finished
  rcases hv : r (s.serial + 1) with ⟨⟨v, g, e⟩ | is, n⟩
  · -- a node was read, and each of its children of one element
    refine .inr ⟨v, n, rfl, fun gs u xs cs hreached hrow => ?_⟩
    have hfrom := hreached.readFrom (hread v ⟨_, _, _, _, hv⟩)
    exact (hrow.decoded hfrom).imp fun x w h id hs count hx hcount => (h id hs hx).2 count hcount
  · exact .inl ⟨is, n, rfl⟩

/-- A count in writing. -/
theorem construct_counts_written :
    let x : Dimension := ⟨0, .absolute, .zero⟩
    let z : Value := .size ⟨2, x, x⟩
    let counted : Fields := [("size", z), ("replica_count", .text "2")]
    let fs : Fields := [("size", z), ("children", .list [.dict 4 counted])]
    (Value.dict 3 fs).Plain ∧ ∃ v w n,
      (construct "Group" fs).exec (.within 4) (Session.initial [] false) =
        (.ok v, { Session.initial [] false with serial := n }) ∧
      Value.Row fs v [.dict 4 counted] [w] ∧ w.typeName = "Slot" ∧
      Value.Counted counted (.text "2") w := by
  intro x z counted fs
  have hcounted : (Value.dict 4 counted).Plain := .dict nofun nofun
  have hplain : (Value.dict 3 fs).Plain := by
    refine .dict ?_ nofun
    rintro _ ⟨⟩
    exact .list (by simpa using hcounted)
  have hexec : (construct "Group" fs).exec (.within 4) (Session.initial [] false) = (.ok (.group 2
      (.text "group") z .null .null (.direction .horizontal) .null
      (.tuple [.slot 3 (.text "slot") z .null .null (.int 2)])),
      { Session.initial [] false with serial := 5 }) := by
    rfl
  refine ⟨hplain, _, _, _, hexec, .group rfl (.inl rfl), rfl, ?_⟩
  obtain ⟨is, n, h⟩ | ⟨v, n, h, hrows⟩ :=
    construct_counts (.within 4) (Session.initial [] false) (.inl rfl) hplain
  · rw [hexec] at h
    cases h
  · rw [hexec] at h
    cases h
    cases hrows fs _ _ _ .root (.group rfl (.inl rfl)) with
    | cons hw _ => exact hw 4 counted _ rfl rfl

/-- A count that no slot may have is lost, and the dict is decoded as a group without children. -/
theorem count_dropped :
    let x : Dimension := ⟨0, .absolute, .zero⟩
    let z : Value := .size ⟨2, x, x⟩
    let counted : Fields := [("size", z), ("replica_count", .int 0)]
    let fs : Fields := [("size", z), ("children", .list [.dict 4 counted])]
    ∃ v w n, (construct "Group" fs).exec (.within 4) (Session.initial [] false) =
        (.ok v, { Session.initial [] false with serial := n }) ∧
      Value.Row fs v [.dict 4 counted] [w] ∧ w.typeName = "Group" :=
  ⟨_, _, _, rfl, .group rfl (.inl rfl), rfl⟩

end LayoutTree
