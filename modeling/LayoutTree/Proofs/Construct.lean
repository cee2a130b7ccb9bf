import LayoutTree.Proofs.Exec
import LayoutTree.Validation.Construct

/-!
Making values of a type from named fields that already hold what they should: what is made, and
which identities it takes. Whatever the fields hold, nothing is done but to draw from cursors and
to take identities.
-/

namespace LayoutTree

/-- What a reading reads has a property, whenever it reads. -/
def Reading.Gives {α : Type} (P : α → Prop) (r : Reading α) : Prop :=
  ∀ a g e m n, r n = (.read a g e, m) → P a

namespace Reading

variable {α β : Type} {P : α → Prop} {Q : β → Prop} {r : Reading α}

namespace Gives

lemma any (r : Reading α) : r.Gives fun _ => True := fun _ _ _ _ _ _ => trivial

lemma map {f : α → β} (h : r.Gives P) (hf : ∀ a, P a → Q (f a)) : (f <$> r).Gives Q := by
  intro b g e m n hb
  rw [map_apply] at hb
  rcases hr : r n with ⟨⟨a, g', e'⟩ | is, n'⟩ <;> rw [hr] at hb
  · cases hb
    exact hf a (h a _ _ n' n hr)
  · cases hb

/-- Both parts of a reading have to do. -/
lemma seq {f : Reading (α → β)} (hf : f.Gives fun k => ∀ a, P a → Q (k a)) (h : r.Gives P) :
    (f <*> r).Gives Q := by
  intro b g e m n hb
  rw [seq_apply] at hb
  rcases hk : f n with ⟨⟨k, g', e'⟩ | is, n'⟩ <;> rw [hk] at hb
  · rcases hr : r n' with ⟨⟨a, g'', e''⟩ | js, n''⟩ <;> rw [hr] at hb
    · cases hb
      exact hf k _ _ n' n hk a (h a _ _ n'' n' hr)
    · cases hb
  · rcases hr : (r n').1 with ⟨a, g'', e''⟩ | js <;> rw [hr] at hb <;> cases hb

lemma mono {Q : α → Prop} (h : r.Gives P) (hpq : ∀ a, P a → Q a) : r.Gives Q :=
  fun a g e m n ha => hpq a (h a g e m n ha)

end Gives

lemma gives_map {f : α → β} (h : ∀ a, Q (f a)) (r : Reading α) : Gives Q (f <$> r) :=
  (Gives.any r).map fun a _ => h a

lemma gives_seq {f : Reading (α → β)} (h : Gives (fun k => ∀ a, Q (k a)) f) (r : Reading α) :
    Gives Q (f <*> r) :=
  .seq (h.mono fun _ hk a _ => hk a) (.any r)

end Reading

namespace Run

variable {ev : Evaluator} {s t : Session} {type : String} {fs gs : Fields}

/-- The outcome of a reading from the next free identity on. -/
def finished {α : Type} (type : String) (r : Reading α) (s : Session) : Except Fault α × Session :=
  match r s.serial with
  | (.read a _ _, n) => (.ok a, { s with serial := n })
  | (.refused is, n) => (.error (.invalid type is), { s with serial := n })

lemma exec_finish (r : Reading Value) : (finish type r).exec ev s = finished type r s := by
  unfold finish finished
  rw [exec_bind, exec_modifyGet]
  rcases r s.serial with ⟨_ | _, n⟩ <;> rfl

lemma exec_newDict (ev : Evaluator) (s : Session) (fs : Fields) :
    (newDict fs).exec ev s = (.ok (.dict s.serial fs), { s with serial := s.serial + 1 }) := rfl

/-- Fields are settled under a new identity and then read. -/
lemma exec_construct {r : Reading Value} {id : Nat}
    (hs : (settleWithin (ev.depth + 1) (.ofType type) [] (.dict s.serial fs)).exec ev
      { s with serial := s.serial + 1 } = (.ok (.dict id gs), t))
    (hr : Value.ofFields? type id gs = some r) :
    (construct type fs).exec ev s = finished type r t := by
  unfold construct
  rw [exec_bind_ok (exec_read ev s), exec_bind_ok (exec_newDict ev s fs), exec_bind_ok hs]
  simp only [hr]
  exact exec_finish r

/-- Values that are no dicts stay as they are. -/
lemma exec_settleEach (deep : Shape → Nesting → Value → Run Value) (shape : Shape)
    (outer : Nesting) (vs : List Value) (h : ∀ v ∈ vs, ∀ id fs, v ≠ .dict id fs) :
    (settleEach deep shape outer vs).exec ev s = (.ok vs, s) := by
  induction vs with
  | nil => rfl
  | cons v vs ih =>
    have hv : (settleWith deep shape outer v).exec ev s = (.ok v, s) := by
      rw [settleWith]
      · rfl
      · exact h v (by simp)
    rw [settleEach, exec_bind_ok hv, exec_bind_ok (ih fun w hw => h w (by simp [hw]))]
    rfl

/-- What is made of a type is what its reading reads. -/
lemma construct_gives {v : Value} {P : Value → Prop}
    (h : ∀ {id gs r}, Value.ofFields? type id gs = some r → r.Gives P)
    (hv : (construct type fs).exec ev s = (.ok v, t)) : P v := by
  unfold construct at hv
  rw [exec_bind_ok (exec_read ev s), exec_bind_ok (exec_newDict ev s fs)] at hv
  obtain ⟨x, u, -, hx⟩ := exec_bind_eq_ok hv
  split at hx
  · rename_i id gs
    split at hx
    · rename_i r hr
      rw [exec_finish] at hx
      unfold finished at hx
      rcases hq : r u.serial with ⟨⟨a, g, e⟩ | is, m⟩ <;> rw [hq] at hx
      · cases hx
        exact h hr v g e m u.serial hq
      · cases hx
    · cases hx
  · cases hx

end Run

/-! ### What construction keeps -/

namespace Run

variable {ev ev' : Evaluator} {g : Environment → Environment} {P : Session → Prop}

lemma blind_settleDrawn (hd : ∀ id, (draw id).Blind ev ev' g P) (id : Nat)
    {settle : Value → Run Value} (hs : ∀ v, (settle v).Blind ev ev' g P) (n : Nat)
    (xs : List Value) : (settleDrawn id settle n xs).Blind ev ev' g P := by
  induction n generalizing xs with
  | zero => exact .pure _
  | succ n ih =>
    refine .bind (.tryCatch ((hd id).map some) fun _ => .pure none) fun o => ?_
    rcases o with _ | _ | x
    · exact .pure _
    · exact .pure _
    · exact .bind (hs x) fun y => ih (y :: xs)

lemma blind_settleOther (v : Value) : (settleOther v).Blind ev ev' g P := by
  have helements : (elementsAtHand? v).Blind ev ev' g P := by
    unfold elementsAtHand?
    split
    · exact .map _ (.get (fun _ => rfl) fun _ => .pure _)
    · exact .pure _
  unfold settleOther
  split
  · exact .pure _
  · exact .pure _
  · split
    · exact .pure _
    · refine .bind helements fun o => ?_
      cases o <;> exact .pure _

lemma blind_nested (outer : Nesting) (type : String) (id : Nat)
    {settle : Nesting → Run (Option Value)} (hs : ∀ inner, (settle inner).Blind ev ev' g P) :
    (nested outer type id settle).Blind ev ev' g P := by
  unfold nested
  rcases outer.enter? type id with _ | inner
  · exact .pure none
  · exact hs inner

mutual

/-- By induction on the value, if what cursors give is settled alike. -/
lemma blind_settleWith {deep : Shape → Nesting → Value → Run Value}
    (hc : ∀ shape outer id n, (settleDrawn id (deep shape outer) n []).Blind ev ev' g P)
    (shape : Shape) (outer : Nesting) (v : Value) :
    (settleWith deep shape outer v).Blind ev ev' g P := by
  cases v with
  | dict id fs =>
    have hpart : ∀ shape type name, (nested outer type id fun inner =>
        settlePart deep shape inner name fs).Blind ev ev' g P := fun shape type name =>
      blind_nested outer type id fun inner => blind_settlePart hc shape inner name fs
    cases shape with
    | child => exact .bind (hpart _ _ _) fun _ => .pure _
    | fragment => exact .bind (hpart _ _ _) fun _ => .pure _
    | node => exact .bind (hpart _ _ _) fun _ => .bind (hpart _ _ _) fun _ => .pure _
    | subitem => exact .bind (hpart _ _ _) fun _ => .pure _
    | hostSection => exact .bind (blind_settleGroup hc fs) fun _ => .pure _
    | hostLayout => exact .bind (blind_settlePart hc _ _ _ fs) fun _ => .pure _
    | flat => exact .pure _
  | _ => exact .pure _

lemma blind_settleSequence {deep : Shape → Nesting → Value → Run Value}
    (hc : ∀ shape outer id n, (settleDrawn id (deep shape outer) n []).Blind ev ev' g P)
    (shape : Shape) (outer : Nesting) (v : Value) :
    (settleSequence deep shape outer v).Blind ev ev' g P := by
  cases v with
  | list xs => exact (blind_settleEach hc shape outer xs).map _
  | tuple xs => exact (blind_settleEach hc shape outer xs).map _
  | cursor kind id => exact .bind (.cursor id) fun c => hc shape outer id _
  | _ => simpa only [settleSequence] using blind_settleOther _

lemma blind_settleEach {deep : Shape → Nesting → Value → Run Value}
    (hc : ∀ shape outer id n, (settleDrawn id (deep shape outer) n []).Blind ev ev' g P)
    (shape : Shape) (outer : Nesting) (vs : List Value) :
    (settleEach deep shape outer vs).Blind ev ev' g P := by
  cases vs with
  | nil => exact .pure _
  | cons v vs =>
    exact .bind (blind_settleWith hc shape outer v) fun _ =>
      .bind (blind_settleEach hc shape outer vs) fun _ => .pure _

lemma blind_settlePart {deep : Shape → Nesting → Value → Run Value}
    (hc : ∀ shape outer id n, (settleDrawn id (deep shape outer) n []).Blind ev ev' g P)
    (shape : Shape) (outer : Nesting) (name : String) (fs : Fields) :
    (settlePart deep shape outer name fs).Blind ev ev' g P := by
  match fs with
  | [] => exact .pure _
  | (k, v) :: fs =>
    rw [settlePart]
    split
    · exact (blind_settleSequence hc shape outer v).map _
    · exact blind_settlePart hc shape outer name fs

lemma blind_settleGroup {deep : Shape → Nesting → Value → Run Value}
    (hc : ∀ shape outer id n, (settleDrawn id (deep shape outer) n []).Blind ev ev' g P)
    (fs : Fields) : (settleGroup deep fs).Blind ev ev' g P := by
  match fs with
  | [] => exact .pure _
  | (k, v) :: fs =>
    rw [settleGroup]
    split
    · exact (blind_settleWith hc .subitem [] v).map _
    · exact blind_settleGroup hc fs

end

lemma blind_settleWithin (hd : ∀ id, (draw id).Blind ev ev' g P) (n : Nat) (shape : Shape)
    (outer : Nesting) (v : Value) : (settleWithin n shape outer v).Blind ev ev' g P := by
  induction n generalizing shape outer v with
  | zero => exact .throw _
  | succ n ih =>
    refine blind_settleWith (fun shape outer id n => ?_) shape outer v
    exact blind_settleDrawn hd id (ih shape outer) n []

/-- Making a value draws from cursors and takes identities, and that is all. -/
lemma blind_construct (hdepth : ev'.depth = ev.depth) (hd : ∀ id, (draw id).Blind ev ev' g P)
    (hn : ∀ s n, P s → P { s with serial := n }) (type : String) (fs : Fields) :
    (construct type fs).Blind ev ev' g P := by
  have hfinish : ∀ type r, (finish type r).Blind ev ev' g P := by
    intro type r s h
    have hserial : (s.amid g).serial = s.serial := rfl
    unfold BlindAt
    rw [exec_finish, exec_finish]
    unfold finished
    rw [hserial]
    rcases r s.serial with ⟨_ | _, n⟩ <;> exact ⟨rfl, hn s _ h⟩
  unfold construct
  refine .read (by simp only [hdepth]) (.bind (fun s h => ⟨rfl, hn s _ h⟩) fun v => ?_)
  refine .bind (blind_settleWithin hd _ _ _ _) fun w => ?_
  split
  · split
    · exact hfinish _ _
    · exact .throw _
  · exact .throw _

lemma keeps_construct (hd : ∀ id, (draw id).Keeps ev P)
    (hn : ∀ s n, P s → P { s with serial := n }) (type : String) (fs : Fields) :
    (construct type fs).Keeps ev P :=
  (blind_construct rfl (fun id => .of_keeps (hd id)) hn type fs).keeps

end Run

/-! ### Items and groups of the model engine -/

namespace Value

/-- The value is an item or a group of the model engine. -/
def isHost : Value → Bool
  | .item .. => true
  | .itemGroup .. => true
  | _ => false

lemma subitemsFrom_hosts (outer : Nesting) (i : Nat) {vs : List Value}
    (h : ∀ v ∈ vs, v.isHost = true) (n : Nat) :
    subitemsFrom outer i vs n = (.read vs 0 .exact, n) := by
  induction vs generalizing i with
  | nil => rfl
  | cons v vs ih =>
    have hv : subitem outer v n = (.read v 0 .exact, n) := by
      have := h v (by simp)
      cases v <;> first | rfl | cases this
    have hvs := ih (i + 1) fun w hw => h w (by simp [hw])
    simp only [subitemsFrom, Reading.seq_apply, Reading.map_apply, Reading.under, Reading.judged,
      hv, hvs]
    rfl

end Value

namespace Run

variable (ev : Evaluator) (s : Session)

lemma exec_construct_item (z : LayoutSize) :
    (construct "Item" [("layout_size", .size z)]).exec ev s =
      (.ok (.item (s.serial + 1) z (.insets (.none (s.serial + 2))) .null),
        { s with serial := s.serial + 3 }) := by
  have h : (settleWithin (ev.depth + 1) (.ofType "Item") []
      (.dict s.serial [("layout_size", .size z)])).exec ev { s with serial := s.serial + 1 } =
      (.ok (.dict s.serial [("layout_size", .size z)]), { s with serial := s.serial + 1 }) := rfl
  rw [exec_construct h rfl]
  rfl

/-- The fields of a host group that are given, with a count or without. -/
def hostGroupFields (size direction : Value) (vs : List Value) (count : Option Int) : Fields :=
  ("layout_size", size) :: ("direction", direction) :: ("subitems", .tuple vs) ::
    match count with
    | some n => [("repeat_count", .int n)]
    | none => []

/-- Subitems that are items and groups are taken as they are. -/
lemma exec_construct_hostGroup (size direction : Value) {vs : List Value}
    (h : ∀ v ∈ vs, v.isHost = true) (count : Option Int) :
    (construct "ItemGroup" (hostGroupFields size direction vs count)).exec ev s =
      finished "ItemGroup" (Value.hostGroupOf (hostGroupFields size direction vs count)
        fun n => (.read vs 1 .exact, n)) { s with serial := s.serial + 1 } := by
  have hdict : ∀ v ∈ vs, ∀ id fs, v ≠ .dict id fs := by
    rintro v hv id fs rfl
    cases h _ hv
  have hsettle : (settleWithin (ev.depth + 1) (.ofType "ItemGroup") []
      (.dict s.serial (hostGroupFields size direction vs count))).exec ev
        { s with serial := s.serial + 1 } =
      (.ok (.dict s.serial (hostGroupFields size direction vs count)),
        { s with serial := s.serial + 1 }) := by
    have hpart : (settlePart (settleWithin ev.depth) .subitem [(s.serial, "ItemGroup")] "subitems"
        (hostGroupFields size direction vs count)).exec ev { s with serial := s.serial + 1 } =
        (.ok (some (.tuple vs)), { s with serial := s.serial + 1 }) := by
      change (some <$> (Value.tuple <$> settleEach _ _ _ vs)).exec ev _ = _
      rw [exec_map, exec_map, exec_settleEach _ _ _ vs hdict]
      rfl
    change (settlePart _ _ _ _ _ >>= _).exec ev _ = _
    rw [exec_bind_ok hpart]
    cases count <;> rfl
  have hread : Value.subitemsOf [(s.serial, "ItemGroup")]
      (hostGroupFields size direction vs count) = fun n => (.read vs 1 .exact, n) := by
    funext n
    change (Value.subitemsFrom _ 0 vs).given _ n = _
    unfold Reading.given Reading.judged
    rw [Value.subitemsFrom_hosts _ 0 h]
    rfl
  rw [exec_construct hsettle rfl]
  change finished _ (Value.hostGroupOf _ (Value.subitemsOf [(s.serial, "ItemGroup")] _)) _ = _
  rw [hread]

lemma exec_construct_itemGroup (z : LayoutSize) (d : Direction) {vs : List Value}
    (h : ∀ v ∈ vs, v.isHost = true) (count : Option Int) :
    (construct "ItemGroup" (hostGroupFields (.size z) (.direction d) vs count)).exec ev s =
      (.ok (.itemGroup (s.serial + 1) z d vs (match count with | some n => .int n | none => .null)
        (.insets (.none (s.serial + 2))) .null .null), { s with serial := s.serial + 3 }) := by
  rw [exec_construct_hostGroup ev s _ _ h count]
  cases count <;> rfl

end Run

/-! ### Sections and layouts of the model engine -/

namespace Value

/-- The value is a section of the model engine. -/
def isHostSection : Value → Bool
  | .hostSection .. => true
  | _ => false

lemma sectionsFrom_hosts (i : Nat) {vs : List Value} (h : ∀ v ∈ vs, v.isHostSection = true)
    (n : Nat) : sectionsFrom i vs n = (.read vs 0 .exact, n) := by
  induction vs generalizing i with
  | nil => rfl
  | cons v vs ih =>
    have hv : readHostSection v n = (.read v 0 .exact, n) := by
      have := h v (by simp)
      cases v <;> first | rfl | cases this
    have hvs := ih (i + 1) fun w hw => h w (by simp [hw])
    simp only [sectionsFrom, Reading.seq_apply, Reading.map_apply, Reading.under, Reading.judged,
      hv, hvs]
    rfl

end Value

namespace Run

variable (ev : Evaluator) (s : Session)

lemma exec_construct_insets : (construct "Insets" []).exec ev s =
    (.ok (.insets (.none (s.serial + 1))), { s with serial := s.serial + 2 }) := by
  have h : (settleWithin (ev.depth + 1) (.ofType "Insets") [] (.dict s.serial [])).exec ev
      { s with serial := s.serial + 1 } =
      (.ok (.dict s.serial []), { s with serial := s.serial + 1 }) := rfl
  rw [exec_construct h rfl]
  rfl

lemma exec_construct_section (id : Nat) (z : LayoutSize) (d : Direction) (vs : List Value)
    (n j e g : Value) (i : Insets) (x : Double) :
    (construct "Section" [("group", .itemGroup id z d vs n j e g), ("content_insets", .insets i),
      ("inter_group_spacing", .float x)]).exec ev s =
      (.ok (.hostSection (s.serial + 1) (.itemGroup id z d vs n j e g) (.insets i) x),
        { s with serial := s.serial + 2 }) := by
  have h : (settleWithin (ev.depth + 1) (.ofType "Section") [] (.dict s.serial
      [("group", .itemGroup id z d vs n j e g), ("content_insets", .insets i),
        ("inter_group_spacing", .float x)])).exec ev { s with serial := s.serial + 1 } =
      (.ok (.dict s.serial [("group", .itemGroup id z d vs n j e g),
        ("content_insets", .insets i), ("inter_group_spacing", .float x)]),
        { s with serial := s.serial + 1 }) := rfl
  rw [exec_construct h rfl]
  rfl

lemma exec_construct_layout {vs : List Value} (h : ∀ v ∈ vs, v.isHostSection = true) :
    (construct "CompositionalLayout" [("sections", .tuple vs)]).exec ev s =
      (.ok (.hostLayout (s.serial + 1) vs), { s with serial := s.serial + 2 }) := by
  have hdict : ∀ v ∈ vs, ∀ id fs, v ≠ .dict id fs := by
    rintro v hv id fs rfl
    cases h _ hv
  have hsettle : (settleWithin (ev.depth + 1) (.ofType "CompositionalLayout") []
      (.dict s.serial [("sections", .tuple vs)])).exec ev { s with serial := s.serial + 1 } =
      (.ok (.dict s.serial [("sections", .tuple vs)]), { s with serial := s.serial + 1 }) := by
    have hpart : (settlePart (settleWithin ev.depth) .hostSection [] "sections"
        [("sections", .tuple vs)]).exec ev { s with serial := s.serial + 1 } =
        (.ok (some (.tuple vs)), { s with serial := s.serial + 1 }) := by
      change (some <$> (Value.tuple <$> settleEach _ _ _ vs)).exec ev _ = _
      rw [exec_map, exec_map, exec_settleEach _ _ _ vs hdict]
      rfl
    change (settlePart _ _ _ _ _ >>= _).exec ev _ = _
    rw [exec_bind_ok hpart]
    rfl
  have hread : Value.readSections (.tuple vs) = fun n => (.read vs 0 .exact, n) :=
    funext (Value.sectionsFrom_hosts 0 h)
  rw [exec_construct hsettle rfl]
  change finished _ (Value.hostLayout <$> Reading.made <*>
    (Value.readSections (.tuple vs)).given "sections") _ = _
  rw [hread]
  rfl

end Run

end LayoutTree
