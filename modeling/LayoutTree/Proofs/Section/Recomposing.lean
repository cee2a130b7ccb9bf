import LayoutTree.Proofs.Section.Asking

/-!
Composing nodes in two sessions in which composing has gone on from one session.

Where the composers have engines of one class and repeat items alike, they make the same of the
same node, and of groups whose fields were read twice from the same values. So they do of whole
trees, by induction on the nodes, whatever the fields hold.
-/

namespace LayoutTree

open Run Value

/-! ### What is composed -/

/-- A slot or a group whose fields are known, the group with such children in a list or in a tuple;
or a value that is no slot and no group. -/
inductive Session.Composable (s : Session) : Value → Prop
  | slot {i : Nat} {k z n e c : Value} :
      (∀ y ∈ [k, z, n, e, c], s.Knows y) → Composable s (.slot i k z n e c)
  | group {i : Nat} {k z n e d g : Value} {listed : Bool} {xs : List Value} :
      (∀ y ∈ [k, z, n, e, d, g], s.Knows y) → (∀ x ∈ xs, Composable s x) →
      Composable s (.group i k z n e d g (.row listed xs))
  | stranger {v : Value} : v.isBox = false → Composable s v

/-- What stands in a group, in a list or in a tuple. -/
def Value.members : Value → List Value
  | .group _ _ _ _ _ _ _ (.list xs) => xs
  | .group _ _ _ _ _ _ _ (.tuple xs) => xs
  | _ => []

/-- A dict that writes a not-a-number is read as the size of a slot or a group in the tree. -/
inductive Session.SizesNan (ev : Evaluator) (s : Session) : Value → Prop
  | here {v z : Value} : v.isBox = true → (field v "size").exec ev s = (.ok z, s) →
      z.WritesNan .size → SizesNan ev s v
  | member {v x : Value} : x ∈ v.members → SizesNan ev s x → SizesNan ev s v

/-- Seen through the function, the sizes that an engine of the kind reads in the tree are the same
each time. -/
def Session.SettledSizes (ev : Evaluator) (s : Session) (f : Double → Double) (kind : EngineKind)
    (v : Value) : Prop :=
  kind = .model → Double.Blends f ∨ ¬ s.SizesNan ev v

/-- What a composer reads of two slots or groups was made in the same way. -/
structure Run.ReadsAlike (ev : Evaluator) (s : Session) (P Q : Session → Prop)
    (f : Double → Double)
    (kind : EngineKind) (v w : Value) : Prop where
  size : Matches ev P Q (fun x y => x.Twin s.Knows f .size y ∧
    (kind = .model → x.Settled f .size)) (field v "size") (field w "size")
  insets : Matches ev P Q (Twin s.Knows f .insets) (field v "insets") (field w "insets")
  edges : Matches ev P Q (Twin s.Knows f EdgeSpacing.toValue) (field v "edge_spacing")
    (field w "edge_spacing")

/-- What a composer reads of two groups with these children was made in the same way. -/
structure Run.GroupsAlike (ev : Evaluator) (s : Session) (P Q : Session → Prop)
    (f : Double → Double)
    (kind : EngineKind) (listed : Bool) (xs : List Value) (v w : Value) : Prop
    extends ReadsAlike ev s P Q f kind v w where
  direction : Matches ev P Q (fun x y => x = y ∧ s.Knows x) (field v "direction")
    (field w "direction")
  spacing : Matches ev P Q (Twin s.Knows f .spacing) (field v "inter_item_spacing")
    (field w "inter_item_spacing")
  children : Matches ev P Q (fun x y => x = .row listed xs ∧ y = .row listed xs)
    (field v "children") (field w "children")

section Reading

variable {ev : Evaluator} {s : Session} {P Q : Session → Prop} {f : Double → Double}
  {kind : EngineKind} {v w : Value}

/-- Only slots and groups have sizes that composers read. -/
lemma Session.not_sizesNan_of_isBox {ev : Evaluator} {s : Session} {v : Value}
    (h : v.isBox = false) : ¬ s.SizesNan ev v := by
  intro hnan
  cases hnan with
  | here hbox => cases h.symm.trans hbox
  | member hx =>
    cases v with
    | group => cases h
    | _ => cases hx

/-- Where a typed size is read of a node, and no dict inside it, no such dict is read. -/
lemma Session.not_sizesNan {ev : Evaluator} {s : Session} {v : Value} {z : LayoutSize}
    (hz : (field v "size").exec ev s = (.ok (.size z), s))
    (hmembers : ∀ x ∈ v.members, ¬ s.SizesNan ev x) : ¬ s.SizesNan ev v := by
  intro h
  cases h with
  | here _ hread hwrites =>
    cases hz.symm.trans hread
    exact not_writesNan (by simp [Form.parts]) rfl hwrites
  | member hx h => exact hmembers _ hx h

lemma Value.members_row {i : Nat} {k z n e d g : Value} (listed : Bool) (xs : List Value) :
    (group i k z n e d g (.row listed xs)).members = xs := by
  cases listed <;> rfl

lemma Session.SettledSizes.member {i : Nat} {k z n e d g x : Value} {listed : Bool}
    {xs : List Value} (h : s.SettledSizes ev f kind (.group i k z n e d g (.row listed xs)))
    (hx : x ∈ xs) : s.SettledSizes ev f kind x :=
  fun hkind => (h hkind).imp_right fun hgroup hsize =>
    hgroup (.member (by rwa [members_row]) hsize)

lemma Session.knows_row (listed : Bool) (xs : List Value) : s.Knows (.row listed xs) := by
  cases listed <;> trivial

lemma Value.Twin.isNull {known : Value → Prop} {α : Type} {mk : α → Value}
    (hmk : ∀ a, (mk a).isNull = false) (h : v.Twin known f mk w) : v.isNull = w.isNull := by
  cases h with
  | one => rfl
  | two => rw [hmk, hmk]

/-- A node is read alike in both sessions. -/
lemma Session.Parallel.readsAlike (h : s.Parallel P Q) (hv : s.Knows v) (hbox : v.isBox = true)
    (hparts : ∀ y ∈ v.parts, s.Knows y) (hsizes : s.SettledSizes ev f kind v) :
    ReadsAlike ev s P Q f kind v v := by
  have hfield : ∀ {α : Type} (mk : α → Value) (name : String),
      Matches ev P Q (Twin s.Knows f mk) (Run.field v name) (Run.field v name) := by
    intro α mk name
    refine (h.boxField hv hbox hparts name).mono fun x y hxy => ?_
    obtain ⟨rfl, hx⟩ := hxy
    exact .one hx
  refine ⟨?_, hfield .insets _, hfield EdgeSpacing.toValue _⟩
  obtain ⟨x, hx, hy⟩ := exists_exec_field_of_advances ev h.knows hv "size"
  refine h.look hx fun y hxy => ⟨.one ?_, fun hkind => ?_⟩
  · exact (hy y hxy).elim (fun hown => hparts y (mem_parts_of_inherent ev hbox hown)) id
  · refine (hsizes hkind).imp_right fun hsize hwrites => hsize (.here hbox ?_ hwrites)
    rw [hx s (.refl s), hxy]

/-- What was given stands in its field. -/
lemma get?_given {fs : Fields} {name : Text} {y : Value} (h : fs.get? name = some y)
    (hy : y.isGiven = true) : (Value.fields?.given fs).get? name = some y := by
  have hfilter : ∀ fs, Value.fields?.given fs = fs.filter (·.2.isGiven) := fun _ => rfl
  rw [hfilter]
  induction fs with
  | nil => cases h
  | cons f fs ih =>
    obtain ⟨k, v⟩ := f
    rw [Fields.get?_cons] at h
    by_cases hk : name = k
    · rw [if_pos hk] at h
      obtain rfl := Option.some.inj h
      rw [List.filter_cons, if_pos hy, Fields.get?_cons, if_pos hk]
    · rw [if_neg hk] at h
      rw [List.filter_cons]
      split
      · rw [Fields.get?_cons, if_neg hk, ih h]
      · exact ih h

/-- A field of a group that was given is read off. -/
lemma exec_groupField {i : Nat} {k z n e d g cs y : Value} {name : String} (hy : y.isGiven = true)
    (h : Fields.get? [("kind", k), ("size", z), ("insets", n), ("edge_spacing", e),
      ("direction", d), ("inter_item_spacing", g), ("children", cs)] name = some y) (t : Session) :
    (Run.field (.group i k z n e d g cs) name).exec ev t = (.ok y, t) := by
  have hown : (Value.group i k z n e d g cs).constant? name = some y := get?_given h hy
  refine exec_field ?_
  rw [← hown]
  rfl

lemma Value.isGiven_row (listed : Bool) (xs : List Value) : (row listed xs).isGiven = true := by
  cases listed <;> rfl

/-- A group with known fields is read alike in both sessions. -/
lemma Session.Parallel.groupsAlike (h : s.Parallel P Q) {i : Nat} {k z n e d g : Value}
    {listed : Bool} {xs : List Value} (hparts : ∀ y ∈ [k, z, n, e, d, g], s.Knows y)
    (hsizes : s.SettledSizes ev f kind (.group i k z n e d g (.row listed xs))) :
    let v : Value := .group i k z n e d g (.row listed xs)
    GroupsAlike ev s P Q f kind listed xs v v := by
  intro v
  have hv : s.Knows v := trivial
  have hall : ∀ y ∈ v.parts, s.Knows y := by
    intro y hy
    rcases List.mem_append.1 (show y ∈ [k, z, n, e, d, g] ++ [.row listed xs] from hy) with hy | hy
    · exact hparts y hy
    · rw [List.mem_singleton.1 hy]
      exact s.knows_row listed xs
  have hchildren : ∀ t, (Run.field v "children").exec ev t = (.ok (.row listed xs), t) :=
    exec_groupField (isGiven_row listed xs) rfl
  refine { h.readsAlike hv rfl hall hsizes with direction := ?_, spacing := ?_, children := ?_ }
  · exact h.boxField hv rfl hall _
  · refine (h.boxField hv rfl hall _).mono fun x y hxy => ?_
    obtain ⟨rfl, hx⟩ := hxy
    exact .one hx
  · exact .look (fun t _ => hchildren t) (fun u _ => hchildren u) (.ok ⟨rfl, rfl⟩)

/-- Groups that were built twice around the same children are read alike. -/
lemma Value.GroupTwin.groupsAlike {xs : List Value} (h : GroupTwin s.Knows f xs v w) :
    GroupsAlike ev s P Q f kind false xs v w := by
  obtain ⟨d, hsize, ⟨hn, hgiven, hgiven'⟩, ⟨he, hgiven₂, hgiven₂'⟩, ⟨hg, hgiven₃, hgiven₃'⟩⟩ := h
  have hlook : ∀ {A : Value → Value → Prop} {v w x y : Value} {name : String},
      (∀ t, (Run.field v name).exec ev t = (.ok x, t)) →
      (∀ u, (Run.field w name).exec ev u = (.ok y, u)) → A x y →
      Matches ev P Q A (Run.field v name) (Run.field w name) :=
    fun hx hy hxy => .look (fun t _ => hx t) (fun u _ => hy u) (.ok hxy)
  exact {
    size := hlook (exec_groupField rfl rfl) (exec_groupField rfl rfl)
      ⟨.two hsize, fun _ => .inr (not_writesNan (by simp [Form.parts]) rfl)⟩
    insets := hlook (exec_groupField hgiven rfl) (exec_groupField hgiven' rfl) hn
    edges := hlook (exec_groupField hgiven₂ rfl) (exec_groupField hgiven₂' rfl) he
    direction := hlook (exec_groupField rfl rfl) (exec_groupField rfl rfl) ⟨rfl, trivial⟩
    spacing := hlook (exec_groupField hgiven₃ rfl) (exec_groupField hgiven₃' rfl) hg
    children := hlook (exec_groupField rfl rfl) (exec_groupField rfl rfl) ⟨rfl, rfl⟩ }

end Reading

/-! ### Composers -/

/-- Two computations compose with composers whose engines have one class and of which the same was
asked about repetition. -/
structure Session.Recomposes (s : Session) (P Q : Session → Prop) (c : EngineClass)
    (requested : Value) (id id' : Nat) : Prop where
  parallel : s.Parallel P Q
  left : ∃ C, ∀ t, P t → t.Engaged id C c requested
  right : ∃ C, ∀ u, Q u → u.Engaged id' C c requested

namespace Session.Recomposes

variable {ev : Evaluator} {s : Session} {P Q : Session → Prop} {f : Double → Double}
  {c : EngineClass} {requested : Value} {id id' : Nat} {v w obj obj' : Value} {listed : Bool}
  {xs ys zs : List Value} (h : s.Recomposes P Q c requested id id')
include h

/-- No script has replaced a method of the composers. -/
lemma callMethodOr {A : Value → Value → Prop} {name : String} {a a' : Arguments} {m n : Run Value}
    (hmn : Matches ev P Q A m n) :
    Matches ev P Q A (Run.callMethodOr (.composer id) name a m)
      (Run.callMethodOr (.composer id') name a' n) := by
  obtain ⟨C, hC⟩ := h.left
  obtain ⟨C', hC'⟩ := h.right
  refine hmn.congr (fun t ht => exec_callMethodOr ?_) fun u hu => exec_callMethodOr ?_
  · exact (hC t ht).own name
  · exact (hC' u hu).own name

/-- Both engines are asked for an operation, which is to be done alike. -/
lemma operate {A : List Value → List Value → Prop} {B : Value → Value → Prop} {operation : String}
    (hop : ∀ i, (c.engine i).hasMethod operation = true ∧ (c.engine i).constant? operation = none)
    {m n : Run (List Value)} (hmn : Matches ev P Q A m n)
    (hnext : ∀ xs ys, A xs ys →
      Matches ev P Q B (c.operate operation ⟨xs, []⟩) (c.operate operation ⟨ys, []⟩)) :
    Matches ev P Q B (Composer.operate id operation m) (Composer.operate id' operation n) := by
  obtain ⟨C, hC⟩ := h.left
  obtain ⟨C', hC'⟩ := h.right
  refine (hmn.bind hnext).congr (fun t ht => ?_) fun u hu => ?_
  · refine ((hC t ht).exec_asked ev hop _).trans ?_
    simp only [bind_assoc, pure_bind]
  · refine ((hC' u hu).exec_asked ev hop _).trans ?_
    simp only [bind_assoc, pure_bind]

/-- An operation that is asked for only if a field of the node is set. -/
lemma optional (operation : String) {α : Type} {mk : α → Value} {grouped : Bool} {name : String}
    {B : Value → Value → Prop} {next next' : Value → Run Value}
    (hop : ∀ i, (c.engine i).hasMethod operation = true ∧ (c.engine i).constant? operation = none)
    (hmk : ∀ a, (mk a).isNull = false) (hobj : c.kind.Twins s.serial f grouped obj obj')
    (hfield : Matches ev P Q (Twin s.Knows f mk) (field v name) (field w name))
    (hasked : ∀ x y, x.Twin s.Knows f mk y →
      Matches ev P Q (c.kind.Twins s.serial f grouped) (c.operate operation ⟨[obj, x], []⟩)
        (c.operate operation ⟨[obj', y], []⟩))
    (hnext : ∀ o o', c.kind.Twins s.serial f grouped o o' →
      Matches ev P Q B (next o) (next' o')) :
    Matches ev P Q B
      (do
        let x ← field v name
        let o ← if x.isNull then pure obj
          else Composer.operate id operation do return [obj, ← field v name]
        next o)
      (do
        let x ← field w name
        let o ← if x.isNull then pure obj'
          else Composer.operate id' operation do return [obj', ← field w name]
        next' o) := by
  have hoperands : Matches ev P Q
      (fun xs ys => ∃ x y, xs = [obj, x] ∧ ys = [obj', y] ∧ x.Twin s.Knows f mk y)
      (do return [obj, ← field v name]) (do return [obj', ← field w name]) :=
    .bind hfield fun x y hxy => .pure ⟨x, y, rfl, rfl, hxy⟩
  refine .bind hfield fun x y hxy => ?_
  dsimp only
  rw [hxy.isNull hmk]
  split
  · -- the field is null on both sides
    exact .bind (.pure hobj) hnext
  · -- both engines are asked
    refine .bind (h.operate hop hoperands fun xs ys hxys => ?_) hnext
    obtain ⟨x, y, rfl, rfl, hxy⟩ := hxys
    exact hasked x y hxy

/-- Insets and edge spacing are asked for in this order, each if it is set. -/
lemma configure {grouped : Bool} (hread : ReadsAlike ev s P Q f c.kind v w)
    (hobj : c.kind.Twins s.serial f grouped obj obj') :
    Matches ev P Q (c.kind.Twins s.serial f grouped) (Composer.configure id obj v)
      (Composer.configure id' obj' w) := by
  refine h.callMethodOr ?_
  refine h.optional "with_content_insets" (fun _ => ⟨rfl, rfl⟩) (fun _ => rfl) hobj hread.insets
    (fun _ _ => c.matches_withContentInsets h.parallel hobj) fun o o' ho => ?_
  have hedges := h.optional "with_edge_spacing" (fun _ => ⟨rfl, rfl⟩) (fun _ => rfl) ho hread.edges
    (fun _ _ => c.matches_withEdgeSpacing h.parallel ho) fun _ _ ho => .pure ho
  simpa using hedges

/-- The items of a slot are copies of one item, which is made and configured once. -/
lemma composeSlot (hread : ReadsAlike ev s P Q f c.kind v v) (hv : s.Knows v) :
    Matches ev P Q (List.Forall₂ (c.kind.Subitems s.serial f)) (Composer.composeSlot id v)
      (Composer.composeSlot id' v) := by
  have hsize : Matches ev P Q (fun xs ys => ∃ x y, xs = [x] ∧ ys = [y] ∧
      x.Twin s.Knows f .size y ∧ (c.kind = .model → x.Settled f .size))
      (do return [← field v "size"]) (do return [← field v "size"]) :=
    .bind hread.size fun x y hxy => .pure ⟨x, y, rfl, rfl, hxy⟩
  have hitem : Matches ev P Q (c.kind.Twins s.serial f false)
      (Composer.operate id "make_item" do return [← field v "size"])
      (Composer.operate id' "make_item" do return [← field v "size"]) := by
    refine h.operate (fun _ => ⟨rfl, rfl⟩) hsize fun xs ys hxys => ?_
    obtain ⟨x, y, rfl, rfl, hxy, hsettled⟩ := hxys
    exact c.matches_makeItem h.parallel hxy hsettled
  refine .bind hitem fun o o' ho => .bind (h.configure hread ho) fun o o' ho => ?_
  refine .bind (h.parallel.field hv "replica_count") fun count _ hcount => .lift ?_
  subst hcount
  exact Agrees.map (Agrees.self fun _ _ => rfl) fun n _ hn => hn ▸ forall₂_replicate ⟨false, ho⟩ n

/-! Groups. -/

variable (hgroup : GroupsAlike ev s P Q f c.kind listed zs v w)

include hgroup

lemma directionShown : Matches ev P Q Eq (Composer.directionShown v)
    (Composer.directionShown w) := by
  refine .bind hgroup.direction fun d _ hd => ?_
  obtain ⟨rfl, hd⟩ := hd
  refine .bind (h.parallel.field hd "value") fun x _ hx => ?_
  subst hx
  exact h.parallel.shown x

lemma requireChildren (children : Value) :
    Matches ev P Q (fun _ _ => True) (Composer.requireChildren v children)
      (Composer.requireChildren w children) := by
  unfold Composer.requireChildren
  split
  · refine .bind (h.directionShown hgroup) fun d _ hd => ?_
    subst hd
    exact .throw _
  · exact .pure trivial

/-- Whether items are repeated depends on the composers and on the children. It takes two items. -/
lemma repeatsItems (hlen : xs.length = ys.length) :
    Matches ev P Q (fun b b' => b = b' ∧ (b = true → 1 < xs.length))
      (Composer.repeatsItems id v xs) (Composer.repeatsItems id' w ys) := by
  obtain ⟨C, hC⟩ := h.left
  obtain ⟨C', hC'⟩ := h.right
  have hcomposer : Matches ev P Q (fun C C' => C.repeats.isTruthy = C'.repeats.isTruthy)
      (composer id) (composer id') := by
    intro t u ht hu
    rw [exec_composer ev (hC t ht).composer, exec_composer ev (hC' u hu).composer]
    exact ⟨.ok ((hC t ht).repeats.trans (hC' u hu).repeats.symm), ht, hu⟩
  unfold Composer.repeatsItems
  refine .bind hcomposer fun C C' hrepeats => ?_
  rw [hrepeats, ← hlen]
  split
  · rename_i hlong
    refine .bind hgroup.children fun x y hxy => ?_
    obtain ⟨rfl, rfl⟩ := hxy
    refine .bind (.look (fun t _ => exec_elements_row ev t listed zs)
      (fun u _ => exec_elements_row ev u listed zs) (.ok rfl)) fun xs _ hxs => ?_
    subst hxs
    exact .lift (.self fun _ _ => ⟨rfl, fun _ => by simpa using (Bool.and_eq_true_iff.1 hlong).2⟩)
  · exact .pure ⟨rfl, nofun⟩

lemma repeatedGroup (hxy : List.Forall₂ (c.kind.Subitems s.serial f) xs ys)
    (hlong : 1 < xs.length) :
    Matches ev P Q (c.kind.Twins s.serial f true) (Composer.repeatedGroup id v xs)
      (Composer.repeatedGroup id' w ys) := by
  have hhead : c.kind.Subitems s.serial f (xs.headD .null) (ys.headD .null) := by
    cases hxy with
    | nil => cases hlong
    | cons hx _ => exact hx
  have hoperands : Matches ev P Q (fun vs ws => ∃ d x y, s.Knows d ∧
      x.Twin s.Knows f .size y ∧ (c.kind = .model → x.Settled f .size) ∧
      vs = [d, x, xs.headD .null, .int xs.length] ∧ ws = [d, y, ys.headD .null, .int xs.length])
      (do
        let direction ← field v "direction"
        return [direction, ← field v "size", xs.headD .null, .int xs.length])
      (do
        let direction ← field w "direction"
        return [direction, ← field w "size", ys.headD .null, .int xs.length]) := by
    refine .bind hgroup.direction fun d _ hd => .bind hgroup.size fun x y hxy => .pure ?_
    obtain ⟨rfl, hd⟩ := hd
    exact ⟨d, x, y, hd, hxy.1, hxy.2, rfl, rfl⟩
  unfold Composer.repeatedGroup
  rw [← hxy.length_eq]
  refine .bind (h.directionShown hgroup) fun text _ _ => ?_
  refine .bind (h.parallel.log h.parallel.undisturbed.logs _ _) fun _ _ _ => ?_
  refine h.operate (fun _ => ⟨rfl, rfl⟩) hoperands fun vs ws hvs => ?_
  obtain ⟨d, x, y, -, hxy, hsettled, rfl, rfl⟩ := hvs
  exact c.matches_makeRepeatedGroup h.parallel hxy hsettled hhead

lemma listedGroup (hxy : List.Forall₂ (c.kind.Subitems s.serial f) xs ys) :
    Matches ev P Q (c.kind.Twins s.serial f true) (Composer.listedGroup id v xs)
      (Composer.listedGroup id' w ys) := by
  have hoperands : Matches ev P Q (fun vs ws => ∃ d x y, s.Knows d ∧
      x.Twin s.Knows f .size y ∧ (c.kind = .model → x.Settled f .size) ∧
      vs = [d, x, .list xs] ∧ ws = [d, y, .list ys])
      (do
        let direction ← field v "direction"
        return [direction, ← field v "size", .list xs])
      (do
        let direction ← field w "direction"
        return [direction, ← field w "size", .list ys]) := by
    refine .bind hgroup.direction fun d _ hd => .bind hgroup.size fun x y hxy => .pure ?_
    obtain ⟨rfl, hd⟩ := hd
    exact ⟨d, x, y, hd, hxy.1, hxy.2, rfl, rfl⟩
  refine h.operate (fun _ => ⟨rfl, rfl⟩) hoperands fun vs ws hvs => ?_
  obtain ⟨d, x, y, hd, hsize, hsettled, rfl, rfl⟩ := hvs
  exact c.matches_makeGroup h.parallel hd hsize hsettled hxy

/-- A group whose subitems are there. -/
lemma assemble (hxy : List.Forall₂ (c.kind.Subitems s.serial f) xs ys) :
    Matches ev P Q (c.kind.Twins s.serial f true) (Composer.assemble id v xs)
      (Composer.assemble id' w ys) := by
  have hrest : ∀ o o', c.kind.Twins s.serial f true o o' →
      Matches ev P Q (c.kind.Twins s.serial f true)
        (do
          let obj ← Composer.configure id o v
          let spacing ← field v "inter_item_spacing"
          let obj ← if spacing.isNull then pure obj
            else Composer.operate id "with_inter_item_spacing" do
              return [obj, ← field v "inter_item_spacing"]
          log "layoutbox.compose" .debug ("Composed " ++ (← Composer.directionShown v)
            ++ " group with " ++ toString xs.length ++ " subitems")
          pure obj)
        (do
          let obj ← Composer.configure id' o' w
          let spacing ← field w "inter_item_spacing"
          let obj ← if spacing.isNull then pure obj
            else Composer.operate id' "with_inter_item_spacing" do
              return [obj, ← field w "inter_item_spacing"]
          log "layoutbox.compose" .debug ("Composed " ++ (← Composer.directionShown w)
            ++ " group with " ++ toString ys.length ++ " subitems")
          pure obj) := by
    intro o o' ho
    refine .bind (h.configure hgroup.toReadsAlike ho) fun o o' ho => ?_
    refine h.optional "with_inter_item_spacing" (fun _ => ⟨rfl, rfl⟩) (fun _ => rfl) ho
      hgroup.spacing (fun _ _ => c.matches_withInterItemSpacing h.parallel ho) fun o o' ho => ?_
    refine .bind (h.directionShown hgroup) fun text _ _ => ?_
    refine .bind (h.parallel.log h.parallel.undisturbed.logs _ _) fun _ _ _ => .pure ho
  unfold Composer.assemble
  refine .bind (h.repeatsItems hgroup hxy.length_eq) fun b _ hb => ?_
  obtain ⟨rfl, hlong⟩ := hb
  cases b with
  | true => exact .bind (h.repeatedGroup hgroup hxy (hlong rfl)) hrest
  | false => exact .bind (h.listedGroup hgroup hxy) hrest

omit hgroup

/-! Whole trees. -/

variable {deep deep' : Value → Run (List Value)}

omit h in
/-- What children become, one after the other, where each of them becomes the same. -/
lemma allSubitems
    (hxs : ∀ x ∈ xs, Matches ev P Q (List.Forall₂ (c.kind.Subitems s.serial f))
      (Composer.childSubitems id deep x) (Composer.childSubitems id' deep' x)) (held : Nat) :
    Matches ev P Q (List.Forall₂ (c.kind.Subitems s.serial f))
      (Composer.allSubitems id deep held xs) (Composer.allSubitems id' deep' held xs) := by
  induction xs generalizing held with
  | nil => exact .pure .nil
  | cons x xs ih =>
    obtain ⟨hx, hxs⟩ := List.forall_mem_cons.1 hxs
    rw [Composer.allSubitems, Composer.allSubitems]
    refine .bind hx fun vs ws hvs => .bind (.lift ((Agrees.ok hvs).extending held)) ?_
    intro vs ws hvs
    rw [hvs.length_eq]
    exact .bind (ih hxs _) fun vs' ws' hvs' => .pure (List.rel_append hvs hvs')

/-- A group of which the children are known to become the same. -/
lemma assembleRow (hgroup : GroupsAlike ev s P Q f c.kind listed zs v w)
    (hzs : ∀ x ∈ zs, Matches ev P Q (List.Forall₂ (c.kind.Subitems s.serial f))
      (Composer.childSubitems id deep x) (Composer.childSubitems id' deep' x)) :
    Matches ev P Q (c.kind.Twins s.serial f true)
      (do Composer.assemble id v (← Composer.groupSubitems id deep (.row listed zs)))
      (do Composer.assemble id' w (← Composer.groupSubitems id' deep' (.row listed zs))) := by
  have hrow : ∀ id deep, Composer.groupSubitems id deep (.row listed zs) =
      Composer.allSubitems id deep 0 zs := by
    cases listed <;> exact fun _ _ => rfl
  rw [hrow, hrow]
  exact .bind (allSubitems hzs 0) fun xs ys hxy => h.assemble hgroup hxy

/-- **One node**: it becomes the same in both sessions, whatever its fields hold. -/
lemma childSubitems (hv : s.Composable v)
    (hsizes : s.SettledSizes ev f c.kind v) :
    Matches ev P Q (List.Forall₂ (c.kind.Subitems s.serial f))
      (Composer.childSubitems id deep v) (Composer.childSubitems id' deep' v) := by
  induction hv with
  | @slot i k z n e c' hparts =>
    obtain ⟨C, hC⟩ := h.left
    obtain ⟨C', hC'⟩ := h.right
    have hslot : ∀ {t : Session} {id : Nat} {C : Composer}, t.Engaged id C c requested →
        ∀ v, (Composer.slotSubitems id v).exec ev t = (Composer.composeSlot id v).exec ev t := by
      intro t id C hC v
      unfold Composer.slotSubitems
      rw [exec_bind_ok (exec_attached? ev t _ _)]
      have hown : t.replaced? (.composer id) "compose_slot" = none := hC.own _
      rw [hown]
    rw [Composer.childSubitems, Composer.childSubitems]
    have hv : s.Knows (.slot i k z n e c') := trivial
    exact (h.composeSlot (h.parallel.readsAlike hv rfl hparts hsizes) hv).congr
      (fun t ht => hslot (hC t ht) _) fun u hu => hslot (hC' u hu) _
  | @group i k z n e d g listed xs hparts _ ih =>
    have hgroup := h.parallel.groupsAlike hparts hsizes
    have hxs := fun x hx => ih x hx (hsizes.member hx)
    rw [Composer.childSubitems, Composer.childSubitems]
    refine .bind (h.callMethodOr (.bind (h.requireChildren hgroup _) fun _ _ _ =>
      h.assembleRow hgroup hxs)) fun o o' ho => .pure (.cons ⟨true, ho⟩ .nil)
  | @stranger v hv =>
    cases v with
    | slot => cases hv
    | group => cases hv
    | _ => exact .throw _

/-- **One group**, or two that were built around the same children, becomes the same in both
sessions. -/
lemma composeGroup (hgroup : GroupsAlike ev s P Q f c.kind listed zs v w)
    (hzs : ∀ z ∈ zs, s.Composable z)
    (hsizes : ∀ z ∈ zs, s.SettledSizes ev f c.kind z) :
    Matches ev P Q (c.kind.Twins s.serial f true) (Composer.composeGroup id v)
      (Composer.composeGroup id' w) := by
  have hwith : Matches ev P Q (c.kind.Twins s.serial f true)
      (Composer.composeGroupWith id (Composer.childSubitemsWithin id (ev.depth + 1)) v)
      (Composer.composeGroupWith id' (Composer.childSubitemsWithin id' (ev.depth + 1)) w) := by
    refine .bind hgroup.children fun x y hxy => ?_
    obtain ⟨rfl, rfl⟩ := hxy
    refine .bind (h.requireChildren hgroup _) fun _ _ _ => .bind hgroup.children fun x y hxy => ?_
    obtain ⟨rfl, rfl⟩ := hxy
    exact h.assembleRow hgroup fun z hz => h.childSubitems (hzs z hz) (hsizes z hz)
  exact hwith.congr (fun t _ => exec_bind_ok (exec_read ev t))
    fun u _ => exec_bind_ok (exec_read ev u)

end Session.Recomposes

end LayoutTree
