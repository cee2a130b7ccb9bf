import LayoutTree.Proofs.Compose.Draft
import LayoutTree.Proofs.Construct
import LayoutTree.Tree.Build

/-!
Building the group of a builder whose fields make no new values: in every session the same group is
built, or the same issues are found.

A reading that takes no identities has one verdict in all sessions. In the reading of a group only
the group itself takes one.
-/

namespace LayoutTree

/-! ### Readings that take no identities -/

namespace Verdict

variable {α β : Type}

/-- What is read, if it is. -/
def value? : Verdict α → Option α
  | read a _ _ => some a
  | refused _ => none

@[simp] lemma value?_map (f : α → β) (v : Verdict α) : (v.map f).value? = v.value?.map f := by
  cases v <;> rfl

@[simp] lemma value?_both (f : Verdict (α → β)) (v : Verdict α) :
    (f.both v).value? = f.value?.bind fun g => v.value?.map g := by
  cases f <;> cases v <;> rfl

@[simp] lemma value?_given (name : String) (v : Verdict α) :
    (v.given name).value? = v.value? := by
  cases v <;> rfl

@[simp] lemma value?_atMost (bound : Exactness) (v : Verdict α) :
    (v.atMost bound).value? = v.value? := by
  cases v <;> rfl

end Verdict

namespace Reading

variable {α β : Type}

/-- The reading takes no identities, and reads this or is refused. -/
def Steady (o : Option α) (r : Reading α) : Prop :=
  ∃ v : Verdict α, v.value? = o ∧ ∀ n, r n = (v, n)

/-- The reading takes one identity, and reads what this makes of it or is refused. -/
def Dated (o : Option (Nat → α)) (r : Reading α) : Prop :=
  ∃ v : Verdict (Nat → α), v.value? = o ∧ ∀ n, r n = (v.map (· n), n + 1)

namespace Steady

variable {o : Option α} {r : Reading α}

lemma pure (a : α) : Steady (some a) (Pure.pure a) := ⟨.read a 0 .exact, rfl, fun _ => rfl⟩

lemma refuse (kind : IssueKind) : Steady (α := α) none (refuse kind) :=
  ⟨.refused [⟨kind, []⟩], rfl, fun _ => rfl⟩

lemma judged {f : Verdict α → Verdict α} (hf : ∀ v, (f v).value? = v.value?) (h : Steady o r) :
    Steady o (judged f r) := by
  obtain ⟨v, hv, hr⟩ := h
  refine ⟨f v, by rw [hf, hv], fun n => ?_⟩
  rw [Reading.judged, hr]

lemma given (name : String) (h : Steady o r) : Steady o (given name r) :=
  h.judged (Verdict.value?_given name)

lemma atMost (bound : Exactness) (h : Steady o r) : Steady o (atMost bound r) :=
  h.judged (Verdict.value?_atMost bound)

lemma map (f : α → β) (h : Steady o r) : Steady (o.map f) (f <$> r) := by
  obtain ⟨v, hv, hr⟩ := h
  refine ⟨v.map f, by rw [Verdict.value?_map, hv], fun n => ?_⟩
  rw [map_apply, hr]

end Steady

namespace Dated

lemma made (f : Nat → α) : Dated (some f) (f <$> made) :=
  ⟨.read f 0 .widened, rfl, fun _ => rfl⟩

lemma seq {o : Option (Nat → α → β)} {p : Option α} {f : Reading (α → β)} {r : Reading α}
    (hf : Dated o f) (hr : Steady p r) :
    Dated (o.bind fun g => p.map fun a n => g n a) (f <*> r) := by
  obtain ⟨v, hv, hf⟩ := hf
  obtain ⟨w, hw, hr⟩ := hr
  refine ⟨(v.map fun g a n => g n a).both w, ?_, fun n => ?_⟩
  · rw [Verdict.value?_both, Verdict.value?_map, hv, hw]
    cases o <;> rfl
  · rw [seq_apply, hf, hr]
    cases v <;> cases w <;> rfl

end Dated

end Reading

/-! ### Fields that make no new values -/

namespace Value

open Reading

/-- The value is a dict, from which a layout value can be made. -/
def isDict : Value → Bool
  | .dict .. => true
  | _ => false

def size? : Value → Option LayoutSize
  | .size z => some z
  | _ => none

/-! A field that may be null holds nothing, something of its type, or neither. -/

def insets? : Value → Option (Option Insets)
  | .null => some none
  | .insets i => some (some i)
  | _ => none

def spacing? : Value → Option (Option Spacing)
  | .null => some none
  | .spacing g => some (some g)
  | _ => none

def edges? : Value → Option (Option EdgeSpacing)
  | .null => some none
  | .edges id l t r b => do return some ⟨id, ← l.spacing?, ← t.spacing?, ← r.spacing?, ← b.spacing?⟩
  | _ => none

/-- The direction that a value is or that is written in it. -/
def direction? : Value → Option Direction
  | .direction d => some d
  | v => match v.legible? .notMember with
    | some (.ok s) => Direction.ofText? s
    | _ => none

variable {v : Value}

lemma steady_size (h : v.isDict = false) :
    Steady (v.size?.map size) ((fun v => size <$> readSize v) v) := by
  cases v with
  | size z => exact .pure _
  | dict => cases h
  | _ => exact .refuse _

lemma steady_insets (h : v.isDict = false) :
    Steady (v.insets?.map (.ofOption .insets)) (orNull readInsets v) := by
  cases v with
  | null => exact .pure _
  | insets i => exact .pure _
  | dict => cases h
  | _ => exact .refuse _

lemma steady_spacing (h : v.isDict = false) :
    Steady (v.spacing?.map (.ofOption .spacing)) (orNull readSpacing v) := by
  cases v with
  | null => exact .pure _
  | spacing g => exact .pure _
  | dict => cases h
  | _ => exact .refuse _

lemma eq_of_spacing? {g : Option Spacing} (h : v.spacing? = some g) : v = .ofOption .spacing g := by
  unfold spacing? at h
  split at h <;> cases h <;> rfl

/-- Edge spacings are taken as they are, so nothing is known of them but what they are known to
hold. -/
lemma steady_edges (h : v.isDict = false)
    (ht : ∀ id l t r b, v = .edges id l t r b → v.edges?.isSome = true) :
    Steady (v.edges?.map (.ofOption EdgeSpacing.toValue)) (orNull readEdges v) := by
  cases v with
  | null => exact .pure _
  | edges id l t r b =>
    have hs := ht id l t r b rfl
    simp only [edges?] at hs ⊢
    rcases hl : l.spacing? with _ | x <;> simp only [hl] at hs
    · cases hs
    rcases htop : t.spacing? with _ | y <;> simp only [htop] at hs
    · cases hs
    rcases hr : r.spacing? with _ | z <;> simp only [hr] at hs
    · cases hs
    rcases hb : b.spacing? with _ | w <;> simp only [hb] at hs
    · cases hs
    rw [eq_of_spacing? hl, eq_of_spacing? htop, eq_of_spacing? hr, eq_of_spacing? hb]
    exact .pure _
  | dict => cases h
  | _ => exact .refuse _

lemma steady_direction (v : Value) :
    Steady (v.direction?.map direction) ((fun v => direction <$> readDirection v) v) := by
  have hmember : Steady (match v.legible? .notMember with
      | some (.ok s) => Direction.ofText? s
      | _ => none) (v.member Direction.ofText?) := by
    unfold member fromText
    rcases v.legible? .notMember with _ | _ | s
    · exact .refuse _
    · exact .refuse _
    · refine .atMost _ ?_
      dsimp only
      rcases Direction.ofText? s with _ | d
      · exact .refuse _
      · exact .pure _
  cases v with
  | direction d => exact .pure _
  | _ => exact hmember.map _

end Value

/-! ### Children -/

/-- The draft is a slot or a group. -/
def Draft.isNode : Draft → Bool
  | slot _ => true
  | group .. => true
  | stranger .. => false

namespace Value

open Reading

lemma childrenFrom_boxes (outer : Nesting) (i : Nat) {xs : List Value}
    (h : ∀ x ∈ xs, x.isBox = true) (n : Nat) :
    childrenFrom outer i xs n = (.read xs 0 .exact, n) := by
  induction xs generalizing i with
  | nil => rfl
  | cons x xs ih =>
    obtain ⟨hx, hxs⟩ := List.forall_mem_cons.1 h
    have hread : child outer x n = (.read x 0 .exact, n) := by
      cases x <;> first | rfl | cases hx
    simp only [childrenFrom, seq_apply, map_apply, Reading.under, Reading.judged, hread,
      ih (i + 1) hxs]
    rfl

lemma isBox_toValues {ds : List Draft} (h : ∀ d ∈ ds, d.isNode = true) :
    ∀ v ∈ Draft.toValues ds, v.isBox = true := by
  induction ds with
  | nil => simp [Draft.toValues]
  | cons d ds ih =>
    obtain ⟨hd, hds⟩ := List.forall_mem_cons.1 h
    rw [Draft.toValues]
    refine List.forall_mem_cons.2 ⟨?_, ih hds⟩
    cases d <;> first | rfl | cases hd

end Value

/-! ### Builders -/

namespace Box

/-- A group builder with such children, which are slots and groups. Its other fields may hold what
is refused when it is built; they only hold no dicts, and no edge spacings with anything else
inside than spacings. -/
structure Holds (b : Box) (direction space : Value) (ds : List Draft) : Prop where
  content : b.content = .group direction space (.tuple (Draft.toValues ds))
  nodes : ∀ d ∈ ds, d.isNode = true
  size : b.size.isDict = false
  insets : b.insets.isDict = false
  edges : b.edges.isDict = false
  edges? : ∀ id l t r m, b.edges = .edges id l t r m → b.edges.edges?.isSome = true
  space : space.isDict = false

/-- What a group holds besides its children, if the fields of its builder hold that. -/
def frame? (b : Box) (direction space : Value) : Option Frame := do
  return ⟨0, ← b.size.size?, ← b.insets.insets?, ← b.edges.edges?, ← direction.direction?,
    ← space.spacing?⟩

end Box

/-- The group under another identity. -/
def Frame.at (f : Frame) (id : Nat) : Frame := { f with id }

namespace Builder

open Run Reading

variable {b : Box} {direction space : Value} {ds : List Draft}

lemma dated_group (h : b.Holds direction space ds) {children : Reading Value}
    (hc : Steady (some (.tuple (Draft.toValues ds))) children) :
    Dated ((b.frame? direction space).map fun f n => (f.at n).toValue (Draft.toValues ds))
      (Value.groupOf b.nodeFields children) := by
  have hfields : Value.groupOf b.nodeFields children =
      Value.group <$> made <*> pure (.text "group")
        <*> given "size" ((fun v => Value.size <$> Value.readSize v) b.size)
        <*> given "insets" (orNull Value.readInsets b.insets)
        <*> given "edge_spacing" (orNull Value.readEdges b.edges)
        <*> given "direction" ((fun v => Value.direction <$> Value.readDirection v) direction)
        <*> given "inter_item_spacing" (orNull Value.readSpacing space) <*> children := by
    obtain ⟨z, i, e, content⟩ := b
    obtain rfl := h.content
    rfl
  have hr := (((((((Dated.made Value.group).seq (.pure (.text "group"))).seq
    ((Value.steady_size h.size).given "size")).seq
    ((Value.steady_insets h.insets).given "insets")).seq
    ((Value.steady_edges h.edges h.edges?).given "edge_spacing")).seq
    ((Value.steady_direction direction).given "direction")).seq
    ((Value.steady_spacing h.space).given "inter_item_spacing")).seq hc
  rw [hfields]
  convert hr using 1
  unfold Box.frame?
  rcases b.size.size? with _ | z
  · rfl
  rcases b.insets.insets? with _ | i
  · rfl
  rcases b.edges.edges? with _ | e
  · rfl
  rcases direction.direction? with _ | d
  · rfl
  rcases space.spacing? with _ | g <;> rfl

section Children

variable {xs : List Value} (hcontent : b.content = .group direction space (.tuple xs))
  (hxs : ∀ x ∈ xs, x.isBox = true)

include hcontent hxs

/-- Children that are slots and groups are taken as they are. -/
lemma childrenOf_nodeFields (outer : Nesting) :
    Value.childrenOf outer b.nodeFields = fun n => (.read (.tuple xs) 1 .exact, n) := by
  obtain ⟨z, i, e, content⟩ := b
  obtain rfl := hcontent
  funext n
  change (Value.tuple <$> Value.childrenFrom outer 0 xs).given "children" n = _
  rw [Reading.given, Reading.judged, map_apply, Value.childrenFrom_boxes outer 0 hxs]
  rfl

/-- Nothing is settled, for there are no dicts and no cursors among the children. -/
lemma exec_settle (ev : Evaluator) (s : Session) (id : Nat) :
    (settleWithin (ev.depth + 1) (.ofType "Group") [] (.dict id b.nodeFields)).exec ev s =
      (.ok (.dict id b.nodeFields), s) := by
  have hdict : ∀ x ∈ xs, ∀ id fs, x ≠ .dict id fs := by
    rintro x hx id fs rfl
    cases hxs _ hx
  obtain ⟨z, i, e, content⟩ := b
  obtain rfl := hcontent
  have hpart : (settlePart (settleWithin ev.depth) .child [(id, "Group")] "children"
      (Box.nodeFields ⟨z, i, e, .group direction space (.tuple xs)⟩)).exec ev s =
      (.ok (some (.tuple xs)), s) := by
    change (some <$> (Value.tuple <$> settleEach _ _ _ _)).exec ev _ = _
    rw [exec_map, exec_map, exec_settleEach _ _ _ _ hdict]
    rfl
  change (settlePart _ _ _ _ _ >>= _).exec ev _ = _
  rw [exec_bind_ok hpart]
  rfl

/-- What is built is what is read around the children. -/
lemma exec_build_group {ev : Evaluator} {s : Session} {id : Nat} (hb : s.boxes[id]? = some b) :
    (build id).exec ev s =
      finished "Group" (Value.groupOf b.nodeFields fun n => (.read (.tuple xs) 1 .exact, n))
        { s with serial := s.serial + 1 } := by
  have htype : b.nodeType = "Group" := by
    rw [Box.nodeType, hcontent]
  have hfields : Value.ofFields? "Group" s.serial b.nodeFields =
      some (Value.groupOf b.nodeFields fun n => (.read (.tuple xs) 1 .exact, n)) := by
    change some (Value.groupOf b.nodeFields
      (Value.childrenOf [(s.serial, "Group")] b.nodeFields)) = _
    rw [childrenOf_nodeFields hcontent hxs]
  unfold build
  rw [exec_bind_ok (exec_box ev hb), htype,
    exec_construct (exec_settle hcontent hxs ev _ s.serial) hfields]

end Children

/-- In every session in which the builder is the same, the same group is built or the same issues
are found. -/
theorem exists_build (h : b.Holds direction space ds) : ∃ node : Except Fault Frame,
    ∀ ev s id, s.boxes[id]? = some b → (build id).exec ev s =
      ((fun f => (f.at (s.serial + 1)).toValue (Draft.toValues ds)) <$> node,
        { s with serial := s.serial + 2 }) := by
  let children : Value := .tuple (Draft.toValues ds)
  have hchildren : Steady (some children) fun n => (.read children 1 .exact, n) :=
    ⟨_, rfl, fun _ => rfl⟩
  obtain ⟨v, hv, hread⟩ := dated_group h hchildren
  have hbuild : ∀ ev s id, s.boxes[id]? = some b → (build id).exec ev s =
      finished "Group" (fun n => (v.map (· n), n + 1)) { s with serial := s.serial + 1 } := by
    intro ev s id hb
    rw [exec_build_group h.content (Value.isBox_toValues h.nodes) hb]
    exact congrArg (finished "Group" · _) (funext hread)
  rcases v with ⟨make, given, exactness⟩ | issues
  · rcases hf : b.frame? direction space with _ | f <;> rw [hf] at hv <;> cases hv
    exact ⟨.ok f, fun ev s id hb => hbuild ev s id hb⟩
  · exact ⟨.error (.invalid "Group" issues), fun ev s id hb => hbuild ev s id hb⟩

end Builder

end LayoutTree
