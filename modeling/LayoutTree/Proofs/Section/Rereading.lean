import LayoutTree.Proofs.Meaning
import LayoutTree.Proofs.Through

/-!
Reading the same fields twice, from different free identities on.

Both times the same issues are found, or layout values are read that differ only in their
identities, and in the tags of the not-a-numbers that were read of texts. Each time it is read such
a text becomes another number, which equals no other one. So the values are equal if no such text
was read, or if tags are not looked at.
-/

namespace LayoutTree

/-! ### Texts that write no number -/

/-- What a value may be read as. -/
inductive Form where
  | number
  | measure
  | size
  | insets
  | edges

/-- The names under which a dict holds what is read of it, and as what that is read. -/
def Form.parts : Form → List (Text × Form)
  | .number => []
  | .measure => [("value", .number)]
  | .size => [("width", .measure), ("height", .measure)]
  | .insets =>
    [("top", .number), ("leading", .number), ("bottom", .number), ("trailing", .number)]
  | .edges =>
    [("leading", .measure), ("top", .measure), ("trailing", .measure), ("bottom", .measure)]

/-- Where a number is read of the value, which is a text or a dict, there stands a text that writes
a not-a-number. -/
inductive Value.WritesNan : Form → Value → Prop
  | text {v : Value} {s : String} {tag : Nat} :
      v.Writes s → Numeral.double? s = some (.nan tag) → WritesNan .number v
  | entry (id : Nat) {form part : Form} {es : Fields} {name : Text} {v : Value} :
      (name, part) ∈ form.parts → es.get? name = some v → WritesNan part v →
      WritesNan form (.dict id es)

/-- Where no number is read, only dicts write numbers. -/
lemma Value.not_writesNan {form : Form} {v : Value} (hform : form.parts ≠ [])
    (hd : v.isDict = false) : ¬ v.WritesNan form := by
  intro hnan
  cases hnan with
  | text => exact hform rfl
  | entry => cases hd

/-- Where a number is read, only texts write numbers. -/
lemma Value.not_writesNan_number {v : Value} (h : v.legible? .notNumber = none) :
    ¬ v.WritesNan .number := by
  intro hnan
  cases hnan with
  | text hwrites => cases h.symm.trans (legible?_eq_ok_iff.2 hwrites)
  | entry _ hpart => cases hpart

lemma Value.not_writesNan_dict {id : Nat} {es : Fields} {form : Form}
    (h : ∀ e ∈ es, ∀ part, (e.1, part) ∈ form.parts → ¬ e.2.WritesNan part) :
    ¬ (Value.dict id es).WritesNan form := by
  intro hnan
  cases hnan with
  | text hwrites =>
    cases hwrites with
    | text ht => cases ht
  | entry _ hpart hv hnan => exact h _ (Fields.mem_of_get? hv) _ hpart hnan

/-- Seen through the function, what is read of the value is the same each time. -/
def Value.Settled (f : Double → Double) (form : Form) (v : Value) : Prop :=
  Double.Blends f ∨ ¬ v.WritesNan form

lemma Value.Settled.part {f : Double → Double} {form part : Form} {id : Nat} {fs : Fields}
    {name : Text} {v : Value} (h : (Value.dict id fs).Settled f form)
    (hpart : (name, part) ∈ form.parts) (hv : fs.get? name = some v) : v.Settled f part :=
  h.imp_right fun hnan hwrites => hnan (.entry id hpart hv hwrites)

/-! ### Parallel readings -/

/-- The same issues were found, or what was read is related and came from equally many fields. -/
inductive Verdict.Matches {α β : Type} (A : α → β → Prop) : Verdict α → Verdict β → Prop
  | read {a : α} {b : β} (given : Nat) (exactness : Exactness) :
      A a b → Matches A (.read a given exactness) (.read b given exactness)
  | refused (issues : List Issue) : Matches A (.refused issues) (.refused issues)

/-- Two readings, each from a free identity of its own that is not below a bound, have verdicts
that agree. -/
def Reading.Matches {α β : Type} (base : Nat) (A : α → β → Prop) (r : Reading α) (q : Reading β) :
    Prop :=
  ∀ m n, base ≤ m → base ≤ n → m ≤ (r m).2 ∧ n ≤ (q n).2 ∧ (r m).1.Matches A (q n).1

namespace Reading.Matches

variable {α β γ δ : Type} {base : Nat} {A : α → β → Prop} {B : γ → δ → Prop} {r : Reading α}
  {q : Reading β}

lemma pure {a : α} {b : β} (h : A a b) :
    Matches base A (Pure.pure a : Reading α) (Pure.pure b : Reading β) :=
  fun m n _ _ => ⟨Nat.le_refl m, Nat.le_refl n, .read 0 .exact h⟩

lemma refuse (kind : IssueKind) : Matches base A (refuse kind) (refuse kind) :=
  fun m n _ _ => ⟨Nat.le_refl m, Nat.le_refl n, .refused _⟩

/-- What takes no identities is the same both times. -/
lemma of_steady {o : Option α} {A : α → α → Prop} {r : Reading α} (h : Steady o r)
    (ha : ∀ a, A a a) : Matches base A r r := by
  obtain ⟨v, -, hr⟩ := h
  intro m n _ _
  rw [hr, hr]
  refine ⟨Nat.le_refl m, Nat.le_refl n, ?_⟩
  cases v with
  | read a given exactness => exact .read given exactness (ha a)
  | refused issues => exact .refused issues

lemma identity : Matches base (fun i j => base ≤ i ∧ base ≤ j) identity identity :=
  fun m n hm hn => ⟨Nat.le_succ m, Nat.le_succ n, .read 0 .exact ⟨hm, hn⟩⟩

lemma map {f : α → γ} {g : β → δ} (h : Matches base A r q) (hf : ∀ a b, A a b → B (f a) (g b)) :
    Matches base B (f <$> r) (g <$> q) := by
  intro m n hm hn
  obtain ⟨hr, hq, hv⟩ := h m n hm hn
  rw [map_apply, map_apply]
  refine ⟨hr, hq, ?_⟩
  generalize (r m).1 = v at hv ⊢
  generalize (q n).1 = w at hv ⊢
  cases hv with
  | read given exactness ha => exact .read given exactness (hf _ _ ha)
  | refused issues => exact .refused issues

lemma seq {f : Reading (α → γ)} {g : Reading (β → δ)}
    (hf : Matches base (fun k l => ∀ a b, A a b → B (k a) (l b)) f g) (h : Matches base A r q) :
    Matches base B (f <*> r) (g <*> q) := by
  intro m n hm hn
  obtain ⟨hfm, hgn, hv⟩ := hf m n hm hn
  obtain ⟨hr, hq, hw⟩ := h (f m).2 (g n).2 (Nat.le_trans hm hfm) (Nat.le_trans hn hgn)
  rw [seq_apply, seq_apply]
  refine ⟨Nat.le_trans hfm hr, Nat.le_trans hgn hq, ?_⟩
  generalize (f m).1 = v at hv ⊢
  generalize (g n).1 = v' at hv ⊢
  generalize (r (f m).2).1 = w at hw ⊢
  generalize (q (g n).2).1 = w' at hw ⊢
  cases hv with
  | read given exactness hk =>
    cases hw with
    | read given' exactness' ha => exact .read _ _ (hk _ _ ha)
    | refused issues => exact .refused issues
  | refused issues =>
    cases hw with
    | read given' exactness' ha => exact .refused issues
    | refused issues' => exact .refused _

/-- Verdicts that agree are seen in the same way. -/
lemma judged {f : Verdict α → Verdict α} {g : Verdict β → Verdict β} (h : Matches base A r q)
    (hfg : ∀ v w, v.Matches A w → (f v).Matches A (g w)) :
    Matches base A (r.judged f) (q.judged g) := by
  intro m n hm hn
  obtain ⟨hr, hq, hv⟩ := h m n hm hn
  exact ⟨hr, hq, hfg _ _ hv⟩

lemma given (name : String) (h : Matches base A r q) :
    Matches base A (r.given name) (q.given name) := by
  refine h.judged fun v w hv => ?_
  cases hv with
  | read given exactness ha => exact .read _ _ ha
  | refused issues => exact .refused _

lemma under (step : Step) (h : Matches base A r q) :
    Matches base A (r.under step) (q.under step) := by
  refine h.judged fun v w hv => ?_
  cases hv with
  | read given exactness ha => exact .read _ _ ha
  | refused issues => exact .refused _

lemma atMost (bound : Exactness) (h : Matches base A r q) :
    Matches base A (r.atMost bound) (q.atMost bound) := by
  refine h.judged fun v w hv => ?_
  cases hv with
  | read given exactness ha => exact .read _ _ ha
  | refused issues => exact .refused _

lemma made : Matches base (fun i j => base ≤ i ∧ base ≤ j) made made := identity.atMost _

section Fields

variable {fs : Fields} {name : String} {f : Value → Reading α} {g : Value → Reading β}

lemma required (h : ∀ v, fs.get? name = some v → Matches base A (f v) (g v)) :
    Matches base A (required fs name f) (required fs name g) := by
  unfold Reading.required
  rcases hv : fs.get? name with _ | v
  · exact (refuse .missing).under _
  · exact (h v hv).given name

lemma withDefault {d : Reading α} {e : Reading β} (hd : Matches base A d e)
    (h : ∀ v, fs.get? name = some v → Matches base A (f v) (g v)) :
    Matches base A (withDefault fs name d f) (withDefault fs name e g) := by
  unfold Reading.withDefault
  rcases hv : fs.get? name with _ | v
  · exact hd
  · exact (h v hv).given name

end Fields

end Reading.Matches

/-! ### Layout values -/

namespace Value

open Reading

lemma steady_member {α : Type} (ofText? : Text → Option α) (v : Value) :
    ∃ o, Steady o (v.member ofText?) := by
  unfold member fromText
  split
  · rename_i s _
    dsimp only
    rcases ofText? s with _ | a
    · exact ⟨none, (Steady.refuse _).atMost _⟩
    · exact ⟨some a, (Steady.pure a).atMost _⟩
  · exact ⟨none, .refuse _⟩
  · exact ⟨none, .refuse _⟩

variable {base : Nat} {f : Double → Double} {v : Value} {fs : Fields}

lemma matches_readDimensionMode (v : Value) :
    Matches base Eq v.readDimensionMode v.readDimensionMode := by
  unfold readDimensionMode
  split
  · exact .pure rfl
  · exact .of_steady (steady_member _ v).choose_spec fun _ => rfl

lemma matches_readSpacingMode (v : Value) :
    Matches base Eq v.readSpacingMode v.readSpacingMode := by
  unfold readSpacingMode
  split
  · exact .pure rfl
  · exact .of_steady (steady_member _ v).choose_spec fun _ => rfl

lemma matches_readDirection (v : Value) : Matches base Eq v.readDirection v.readDirection := by
  unfold readDirection
  split
  · exact .pure rfl
  · exact .of_steady (steady_member _ v).choose_spec fun _ => rfl

/-- The same number is read, or each time one that a text does not write to be a number. -/
lemma matches_number (h : v.Settled f .number) :
    Matches base (fun x y => f x = f y) v.number v.number := by
  have hsame : ∀ {o : Option Double} {r : Reading Double}, Steady o r →
      Matches base (fun x y => f x = f y) r r := fun hr => .of_steady hr fun _ => rfl
  have htext : Matches base (fun x y => f x = f y)
      (v.fromText .notNumber .notNumeral fun s =>
        (Numeral.double? s).elim (refuse .notNumeral) tagged)
      (v.fromText .notNumber .notNumeral fun s =>
        (Numeral.double? s).elim (refuse .notNumeral) tagged) := by
    unfold fromText
    split
    · rename_i text hwrites
      refine .atMost _ ?_
      dsimp only
      rcases hx : Numeral.double? text with _ | x
      · exact .refuse _
      · cases x with
        | nan tag =>
          refine Matches.identity.map fun i j _ => ?_
          rcases h with hblends | hnan
          · exact hblends i j
          · exact absurd (.text (legible?_eq_ok_iff.1 hwrites) hx) hnan
        | _ => exact hsame (.pure _)
    · exact .refuse _
    · exact .refuse _
  unfold number
  split
  · exact hsame (.pure _)
  · -- a truth value
    exact hsame ((Steady.pure _).atMost _)
  · -- an integer
    exact hsame ((exists_steady_check ⟨_, .pure _⟩).choose_spec.atMost _)
  · -- a text or bytes
    exact htext

lemma matches_readDimension (h : v.Settled f .measure) :
    Matches base (fun d e => (d.through f).same (e.through f) = true) v.readDimension
      v.readDimension := by
  unfold readDimension
  split
  · exact .pure (Dimension.same_self _)
  · refine Matches.seq (Matches.seq (Matches.made.map ?_)
      (.required fun v _ => matches_readDimensionMode v))
      (.required fun v hv => matches_number (h.part (by simp [Form.parts]) hv))
    rintro i j - m _ rfl x y hxy
    simp [Dimension.same, Dimension.through, hxy]
  · exact .refuse _

lemma matches_readSize (h : v.Settled f .size) :
    Matches base (fun y z => (y.through f).same (z.through f) = true) v.readSize v.readSize := by
  unfold readSize
  split
  · exact .pure (LayoutSize.same_self _)
  · refine Matches.seq (Matches.seq (Matches.made.map ?_)
      (.required fun v hv => matches_readDimension (h.part (by simp [Form.parts]) hv)))
      (.required fun v hv => matches_readDimension (h.part (by simp [Form.parts]) hv))
    rintro i j - w w' hw z z' hz
    simp [LayoutSize.same, LayoutSize.through, hw, hz]
  · exact .refuse _

lemma matches_insetsOf {id : Nat} (h : (Value.dict id fs).Settled f .insets) :
    Matches base (fun i j => (i.through f).same (j.through f) = true) (insetsOf fs)
      (insetsOf fs) := by
  have hedge : ∀ name : String, ((name : Text), Form.number) ∈ Form.insets.parts →
      Matches base (fun x y : Double => f x = f y) (withDefault fs name (pure .zero) number)
        (withDefault fs name (pure .zero) number) :=
    fun name hname => .withDefault (.pure rfl) fun v hv => matches_number (h.part hname hv)
  refine Matches.seq (Matches.seq (Matches.seq (Matches.seq (Matches.made.map ?_)
    (hedge "top" (by simp [Form.parts]))) (hedge "leading" (by simp [Form.parts])))
    (hedge "bottom" (by simp [Form.parts]))) (hedge "trailing" (by simp [Form.parts]))
  rintro i j - t t' ht l l' hl b b' hb r r' hr
  simp [Insets.same, Insets.through, ht, hl, hb, hr]

lemma matches_spacingOf {id : Nat} (h : (Value.dict id fs).Settled f .measure) :
    Matches base (fun g k => (g.through f).same (k.through f) = true) (spacingOf fs)
      (spacingOf fs) := by
  refine Matches.seq (Matches.seq (Matches.made.map ?_)
    (.required fun v _ => matches_readSpacingMode v))
    (.required fun v hv => matches_number (h.part (by simp [Form.parts]) hv))
  rintro i j - m _ rfl x y hxy
  simp [Spacing.same, Spacing.through, hxy]

end Value

/-! ### Fields of nodes -/

namespace Value

open Reading

/-- The values are one value, of which something is known, or were made in one way and are equal
where their doubles are seen through a function. -/
inductive Twin (known : Value → Prop) (f : Double → Double) {α : Type} (mk : α → Value) :
    Value → Value → Prop
  | one {v : Value} : known v → Twin known f mk v v
  | two {a b : α} : (mk a).SameThrough f (mk b) → Twin known f mk (mk a) (mk b)

/-- Something stands in the field, even if it is nothing. -/
def isGiven : Value → Bool
  | .absent => false
  | _ => true

/-- Twins that stand in fields. -/
def Given (known : Value → Prop) (f : Double → Double) {α : Type} (mk : α → Value) (v w : Value) :
    Prop :=
  v.Twin known f mk w ∧ v.isGiven = true ∧ w.isGiven = true

variable {base : Nat} {known : Value → Prop} {f : Double → Double} {v : Value}

lemma matches_insets (hk : known v) (h : v.Settled f .insets) :
    Matches base (Given known f insets) (orNull readInsets v) (orNull readInsets v) := by
  cases v with
  | null => exact .pure ⟨.one hk, rfl, rfl⟩
  | insets i => exact .pure ⟨.one hk, rfl, rfl⟩
  | dict id fs =>
    refine (matches_insetsOf h).map fun i j hij => ⟨.two ?_, rfl, rfl⟩
    exact (same_insets ..).trans hij
  | _ => exact .refuse _

lemma matches_spacing (hk : known v) (h : v.Settled f .measure) :
    Matches base (Given known f spacing) (orNull readSpacing v) (orNull readSpacing v) := by
  cases v with
  | null => exact .pure ⟨.one hk, rfl, rfl⟩
  | spacing g => exact .pure ⟨.one hk, rfl, rfl⟩
  | dict id fs =>
    refine (matches_spacingOf h).map fun g k hgk => ⟨.two ?_, rfl, rfl⟩
    exact (same_spacing ..).trans hgk
  | _ => exact .refuse _

/-- Of the edge spacings that a dict describes each is null or a spacing. -/
lemma matches_edgesOf {id : Nat} {fs : Fields} (h : (Value.dict id fs).Settled f .edges) :
    Matches base (Given known f EdgeSpacing.toValue) (edgesOf fs) (edgesOf fs) := by
  have hedge : ∀ name : String, ((name : Text), Form.measure) ∈ Form.edges.parts →
      Matches base (fun v w => ∃ g k : Option Spacing, v = .ofOption .spacing g ∧
        w = .ofOption .spacing k ∧ v.SameThrough f w)
      (withDefault fs name nothing (orNull readSpacing))
      (withDefault fs name nothing (orNull readSpacing)) := by
    intro name hname
    refine .withDefault (.pure ⟨none, none, rfl, rfl, .self f _⟩) fun v hv => ?_
    cases v with
    | null => exact .pure ⟨none, none, rfl, rfl, .self f _⟩
    | spacing g => exact .pure ⟨some g, some g, rfl, rfl, .self f _⟩
    | dict id fs =>
      refine (matches_spacingOf (h.part hname hv)).map fun g k hgk => ?_
      exact ⟨some g, some k, rfl, rfl, (same_spacing ..).trans hgk⟩
    | _ => exact .refuse _
  refine Matches.seq (Matches.seq (Matches.seq (Matches.seq (Matches.made.map ?_)
    (hedge "leading" (by simp [Form.parts]))) (hedge "top" (by simp [Form.parts])))
    (hedge "trailing" (by simp [Form.parts]))) (hedge "bottom" (by simp [Form.parts]))
  intro i j _ _ _ hleading _ _ htop _ _ htrailing _ _ hbottom
  obtain ⟨l, l', rfl, rfl, hl⟩ := hleading
  obtain ⟨t, t', rfl, rfl, ht⟩ := htop
  obtain ⟨r, r', rfl, rfl, hr⟩ := htrailing
  obtain ⟨b, b', rfl, rfl, hb⟩ := hbottom
  let d : EdgeSpacing := ⟨i, l, t, r, b⟩
  let e : EdgeSpacing := ⟨j, l', t', r', b'⟩
  have hsame : d.toValue.SameThrough f e.toValue := by
    unfold SameThrough at *
    simp [d, e, EdgeSpacing.toValue, through, hl, ht, hr, hb]
  exact ⟨.two hsame, rfl, rfl⟩

lemma matches_edges (hk : known v) (h : v.Settled f .edges) :
    Matches base (Given known f EdgeSpacing.toValue) (orNull readEdges v)
      (orNull readEdges v) := by
  cases v with
  | null => exact .pure ⟨.one hk, rfl, rfl⟩
  | edges id l t r b => exact .pure ⟨.one hk, rfl, rfl⟩
  | dict id fs => exact matches_edgesOf h
  | _ => exact .refuse _

/-! ### Groups that are built -/

/-- The groups were read from the same fields around the same children. -/
inductive GroupTwin (known : Value → Prop) (f : Double → Double) (xs : List Value) :
    Value → Value → Prop
  | built {i j : Nat} {y z : LayoutSize} {n n' e e' g g' : Value} (d : Direction) :
      (Value.size y).SameThrough f (.size z) → n.Given known f insets n' →
      e.Given known f EdgeSpacing.toValue e' → g.Given known f spacing g' →
      GroupTwin known f xs
        (.group i (.text "group") (.size y) n e (.direction d) g (.tuple xs))
        (.group j (.text "group") (.size z) n' e' (.direction d) g' (.tuple xs))

/-- The fields of a group builder are read as groups around the children that it holds. -/
lemma matches_groupOf {b : Box} {direction space : Value} {xs : List Value}
    (hcontent : b.content = .group direction space (.tuple xs)) (hn : known b.insets)
    (he : known b.edges) (hg : known space)
    (h : ∀ p ∈ [(Form.size, b.size), (.insets, b.insets), (.edges, b.edges), (.measure, space)],
      p.2.Settled f p.1) :
    Matches base (GroupTwin known f xs)
      (groupOf b.nodeFields fun n => (.read (.tuple xs) 1 .exact, n))
      (groupOf b.nodeFields fun n => (.read (.tuple xs) 1 .exact, n)) := by
  have hfields : groupOf b.nodeFields (fun n => (.read (.tuple xs) 1 .exact, n)) =
      group <$> made <*> pure (.text "group")
        <*> Reading.given "size" ((fun v => size <$> readSize v) b.size)
        <*> Reading.given "insets" (orNull readInsets b.insets)
        <*> Reading.given "edge_spacing" (orNull readEdges b.edges)
        <*> Reading.given "direction" ((fun v => .direction <$> readDirection v) direction)
        <*> Reading.given "inter_item_spacing" (orNull readSpacing space)
        <*> fun n => (.read (.tuple xs) 1 .exact, n) := by
    obtain ⟨z, i, e, content⟩ := b
    obtain rfl := hcontent
    rfl
  have hkind : Matches base (fun v w => v = Value.text "group" ∧ w = Value.text "group")
      (pure (.text "group")) (pure (.text "group")) := .pure ⟨rfl, rfl⟩
  have hsize : Matches base (fun v w => ∃ y z, v = Value.size y ∧ w = Value.size z ∧
      v.SameThrough f w) (size <$> readSize b.size) (size <$> readSize b.size) :=
    (matches_readSize (h (.size, _) (by simp))).map fun y z hyz =>
      ⟨y, z, rfl, rfl, (same_size ..).trans hyz⟩
  have hdirection : Matches base (fun v w => ∃ d, v = Value.direction d ∧ w = Value.direction d)
      (.direction <$> readDirection direction) (.direction <$> readDirection direction) :=
    (matches_readDirection direction).map fun d e hde => ⟨d, rfl, hde ▸ rfl⟩
  have hchildren : Matches base (fun v w => v = Value.tuple xs ∧ w = Value.tuple xs)
      (fun n => (.read (.tuple xs) 1 .exact, n)) (fun n => (.read (.tuple xs) 1 .exact, n)) :=
    fun m n _ _ => ⟨Nat.le_refl m, Nat.le_refl n, .read 1 .exact ⟨rfl, rfl⟩⟩
  rw [hfields]
  refine Matches.seq (Matches.seq (Matches.seq (Matches.seq (Matches.seq (Matches.seq
    (Matches.seq (Matches.made.map ?_) hkind) (hsize.given _))
    ((matches_insets hn (h (.insets, _) (by simp))).given _))
    ((matches_edges he (h (.edges, _) (by simp))).given _)) (hdirection.given _))
    ((matches_spacing hg (h (.measure, _) (by simp))).given _)) hchildren
  rintro i j - _ _ ⟨rfl, rfl⟩ _ _ hsize n n' hn e e' he _ _ hdirection g g' hg _ _ ⟨rfl, rfl⟩
  obtain ⟨y, z, rfl, rfl, hyz⟩ := hsize
  obtain ⟨d, rfl, rfl⟩ := hdirection
  exact .built d hyz hn he hg

/-! ### Host objects -/

/-- Items or groups of the model engine, which have identities that are not below a bound and are
equal where their doubles are seen through a function. -/
inductive HostTwin (base : Nat) (f : Double → Double) : (grouped : Bool) → Value → Value → Prop
  | item {i j : Nat} {y z : LayoutSize} {n n' e e' : Value} : base ≤ i → base ≤ j →
      (Value.item i y n e).SameThrough f (.item j z n' e') →
      HostTwin base f false (.item i y n e) (.item j z n' e')
  | group {i j : Nat} {y z : LayoutSize} {c d : Direction} {xs ys : List Value}
      {m m' n n' e e' g g' : Value} : base ≤ i → base ≤ j →
      (Value.itemGroup i y c xs m n e g).SameThrough f (.itemGroup j z d ys m' n' e' g') →
      HostTwin base f true (.itemGroup i y c xs m n e g) (.itemGroup j z d ys m' n' e' g')

variable {w : Value}

lemma matches_readSize_twin (hvw : v.Twin known f size w) (h : v.Settled f .size) :
    Matches base (fun y z => (y.through f).same (z.through f) = true) v.readSize w.readSize := by
  cases hvw with
  | one => exact matches_readSize h
  | two hyz => exact .pure ((same_size ..).symm.trans hyz)

lemma matches_noInsets (f : Double → Double) : Matches base (SameThrough f) noInsets noInsets :=
  Matches.identity.map fun k l _ => by
    simp [SameThrough, through, Insets.same, Insets.through, Insets.none]

lemma matches_nothing (f : Double → Double) : Matches base (SameThrough f) nothing nothing :=
  .pure (.self f _)

/-- An item that is made of a size alone. -/
lemma matches_hostItemOf (hvw : v.Twin known f size w) (h : v.Settled f .size) :
    Matches base (HostTwin base f false) (hostItemOf [("layout_size", v)])
      (hostItemOf [("layout_size", w)]) := by
  have hfields : ∀ v : Value, hostItemOf [("layout_size", v)] =
      (fun id _ s i e => item id s i e) <$> made <*> pure (text "item")
        <*> Reading.given "layout_size" (readSize v) <*> noInsets <*> nothing := fun v => rfl
  rw [hfields, hfields]
  refine Matches.seq (Matches.seq (Matches.seq (Matches.seq (Matches.made.map ?_) (.pure rfl))
    ((matches_readSize_twin hvw h).given _)) (matches_noInsets f)) (matches_nothing f)
  rintro i j ⟨hi, hj⟩ _ _ rfl y z hyz n n' hn e e' he
  refine .item hi hj ?_
  unfold SameThrough at *
  simp [through, hyz, hn, he]

/-- A group that is made of a size, a direction and its subitems. -/
lemma matches_hostGroupOf (hvw : v.Twin known f size w) (h : v.Settled f .size)
    (direction : Value) {xs ys : List Value} (hxy : (Value.list xs).SameThrough f (.list ys))
    (count : Option Int) :
    Matches base (HostTwin base f true)
      (hostGroupOf (Run.hostGroupFields v direction xs count) fun n => (.read xs 1 .exact, n))
      (hostGroupOf (Run.hostGroupFields w direction ys count) fun n => (.read ys 1 .exact, n)) := by
  have hfields : ∀ (v : Value) (xs : List Value),
      hostGroupOf (Run.hostGroupFields v direction xs count) (fun n => (.read xs 1 .exact, n)) =
        (fun id _ s d xs n i e g => itemGroup id s d xs n i e g) <$> made <*> pure (text "group")
          <*> Reading.given "layout_size" (readSize v)
          <*> Reading.given "direction" (readDirection direction)
          <*> (fun n => (.read xs 1 .exact, n))
          <*> withDefault (Run.hostGroupFields v direction xs count) "repeat_count" nothing
            (orNull whole)
          <*> noInsets <*> nothing <*> nothing := by
    intro v xs
    cases count <;> rfl
  have hsubitems : Matches base (fun xs ys => (Value.list xs).SameThrough f (.list ys))
      (fun n => (.read xs 1 .exact, n)) (fun n => (.read ys 1 .exact, n)) :=
    fun m n _ _ => ⟨Nat.le_refl m, Nat.le_refl n, .read 1 .exact hxy⟩
  have hcount : Matches base (SameThrough f)
      (withDefault (Run.hostGroupFields v direction xs count) "repeat_count" nothing
        (orNull whole))
      (withDefault (Run.hostGroupFields w direction ys count) "repeat_count" nothing
        (orNull whole)) := by
    cases count with
    | none => exact matches_nothing f
    | some n =>
      have hn : Matches base (SameThrough f) (pure (int n)) (pure (int n)) := .pure (.self f _)
      exact hn.given _
  rw [hfields, hfields]
  refine Matches.seq (Matches.seq (Matches.seq (Matches.seq (Matches.seq (Matches.seq
    (Matches.seq (Matches.seq (Matches.made.map ?_) (.pure rfl))
    ((matches_readSize_twin hvw h).given _)) ((matches_readDirection direction).given _))
    hsubitems) hcount) (matches_noInsets f)) (matches_nothing f)) (matches_nothing f)
  rintro i j ⟨hi, hj⟩ _ _ rfl y z hyz d _ rfl xs ys hxy m m' hm n n' hn e e' he g g' hg
  refine .group hi hj ?_
  unfold SameThrough at *
  rw [through, through, same_list] at hxy
  simp [through, hyz, hxy, hm, hn, he, hg]

end Value

end LayoutTree
