import LayoutTree.Proofs.Section.Parallel

/-!
The operations of engines in two sessions in which composing has gone on from one session.

Where the operands are one and the same, or were made in the same way, so are the host objects that
engines of one class make of them, or both engines refuse for the same reason.
-/

namespace LayoutTree

open Run Value

/-! ### What engines make -/

/-- The entries stand under the same keys in the same order, with values that are equal where their
doubles are seen through the function. -/
def Fields.AlikeThrough (f : Double → Double) (es fs : Fields) : Prop :=
  (throughEntries f es).Alike (throughEntries f fs)

/-- Dicts with such entries. -/
def Value.DictTwin (f : Double → Double) (v w : Value) : Prop :=
  ∃ (i j : Nat) (es fs : Fields), v = .dict i es ∧ w = .dict j fs ∧ es.AlikeThrough f fs

/-- Lists that are equal where their doubles are seen through the function. -/
def Value.ListTwin (f : Double → Double) (v w : Value) : Prop :=
  ∃ xs ys : List Value, v = .list xs ∧ w = .list ys ∧ v.SameThrough f w

/-- Two engines of the kind made the values in the same way: the host object of a group, or that of
a slot. -/
def EngineKind.Twins (base : Nat) (f : Double → Double) :
    EngineKind → Bool → Value → Value → Prop
  | .model => HostTwin base f
  | .descriptor => fun _ => DictTwin f
  | .trace _ => fun _ => ListTwin f

/-- The host objects of a slot or of a group. -/
def EngineKind.Subitems (base : Nat) (f : Double → Double) (kind : EngineKind) (v w : Value) :
    Prop :=
  ∃ grouped, kind.Twins base f grouped v w

section Twins

variable {base : Nat} {f : Double → Double} {kind : EngineKind} {grouped : Bool} {v w : Value}

lemma Fields.AlikeThrough.refl (es : Fields) : es.AlikeThrough f es :=
  List.forall₂_same.2 fun e _ => ⟨rfl, same_self e.2⟩

lemma Fields.AlikeThrough.nil : AlikeThrough f [] [] := List.Forall₂.nil

lemma Fields.AlikeThrough.cons {key : Text} {es fs : Fields} (hvw : v.SameThrough f w)
    (h : es.AlikeThrough f fs) : AlikeThrough f ((key, v) :: es) ((key, w) :: fs) :=
  List.Forall₂.cons ⟨rfl, hvw⟩ h

lemma Fields.AlikeThrough.put {es fs : Fields} (h : es.AlikeThrough f fs) (key : Text)
    (hvw : v.SameThrough f w) : (es.put key v).AlikeThrough f (fs.put key w) := by
  unfold AlikeThrough
  rw [throughEntries_put, throughEntries_put]
  exact Alike.put h key hvw

lemma Value.DictTwin.sameThrough (h : v.DictTwin f w) : v.SameThrough f w := by
  obtain ⟨i, j, es, fs, rfl, rfl, h⟩ := h
  exact Fields.Alike.same_dict h i j

lemma Value.ListTwin.sameThrough (h : v.ListTwin f w) : v.SameThrough f w := by
  obtain ⟨xs, ys, rfl, rfl, h⟩ := h
  exact h

lemma Value.HostTwin.sameThrough (h : HostTwin base f grouped v w) : v.SameThrough f w := by
  cases h with
  | item _ _ h => exact h
  | group _ _ h => exact h

lemma Value.HostTwin.isHost (h : HostTwin base f grouped v w) :
    v.isHost = true ∧ w.isHost = true := by
  cases h <;> exact ⟨rfl, rfl⟩

lemma EngineKind.Twins.sameThrough (h : kind.Twins base f grouped v w) : v.SameThrough f w := by
  cases kind with
  | model => exact HostTwin.sameThrough h
  | descriptor => exact DictTwin.sameThrough h
  | trace implements => exact ListTwin.sameThrough h

lemma Value.Twin.sameThrough {known : Value → Prop} {α : Type} {mk : α → Value}
    (h : v.Twin known f mk w) : v.SameThrough f w := by
  cases h with
  | one => exact .self f v
  | two h => exact h

lemma EngineKind.sameThrough_subitems {xs ys : List Value}
    (h : List.Forall₂ (kind.Subitems base f) xs ys) : (Value.list xs).SameThrough f (.list ys) :=
  sameThrough_list (h.imp fun _ _ ⟨_, h⟩ => h.sameThrough)

lemma EngineKind.isHost_subitems {xs ys : List Value}
    (h : List.Forall₂ (EngineKind.model.Subitems base f) xs ys) :
    (∀ x ∈ xs, x.isHost = true) ∧ ∀ y ∈ ys, y.isHost = true := by
  induction h with
  | nil => simp
  | cons h _ ih =>
    obtain ⟨grouped, h⟩ := h
    obtain ⟨hx, hy⟩ := HostTwin.isHost h
    exact ⟨List.forall_mem_cons.2 ⟨hx, ih.1⟩, List.forall_mem_cons.2 ⟨hy, ih.2⟩⟩

end Twins

/-! ### Descriptions of edge spacings -/

/-- The spacings with what the function makes of the doubles in them. -/
def EdgeSpacing.through (f : Double → Double) (e : EdgeSpacing) : EdgeSpacing :=
  ⟨e.id, e.leading.map (·.through f), e.top.map (·.through f), e.trailing.map (·.through f),
    e.bottom.map (·.through f)⟩

section EdgeSpacing

variable (f : Double → Double)

lemma Value.ofOption_through {α : Type} {mk : α → Value} {g : α → α}
    (h : ∀ a, (mk a).through f = mk (g a)) (o : Option α) :
    (ofOption mk o).through f = ofOption mk (o.map g) := by
  cases o with
  | none => rfl
  | some a => exact h a

lemma EdgeSpacing.toValue_through (e : EdgeSpacing) :
    (e.through f).toValue = e.toValue.through f := by
  have hspacing : ∀ g : Spacing, (Value.spacing g).through f = .spacing (g.through f) :=
    fun _ => rfl
  simp only [toValue, EdgeSpacing.through, Value.through, ofOption_through f hspacing]

lemma Descriptor.ofEdges_through (e : EdgeSpacing) :
    (ofEdges e).through f = ofEdges (e.through f) := by
  have hspacing : ∀ g : Spacing, (ofSpacing g).through f = ofSpacing (g.through f) :=
    fun _ => rfl
  simp only [ofEdges, EdgeSpacing.through, Value.through, throughEntries,
    ofOption_through f hspacing]

end EdgeSpacing

/-! ### Fields of host objects -/

namespace Value.HostTwin

variable {base : Nat} {f : Double → Double} {grouped : Bool} {v w x y : Value} {i j : Nat}

lemma identity (h : HostTwin base f grouped v w) : ∃ i j, base ≤ i ∧ base ≤ j ∧
    v.identity? = some (.object i) ∧ w.identity? = some (.object j) := by
  cases h with
  | item hi hj => exact ⟨_, _, hi, hj, rfl, rfl⟩
  | group hi hj => exact ⟨_, _, hi, hj, rfl, rfl⟩

/-! Copies in which a field was replaced were made in the same way. -/

lemma exists_insets (h : HostTwin base f grouped v w) (hxy : x.SameThrough f y)
    (hi : base ≤ i) (hj : base ≤ j) :
    ∃ v' w', Model.replaceField? (v.withId i) "content_insets" x = some v' ∧
      Model.replaceField? (w.withId j) "content_insets" y = some w' ∧
      HostTwin base f grouped v' w' := by
  cases h with
  | item _ _ h =>
    refine ⟨_, _, rfl, rfl, .item hi hj ?_⟩
    unfold SameThrough at *
    obtain ⟨hz, -, he⟩ := by simpa [through] using h
    simp [through, hz, hxy, he]
  | group _ _ h =>
    refine ⟨_, _, rfl, rfl, .group hi hj ?_⟩
    unfold SameThrough at *
    obtain ⟨hz, hm, -, hrest⟩ := by simpa [through] using h
    simp [through, hz, hm, hxy, hrest]

lemma exists_edges (h : HostTwin base f grouped v w) (hxy : x.SameThrough f y)
    (hi : base ≤ i) (hj : base ≤ j) :
    ∃ v' w', Model.replaceField? (v.withId i) "edge_spacing" x = some v' ∧
      Model.replaceField? (w.withId j) "edge_spacing" y = some w' ∧
      HostTwin base f grouped v' w' := by
  cases h with
  | item _ _ h =>
    refine ⟨_, _, rfl, rfl, .item hi hj ?_⟩
    unfold SameThrough at *
    obtain ⟨hz, hn, -⟩ := by simpa [through] using h
    simp [through, hz, hn, hxy]
  | group _ _ h =>
    refine ⟨_, _, rfl, rfl, .group hi hj ?_⟩
    unfold SameThrough at *
    obtain ⟨hz, hm, hn, -, hrest⟩ := by simpa [through] using h
    simp [through, hz, hm, hn, hxy, hrest]

/-- Only groups have space between their subitems. -/
lemma exists_spacing (h : HostTwin base f true v w) (hxy : x.SameThrough f y)
    (hi : base ≤ i) (hj : base ≤ j) :
    ∃ v' w', Model.replaceField? (v.withId i) "inter_item_spacing" x = some v' ∧
      Model.replaceField? (w.withId j) "inter_item_spacing" y = some w' ∧
      HostTwin base f true v' w' := by
  cases h with
  | group _ _ h =>
    refine ⟨_, _, rfl, rfl, .group hi hj ?_⟩
    unfold SameThrough at *
    obtain ⟨hz, hm, hn, he, -, hxs⟩ := by simpa [through] using h
    simp [through, hz, hm, hn, he, hxy, hxs]

end Value.HostTwin

/-! ### Operations -/

namespace Session.Parallel

variable {ev : Evaluator} {s : Session} {P Q : Session → Prop} {f : Double → Double} {v w : Value}
  (h : s.Parallel P Q)
include h

/-- What is known apart from identities is made in both sessions. -/
lemma makes {m n : Run Value} {x y : Value} (hm : m.Makes ev x) (hn : n.Makes ev y)
    (hxy : x.SameThrough f y) : Matches ev P Q (SameThrough f) m n := by
  refine h.intro fun t u _ _ => ?_
  obtain ⟨v, k, hv, hvx, hk⟩ := hm t
  obtain ⟨w, l, hw, hwy, hl⟩ := hn u
  refine ⟨_, _, _, _, hv, hw, .ok ?_, .reserving t hk, .reserving u hl⟩
  unfold SameThrough
  rw [← same_bare, bare_through, bare_through, hvx, hwy]
  exact hxy

/-- A trace engine takes a note of a call, whatever it is asked for. -/
lemma traced (c : EngineClass) (method : String) (vs ws : List Value) {m n : Run (List Value)}
    (hmn : Matches ev P Q (fun xs ys => (Value.list xs).SameThrough f (.list ys)) m n) :
    Matches ev P Q (ListTwin f) (c.traced method vs m) (c.traced method ws n) := by
  refine .bind (h.shown c.label) fun label _ hlabel => ?_
  exact .bind (h.note _ _) fun _ _ _ => hmn.bind fun xs ys hxy => .pure ⟨xs, ys, rfl, rfl, hxy⟩

omit h in
lemma elements {A : List Value → List Value → Prop} {xs ys : List Value} (hxy : A xs ys) :
    Matches ev P Q A (Run.elements (.list xs)) (Run.elements (.list ys)) :=
  .look (fun t _ => exec_elements_list ev t xs) (fun u _ => exec_elements_list ev u ys) (.ok hxy)

lemma newDictTwin {es fs : Fields} (hes : es.AlikeThrough f fs) :
    Matches ev P Q (DictTwin f) (Run.newDict es) (Run.newDict fs) :=
  h.newDict hes

/-! What the descriptor engine makes of fields. -/

lemma modeLabel (label? : Text → Option String) (mode : Value) :
    Matches ev P Q Eq (Descriptor.modeLabel label? mode) (Descriptor.modeLabel label? mode) := by
  unfold Descriptor.modeLabel
  split
  · exact .throw _
  · split
    · exact .pure rfl
    · refine .bind (h.shown mode) fun text _ htext => ?_
      subst htext
      exact .throw _

lemma measure (label? : Text → Option String) (hv : s.Knows v) :
    Matches ev P Q (SameThrough f) (Descriptor.measure label? v) (Descriptor.measure label? v) := by
  refine .bind (h.field hv "mode") fun mode _ hmode => ?_
  subst hmode
  refine .bind (h.modeLabel label? mode) fun kind _ hkind => ?_
  refine .bind (h.field hv "value") fun x _ hx => ?_
  subst hkind hx
  exact (h.newDictTwin (.refl _)).mono fun _ _ => DictTwin.sameThrough

/-- Parts of what is known are described in both sessions. -/
lemma describedPart {B : Value → Value → Prop} {describe : Value → Run Value}
    {next next' : Value → Run Value} {name : String} (hv : s.Knows v) (hname : name ∈ partNames)
    (hd : ∀ x, s.Knows x → Matches ev P Q (SameThrough f) (describe x) (describe x))
    (hnext : ∀ x y, SameThrough f x y → Matches ev P Q B (next x) (next' y)) :
    Matches ev P Q B (Run.field v name >>= fun x => describe x >>= next)
      (Run.field v name >>= fun x => describe x >>= next') := by
  refine .bind (h.partField hv hname) fun x _ hx => ?_
  obtain ⟨rfl, hx⟩ := hx
  exact .bind (hd x hx) hnext

lemma describedSize (hvw : v.Twin s.Knows f .size w) :
    Matches ev P Q (SameThrough f) (Descriptor.size v) (Descriptor.size w) := by
  cases hvw with
  | one hv =>
    have hdimension : ∀ x, s.Knows x → Matches ev P Q (SameThrough f)
        (Descriptor.measure Descriptor.dimensionLabel? x)
        (Descriptor.measure Descriptor.dimensionLabel? x) := fun _ => h.measure _
    refine h.describedPart hv (by simp [partNames]) hdimension fun x x' hx => ?_
    refine h.describedPart hv (by simp [partNames]) hdimension fun y y' hy => ?_
    exact (h.newDictTwin (.cons hx (.cons hy .nil))).mono fun _ _ => DictTwin.sameThrough
  | @two y z hyz =>
    refine h.makes (Descriptor.makes_size ev y) (Descriptor.makes_size ev z) ?_
    exact (Descriptor.same_ofSize (y.through f) (z.through f)).trans ((same_size ..).symm.trans hyz)

lemma describedInsets (hvw : v.Twin s.Knows f .insets w) :
    Matches ev P Q (SameThrough f) (Descriptor.insets v) (Descriptor.insets w) := by
  cases hvw with
  | one hv =>
    refine .bind (h.field hv "top") fun t _ ht => .bind (h.field hv "leading") fun l _ hl => ?_
    refine .bind (h.field hv "bottom") fun b _ hb => .bind (h.field hv "trailing") fun r _ hr => ?_
    subst ht hl hb hr
    exact (h.newDictTwin (.refl _)).mono fun _ _ => DictTwin.sameThrough
  | @two i j hij =>
    refine h.makes (Descriptor.makes_insets ev i) (Descriptor.makes_insets ev j) ?_
    exact (Descriptor.same_ofInsets (i.through f) (j.through f)).trans
      ((same_insets ..).symm.trans hij)

lemma describedSpacing (hvw : v.Twin s.Knows f .spacing w) :
    Matches ev P Q (SameThrough f) (Descriptor.spacing v) (Descriptor.spacing w) := by
  cases hvw with
  | one hv =>
    unfold Descriptor.spacing
    split
    · exact .pure (.self f .null)
    · exact h.measure _ hv
  | @two g k hgk =>
    refine h.makes (Descriptor.makes_spacing ev (some g)) (Descriptor.makes_spacing ev (some k)) ?_
    exact (Descriptor.same_ofSpacing (g.through f) (k.through f)).trans
      ((same_spacing ..).symm.trans hgk)

lemma describedEdges (hvw : v.Twin s.Knows f EdgeSpacing.toValue w) :
    Matches ev P Q (SameThrough f) (Descriptor.edges v) (Descriptor.edges w) := by
  cases hvw with
  | one hv =>
    have hspacing : ∀ x, s.Knows x →
        Matches ev P Q (SameThrough f) (Descriptor.spacing x) (Descriptor.spacing x) :=
      fun x hx => h.describedSpacing (.one hx)
    refine h.describedPart hv (by simp [partNames]) hspacing fun l l' hl => ?_
    refine h.describedPart hv (by simp [partNames]) hspacing fun t t' ht => ?_
    refine h.describedPart hv (by simp [partNames]) hspacing fun r r' hr => ?_
    refine h.describedPart hv (by simp [partNames]) hspacing fun b b' hb => ?_
    exact (h.newDictTwin (.cons hl (.cons ht (.cons hr (.cons hb .nil))))).mono
      fun _ _ => DictTwin.sameThrough
  | @two d e hde =>
    refine h.makes (Descriptor.makes_edges ev d) (Descriptor.makes_edges ev e) ?_
    unfold SameThrough at *
    rw [Descriptor.ofEdges_through, Descriptor.ofEdges_through, Descriptor.same_ofEdges,
      EdgeSpacing.toValue_through, EdgeSpacing.toValue_through]
    exact hde

lemma extended (hvw : v.DictTwin f w) (key : Text) {m n : Run Value}
    (hmn : Matches ev P Q (SameThrough f) m n) :
    Matches ev P Q (DictTwin f) (Descriptor.extended v key m)
      (Descriptor.extended w key n) := by
  obtain ⟨i, j, es, fs, rfl, rfl, hes⟩ := hvw
  exact .bind hmn fun x y hxy => h.newDictTwin (hes.put key hxy)

/-! Copies that the model engine makes. -/

lemma configured {grouped : Bool} {name : String} {x y : Value}
    (hvw : HostTwin s.serial f grouped v w)
    (hreplace : ∀ i j, s.serial ≤ i → s.serial ≤ j →
      ∃ v' w', Model.replaceField? (v.withId i) name x = some v' ∧
        Model.replaceField? (w.withId j) name y = some w' ∧
        HostTwin s.serial f grouped v' w') :
    Matches ev P Q (HostTwin s.serial f grouped) (Model.configured v name x)
      (Model.configured w name y) := by
  obtain ⟨i, j, hi, hj, hv, hw⟩ := hvw.identity
  have hfresh : ∀ {t : Session}, s.Advances t → ∀ i, s.serial ≤ i →
      t.attributesOf (.object i) = [] := by
    rintro t ⟨cs, r, n, taken, hn, d, rs, rfl⟩
    exact h.undisturbed.unattached
  refine h.intro fun t u ht hu => ?_
  obtain ⟨v', w', hv', hw', htwin⟩ := hreplace t.serial u.serial ht.serial_le hu.serial_le
  exact ⟨_, _, _, _, exec_configured hvw.isHost.1 hv (hfresh ht i hi) hv',
    exec_configured hvw.isHost.2 hw (hfresh hu j hj) hw', .ok htwin,
    .reserving t (Nat.le_succ _), .reserving u (Nat.le_succ _)⟩

end Session.Parallel

/-! ### Operations of engines -/

namespace EngineClass

variable {ev : Evaluator} {s : Session} {P Q : Session → Prop} {f : Double → Double}
  {v w x y : Value} {grouped : Bool} (c : EngineClass) (h : s.Parallel P Q)
include h

lemma matches_makeItem (hvw : v.Twin s.Knows f .size w)
    (hsettled : c.kind = .model → v.Settled f .size) :
    Matches ev P Q (c.kind.Twins s.serial f false) (c.makeItem v) (c.makeItem w) := by
  obtain ⟨kind, label, supports⟩ := c
  cases kind with
  | model =>
    exact h.finished (matches_hostItemOf hvw (hsettled rfl)) (fun t _ => exec_construct rfl rfl)
      fun u _ => exec_construct rfl rfl
  | descriptor =>
    exact .bind (h.describedSize hvw) fun a b hab =>
      h.newDictTwin (.cons (.self f _) (.cons hab .nil))
  | trace implements =>
    exact h.traced _ _ _ _ (.pure (sameThrough_list (.cons (.self f _)
      (.cons hvw.sameThrough .nil))))

lemma matches_makeGroup {direction : Value} {xs ys : List Value} (hd : s.Knows direction)
    (hvw : v.Twin s.Knows f .size w) (hsettled : c.kind = .model → v.Settled f .size)
    (hxy : List.Forall₂ (c.kind.Subitems s.serial f) xs ys) :
    Matches ev P Q (c.kind.Twins s.serial f true) (c.makeGroup direction v (.list xs))
      (c.makeGroup direction w (.list ys)) := by
  obtain ⟨kind, label, supports⟩ := c
  have hsame : (Value.list xs).SameThrough f (.list ys) := EngineKind.sameThrough_subitems hxy
  have helements : Matches ev P Q (fun xs ys => (Value.list xs).SameThrough f (.list ys))
      (Run.elements (.list xs)) (Run.elements (.list ys)) := Session.Parallel.elements hsame
  cases kind with
  | model =>
    obtain ⟨hxs, hys⟩ := EngineKind.isHost_subitems hxy
    have hrun : ∀ (z : Value) (zs : List Value), (∀ z ∈ zs, z.isHost = true) → ∀ t,
        (Model.makeGroup direction z (.list zs)).exec ev t =
          finished "ItemGroup" (hostGroupOf (hostGroupFields z direction zs none)
            fun n => (.read zs 1 .exact, n)) { t with serial := t.serial + 1 } := by
      intro z zs hzs t
      unfold Model.makeGroup
      rw [exec_bind_ok (exec_elements_list ev t zs)]
      exact exec_construct_hostGroup ev t z direction hzs none
    exact h.finished (matches_hostGroupOf hvw (hsettled rfl) direction hsame none)
      (fun t _ => hrun v xs hxs t) fun u _ => hrun w ys hys u
  | descriptor =>
    refine .bind (h.field hd "value") fun d _ hd => .bind (h.describedSize hvw) fun a b hab => ?_
    subst hd
    exact .bind helements fun xs ys hsame =>
      h.newDictTwin (.cons (.self f _) (.cons (.self f _) (.cons hab (.cons hsame .nil))))
  | trace implements =>
    refine h.traced _ _ _ _ (.bind helements fun xs ys hsame => .pure ?_)
    exact sameThrough_list (.cons (.self f _) (.cons (.self f _) (.cons hvw.sameThrough
      (.cons hsame .nil))))

/-- Engines of a class that does not repeat items refuse in both sessions. -/
lemma matches_makeRepeatedGroup {direction : Value} {count : Int}
    (hvw : v.Twin s.Knows f .size w) (hsettled : c.kind = .model → v.Settled f .size)
    (hxy : c.kind.Subitems s.serial f x y) :
    Matches ev P Q (c.kind.Twins s.serial f true)
      (c.makeRepeatedGroup direction v x (.int count))
      (c.makeRepeatedGroup direction w y (.int count)) := by
  obtain ⟨kind, label, supports⟩ := c
  have hone : List.Forall₂ (kind.Subitems s.serial f) [x] [y] := .cons hxy .nil
  have hsame : (Value.list [x]).SameThrough f (.list [y]) := EngineKind.sameThrough_subitems hone
  have hrefused : Matches ev P Q (kind.Twins s.serial f true)
      (do throw (.cannotRepeat (← shown label))) (do throw (.cannotRepeat (← shown label))) := by
    refine .bind (h.shown label) fun text _ htext => ?_
    subst htext
    exact .throw _
  cases kind with
  | model =>
    obtain ⟨hx, hy⟩ := EngineKind.isHost_subitems hone
    exact h.finished (matches_hostGroupOf hvw (hsettled rfl) direction hsame (some count))
      (fun t _ => exec_construct_hostGroup ev t v direction hx (some count))
      fun u _ => exec_construct_hostGroup ev u w direction hy (some count)
  | descriptor => exact hrefused
  | trace implements =>
    cases implements with
    | true =>
      obtain ⟨grouped, hxy⟩ := hxy
      exact h.traced _ _ _ _ (.pure (sameThrough_list (.cons (.self f _) (.cons (.self f _)
        (.cons hvw.sameThrough (.cons hxy.sameThrough (.cons (.self f _) .nil)))))))
    | false => exact hrefused

lemma matches_withContentInsets (hvw : c.kind.Twins s.serial f grouped v w)
    (hxy : x.Twin s.Knows f .insets y) :
    Matches ev P Q (c.kind.Twins s.serial f grouped) (c.withContentInsets v x)
      (c.withContentInsets w y) := by
  obtain ⟨kind, label, supports⟩ := c
  cases kind with
  | model => exact h.configured hvw fun _ _ => hvw.exists_insets hxy.sameThrough
  | descriptor => exact h.extended hvw _ (h.describedInsets hxy)
  | trace implements =>
    exact h.traced _ _ _ _ (.pure (sameThrough_list (.cons (.self f _)
      (.cons (EngineKind.Twins.sameThrough hvw) (.cons hxy.sameThrough .nil)))))

lemma matches_withEdgeSpacing (hvw : c.kind.Twins s.serial f grouped v w)
    (hxy : x.Twin s.Knows f EdgeSpacing.toValue y) :
    Matches ev P Q (c.kind.Twins s.serial f grouped) (c.withEdgeSpacing v x)
      (c.withEdgeSpacing w y) := by
  obtain ⟨kind, label, supports⟩ := c
  cases kind with
  | model => exact h.configured hvw fun _ _ => hvw.exists_edges hxy.sameThrough
  | descriptor => exact h.extended hvw _ (h.describedEdges hxy)
  | trace implements =>
    exact h.traced _ _ _ _ (.pure (sameThrough_list (.cons (.self f _)
      (.cons (EngineKind.Twins.sameThrough hvw) (.cons hxy.sameThrough .nil)))))

lemma matches_withInterItemSpacing (hvw : c.kind.Twins s.serial f true v w)
    (hxy : x.Twin s.Knows f .spacing y) :
    Matches ev P Q (c.kind.Twins s.serial f true) (c.withInterItemSpacing v x)
      (c.withInterItemSpacing w y) := by
  obtain ⟨kind, label, supports⟩ := c
  cases kind with
  | model => exact h.configured hvw fun _ _ => hvw.exists_spacing hxy.sameThrough
  | descriptor => exact h.extended hvw _ (h.describedSpacing hxy)
  | trace implements =>
    exact h.traced _ _ _ _ (.pure (sameThrough_list (.cons (.self f _)
      (.cons (EngineKind.Twins.sameThrough hvw) (.cons hxy.sameThrough .nil)))))

end EngineClass

end LayoutTree
