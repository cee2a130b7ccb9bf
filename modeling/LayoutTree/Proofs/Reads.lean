import LayoutTree.Proofs.Builder.Building
import LayoutTree.Proofs.Builder.Mutation

/-!
Whether something is read depends on what it is read from and on nothing else: identities that a
reading takes show in what it reads, and not in whether it does.
-/

namespace LayoutTree

namespace Reading

variable {α β : Type}

/-- This is read, from some free identity on. -/
def Reads (r : Reading α) (a : α) : Prop := ∃ g e m n, r n = (.read a g e, m)

/-- Something is read from any free identity on, or from none. -/
def Decided (r : Reading α) : Prop := ∀ m n, (r m).1.value?.isSome = (r n).1.value?.isSome

/-! ### What is read -/

namespace Reads

variable {f : Reading (α → β)} {r : Reading α} {a : α} {b : β}

lemma pure {a' : α} (h : (Pure.pure a : Reading α).Reads a') : a' = a := by
  obtain ⟨g, e, m, n, h⟩ := h
  cases h
  rfl

lemma map {f : α → β} (h : (f <$> r).Reads b) : ∃ a, r.Reads a ∧ f a = b := by
  obtain ⟨g, e, m, n, h⟩ := h
  rw [map_apply] at h
  rcases hr : r n with ⟨⟨a, g', e'⟩ | is, n'⟩ <;> rw [hr] at h <;> cases h
  exact ⟨a, ⟨_, _, _, _, hr⟩, rfl⟩

lemma seq (h : (f <*> r).Reads b) : ∃ k a, f.Reads k ∧ r.Reads a ∧ k a = b := by
  obtain ⟨g, e, m, n, h⟩ := h
  rw [seq_apply] at h
  rcases hf : f n with ⟨⟨k, g', e'⟩ | is, n'⟩ <;> rw [hf] at h <;>
    rcases hr : r n' with ⟨⟨a, g'', e''⟩ | js, n''⟩ <;> rw [hr] at h <;> cases h
  exact ⟨k, a, ⟨_, _, _, _, hf⟩, ⟨_, _, _, _, hr⟩, rfl⟩

lemma given {name : String} (h : (r.given name).Reads a) : r.Reads a := by
  obtain ⟨g, e, m, n, h⟩ := h
  change ((r n).1.given name, (r n).2) = _ at h
  rcases hr : r n with ⟨⟨a', g', e'⟩ | is, n'⟩ <;> rw [hr] at h <;> cases h
  exact ⟨_, _, _, _, hr⟩

lemma refuse {kind : IssueKind} (h : (Reading.refuse kind : Reading α).Reads a) : False := by
  obtain ⟨g, e, m, n, h⟩ := h
  cases h

lemma under {step : Step} (h : (r.under step).Reads a) : r.Reads a := by
  obtain ⟨g, e, m, n, h⟩ := h
  change ((r n).1.under step, (r n).2) = _ at h
  rcases hr : r n with ⟨⟨a', g', e'⟩ | is, n'⟩ <;> rw [hr] at h <;> cases h
  exact ⟨_, _, _, _, hr⟩

lemma atMost {bound : Exactness} (h : (r.atMost bound).Reads a) : r.Reads a := by
  obtain ⟨g, e, m, n, h⟩ := h
  change ((r n).1.atMost bound, (r n).2) = _ at h
  rcases hr : r n with ⟨⟨a', g', e'⟩ | is, n'⟩ <;> rw [hr] at h <;> cases h
  exact ⟨_, _, _, _, hr⟩

lemma check {ok : α → Bool} {kind : IssueKind} (h : (r.check ok kind).Reads a) :
    r.Reads a ∧ ok a = true := by
  obtain ⟨g, e, m, n, h⟩ := h
  change ((r n).1.check ok kind, (r n).2) = _ at h
  rcases hr : r n with ⟨⟨a', g', e'⟩ | is, n'⟩ <;> rw [hr] at h
  · unfold Verdict.check at h
    dsimp only at h
    split at h <;> cases h
    exact ⟨⟨_, _, _, _, hr⟩, ‹_›⟩
  · cases h

lemma required {fs : Fields} {name : String} {read : Value → Reading α}
    (h : (required fs name read).Reads a) : ∃ v, fs.get? name = some v ∧ (read v).Reads a := by
  unfold Reading.required at h
  split at h
  · exact ⟨_, ‹_›, h.given⟩
  · exact h.under.refuse.elim

end Reads

/-! ### Whether anything is read -/

namespace Decided

variable {r : Reading α}

lemma pure (a : α) : Decided (Pure.pure a : Reading α) := fun _ _ => rfl

lemma refuse (kind : IssueKind) : Decided (refuse kind : Reading α) := fun _ _ => rfl

lemma made : Decided Reading.made := fun _ _ => rfl

lemma of_steady {o : Option α} (h : Steady o r) : Decided r := by
  obtain ⟨v, -, hr⟩ := h
  intro m n
  rw [hr, hr]

lemma judged {f : Verdict α → Verdict α} (hf : ∀ v, (f v).value? = v.value?) (h : Decided r) :
    Decided (r.judged f) := by
  intro m n
  change (f (r m).1).value?.isSome = (f (r n).1).value?.isSome
  rw [hf, hf, h m n]

lemma given (name : String) (h : Decided r) : Decided (r.given name) :=
  h.judged (Verdict.value?_given name)

lemma atMost (bound : Exactness) (h : Decided r) : Decided (r.atMost bound) :=
  h.judged (Verdict.value?_atMost bound)

lemma map (f : α → β) (h : Decided r) : Decided (f <$> r) := by
  intro m n
  rw [map_apply, map_apply, Verdict.value?_map, Verdict.value?_map, Option.isSome_map,
    Option.isSome_map, h m n]

lemma seq {f : Reading (α → β)} (hf : Decided f) (h : Decided r) : Decided (f <*> r) := by
  have hboth : ∀ n, ((f <*> r) n).1.value?.isSome =
      ((f n).1.value?.isSome && (r (f n).2).1.value?.isSome) := by
    intro n
    rw [seq_apply, Verdict.value?_both]
    rcases (f n).1.value? with _ | k
    · rfl
    · exact Option.isSome_map
  intro m n
  rw [hboth, hboth, hf m n, h (f m).2 (f n).2]

lemma required {fs : Fields} {name : String} {r : Value → Reading α} (h : ∀ v, Decided (r v)) :
    Decided (required fs name r) := by
  unfold Reading.required
  split
  · exact (h _).given name
  · exact fun _ _ => rfl

lemma withDefault {fs : Fields} {name : String} {default : Reading α} {r : Value → Reading α}
    (hd : Decided default) (h : ∀ v, Decided (r v)) : Decided (withDefault fs name default r) := by
  unfold Reading.withDefault
  split
  · exact (h _).given name
  · exact hd

lemma orNull {r : Value → Reading Value} (h : ∀ v, Decided (r v)) (v : Value) :
    Decided (orNull r v) := by
  unfold Reading.orNull
  split
  · exact .pure _
  · exact h _

lemma isSome_iff (h : Decided r) (n : Nat) :
    (r n).1.value?.isSome = true ↔ ∃ a, r.Reads a := by
  constructor
  · intro hn
    rcases hr : r n with ⟨⟨a, g, e⟩ | is, m⟩ <;> rw [hr] at hn
    · exact ⟨a, _, _, _, _, hr⟩
    · cases hn
  · rintro ⟨a, g, e, m, k, hr⟩
    rw [h n k, hr]
    rfl

end Decided

lemma exists_reads_made {f : Nat → α} : ∃ a, (f <$> made).Reads a := ⟨f 0, 0, .widened, 1, 0, rfl⟩

lemma reads_pure (a : α) : (Pure.pure a : Reading α).Reads a := ⟨0, .exact, 0, 0, rfl⟩

/-! What is read is still read when less is made of it. -/

namespace Reads

variable {r : Reading α} {a : α}

lemma mapped (h : r.Reads a) (f : α → β) : (f <$> r).Reads (f a) := by
  obtain ⟨g, e, m, n, hr⟩ := h
  refine ⟨g, e, m, n, ?_⟩
  rw [map_apply, hr]
  rfl

lemma bounded (h : r.Reads a) (bound : Exactness) : (r.atMost bound).Reads a := by
  obtain ⟨g, e, m, n, hr⟩ := h
  refine ⟨g, bound.both e, m, n, ?_⟩
  change ((r n).1.atMost bound, (r n).2) = _
  rw [hr]
  rfl

lemma checked {ok : α → Bool} (h : r.Reads a) (hok : ok a = true) (kind : IssueKind) :
    (r.check ok kind).Reads a := by
  obtain ⟨g, e, m, n, hr⟩ := h
  refine ⟨g, e, m, n, ?_⟩
  change ((r n).1.check ok kind, (r n).2) = _
  rw [hr, Verdict.check, if_pos hok]

end Reads

lemma exists_reads_map {f : α → β} {r : Reading α} (h : ∃ a, r.Reads a) :
    ∃ b, (f <$> r).Reads b := by
  obtain ⟨a, h⟩ := h
  exact ⟨f a, h.mapped f⟩

lemma exists_reads_given {r : Reading α} (name : String) (h : ∃ a, r.Reads a) :
    ∃ a, (r.given name).Reads a := by
  obtain ⟨a, g, e, m, n, hr⟩ := h
  refine ⟨a, g + 1, e, m, n, ?_⟩
  change ((r n).1.given name, (r n).2) = _
  rw [hr]
  rfl

lemma exists_reads_required {fs : Fields} {name : String} {read : Value → Reading α} {v : Value}
    (hv : fs.get? name = some v) (h : ∃ a, (read v).Reads a) :
    ∃ a, (required fs name read).Reads a := by
  unfold required
  rw [hv]
  exact exists_reads_given name h

/-- Two parts are read together if each can be read. -/
lemma exists_reads_seq {f : Reading (α → β)} {r : Reading α} (hd : Decided r)
    (hf : ∃ k, f.Reads k) (h : ∃ a, r.Reads a) : ∃ b, (f <*> r).Reads b := by
  obtain ⟨k, g, e, m, n, hk⟩ := hf
  have hm := (hd.isSome_iff m).2 h
  rcases hr : r m with ⟨⟨a, g', e'⟩ | is, m'⟩ <;> rw [hr] at hm
  · refine ⟨k a, g + g', e.both e', m', n, ?_⟩
    rw [seq_apply, hk]
    dsimp only
    rw [hr]
    rfl
  · cases hm

lemma exists_steady_converted (a : α) : ∃ o, Steady o (converted a) :=
  ⟨_, (Steady.pure a).atMost _⟩

lemma exists_steady_check {r : Reading α} {ok : α → Bool} {kind : IssueKind}
    (h : ∃ o, Steady o r) : ∃ o, Steady o (r.check ok kind) := by
  obtain ⟨o, v, -, hr⟩ := h
  refine ⟨_, v.check ok kind, rfl, fun n => ?_⟩
  change ((r n).1.check ok kind, (r n).2) = _
  rw [hr]

end Reading

/-! ### Numbers, dimensions, spacings and insets -/

namespace Value

open Reading

lemma decided_number (v : Value) : v.number.Decided := by
  have htext : ∀ v : Value, Decided (v.fromText .notNumber .notNumeral fun s =>
      (Numeral.double? s).elim (refuse .notNumeral) tagged) := by
    intro v
    unfold fromText
    split
    · rename_i s _
      refine .atMost _ ?_
      dsimp only
      rcases Numeral.double? s with _ | x
      · exact .refuse _
      · cases x with
        | nan tag => exact fun _ _ => rfl
        | _ => exact .pure _
    · exact .refuse _
    · exact .refuse _
  unfold number
  split
  · exact .pure _
  · exact fun _ _ => rfl
  · exact fun _ _ => rfl
  · exact htext _

lemma decided_member {α : Type} (ofText? : Text → Option α) (v : Value) :
    (v.member ofText?).Decided := by
  unfold member fromText
  split
  · rename_i s _
    refine .atMost _ ?_
    dsimp only
    rcases ofText? s with _ | a
    · exact .refuse _
    · exact .pure a
  · exact .refuse _
  · exact .refuse _

lemma decided_readDimensionMode (v : Value) : v.readDimensionMode.Decided := by
  unfold readDimensionMode
  split
  · exact .pure _
  · exact decided_member _ v

lemma decided_readDimension (v : Value) : v.readDimension.Decided := by
  unfold readDimension
  split
  · exact .pure _
  · exact ((Decided.made.map _).seq (.required decided_readDimensionMode)).seq
      (.required decided_number)
  · exact .refuse _

lemma decided_sizeOf (fs : Fields) : (sizeOf fs).Decided :=
  ((Decided.made.map _).seq (.required decided_readDimension)).seq
    (.required decided_readDimension)

lemma decided_readSpacingMode (v : Value) : v.readSpacingMode.Decided := by
  unfold readSpacingMode
  split
  · exact .pure _
  · exact decided_member _ v

lemma decided_readSpacing (v : Value) : v.readSpacing.Decided := by
  unfold readSpacing
  split
  · exact .pure _
  · refine .map _ ?_
    exact ((Decided.made.map _).seq (.required decided_readSpacingMode)).seq
      (.required decided_number)
  · exact .refuse _

lemma decided_insetsOf (fs : Fields) : (insetsOf fs).Decided := by
  have h : ∀ name, (withDefault fs name (pure .zero) number).Decided := fun _ =>
    .withDefault (.pure _) decided_number
  exact ((((Decided.made.map _).seq (h _)).seq (h _)).seq (h _)).seq (h _)

/-! ### Counts and directions, which take no identities -/

lemma steady_wholeOfDouble (x : Double) : ∃ o, Steady o (wholeOfDouble x) := by
  unfold wholeOfDouble
  split
  · exact ⟨none, .refuse _⟩
  · split
    · exact exists_steady_check (exists_steady_converted _)
    · exact ⟨none, .refuse _⟩

lemma steady_wholeOfText (s : String) : ∃ o, Steady o (wholeOfText s) := by
  unfold wholeOfText
  split
  · exact ⟨none, .refuse _⟩
  · rcases Numeral.int? s with _ | i
    · exact ⟨none, .refuse _⟩
    · exact ⟨some i, .pure i⟩

lemma steady_whole (v : Value) : ∃ o, Steady o v.whole := by
  have htext : ∀ v : Value, ∃ o,
      Steady o (Value.int <$> v.fromText .notWhole .notWholeNumeral wholeOfText) := by
    intro v
    unfold fromText
    split
    · obtain ⟨o, h⟩ := steady_wholeOfText ‹String›
      exact ⟨_, (h.atMost _).map _⟩
    · exact ⟨none, .refuse _⟩
    · exact ⟨none, .refuse _⟩
  unfold whole
  split
  · exact ⟨_, .pure _⟩
  · exact exists_steady_converted _
  · obtain ⟨o, h⟩ := steady_wholeOfDouble ‹Double›
    exact ⟨_, h.map _⟩
  · exact exists_steady_converted _
  · exact htext _

lemma decided_count (v : Value) : v.count.Decided := by
  unfold count
  split
  · exact .refuse _
  · obtain ⟨o, h⟩ := exists_steady_check (steady_whole v)
    exact .of_steady h

end Value

/-! ### Making values of types without sequences -/

namespace Run

open Reading

variable (ev : Evaluator) {s : Session} (type : String) (fs : Fields) {r : Reading Value}

lemma finished_of_decided (h : r.Decided) (s : Session) :
    (∃ a n, finished type r s = (.ok a, { s with serial := n }) ∧ r.Reads a) ∨
      ∃ is n, finished type r s = (.error (.invalid type is), { s with serial := n }) ∧
        ∀ a, ¬ r.Reads a := by
  unfold finished
  rcases hr : r s.serial with ⟨⟨a, g, e⟩ | is, n⟩
  · exact .inl ⟨a, n, rfl, _, _, _, _, hr⟩
  · refine .inr ⟨is, n, rfl, fun a ha => ?_⟩
    have hsome := (h.isSome_iff s.serial).2 ⟨a, ha⟩
    rw [hr] at hsome
    cases hsome

/-- What is made is what is read, and takes nothing but identities. Where nothing can be read the
type refuses the fields. -/
lemma exec_construct_decided (h : Shape.ofType type = .flat)
    (hr : Value.ofFields? type s.serial fs = some r) (hd : r.Decided) :
    (∃ a n, (construct type fs).exec ev s = (.ok a, { s with serial := n }) ∧ r.Reads a) ∨
      ∃ is n, (construct type fs).exec ev s =
        (.error (.invalid type is), { s with serial := n }) ∧ ∀ a, ¬ r.Reads a := by
  have hs : (settleWithin (ev.depth + 1) (.ofType type) [] (.dict s.serial fs)).exec ev
      { s with serial := s.serial + 1 } =
      (.ok (.dict s.serial fs), { s with serial := s.serial + 1 }) := by
    rw [h]
    rfl
  rw [exec_construct hs hr]
  exact finished_of_decided type hd _

end Run

end LayoutTree
