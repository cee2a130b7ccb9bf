import LayoutTree.Proofs.Descriptor.Built

/-!
The JSON text of what the descriptor engine builds: it can be read back, and it is a JSON text if
all numbers in it are finite.
-/

namespace LayoutTree

open Run

/-! ### Texts -/

namespace Value

/-- Spaces for the indentation are made, or there is no text. -/
lemma exists_jsonText {v : Value} {x : Json} (hx : x.value = v.bare) (ht : v.text? = none)
    (indent : Option Int) :
    (∃ layout : Json.Layout, layout.IsBlank ∧
      v.jsonText (.ofOption .int indent) = .ok (.plain (Json.render layout x))) ∨
    ∃ i e, indent = some i ∧ (int i).times = .error e ∧
      v.jsonText (.ofOption .int indent) = .error e := by
  have hjson : v.toJson = .ok x := by rw [← toJson_bare, ← hx, toJson_value]
  cases indent with
  | none =>
    refine .inl ⟨.line, trivial, ?_⟩
    unfold jsonText
    rw [ht, hjson]
    rfl
  | some i =>
    have hunit : jsonUnit? (.int i) =
        (fun n => some (.plain (String.ofList (List.replicate n ' ')))) <$> (int i).times := rfl
    unfold jsonText
    rw [ht]
    change (∃ layout : Json.Layout, _ ∧ (jsonUnit? (.int i) >>= _) = _) ∨
      ∃ j e, _ ∧ _ ∧ (jsonUnit? (.int i) >>= _) = _
    rw [hunit, hjson]
    rcases htimes : (int i).times with e | n
    · exact .inr ⟨i, e, rfl, htimes, rfl⟩
    · refine .inl ⟨.indented (String.ofList (List.replicate n ' ')).toList, ?_, rfl⟩
      intro c hc
      rw [String.toList_ofList] at hc
      rw [(List.mem_replicate.1 hc).2]
      rfl

end Value

section Built

variable {ev : Evaluator} {v : Value}

lemma Descriptor.Built.exists_texts (h : Built ev v) : ∃ x : Json, x.Plain ∧ x.value = v.bare ∧
    ∀ indent : Option Int,
      (∃ layout : Json.Layout, layout.IsBlank ∧
        v.jsonText (.ofOption .int indent) = .ok (.plain (Json.render layout x))) ∨
      ∃ i e, indent = some i ∧ (Value.int i).times = .error e ∧
        v.jsonText (.ofOption .int indent) = .error e := by
  obtain ⟨es, hv, hes⟩ := h.isPlain
  obtain ⟨id, fs, rfl⟩ := Value.eq_dict_of_bare hv
  obtain ⟨x, hx, hvalue⟩ := hes.dict
  have hbare := hvalue.trans hv.symm
  exact ⟨x, hx, hbare, Value.exists_jsonText hbare rfl⟩

lemma Descriptor.doubles_square {x : Double} {y : Json} (h : y.value = (square x).bare) :
    y.doubles = [x, x] := by
  let side : Json := .object [("kind", .text "absolute"), ("value", .number x)]
  obtain rfl : y = .object [("type", .text "item"),
      ("layoutSize", .object [("widthDimension", side), ("heightDimension", side)])] :=
    Value.eq_of_value h
  rfl

/-! ### Reading back -/

/-- **Reading back**: the text of what the descriptor engine builds is read as the same plain data,
members and elements in the same order, if the finite doubles in it are read back from their
numerals. This holds for any indentation for which spaces can be made. Texts with different
indentations differ in white space outside of strings alone. -/
theorem built_read_back (h : Descriptor.Built ev v) :
    ∃ x : Json, x.value = v.bare ∧
      (∀ indent : Option Int,
        (∃ s, v.jsonText (.ofOption .int indent) = .ok (.plain s) ∧
          ((∀ d ∈ x.doubles, Json.ReadsBack d) → Json.read? s.toList = some x.untagged)) ∨
        ∃ i e, indent = some i ∧ (Value.int i).times = .error e ∧
          v.jsonText (.ofOption .int indent) = .error e) ∧
      ∀ (indent indent' : Option Int) (s s' : String),
        v.jsonText (.ofOption .int indent) = .ok (.plain s) →
        v.jsonText (.ofOption .int indent') = .ok (.plain s') →
        Json.significant s.toList = Json.significant s'.toList := by
  obtain ⟨x, hplain, hx, htexts⟩ := h.exists_texts
  have hlayout : ∀ (indent : Option Int) (s : String),
      v.jsonText (.ofOption .int indent) = .ok (.plain s) →
      ∃ layout : Json.Layout, layout.IsBlank ∧ s.toList = Json.written layout 0 x := by
    intro indent s hs
    rcases htexts indent with ⟨layout, hl, htext⟩ | ⟨i, e, -, -, herror⟩
    · obtain rfl : Json.render layout x = s := by
        rw [htext] at hs
        cases hs
        rfl
      exact ⟨layout, hl, Json.toList_render layout x⟩
    · rw [herror] at hs
      cases hs
  refine ⟨x, hx, fun indent => ?_, fun indent indent' s s' hs hs' => ?_⟩
  · -- each text reads back
    refine (htexts indent).imp ?_ id
    rintro ⟨layout, hl, htext⟩
    refine ⟨_, htext, fun hd => ?_⟩
    rw [Json.toList_render]
    exact Json.read?_written hl hplain hd
  · -- two texts of it differ in their blanks alone
    obtain ⟨layout, hl, hwritten⟩ := hlayout indent s hs
    obtain ⟨layout', hl', hwritten'⟩ := hlayout indent' s' hs'
    rw [hwritten, hwritten', Json.significant_written hl hl']

theorem built_read_back_nested :
    let z : LayoutSize := ⟨1, ⟨2, .absolute, .finite true 0 0⟩, ⟨3, .estimated, .nan 7⟩⟩
    let f : Frame := ⟨4, z, none, none, .horizontal, none⟩
    let slot : Draft := .slot ⟨5, z, none, none, 1, by decide⟩
    let ds : List Draft := [slot, .group { f with direction := .vertical } false [slot]]
    let C : Composer := ⟨EngineClass.descriptor.engine 0, .config .null, .bool false⟩
    let s : Session := ((Session.initial [] false).reserving 6).engaging C
    let side (kind : Text) (d : Double) : Json :=
      .object [("kind", .text kind), ("value", .number d)]
    let size : Json := .object [
      ("widthDimension", side "absolute" (.finite true 0 0)),
      ("heightDimension", side "estimated" (.nan 7))]
    let item : Json := .object [("type", .text "item"), ("layoutSize", size)]
    let group (d : Text) (xs : List Json) : Json := .object [("type", .text "group"),
      ("direction", .text d), ("layoutSize", size), ("subitems", .array xs)]
    let x : Json := group "horizontal" [item, group "vertical" [item]]
    ∃ v t, (Composer.compose 0 (f.holding true (Draft.toValues ds))).exec .none s = (.ok v, t) ∧
      x.value = v.bare ∧ ∀ indent ∈ [none, some (-1), some 2], ∃ text,
        v.jsonText (.ofOption .int indent) = .ok (.plain text) ∧
        Json.read? text.toList = some x.untagged := by
  intro z f slot ds C s side size item group x
  have hinitial : ((Session.initial [] false).reserving 6).Undisturbed :=
    (Session.Advances.reserving _ (by decide)).undisturbed (Session.undisturbed_initial ..)
  have hs : s.Engaged 0 C .descriptor .null := .engaging hinitial (fun _ => rfl) rfl
  let p : Plan := .group .horizontal z [.item z, .group .vertical z [.item z]]
  have hp : Draft.made (EngineClass.descriptor.refusal s)
    (EngineClass.descriptor.repeatsFor .null) f ds = .ok p := rfl
  obtain ⟨v, t, hrun, hv⟩ := Descriptor.exec_planned .none hs true hp
  have hx : x.value = v.bare := by
    rw [hv]
    rfl
  obtain ⟨y, hy, htexts, -⟩ := built_read_back (.group hs hrun)
  obtain rfl : y = x := Value.eq_of_value (hy.trans hx.symm)
  have hnumbers : ∀ d ∈ x.doubles, Json.ReadsBack d := by
    have hzero : Json.ReadsBack (.finite true 0 0) := fun _ => rfl
    have hnan : Json.ReadsBack (.nan 7) := nofun
    have hdoubles : ∀ d ∈ x.doubles, d = .finite true 0 0 ∨ d = .nan 7 := by decide
    intro d hd
    rcases hdoubles d hd with rfl | rfl
    · exact hzero
    · exact hnan
  refine ⟨v, t, hrun, hx, fun indent hindent => ?_⟩
  rcases htexts indent with ⟨text, htext, hread⟩ | ⟨i, e, rfl, htimes, -⟩
  · exact ⟨text, htext, hread hnumbers⟩
  · obtain rfl | rfl : i = -1 ∨ i = 2 := by simpa using hindent
    · cases htimes
    · cases htimes

/-- There is no text if the indentation does not fit into an index. -/
theorem square_unwritten :
    let v := Descriptor.square .zero
    Descriptor.Built .none v ∧
      v.jsonText (.ofOption .int (some (-9223372036854775809))) = .error .countTooLarge :=
  ⟨Descriptor.built_square .zero, rfl⟩

/-! ### JSON -/

/-- **JSON**: the text of what the descriptor engine builds is a JSON text, with any indentation for
which spaces can be made, exactly if all doubles in it are finite. -/
theorem built_isText (h : Descriptor.Built ev v) :
    ∃ x : Json, x.value = v.bare ∧ ∀ indent : Option Int,
      (∃ s, v.jsonText (.ofOption .int indent) = .ok (.plain s) ∧
        (Json.IsText s.toList ↔ ∀ d ∈ x.doubles, d.isFinite = true)) ∨
      ∃ i e, indent = some i ∧ (Value.int i).times = .error e ∧
        v.jsonText (.ofOption .int indent) = .error e := by
  obtain ⟨x, -, hx, htexts⟩ := h.exists_texts
  refine ⟨x, hx, fun indent => (htexts indent).imp ?_ id⟩
  rintro ⟨layout, hl, htext⟩
  refine ⟨_, htext, ?_⟩
  rw [Json.toList_render]
  exact Json.isText_written_iff hl

theorem square_isText :
    let v := Descriptor.square .zero
    Descriptor.Built .none v ∧ ∀ indent ∈ [none, some (-1), some 2],
      ∃ s, v.jsonText (.ofOption .int indent) = .ok (.plain s) ∧ Json.IsText s.toList := by
  intro v
  have hv : Descriptor.Built .none v := Descriptor.built_square .zero
  obtain ⟨x, hx, htexts⟩ := built_isText hv
  have hfinite : ∀ d ∈ x.doubles, d.isFinite = true := by
    rw [Descriptor.doubles_square hx]
    decide
  refine ⟨hv, fun indent hindent => ?_⟩
  rcases htexts indent with ⟨s, hs, htext⟩ | ⟨i, e, rfl, htimes, -⟩
  · exact ⟨s, hs, htext.2 hfinite⟩
  · obtain rfl | rfl : i = -1 ∨ i = 2 := by simpa using hindent
    · cases htimes
    · cases htimes

/-- A not-a-number is written as a word that JSON does not have. -/
theorem square_nan_not_isText :
    let v := Descriptor.square (.nan 7)
    Descriptor.Built .none v ∧
      ∃ s, v.jsonText (.ofOption .int none) = .ok (.plain s) ∧ ¬ Json.IsText s.toList := by
  intro v
  have hv : Descriptor.Built .none v := Descriptor.built_square (.nan 7)
  obtain ⟨x, -, hx, htexts⟩ := hv.exists_texts
  obtain ⟨layout, hl, htext⟩ | ⟨i, e, hi, -⟩ := htexts none
  · refine ⟨hv, _, htext, fun h => ?_⟩
    rw [Json.toList_render, Json.isText_written_iff hl, Descriptor.doubles_square hx] at h
    have hnan : Double.isFinite (.nan 7) = true := h _ List.mem_cons_self
    cases hnan
  · cases hi

end Built

end LayoutTree
