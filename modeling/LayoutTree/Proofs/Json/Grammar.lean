import LayoutTree.Proofs.Json.Reading

/-!
JSON texts as the words of a grammar. A value is written as such a word if the doubles in it are
finite.
-/

namespace LayoutTree.Json

/-! ### Strings -/

def IsHex (c : Char) : Prop := c.isDigit = true ∨ c ∈ "abcdefABCDEF".toList

/-- A character that stands for itself, a short escape, or a unit of four digits. -/
inductive IsCharacter : List Char → Prop
  | plain {c : Char} : 0x20 ≤ c.toNat → c ≠ '"' → c ≠ '\\' → IsCharacter [c]
  | short {c : Char} : c ∈ "\"\\/bfnrt".toList → IsCharacter ['\\', c]
  | unit {ds : List Char} : ds.length = 4 → (∀ d ∈ ds, IsHex d) → IsCharacter ('\\' :: 'u' :: ds)

inductive AreCharacters : List Char → Prop
  | nil : AreCharacters []
  | cons {c cs : List Char} : IsCharacter c → AreCharacters cs → AreCharacters (c ++ cs)

/-- Characters between quotes. -/
inductive IsString : List Char → Prop
  | mk {cs : List Char} : AreCharacters cs → IsString ('"' :: (cs ++ ['"']))

/-! ### Values -/

mutual

/-- A word for a value without white space around it. -/
inductive IsValue : List Char → Prop
  | null : IsValue "null".toList
  | true : IsValue "true".toList
  | false : IsValue "false".toList
  | number {w : List Char} : IsNumeral w → IsValue w
  | string {w : List Char} : IsString w → IsValue w
  | emptyArray {b : List Char} : Blank b → IsValue ('[' :: (b ++ [']']))
  | array {ws : List Char} : AreElements ws → IsValue ('[' :: (ws ++ [']']))
  | emptyObject {b : List Char} : Blank b → IsValue ('\x7b' :: (b ++ ['\x7d']))
  | object {ws : List Char} : AreMembers ws → IsValue ('\x7b' :: (ws ++ ['\x7d']))

/-- One or more values with commas between them. -/
inductive AreElements : List Char → Prop
  | last {a w b : List Char} : Blank a → IsValue w → Blank b → AreElements (a ++ (w ++ b))
  | cons {a w b ws : List Char} : Blank a → IsValue w → Blank b → AreElements ws →
      AreElements (a ++ (w ++ (b ++ ',' :: ws)))

/-- One or more strings, each with a colon and a value, with commas between them. -/
inductive AreMembers : List Char → Prop
  | last {a k b c w d : List Char} : Blank a → IsString k → Blank b → Blank c → IsValue w →
      Blank d → AreMembers (a ++ (k ++ (b ++ ':' :: (c ++ (w ++ d)))))
  | cons {a k b c w d ws : List Char} : Blank a → IsString k → Blank b → Blank c → IsValue w →
      Blank d → AreMembers ws →
      AreMembers (a ++ (k ++ (b ++ ':' :: (c ++ (w ++ (d ++ ',' :: ws))))))

end

/-- A whole text: a value and white space around it. -/
inductive IsText : List Char → Prop
  | mk {a w b : List Char} : Blank a → IsValue w → Blank b → IsText (a ++ (w ++ b))

/-! ### Written strings -/

lemma AreCharacters.append {cs ds : List Char} (h : AreCharacters cs) (hd : AreCharacters ds) :
    AreCharacters (cs ++ ds) := by
  induction h with
  | nil => exact hd
  | cons hc _ ih =>
    rw [List.append_assoc]
    exact .cons hc ih

lemma IsCharacter.areCharacters {cs : List Char} (h : IsCharacter cs) : AreCharacters cs := by
  simpa using AreCharacters.cons h .nil

lemma isHex_hexDigit (n : Nat) : IsHex (Text.hexDigit n) := by
  have h : ∀ k < 16, (Nat.digitChar k).isDigit = true ∨
      Nat.digitChar k ∈ "abcdefABCDEF".toList := by decide
  exact h _ (Nat.mod_lt _ (by decide))

lemma isCharacter_escapeUnit (n : Nat) : IsCharacter (escapeUnit n) := by
  refine .unit (by simp [Text.hex]) fun d hd => ?_
  simp only [Text.hex, List.nil_append, List.mem_append, List.mem_singleton] at hd
  rcases hd with ((rfl | rfl) | rfl) | rfl <;> exact isHex_hexDigit _

lemma areCharacters_escape (n : Nat) : AreCharacters (escape n) := by
  unfold escape
  -- the short escapes
  iterate 7
    split
    · exact (IsCharacter.short (by decide)).areCharacters
  split
  · rename_i hquote hslash _ _ _ _ _ hplain
    simp only [Bool.and_eq_true, decide_eq_true_eq] at hplain
    have hn : (Char.ofNat n).toNat = n := Text.toNat_ofNat (by simp [Text.isScalar]; omega)
    refine (IsCharacter.plain (hn.symm ▸ hplain.1) ?_ ?_).areCharacters <;> intro h <;>
      rw [h] at hn
    · exact hquote (beq_iff_eq.2 hn.symm)
    · exact hslash (beq_iff_eq.2 hn.symm)
  split
  · exact (isCharacter_escapeUnit n).areCharacters
  · exact .cons (isCharacter_escapeUnit _) (isCharacter_escapeUnit _).areCharacters

lemma isString_quote (t : Text) : IsString (quote t) := by
  have h : AreCharacters (t.points.flatMap escape) := by
    induction t.points with
    | nil => exact .nil
    | cons n ns ih => exact (areCharacters_escape n).append ih
  exact .mk h

/-! ### Written values -/

section

variable {layout : Layout} (hl : layout.IsBlank)

include hl

mutual

lemma isValue_written (level : Nat) (x : Json) (hx : ∀ d ∈ x.doubles, d.isFinite = true) :
    IsValue (written layout level x) := by
  cases x with
  | null => exact .null
  | bool b =>
    rw [written_bool]
    cases b with
    | false => exact .false
    | true => exact .true
  | int i =>
    rw [written_int]
    exact .number (isNumeral_int i)
  | number x =>
    rw [written_number]
    exact .number (isNumeral_number (hx x (by simp [doubles])))
  | text t =>
    rw [written_text]
    exact .string (isString_quote t)
  | array xs =>
    cases xs with
    | nil => exact written_array_nil layout level ▸ .emptyArray blank_nil
    | cons x xs =>
      have hvalue := isValue_written (level + 1) x fun d hd => hx d (List.mem_append_left _ hd)
      have hrest := areElements_written (level + 1) xs
        (fun d hd => hx d (List.mem_append_right _ hd)) (hl.edge (level + 1)) hvalue (hl.edge level)
      rw [written_array_cons]
      simpa using IsValue.array hrest
  | object ms =>
    cases ms with
    | nil => exact written_object_nil layout level ▸ .emptyObject blank_nil
    | cons m ms =>
      obtain ⟨k, v⟩ := m
      have hvalue := isValue_written (level + 1) v fun d hd => hx d (List.mem_append_left _ hd)
      have hrest := areMembers_written (level + 1) ms
        (fun d hd => hx d (List.mem_append_right _ hd)) (hl.edge (level + 1)) k hvalue
        (hl.edge level)
      rw [written_object_cons]
      simpa using IsValue.object hrest

lemma areElements_written (level : Nat) (xs : List Json)
    (hx : ∀ d ∈ allDoubles xs, d.isFinite = true) {a w b : List Char} (ha : Blank a)
    (hw : IsValue w) (hb : Blank b) :
    AreElements (a ++ (w ++ (writtenElements layout level xs ++ b))) := by
  cases xs with
  | nil => exact .last ha hw hb
  | cons x xs =>
    obtain ⟨c, hc, hcomma⟩ := hl.exists_comma level
    have hvalue := isValue_written level x fun d hd => hx d (List.mem_append_left _ hd)
    have hrest := areElements_written level xs (fun d hd => hx d (List.mem_append_right _ hd))
      hc hvalue hb
    rw [writtenElements_cons, hcomma]
    simpa using AreElements.cons ha hw blank_nil hrest

lemma areMembers_written (level : Nat) (ms : List (Text × Json))
    (hx : ∀ d ∈ memberDoubles ms, d.isFinite = true) {a w b : List Char} (ha : Blank a) (k : Text)
    (hw : IsValue w) (hb : Blank b) :
    AreMembers
      (a ++ (quote k ++ (':' :: ' ' :: (w ++ (writtenMembers layout level ms ++ b))))) := by
  cases ms with
  | nil => exact .last ha (isString_quote k) blank_nil blank_space hw hb
  | cons m ms =>
    obtain ⟨l, v⟩ := m
    obtain ⟨c, hc, hcomma⟩ := hl.exists_comma level
    have hvalue := isValue_written level v fun d hd => hx d (List.mem_append_left _ hd)
    have hrest := areMembers_written level ms (fun d hd => hx d (List.mem_append_right _ hd))
      hc l hvalue hb
    rw [writtenMembers_cons, hcomma]
    simpa using AreMembers.cons ha (isString_quote k) blank_nil blank_space hw blank_nil hrest

end

/-- A value with finite doubles is written as a JSON text. -/
lemma isText_written {x : Json} (hx : ∀ d ∈ x.doubles, d.isFinite = true) :
    IsText (written layout 0 x) := by
  simpa using IsText.mk blank_nil (isValue_written hl 0 x hx) blank_nil

end

end LayoutTree.Json
