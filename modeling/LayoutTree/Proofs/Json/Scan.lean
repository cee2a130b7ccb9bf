import LayoutTree.Proofs.Json.Grammar

/-!
Texts without the white space between their parts.

What is left of the text of a value does not depend on the layout. Outside of strings it has a
letter that no JSON text has there if a double in the value is not finite.
-/

namespace LayoutTree.Json

/-- Where a character stands: between the parts of a text, in a string, or behind a backslash. -/
inductive Place where
  | outside
  | inside
  | escaped
deriving DecidableEq

def Place.next : Place → Char → Place
  | .outside, c => if c = '"' then .inside else .outside
  | .inside, c => if c = '"' then .outside else if c = '\\' then .escaped else .inside
  | .escaped, _ => .inside

/-- The characters with their places, but for the white space outside of strings. -/
def scan : Place → List Char → List (Place × Char)
  | _, [] => []
  | p, c :: cs =>
    if p = .outside ∧ isSpace c = true then scan p cs else (p, c) :: scan (p.next c) cs

/-- A text without the white space outside of strings. -/
def significant (cs : List Char) : List Char := (scan .outside cs).map Prod.snd

/-- A part of a text is scanned as these characters, and ends outside of strings. -/
def Scans (cs : List Char) (es : List (Place × Char)) : Prop :=
  ∀ rest, scan .outside (cs ++ rest) = es ++ scan .outside rest

/-! ### Parts -/

namespace Scans

variable {cs ds : List Char} {es fs : List (Place × Char)}

lemma nil : Scans [] [] := fun _ => rfl

lemma append (h : Scans cs es) (hd : Scans ds fs) : Scans (cs ++ ds) (es ++ fs) := by
  intro rest
  rw [List.append_assoc, h, hd, List.append_assoc]

lemma scan_eq (h : Scans cs es) : scan .outside cs = es := by
  simpa [scan] using h []

lemma blank (h : Blank cs) : Scans cs [] := by
  intro rest
  induction cs with
  | nil => rfl
  | cons c cs ih =>
    rw [List.cons_append, scan, if_pos ⟨rfl, h c List.mem_cons_self⟩]
    exact ih fun d hd => h d (List.mem_cons_of_mem _ hd)

/-- A mark between the parts is scanned as it is. -/
lemma cons {c : Char} (hc : isSpace c = false) (hquote : c ≠ '"') (h : Scans cs es) :
    Scans (c :: cs) ((.outside, c) :: es) := by
  intro rest
  rw [List.cons_append, scan, if_neg (by simp [hc]), Place.next, if_neg hquote, h]
  rfl

lemma word (h : ∀ c ∈ cs, isSpace c = false ∧ c ≠ '"') : Scans cs (cs.map (.outside, ·)) := by
  induction cs with
  | nil => exact .nil
  | cons c cs ih =>
    obtain ⟨⟨hc, hquote⟩, hcs⟩ := List.forall_mem_cons.1 h
    exact .cons hc hquote (ih hcs)

end Scans

/-! ### Numbers in words -/

/-- No number that is written in words begins with this character. -/
def Ordinary (e : Place × Char) : Prop := e.1 = .outside → e.2 ≠ 'N' ∧ e.2 ≠ 'I'

/-- A part of a text that ends outside of strings and has no number in words. -/
def Regular (cs : List Char) : Prop := ∃ es, Scans cs es ∧ ∀ e ∈ es, Ordinary e

namespace Regular

variable {cs ds : List Char}

lemma append (h : Regular cs) (hd : Regular ds) : Regular (cs ++ ds) := by
  obtain ⟨es, hes, he⟩ := h
  obtain ⟨fs, hfs, hf⟩ := hd
  exact ⟨_, hes.append hfs, List.forall_mem_append.2 ⟨he, hf⟩⟩

lemma blank (h : Blank cs) : Regular cs := ⟨[], .blank h, fun _ he => nomatch he⟩

lemma word (h : ∀ c ∈ cs, isSpace c = false ∧ c ≠ '"' ∧ c ≠ 'N' ∧ c ≠ 'I') : Regular cs := by
  refine ⟨_, .word fun c hc => ⟨(h c hc).1, (h c hc).2.1⟩, fun e he _ => ?_⟩
  obtain ⟨c, hc, rfl⟩ := List.mem_map.1 he
  exact (h c hc).2.2

lemma cons {c : Char} (hc : isSpace c = false ∧ c ≠ '"' ∧ c ≠ 'N' ∧ c ≠ 'I') (h : Regular cs) :
    Regular (c :: cs) := by
  have hword : Regular [c] := word (by simpa using hc)
  exact hword.append h

/-- What stands between two brackets. -/
lemma bracket {c d : Char} (hc : isSpace c = false ∧ c ≠ '"' ∧ c ≠ 'N' ∧ c ≠ 'I')
    (hd : isSpace d = false ∧ d ≠ '"' ∧ d ≠ 'N' ∧ d ≠ 'I') (h : Regular cs) :
    Regular (c :: (cs ++ [d])) :=
  cons hc (h.append (word (by simpa using hd)))

end Regular

/-! ### Strings -/

lemma scan_inside {cs : List Char} (h : ∀ c ∈ cs, c ≠ '"' ∧ c ≠ '\\') (rest : List Char) :
    scan .inside (cs ++ rest) = cs.map (.inside, ·) ++ scan .inside rest := by
  induction cs with
  | nil => rfl
  | cons c cs ih =>
    obtain ⟨⟨hquote, hslash⟩, hcs⟩ := List.forall_mem_cons.1 h
    rw [List.cons_append, scan, if_neg (by simp), Place.next, if_neg hquote, if_neg hslash, ih hcs]
    rfl

/-- After a backslash any character is taken as it is. -/
lemma scan_escaped (c : Char) (cs : List Char) :
    scan .inside ('\\' :: c :: cs) = (.inside, '\\') :: (.escaped, c) :: scan .inside cs := rfl

lemma IsHex.ne {c : Char} (h : IsHex c) : c ≠ '"' ∧ c ≠ '\\' := by
  constructor <;> rintro rfl <;> rcases h with h | h <;> revert h <;> decide

lemma IsCharacter.exists_scan {cs : List Char} (h : IsCharacter cs) : ∃ es,
    (∀ rest, scan .inside (cs ++ rest) = es ++ scan .inside rest) ∧ ∀ e ∈ es, e.1 ≠ .outside := by
  cases h with
  | @plain c _ hquote hslash =>
    have hc : ∀ d ∈ [c], d ≠ '"' ∧ d ≠ '\\' := by simp [hquote, hslash]
    exact ⟨_, scan_inside hc, by simp⟩
  | @short c _ => exact ⟨[(.inside, '\\'), (.escaped, c)], fun rest => rfl, by simp⟩
  | @unit ds _ hds =>
    refine ⟨(.inside, '\\') :: (.escaped, 'u') :: ds.map (.inside, ·), fun rest => ?_, by simp⟩
    rw [List.cons_append, List.cons_append, scan_escaped, scan_inside fun d hd => (hds d hd).ne]
    rfl

lemma AreCharacters.exists_scan {cs : List Char} (h : AreCharacters cs) : ∃ es,
    (∀ rest, scan .inside (cs ++ rest) = es ++ scan .inside rest) ∧ ∀ e ∈ es, e.1 ≠ .outside := by
  induction h with
  | nil => exact ⟨[], fun _ => rfl, by simp⟩
  | cons hc _ ih =>
    obtain ⟨es, hes, he⟩ := hc.exists_scan
    obtain ⟨fs, hfs, hf⟩ := ih
    refine ⟨es ++ fs, fun rest => ?_, List.forall_mem_append.2 ⟨he, hf⟩⟩
    rw [List.append_assoc, hes, hfs, List.append_assoc]

lemma IsString.regular {cs : List Char} (h : IsString cs) : Regular cs := by
  cases h with
  | @mk ds hds =>
    obtain ⟨es, hes, he⟩ := hds.exists_scan
    refine ⟨(.outside, '"') :: (es ++ [(.inside, '"')]), fun rest => ?_, ?_⟩
    · have hopen : scan .outside ('"' :: (ds ++ ['"'] ++ rest)) =
          (.outside, '"') :: scan .inside (ds ++ ('"' :: rest)) := by
        rw [List.append_assoc]
        rfl
      rw [List.cons_append, hopen, hes]
      simp [scan, Place.next]
    · simp only [List.forall_mem_cons, List.forall_mem_append]
      exact ⟨by simp [Ordinary], fun e hmem ho => absurd ho (he e hmem), by simp [Ordinary]⟩

/-! ### Words of the grammar -/

lemma AreDigits.regular {ds : List Char} (h : AreDigits ds) : Regular ds :=
  .word fun c hc => ⟨by simp [isSpace, ne_of_isDigit (h.2 c hc)], ne_of_isDigit (h.2 c hc) rfl,
    ne_of_isDigit (h.2 c hc) rfl, ne_of_isDigit (h.2 c hc) rfl⟩

lemma IsNumeral.regular {cs : List Char} (h : IsNumeral cs) : Regular cs := by
  cases h with
  | mk hs hds hfs hes =>
    refine .append ?_ (hds.1.regular.append (.append ?_ ?_))
    · rcases hs with rfl | rfl <;> exact .word (by simp [isSpace])
    · cases hfs with
      | none => exact .word (by simp [isSpace])
      | point hds => exact .cons (by decide) hds.regular
    · cases hes with
      | none => exact .word (by simp [isSpace])
      | letter hc hs hds =>
        refine .cons ?_ (.append (.word ?_) hds.regular)
        · rcases hc with rfl | rfl <;> decide
        · rcases hs with rfl | rfl | rfl <;> simp [isSpace]

/-- By induction on the word, together with rows of elements and of members. -/
lemma IsValue.regular {w : List Char} (h : IsValue w) : Regular w := by
  refine @IsValue.rec (fun w _ => Regular w) (fun w _ => Regular w) (fun w _ => Regular w)
    ?null ?true ?false ?number ?string ?emptyArray ?array ?emptyObject ?object ?lastElement
    ?element ?lastMember ?member w h
  case null => exact .word (by simp [isSpace])
  case true => exact .word (by simp [isSpace])
  case false => exact .word (by simp [isSpace])
  case number => exact fun h => h.regular
  case string => exact fun h => h.regular
  case emptyArray => exact fun hb => .bracket (by decide) (by decide) (.blank hb)
  case array => exact fun _ h => .bracket (by decide) (by decide) h
  case emptyObject => exact fun hb => .bracket (by decide) (by decide) (.blank hb)
  case object => exact fun _ h => .bracket (by decide) (by decide) h
  case lastElement =>
    intro a w b ha _ hb hw
    exact .append (.blank ha) (hw.append (.blank hb))
  case element =>
    intro a w b ws ha _ hb _ hw hws
    exact .append (.blank ha) (hw.append (.append (.blank hb) (.cons (by decide) hws)))
  case lastMember =>
    intro a k b c w d ha hk hb hc _ hd hw
    exact .append (.blank ha) (hk.regular.append (.append (.blank hb) (.cons (by decide)
      (.append (.blank hc) (hw.append (.blank hd))))))
  case member =>
    intro a k b c w d ws ha hk hb hc _ hd _ hw hws
    exact .append (.blank ha) (hk.regular.append (.append (.blank hb) (.cons (by decide)
      (.append (.blank hc) (hw.append (.append (.blank hd) (.cons (by decide) hws)))))))

/-- A JSON text has no number in words. -/
lemma IsText.regular {w : List Char} (h : IsText w) : Regular w := by
  cases h with
  | mk ha hw hb => exact .append (.blank ha) (hw.regular.append (.blank hb))

/-! ### Written values -/

/-- However it is laid out, the text is scanned as these characters, and numbers in words are among
them if a double is not finite. -/
structure ScannedAs (text : Layout → Nat → List Char) (ds : List Double)
    (es : List (Place × Char)) : Prop where
  scans : ∀ layout level, layout.IsBlank → Scans (text layout level) es
  finite : (∀ e ∈ es, Ordinary e) → ∀ d ∈ ds, d.isFinite = true

namespace ScannedAs

variable {text : Layout → Nat → List Char} {cs : List Char} {es : List (Place × Char)}
  {ds : List Double}

/-- What is written alike is scanned alike. -/
lemma of_eq (h : ∀ layout level, text layout level = cs) (hs : Scans cs es)
    (hf : (∀ e ∈ es, Ordinary e) → ∀ d ∈ ds, d.isFinite = true) : ScannedAs text ds es :=
  ⟨fun layout level _ => h layout level ▸ hs, hf⟩

lemma of_word (h : ∀ layout level, text layout level = cs)
    (hs : ∀ c ∈ cs, isSpace c = false ∧ c ≠ '"') :
    ScannedAs text [] (cs.map (.outside, ·)) :=
  .of_eq h (.word hs) fun _ _ hd => nomatch hd

lemma exists_of_regular (h : ∀ layout level, text layout level = cs) (hs : Regular cs)
    (hf : ∀ d ∈ ds, d.isFinite = true) : ∃ es, ScannedAs text ds es := by
  obtain ⟨es, hes, -⟩ := hs
  exact ⟨es, .of_eq h hes fun _ => hf⟩

/-- A number in words is marked by its capital letter. -/
lemma of_numberWord (h : ∀ layout level, text layout level = cs)
    (hs : ∀ c ∈ cs, isSpace c = false ∧ c ≠ '"') (hcs : 'N' ∈ cs ∨ 'I' ∈ cs) :
    ScannedAs text ds (cs.map (.outside, ·)) := by
  refine .of_eq h (.word hs) fun he => ?_
  rcases hcs with hc | hc
  · exact absurd rfl (he _ (List.mem_map_of_mem hc) rfl).1
  · exact absurd rfl (he _ (List.mem_map_of_mem hc) rfl).2

end ScannedAs

lemma exists_scans_number (x : Double) : ∃ es, ScannedAs (written · · (.number x)) [x] es := by
  have h : ∀ layout level, written layout level (.number x) = (numbers.write x).toList :=
    fun layout level => written_number layout level x
  cases x with
  | finite n e f =>
    exact ScannedAs.exists_of_regular h (isNumeral_number rfl).regular
      (List.forall_mem_singleton.2 rfl)
  | infinite n =>
    have hword : (numbers.write (.infinite n)).toList =
        (if n then ['-'] else []) ++ ['I', 'n', 'f', 'i', 'n', 'i', 't', 'y'] := by
      cases n <;> rfl
    rw [hword] at h
    refine ⟨_, .of_numberWord h ?_ (by simp)⟩
    cases n <;> simp [isSpace]
  | nan tag =>
    rw [write_nan] at h
    exact ⟨_, .of_numberWord h (by simp [isSpace]) (by simp)⟩

mutual

lemma exists_scans_written (x : Json) : ∃ es, ScannedAs (written · · x) x.doubles es := by
  cases x with
  | null => exact ⟨_, .of_word written_null (by simp [isSpace])⟩
  | bool b =>
    refine ⟨_, .of_word (fun layout level => written_bool layout level b) ?_⟩
    cases b <;> simp [isSpace]
  | int i =>
    exact ScannedAs.exists_of_regular (fun layout level => written_int layout level i)
      (isNumeral_int i).regular fun _ hd => nomatch hd
  | number x => exact exists_scans_number x
  | text t =>
    exact ScannedAs.exists_of_regular (fun layout level => written_text layout level t)
      (isString_quote t).regular fun _ hd => nomatch hd
  | array xs =>
    cases xs with
    | nil => exact ⟨_, .of_word written_array_nil (by simp [isSpace])⟩
    | cons x xs =>
      obtain ⟨es, hes⟩ := exists_scans_written x
      obtain ⟨fs, hfs⟩ := exists_scans_elements xs
      refine ⟨(.outside, '[') :: (es ++ (fs ++ [(.outside, ']')])), fun layout level hl => ?_,
        fun h => ?_⟩
      · have hopen : Scans (layout.edge (level + 1)) [] := .blank (hl.edge _)
        have hclose : Scans (layout.edge level ++ [']']) [(.outside, ']')] :=
          .append (.blank (hl.edge level)) (.cons rfl (by decide) .nil)
        rw [written_array_cons]
        exact .cons rfl (by decide) (hopen.append ((hes.scans layout _ hl).append
          ((hfs.scans layout _ hl).append hclose)))
      · simp only [List.forall_mem_cons, List.forall_mem_append] at h
        exact List.forall_mem_append.2 ⟨hes.finite h.2.1, hfs.finite h.2.2.1⟩
  | object ms =>
    cases ms with
    | nil => exact ⟨_, .of_word written_object_nil (by simp [isSpace])⟩
    | cons m ms =>
      obtain ⟨k, v⟩ := m
      obtain ⟨ks, hks, -⟩ := (isString_quote k).regular
      obtain ⟨es, hes⟩ := exists_scans_written v
      obtain ⟨fs, hfs⟩ := exists_scans_members ms
      refine ⟨(.outside, '\x7b') :: (ks ++ ((.outside, ':') :: (es ++
        (fs ++ [(.outside, '\x7d')])))), fun layout level hl => ?_, fun h => ?_⟩
      · have hopen : Scans (layout.edge (level + 1)) [] := .blank (hl.edge _)
        have hclose : Scans (layout.edge level ++ ['\x7d']) [(.outside, '\x7d')] :=
          .append (.blank (hl.edge level)) (.cons rfl (by decide) .nil)
        have hspace : Scans [' '] [] := .blank blank_space
        rw [written_object_cons]
        exact .cons rfl (by decide) (hopen.append (hks.append (.cons rfl (by decide)
          (hspace.append ((hes.scans layout _ hl).append
            ((hfs.scans layout _ hl).append hclose))))))
      · simp only [List.forall_mem_cons, List.forall_mem_append] at h
        exact List.forall_mem_append.2 ⟨hes.finite h.2.2.2.1, hfs.finite h.2.2.2.2.1⟩

lemma exists_scans_elements (xs : List Json) :
    ∃ es, ScannedAs (writtenElements · · xs) (allDoubles xs) es := by
  cases xs with
  | nil => exact ⟨_, .of_word writtenElements_nil fun _ hc => nomatch hc⟩
  | cons x xs =>
    obtain ⟨es, hes⟩ := exists_scans_written x
    obtain ⟨fs, hfs⟩ := exists_scans_elements xs
    refine ⟨(.outside, ',') :: (es ++ fs), fun layout level hl => ?_, fun h => ?_⟩
    · obtain ⟨b, hb, hcomma⟩ := hl.exists_comma level
      have hblank : Scans b [] := .blank hb
      rw [writtenElements_cons, hcomma]
      exact .cons rfl (by decide) (hblank.append ((hes.scans layout level hl).append
        (hfs.scans layout level hl)))
    · simp only [List.forall_mem_cons, List.forall_mem_append] at h
      exact List.forall_mem_append.2 ⟨hes.finite h.2.1, hfs.finite h.2.2⟩

lemma exists_scans_members (ms : List (Text × Json)) :
    ∃ es, ScannedAs (writtenMembers · · ms) (memberDoubles ms) es := by
  cases ms with
  | nil => exact ⟨_, .of_word writtenMembers_nil fun _ hc => nomatch hc⟩
  | cons m ms =>
    obtain ⟨k, v⟩ := m
    obtain ⟨ks, hks, -⟩ := (isString_quote k).regular
    obtain ⟨es, hes⟩ := exists_scans_written v
    obtain ⟨fs, hfs⟩ := exists_scans_members ms
    refine ⟨(.outside, ',') :: (ks ++ ((.outside, ':') :: (es ++ fs))), fun layout level hl => ?_,
      fun h => ?_⟩
    · obtain ⟨b, hb, hcomma⟩ := hl.exists_comma level
      have hblank : Scans b [] := .blank hb
      have hspace : Scans [' '] [] := .blank blank_space
      rw [writtenMembers_cons, hcomma]
      exact .cons rfl (by decide) (hblank.append (hks.append (.cons rfl (by decide)
        (hspace.append ((hes.scans layout level hl).append (hfs.scans layout level hl))))))
    · simp only [List.forall_mem_cons, List.forall_mem_append] at h
      exact List.forall_mem_append.2 ⟨hes.finite h.2.2.2.1, hfs.finite h.2.2.2.2⟩

end

/-- Layouts differ in white space alone. -/
lemma significant_written {layout layout' : Layout} (hl : layout.IsBlank) (hl' : layout'.IsBlank)
    (x : Json) : significant (written layout 0 x) = significant (written layout' 0 x) := by
  obtain ⟨es, hes⟩ := exists_scans_written x
  rw [significant, significant, (hes.scans layout 0 hl).scan_eq, (hes.scans layout' 0 hl').scan_eq]

/-- The text of a value is a JSON text exactly if all doubles in it are finite. -/
lemma isText_written_iff {layout : Layout} (hl : layout.IsBlank) {x : Json} :
    IsText (written layout 0 x) ↔ ∀ d ∈ x.doubles, d.isFinite = true := by
  refine ⟨fun h => ?_, isText_written hl⟩
  obtain ⟨es, hes⟩ := exists_scans_written x
  obtain ⟨fs, hfs, hf⟩ := h.regular
  obtain rfl : es = fs := (hes.scans layout 0 hl).scan_eq.symm.trans hfs.scan_eq
  exact hes.finite hf

end LayoutTree.Json
