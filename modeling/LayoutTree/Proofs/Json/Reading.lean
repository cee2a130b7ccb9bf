import LayoutTree.Proofs.Double
import LayoutTree.Proofs.Json.Number
import LayoutTree.Proofs.Json.Quoted
import LayoutTree.Proofs.Json.Written

/-!
Values are read back from their texts, however they are laid out, if the finite doubles in them are
read back from their numerals. A not-a-number comes back without its tag.
-/

namespace LayoutTree

namespace Json

/-! ### Values -/

mutual

/-- The doubles in a value, in the order in which they are written. -/
def doubles : Json → List Double
  | .number x => [x]
  | .array xs => allDoubles xs
  | .object ms => memberDoubles ms
  | _ => []

def allDoubles : List Json → List Double
  | [] => []
  | x :: xs => x.doubles ++ allDoubles xs

def memberDoubles : List (Text × Json) → List Double
  | [] => []
  | (_, v) :: ms => v.doubles ++ memberDoubles ms

end

mutual

/-- The value with all not-a-numbers alike. -/
def untagged : Json → Json
  | .number x => .number x.untagged
  | .array xs => .array (allUntagged xs)
  | .object ms => .object (membersUntagged ms)
  | x => x

def allUntagged : List Json → List Json
  | [] => []
  | x :: xs => x.untagged :: allUntagged xs

def membersUntagged : List (Text × Json) → List (Text × Json)
  | [] => []
  | (k, v) :: ms => (k, v.untagged) :: membersUntagged ms

end

mutual

/-- All texts in a value, and the names of all members, are strings. -/
def Plain : Json → Prop
  | .text t => ∃ s, t = .plain s
  | .array xs => AllPlain xs
  | .object ms => MembersPlain ms
  | _ => True

def AllPlain : List Json → Prop
  | [] => True
  | x :: xs => x.Plain ∧ AllPlain xs

def MembersPlain : List (Text × Json) → Prop
  | [] => True
  | (k, v) :: ms => (∃ s, k = .plain s) ∧ v.Plain ∧ MembersPlain ms

end

/-- A finite double is read back from its numeral. -/
def ReadsBack (x : Double) : Prop :=
  x.isFinite = true → read? (numbers.write x).toList = some (.number x)

/-! ### White space -/

lemma skipSpace_append {b : List Char} (h : Blank b) (cs : List Char) :
    skipSpace (b ++ cs) = skipSpace cs :=
  List.dropWhile_append_of_pos h

lemma skipSpace_cons {c : Char} (h : isSpace c = false) (cs : List Char) :
    skipSpace (c :: cs) = c :: cs := by
  simp [skipSpace, h]

lemma value?_append {b : List Char} (h : Blank b) (n : Nat) (cs : List Char) :
    value? n (b ++ cs) = value? n cs := by
  cases n with
  | zero => rw [value?, value?]
  | succ n =>
    rw [value?.eq_def, value?.eq_def]
    simp only [skipSpace_append h]

lemma value?_space (n : Nat) (cs : List Char) : value? n (' ' :: cs) = value? n cs :=
  value?_append blank_space n cs

lemma numeralEnds_append {b cs : List Char} (h : Blank b) (hcs : NumeralEnds cs) :
    NumeralEnds (b ++ cs) := by
  cases b with
  | nil => exact hcs
  | cons c b =>
    intro d hd
    cases hd
    have hc : c = ' ' ∨ c = '\t' ∨ c = '\n' ∨ c = '\r' := by
      simpa [isSpace, or_assoc] using h c List.mem_cons_self
    rcases hc with rfl | rfl | rfl | rfl <;> decide

/-! ### First characters -/

/-- The text begins with what is neither white space nor the end of an array. -/
def Opens (cs : List Char) : Prop := ∃ c tail, cs = c :: tail ∧ isSpace c = false ∧ c ≠ ']'

lemma Opens.append {cs : List Char} (h : Opens cs) (ds : List Char) : Opens (cs ++ ds) := by
  obtain ⟨c, tail, rfl, hc⟩ := h
  exact ⟨c, tail ++ ds, rfl, hc⟩

lemma IsNumeral.opens {cs : List Char} (h : IsNumeral cs) : Opens cs := by
  cases h with
  | mk hs hds =>
    rcases hs with rfl | rfl
    · obtain ⟨d, tail, rfl, hd⟩ := hds.1.exists_cons
      exact ⟨d, _, rfl, by simp [isSpace, ne_of_isDigit hd], ne_of_isDigit hd rfl⟩
    · exact ⟨'-', _, rfl, rfl, by decide⟩

lemma write_nan (tag : Nat) : numbers.write (.nan tag) = "NaN" := rfl

lemma opens_number (x : Double) : Opens (numbers.write x).toList := by
  cases x with
  | finite n e f => exact (isNumeral_number rfl).opens
  | infinite n => cases n <;> exact ⟨_, _, rfl, rfl, by decide⟩
  | nan tag =>
    rw [write_nan]
    exact ⟨_, _, rfl, rfl, by decide⟩

section

variable (layout : Layout) (level : Nat)

lemma opens_written (x : Json) : Opens (written layout level x) := by
  cases x with
  | null => exact ⟨_, _, rfl, rfl, by decide⟩
  | bool b =>
    rw [written_bool]
    cases b <;> exact ⟨_, _, rfl, rfl, by decide⟩
  | int i =>
    rw [written_int]
    exact (isNumeral_int i).opens
  | number x =>
    rw [written_number]
    exact opens_number x
  | text t =>
    rw [written_text]
    exact ⟨_, _, rfl, rfl, by decide⟩
  | array xs =>
    cases xs with
    | nil => exact ⟨_, _, written_array_nil .., rfl, by decide⟩
    | cons x xs => exact ⟨_, _, written_array_cons .., rfl, by decide⟩
  | object ms =>
    cases ms with
    | nil => exact ⟨_, _, written_object_nil .., rfl, by decide⟩
    | cons m ms => exact ⟨_, _, written_object_cons .., rfl, by decide⟩

lemma length_written_pos (x : Json) : 0 < (written layout level x).length := by
  obtain ⟨c, tail, h, -⟩ := opens_written layout level x
  rw [h, List.length_cons]
  exact Nat.succ_pos _

end

/-! ### Reading -/

lemma value?_number {x : Double} (h : ReadsBack x) (n : Nat) {rest : List Char}
    (hr : NumeralEnds rest) :
    value? (n + 1) ((numbers.write x).toList ++ rest) = some (.number x.untagged, rest) := by
  cases x with
  | finite s e f =>
    obtain ⟨y, hy⟩ := (isNumeral_number (x := .finite s e f) rfl).exists_value
    have hread := h rfl
    have hvalue := hy (2 * (numbers.write (.finite s e f)).toList.length + 1) []
      fun _ hc => nomatch hc
    rw [List.append_nil] at hvalue
    rw [read?, hvalue] at hread
    obtain rfl : y = .number (.finite s e f) := Option.some.inj hread
    exact hy n rest hr
  | infinite s => cases s <;> rfl
  | nan tag =>
    rw [write_nan]
    rfl

/-- An array with elements, the first of which does not end it. -/
lemma value?_array {b cs : List Char} (hb : Blank b) (hcs : Opens cs) (n : Nat) :
    value? (n + 1) ('[' :: (b ++ cs)) = (elements? n cs).map fun p => (.array p.1, p.2) := by
  obtain ⟨c, tail, rfl, hc, hend⟩ := hcs
  have hskip : skipSpace (b ++ c :: tail) = c :: tail := by
    rw [skipSpace_append hb, skipSpace_cons hc]
  have hopen : skipSpace ('[' :: (b ++ c :: tail)) = '[' :: (b ++ c :: tail) := skipSpace_cons rfl _
  rw [value?.eq_def]
  simp only [hopen, hskip]
  split
  · rename_i h
    exact absurd (List.cons.inj h).1 hend
  · rfl

/-- An object with members, the first of which begins with its name. -/
lemma value?_object {b : List Char} (hb : Blank b) (n : Nat) (k : Text) (cs : List Char) :
    value? (n + 1) ('\x7b' :: (b ++ (quote k ++ cs))) =
      (members? n (quote k ++ cs)).map fun p => (.object p.1, p.2) := by
  have hquote : quote k ++ cs = '"' :: (k.points.flatMap escape ++ ['"'] ++ cs) := rfl
  have hskip : skipSpace (b ++ (quote k ++ cs)) = quote k ++ cs := by
    rw [skipSpace_append hb, hquote, skipSpace_cons rfl]
  have hopen : skipSpace ('\x7b' :: (b ++ (quote k ++ cs))) = '\x7b' :: (b ++ (quote k ++ cs)) :=
    skipSpace_cons rfl _
  rw [value?.eq_def]
  simp only [hopen, hskip]
  rw [hquote]
  rfl

lemma value?_string {n : Nat} {s : String} (hn : (quote (.plain s)).length ≤ n + 1)
    (rest : List Char) :
    value? (n + 1) (quote (.plain s) ++ rest) = some (.text (.plain s), rest) := by
  obtain ⟨cs, hcs, hread⟩ := string?_quote s hn rest
  have hvalue : value? (n + 1) ('"' :: cs) = (string? n [] cs).map fun p => (.text p.1, p.2) := by
    rw [value?.eq_def]
    rfl
  rw [hcs, hvalue, hread]
  rfl

/-- An element that others follow, and one that does not. -/
lemma elements?_comma {n : Nat} {cs r : List Char} {x : Json}
    (h : value? n cs = some (x, ',' :: r)) :
    elements? (n + 1) cs = (elements? n r).map fun p => (x :: p.1, p.2) := by
  have hskip : skipSpace (',' :: r) = ',' :: r := skipSpace_cons rfl r
  rw [elements?, h, Option.bind_eq_bind, Option.bind_some]
  simp only [hskip]

lemma elements?_close {n : Nat} {cs b r : List Char} {x : Json} (hb : Blank b)
    (h : value? n cs = some (x, b ++ ']' :: r)) : elements? (n + 1) cs = some ([x], r) := by
  have hskip : skipSpace (b ++ ']' :: r) = ']' :: r := by
    rw [skipSpace_append hb, skipSpace_cons rfl]
  rw [elements?, h, Option.bind_eq_bind, Option.bind_some]
  simp only [hskip]

lemma members?_append {b : List Char} (h : Blank b) (n : Nat) (cs : List Char) :
    members? n (b ++ cs) = members? n cs := by
  cases n with
  | zero => rw [members?, members?]
  | succ n =>
    rw [members?.eq_def, members?.eq_def]
    simp only [skipSpace_append h]

/-- A member that others follow, and one that does not: a name, a colon and a value. -/
lemma members?_comma {n : Nat} {s : String} (hn : (quote (.plain s)).length ≤ n + 1)
    {cs r : List Char} {v : Json} (h : value? n cs = some (v, ',' :: r)) :
    members? (n + 1) (quote (.plain s) ++ ':' :: cs) =
      (members? n r).map fun p => ((.plain s, v) :: p.1, p.2) := by
  obtain ⟨ds, hds, hread⟩ := string?_quote s hn (':' :: cs)
  have hskip : ∀ {c}, isSpace c = false → ∀ cs, skipSpace (c :: cs) = c :: cs := skipSpace_cons
  rw [hds, members?]
  simp only [hskip (c := '"') rfl, hread, Option.bind_eq_bind, Option.bind_some,
    hskip (c := ':') rfl, h, hskip (c := ',') rfl]

lemma members?_close {n : Nat} {s : String} (hn : (quote (.plain s)).length ≤ n + 1)
    {cs b r : List Char} {v : Json} (hb : Blank b) (h : value? n cs = some (v, b ++ '\x7d' :: r)) :
    members? (n + 1) (quote (.plain s) ++ ':' :: cs) = some ([(.plain s, v)], r) := by
  obtain ⟨ds, hds, hread⟩ := string?_quote s hn (':' :: cs)
  have hskip : ∀ {c}, isSpace c = false → ∀ cs, skipSpace (c :: cs) = c :: cs := skipSpace_cons
  rw [hds, members?]
  simp only [hskip (c := '"') rfl, hread, Option.bind_eq_bind, Option.bind_some,
    hskip (c := ':') rfl, h, skipSpace_append hb, hskip (c := '\x7d') rfl]

lemma numeralEnds_cons {c : Char} (hc : c.isDigit = false ∧ c ≠ '.' ∧ c ≠ 'e' ∧ c ≠ 'E')
    (cs : List Char) : NumeralEnds (c :: cs) := by
  intro d hd
  cases hd
  exact hc

section

variable {layout : Layout} (hl : layout.IsBlank)

include hl

/-- After an element there is a comma or the end of the array, so a numeral ends there. -/
lemma numeralEnds_elements (level : Nat) (xs : List Json) {b : List Char} (hb : Blank b)
    (rest : List Char) : NumeralEnds (writtenElements layout level xs ++ (b ++ ']' :: rest)) := by
  cases xs with
  | nil =>
    rw [writtenElements_nil, List.nil_append]
    exact numeralEnds_append hb (numeralEnds_cons (by decide) rest)
  | cons x xs =>
    obtain ⟨b, -, hcomma⟩ := hl.exists_comma level
    rw [writtenElements_cons, hcomma]
    exact numeralEnds_cons (by decide) _

lemma numeralEnds_members (level : Nat) (ms : List (Text × Json)) {b : List Char} (hb : Blank b)
    (rest : List Char) :
    NumeralEnds (writtenMembers layout level ms ++ (b ++ '\x7d' :: rest)) := by
  cases ms with
  | nil =>
    rw [writtenMembers_nil, List.nil_append]
    exact numeralEnds_append hb (numeralEnds_cons (by decide) rest)
  | cons m ms =>
    obtain ⟨b, -, hcomma⟩ := hl.exists_comma level
    rw [writtenMembers_cons, hcomma]
    exact numeralEnds_cons (by decide) _

mutual

/-- A value is read back from its text. Twice the length of the text is depth enough: a bracket
and what follows it take a level each. -/
lemma value?_written (level : Nat) (x : Json) (hp : x.Plain) (hx : ∀ d ∈ x.doubles, ReadsBack d)
    {n : Nat} (hn : 2 * (written layout level x).length ≤ n) {rest : List Char}
    (hr : NumeralEnds rest) :
    value? n (written layout level x ++ rest) = some (x.untagged, rest) := by
  obtain ⟨n, rfl⟩ : ∃ m, n = m + 1 := by
    have hpos := length_written_pos layout level x
    exact ⟨n - 1, by omega⟩
  cases x with
  | null => rfl
  | bool b => cases b <;> rfl
  | int i =>
    rw [written_int]
    exact value?_int i n hr
  | number x =>
    rw [written_number]
    exact value?_number (hx x (by simp [doubles])) n hr
  | text t =>
    obtain ⟨s, rfl⟩ := hp
    rw [written_text] at hn ⊢
    exact value?_string (by omega) rest
  | array xs =>
    cases xs with
    | nil =>
      rw [written_array_nil]
      rfl
    | cons x xs =>
      have hpos := length_written_pos layout (level + 1) x
      rw [written_array_cons] at hn ⊢
      simp only [List.cons_append, List.append_assoc, List.length_cons, List.length_append] at hn ⊢
      obtain ⟨m, rfl⟩ : ∃ m, n = m + 1 := ⟨n - 1, by omega⟩
      have hfirst := value?_written (level + 1) x hp.1
        (fun d hd => hx d (List.mem_append_left _ hd)) (n := m) (by omega)
        (numeralEnds_elements hl (level + 1) xs (hl.edge level) rest)
      -- the first element is not taken for the end of the array
      have hopens := (opens_written layout (level + 1) x).append
        (writtenElements layout (level + 1) xs ++ (layout.edge level ++ ']' :: rest))
      rw [List.nil_append, value?_array (hl.edge _) hopens, elements?_written (level + 1) xs hp.2
        (fun d hd => hx d (List.mem_append_right _ hd)) (by omega) (hl.edge level) hfirst]
      rfl
  | object ms =>
    cases ms with
    | nil =>
      rw [written_object_nil]
      rfl
    | cons m ms =>
      obtain ⟨k, v⟩ := m
      obtain ⟨⟨s, rfl⟩, hv, hms⟩ := hp
      have hpos := length_written_pos layout (level + 1) v
      rw [written_object_cons] at hn ⊢
      simp only [List.cons_append, List.append_assoc, List.length_cons, List.length_append] at hn ⊢
      obtain ⟨m, rfl⟩ : ∃ m, n = m + 1 := ⟨n - 1, by omega⟩
      have hfirst := value?_written (level + 1) v hv
        (fun d hd => hx d (List.mem_append_left _ hd)) (n := m) (by omega)
        (numeralEnds_members hl (level + 1) ms (hl.edge level) rest)
      rw [← value?_space] at hfirst
      rw [List.nil_append, value?_object (hl.edge _), members?_written (level + 1) ms hms
        (fun d hd => hx d (List.mem_append_right _ hd)) (s := s) (by omega) (by omega)
        (hl.edge level) hfirst]
      rfl

/-- The elements of an array are read back, if the first one is. -/
lemma elements?_written (level : Nat) (xs : List Json) (hp : AllPlain xs)
    (hx : ∀ d ∈ allDoubles xs, ReadsBack d) {n : Nat}
    (hn : 2 * (writtenElements layout level xs).length ≤ n) {cs b rest : List Char} {x : Json}
    (hb : Blank b)
    (hfirst : value? n cs = some (x, writtenElements layout level xs ++ (b ++ ']' :: rest))) :
    elements? (n + 1) cs = some (x :: allUntagged xs, rest) := by
  cases xs with
  | nil => exact elements?_close hb hfirst
  | cons y xs =>
    obtain ⟨c, hc, hcomma⟩ := hl.exists_comma level
    rw [writtenElements_cons, hcomma] at hn hfirst
    simp only [List.cons_append, List.append_assoc, List.length_cons, List.length_append]
      at hn hfirst
    obtain ⟨m, rfl⟩ : ∃ m, n = m + 1 := ⟨n - 1, by omega⟩
    have hy := value?_written level y hp.1 (fun d hd => hx d (List.mem_append_left _ hd))
      (n := m) (by omega) (numeralEnds_elements hl level xs hb rest)
    rw [← value?_append hc] at hy
    rw [elements?_comma hfirst, elements?_written level xs hp.2
      (fun d hd => hx d (List.mem_append_right _ hd)) (by omega) hb hy]
    rfl

/-- The members of an object are read back, if the value of the first one is. -/
lemma members?_written (level : Nat) (ms : List (Text × Json)) (hp : MembersPlain ms)
    (hx : ∀ d ∈ memberDoubles ms, ReadsBack d) {n : Nat}
    (hn : 2 * (writtenMembers layout level ms).length ≤ n) {cs b rest : List Char} {s : String}
    (hs : (quote (.plain s)).length ≤ n + 1) {v : Json} (hb : Blank b)
    (hfirst : value? n cs = some (v, writtenMembers layout level ms ++ (b ++ '\x7d' :: rest))) :
    members? (n + 1) (quote (.plain s) ++ ':' :: cs) =
      some ((.plain s, v) :: membersUntagged ms, rest) := by
  cases ms with
  | nil => exact members?_close hs hb hfirst
  | cons m ms =>
    obtain ⟨k, w⟩ := m
    obtain ⟨⟨t, rfl⟩, hw, hms⟩ := hp
    obtain ⟨c, hc, hcomma⟩ := hl.exists_comma level
    rw [writtenMembers_cons, hcomma] at hn hfirst
    simp only [List.cons_append, List.append_assoc, List.length_cons, List.length_append]
      at hn hfirst
    obtain ⟨m, rfl⟩ : ∃ m, n = m + 1 := ⟨n - 1, by omega⟩
    have hw := value?_written level w hw (fun d hd => hx d (List.mem_append_left _ hd))
      (n := m) (by omega) (numeralEnds_members hl level ms hb rest)
    rw [← value?_space] at hw
    rw [members?_comma hs hfirst, members?_append hc, members?_written level ms hms
      (fun d hd => hx d (List.mem_append_right _ hd)) (s := t) (by omega) (by omega) hb hw]
    rfl

end

/-- **Reading back**: a text is read as the value that was written, but for the tags of
not-a-numbers. -/
lemma read?_written {x : Json} (hp : x.Plain) (hx : ∀ d ∈ x.doubles, ReadsBack d) :
    read? (written layout 0 x) = some x.untagged := by
  have hends : NumeralEnds [] := fun _ hc => nomatch hc
  have hread := value?_written hl 0 x hp hx (Nat.le_add_right _ 2) hends
  rw [List.append_nil] at hread
  rw [read?, hread]
  rfl

end

end Json

end LayoutTree
