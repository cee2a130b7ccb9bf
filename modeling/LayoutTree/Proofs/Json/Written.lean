import LayoutTree.Json.Printer
import LayoutTree.Json.Reader
import Mathlib.Tactic.Lemma

/-!
The parts that the text of a value is put together from.
-/

namespace LayoutTree.Json

/-! ### White space -/

def Blank (cs : List Char) : Prop := ∀ c ∈ cs, isSpace c = true

lemma blank_nil : Blank [] := fun _ hc => nomatch hc

lemma blank_space : Blank [' '] := List.forall_mem_singleton.2 rfl

namespace Layout

/-- There is nothing but white space between the parts of a text. -/
def IsBlank : Layout → Prop
  | .line => True
  | .indented unit => Blank unit

variable {layout : Layout}

lemma blank_lineBreak {unit : List Char} (h : Blank unit) (level : Nat) :
    Blank (lineBreak unit level) := by
  intro c hc
  rcases List.mem_cons.1 hc with rfl | hc
  · rfl
  · obtain ⟨u, hu, hc⟩ := List.mem_flatten.1 hc
    rw [(List.mem_replicate.1 hu).2] at hc
    exact h c hc

lemma IsBlank.edge (h : layout.IsBlank) (level : Nat) : Blank (layout.edge level) := by
  cases layout with
  | line => exact blank_nil
  | indented unit => exact blank_lineBreak h level

lemma IsBlank.exists_comma (h : layout.IsBlank) (level : Nat) :
    ∃ b, Blank b ∧ layout.comma level = ',' :: b := by
  cases layout with
  | line => exact ⟨[' '], blank_space, rfl⟩
  | indented unit => exact ⟨_, blank_lineBreak h level, rfl⟩

end Layout

/-! ### Texts -/

section Text

variable (layout : Layout) (level : Nat)

def written (x : Json) : List Char := print layout level x []

def writtenElements (xs : List Json) : List Char := printElements layout level xs []

def writtenMembers (ms : List (Text × Json)) : List Char := printMembers layout level ms []

mutual

/-- What follows a value has no influence on its text. -/
lemma print_eq (level : Nat) (x : Json) (rest : List Char) :
    print layout level x rest = written layout level x ++ rest := by
  unfold written
  cases x with
  | array xs =>
    cases xs with
    | nil => simp [print]
    | cons x xs =>
      rw [print, print, print_eq (level + 1) x, printElements_eq (level + 1) xs,
        print_eq (level + 1) x, printElements_eq (level + 1) xs]
      simp
  | object ms =>
    cases ms with
    | nil => simp [print]
    | cons m ms =>
      obtain ⟨k, v⟩ := m
      rw [print, print, print_eq (level + 1) v, printMembers_eq (level + 1) ms,
        print_eq (level + 1) v, printMembers_eq (level + 1) ms]
      simp
  | _ => simp [print]

lemma printElements_eq (level : Nat) (xs : List Json) (rest : List Char) :
    printElements layout level xs rest = writtenElements layout level xs ++ rest := by
  unfold writtenElements
  cases xs with
  | nil => simp [printElements]
  | cons x xs =>
    rw [printElements, printElements, print_eq level x, printElements_eq level xs,
      print_eq level x, printElements_eq level xs]
    simp

lemma printMembers_eq (level : Nat) (ms : List (Text × Json)) (rest : List Char) :
    printMembers layout level ms rest = writtenMembers layout level ms ++ rest := by
  unfold writtenMembers
  cases ms with
  | nil => simp [printMembers]
  | cons m ms =>
    obtain ⟨k, v⟩ := m
    rw [printMembers, printMembers, print_eq level v, printMembers_eq level ms,
      print_eq level v, printMembers_eq level ms]
    simp

end

lemma written_null : written layout level .null = "null".toList := rfl

lemma written_bool (b : Bool) :
    written layout level (.bool b) = (if b then "true" else "false").toList := by
  simp [written, print]

lemma written_int (i : Int) : written layout level (.int i) = (toString i).toList := by
  simp [written, print]

lemma written_number (x : Double) :
    written layout level (.number x) = (numbers.write x).toList := by
  simp [written, print]

lemma written_text (t : Text) : written layout level (.text t) = quote t := by simp [written, print]

lemma written_array_nil : written layout level (.array []) = ['[', ']'] := by simp [written, print]

lemma written_array_cons (x : Json) (xs : List Json) : written layout level (.array (x :: xs)) =
    '[' :: (layout.edge (level + 1) ++ (written layout (level + 1) x ++
      (writtenElements layout (level + 1) xs ++ (layout.edge level ++ [']'])))) := by
  rw [written, print, print_eq, printElements_eq]

lemma written_object_nil : written layout level (.object []) = ['\x7b', '\x7d'] := by
  simp [written, print]

lemma written_object_cons (k : Text) (v : Json) (ms : List (Text × Json)) :
    written layout level (.object ((k, v) :: ms)) =
      '\x7b' :: (layout.edge (level + 1) ++ (quote k ++ (':' :: ' ' ::
        (written layout (level + 1) v ++ (writtenMembers layout (level + 1) ms ++
          (layout.edge level ++ ['\x7d'])))))) := by
  rw [written, print, print_eq, printMembers_eq]

lemma writtenElements_nil : writtenElements layout level [] = [] := rfl

lemma writtenElements_cons (x : Json) (xs : List Json) : writtenElements layout level (x :: xs) =
    layout.comma level ++ (written layout level x ++ writtenElements layout level xs) := by
  rw [writtenElements, printElements, print_eq, printElements_eq, writtenElements, List.append_nil]

lemma writtenMembers_nil : writtenMembers layout level [] = [] := rfl

lemma writtenMembers_cons (k : Text) (v : Json) (ms : List (Text × Json)) :
    writtenMembers layout level ((k, v) :: ms) = layout.comma level ++ (quote k ++
      (':' :: ' ' :: (written layout level v ++ writtenMembers layout level ms))) := by
  rw [writtenMembers, printMembers, print_eq, printMembers_eq, writtenMembers, List.append_nil]

lemma toList_render (x : Json) : (render layout x).toList = written layout 0 x :=
  String.toList_ofList

end Text

end LayoutTree.Json
