import Datagrid.Client.Report
import Mathlib.Data.List.Basic

/-!
# Attributes of a report: what is written is told apart again

In a report a backslash goes with the character behind it. Commas and equals signs that stand by
themselves cut it into attributes, and these into keys and values, just as they were added. So
whoever knows the report knows the attributes.
-/
namespace Datagrid.Report

/-! ## Signs -/

/-- A character as it stands in a report: by itself, or behind a backslash. -/
inductive Sign where
  | bare (c : Char)
  | escaped (c : Char)
  deriving DecidableEq

/-- The signs that characters make; a backslash with nothing behind it stands by itself. -/
def signs : List Char → List Sign
  | '\\' :: c :: rest => .escaped c :: signs rest
  | c :: rest => .bare c :: signs rest
  | [] => []

def Sign.char : Sign → Char
  | bare c | escaped c => c

/-- The text of signs, without the backslashes. -/
def plain (signs : List Sign) : String := String.ofList (signs.map Sign.char)

/-- The attribute of a piece of a report, which is cut at its one bare equals sign. -/
def attribute? (piece : List Sign) : Option (String × String) :=
  match piece.splitOn (.bare '=') with
  | [key, value] => some (plain key, plain value)
  | _ => none

/-- The attributes of a report, which is cut at its bare commas. -/
def attributes? (report : String) : Option (List (String × String)) :=
  match signs report.toList with
  | [] => some []
  | signs => (signs.splitOn (.bare ',')).mapM attribute?

/-! ## Keys and values -/

/-- The sign that a character of a key or a value becomes. -/
def sign (c : Char) : Sign := if isSpecial c then .escaped c else .bare c

@[simp] theorem char_sign (c : Char) : (sign c).char = c := by
  unfold sign
  split <;> rfl

theorem bare_ne_sign {separator : Char} (special : isSpecial separator) (c : Char) :
    Sign.bare separator ≠ sign c := by
  unfold sign
  split
  · simp
  · rintro ⟨⟩
    contradiction

theorem bare_not_mem_signs {separator : Char} (special : isSpecial separator) (text : List Char) :
    Sign.bare separator ∉ text.map sign := by
  intro there
  obtain ⟨c, -, same⟩ := List.mem_map.1 there
  exact bare_ne_sign special c same.symm

/-- A character that is no backslash stands by itself, whatever follows. -/
theorem signs_cons {c : Char} (other : c ≠ '\\') (rest : List Char) : signs (c :: rest) = .bare c :: signs rest := by
  rw [signs]
  rintro _ _ rfl
  exact absurd rfl other

/-- An escaped text makes the signs of its characters, whatever follows. -/
theorem signs_escaped (text : String) (rest : List Char) :
    signs ((escaped text).toList ++ rest) = text.toList.map sign ++ signs rest := by
  simp only [escaped, String.toList_ofList]
  induction text.toList with
  | nil => rfl
  | cons c text ih =>
    rw [List.flatMap_cons, List.append_assoc, List.map_cons, List.cons_append, ← ih]
    by_cases special : isSpecial c
    · simp [special, sign, signs]
    · have other : c ≠ '\\' := by
        rintro rfl
        exact special rfl
      simp [special, sign, signs_cons other]

/-! ## Attributes -/

/-- The signs that a key and its value make. -/
def pair (a : String × String) : List Sign :=
  a.1.toList.map sign ++ .bare '=' :: a.2.toList.map sign

theorem signs_attributeText (key value : String) (rest : List Char) :
    signs ((attributeText key value).toList ++ rest) = pair (key, value) ++ signs rest := by
  have equals : "=".toList = ['='] := rfl
  rw [attributeText, String.toList_append, String.toList_append, equals, List.append_assoc, List.append_assoc,
    signs_escaped, List.singleton_append, signs_cons (by decide), signs_escaped, pair, List.append_assoc]
  rfl

theorem attribute?_pair (a : String × String) : attribute? (pair a) = some a := by
  obtain ⟨key, value⟩ := a
  have joined : pair (key, value) = [Sign.bare '='].intercalate [key.toList.map sign, value.toList.map sign] := by
    simp [pair]
  have cut : (pair (key, value)).splitOn (.bare '=') = [key.toList.map sign, value.toList.map sign] := by
    rw [joined]
    exact List.splitOn_intercalate _ (by simp [bare_not_mem_signs (show isSpecial '=' by decide)]) (by simp)
  simp [attribute?, cut, plain, Function.comp_def]

theorem comma_not_mem_pair (a : String × String) : Sign.bare ',' ∉ pair a := by
  simp [pair, bare_not_mem_signs (show isSpecial ',' by decide)]

/-! ## Reports -/

/-- A report that has been begun goes on with a comma before every attribute. -/
theorem toList_foldl_add {report : String} (begun : report ≠ "") (attributes : List (String × String)) :
    (attributes.foldl (fun report (key, value) => add report key value) report).toList =
      report.toList ++ attributes.flatMap fun a => ',' :: (attributeText a.1 a.2).toList := by
  induction attributes generalizing report with
  | nil => simp
  | cons a attributes ih =>
    have comma : ",".toList = [','] := rfl
    have added : (add report a.1 a.2).toList = report.toList ++ ',' :: (attributeText a.1 a.2).toList := by
      simp [add, begun, comma]
    have goesOn : add report a.1 a.2 ≠ "" := by
      rw [Ne, ← String.toList_eq_nil_iff, added]
      simp
    rw [List.foldl_cons, ih goesOn, added, List.flatMap_cons, List.append_assoc]

/-- The attributes after the first, each with the comma before it. -/
theorem signs_flatMap (attributes : List (String × String)) :
    signs (attributes.flatMap fun a => ',' :: (attributeText a.1 a.2).toList) =
      attributes.flatMap fun a => .bare ',' :: pair a := by
  induction attributes with
  | nil => rfl
  | cons a attributes ih =>
    rw [List.flatMap_cons, List.cons_append, signs_cons (by decide), signs_attributeText, ih]
    rfl

private theorem intercalate_cons {α : Type} (separator : α) (piece : List α) (pieces : List (List α)) :
    [separator].intercalate (piece :: pieces) = piece ++ pieces.flatMap (separator :: ·) := by
  induction pieces generalizing piece with
  | nil => simp
  | cons next pieces ih => rw [List.intercalate_cons_cons, ih, List.flatMap_cons, List.append_assoc]; rfl

/-- A report makes the signs of its attributes, with bare commas between them. -/
theorem signs_text (attributes : List (String × String)) :
    signs (text attributes).toList = [Sign.bare ','].intercalate (attributes.map pair) := by
  cases attributes with
  | nil => rfl
  | cons a attributes =>
    have begun : attributeText a.1 a.2 ≠ "" := by simp [attributeText]
    have first : text (a :: attributes) =
        attributes.foldl (fun report (key, value) => add report key value) (attributeText a.1 a.2) := by
      simp [text, add]
    rw [first, toList_foldl_add begun, signs_attributeText, signs_flatMap, List.map_cons, intercalate_cons,
      List.flatMap_map]

/-- A report that states something is not cut into nothing. -/
theorem signs_text_ne_nil (a : String × String) (attributes : List (String × String)) :
    signs (text (a :: attributes)).toList ≠ [] := by
  rw [signs_text, List.map_cons, intercalate_cons]
  simp [pair]

theorem text_eq_empty_iff (attributes : List (String × String)) : text attributes = "" ↔ attributes = [] := by
  constructor
  · intro empty
    cases attributes with
    | nil => rfl
    | cons a attributes => exact absurd (by rw [empty]; rfl) (signs_text_ne_nil a attributes)
  · rintro rfl
    rfl

theorem attributes?_text (attributes : List (String × String)) : attributes? (text attributes) = some attributes := by
  cases attributes with
  | nil => rfl
  | cons a attributes =>
    have cut : (signs (text (a :: attributes)).toList).splitOn (Sign.bare ',') = (a :: attributes).map pair := by
      rw [signs_text]
      refine List.splitOn_intercalate _ ?_ (by simp)
      intro piece there
      obtain ⟨b, -, rfl⟩ := List.mem_map.1 there
      exact comma_not_mem_pair b
    unfold attributes?
    split
    · next empty => exact absurd empty (signs_text_ne_nil a attributes)
    · have read : attribute? ∘ pair = fun a => pure (id a) := funext attribute?_pair
      rw [cut, List.mapM_map, read, List.mapM_pure, List.map_id]
      rfl

/-- Whatever texts are put into a report, empty ones and separators included, its attributes are found in it again, in
    order. Only a report of nothing is empty, and two reports with one text are one report. -/
theorem reports_are_unambiguous :
    (∀ attributes, attributes? (text attributes) = some attributes) ∧
      (∀ attributes, text attributes = "" ↔ attributes = []) ∧ Function.Injective text := by
  refine ⟨attributes?_text, text_eq_empty_iff, ?_⟩
  intro attributes others same
  have found : some attributes = some others := by
    rw [← attributes?_text attributes, same, attributes?_text others]
  exact Option.some.inj found

example : text [("a=b", ""), ("", ",\\")] = "a\\=b=,=\\,\\\\" ∧
    attributes? "a\\=b=,=\\,\\\\" = some [("a=b", ""), ("", ",\\")] := by
  decide +kernel

end Datagrid.Report
