import SignalGraph.Proofs.Decimal.ReadBack
import SignalGraph.Proofs.Text.Words
import SignalGraph.Run.Event

/-!
Values on one line. The compact text of a value is printable ASCII, whatever texts and names the
value holds, so that it can be a line of its own among others.
-/

namespace SignalGraph.Json

open Text (isLineEnd lines lines_flatMap)

/-- Printable characters of ASCII, the blank among them. -/
def isPlain (c : Char) : Bool := 0x20 ≤ c.toNat && c.toNat < 0x7f

/-- Whether all characters of a text are printable ASCII. -/
def isPlainText (s : String) : Bool := s.toList.all isPlain

section Parts

theorem isPlainText_append (s t : String) :
    isPlainText (s ++ t) = (isPlainText s && isPlainText t) := by
  rw [isPlainText, String.toList_append, List.all_append]
  rfl

theorem isPlainText_of_numeral {s : String} (clean : ∀ c ∈ s.toList, c ∈ Decimal.numeralChars) :
    isPlainText s := by
  have numeral : ∀ c ∈ Decimal.numeralChars, isPlain c :=
    List.all_iff_forall_prop.mp (by decide)
  exact List.all_eq_true.mpr fun c mem => numeral c (clean c mem)

theorem hexDigits_isPlain (width n : Nat) : (Text.hexDigits width n).all isPlain := by
  have digit : ∀ m < 16, isPlain (Nat.digitChar m) := by decide
  induction width generalizing n with
  | zero => rfl
  | succ width ih =>
      rw [Text.hexDigits, List.all_append, ih (n / 16), List.all_cons, List.all_nil,
        Bool.true_and, Bool.and_true]
      exact digit (n % 16) (Nat.mod_lt n (by omega))

theorem unitEscape_isPlain (unit : Nat) : (unitEscape unit).all isPlain := by
  rw [unitEscape, List.all_cons, List.all_cons, hexDigits_isPlain]
  rfl

theorem escape_isPlain (c : Char) : (escape c).all isPlain := by
  unfold escape
  split
  · rename_i special
    rcases Bool.or_eq_true_iff.mp special with quote | backslash
    · rw [of_decide_eq_true quote]
      rfl
    · rw [of_decide_eq_true backslash]
      rfl
  iterate 5
    split
    · rfl
  split
  · rename_i plain
    rw [List.all_cons, List.all_nil, Bool.and_true]
    exact plain
  split
  · exact unitEscape_isPlain _
  · rw [List.all_append, unitEscape_isPlain, unitEscape_isPlain]
    rfl

theorem string_isPlain (s : String) : isPlainText (string s) := by
  have inner : (s.toList.flatMap escape).all isPlain := by
    rw [List.all_flatMap]
    exact List.all_eq_true.mpr fun c _ => escape_isPlain c
  rw [isPlainText, string, String.toList_ofList, List.cons_append, List.all_cons, List.all_append,
    inner]
  rfl

theorem float_isPlain (x : Float) : isPlainText (float x) := by
  unfold float
  split
  · rfl
  · split <;> rfl
  · exact isPlainText_of_numeral (Decimal.plain_reads x).1

/-- Parts that are joined by a comma and a blank. -/
theorem intercalate_isPlain {parts : List String} (h : ∀ s ∈ parts, isPlainText s) :
    isPlainText (", ".intercalate parts) := by
  induction parts with
  | nil => rfl
  | cons s parts ih =>
      rw [List.forall_mem_cons] at h
      cases parts with
      | nil => simpa using h.1
      | cons t parts =>
          rw [String.intercalate_cons_cons, isPlainText_append, isPlainText_append, h.1, ih h.2]
          rfl

end Parts

section Values

mutual

/-- The text of a value is printable ASCII. -/
theorem compact_isPlain : ∀ v : Value, isPlainText (compact v)
  | .null => rfl
  | .bool b => by cases b <;> rfl
  | .int n => isPlainText_of_numeral (Decimal.ofInt_clean n)
  | .float x => float_isPlain x
  | .text s => string_isPlain s
  | .list items => by
      rw [compact, isPlainText_append, isPlainText_append,
        intercalate_isPlain (compactItems_isPlain items)]
      rfl
  | .object fields => by
      rw [compact, isPlainText_append, isPlainText_append,
        intercalate_isPlain (compactEntries_isPlain fields)]
      rfl

theorem compactItems_isPlain : ∀ items : List Value, ∀ s ∈ compactItems items, isPlainText s
  | [] => List.forall_mem_nil _
  | v :: vs => by
      rw [compactItems, List.forall_mem_cons]
      exact ⟨compact_isPlain v, compactItems_isPlain vs⟩

theorem compactEntries_isPlain : ∀ fields : Fields, ∀ s ∈ compactEntries fields, isPlainText s
  | [] => List.forall_mem_nil _
  | (name, v) :: rest => by
      rw [compactEntries, List.forall_mem_cons, isPlainText_append, isPlainText_append,
        string_isPlain, compact_isPlain v]
      exact ⟨rfl, compactEntries_isPlain rest⟩

end

/-- No printable character ends a line. -/
theorem isLineEnd_of_isPlain {c : Char} (plain : isPlain c) : isLineEnd c = false := by
  simp only [isPlain, Bool.and_eq_true, decide_eq_true_eq] at plain
  simp only [isLineEnd, Bool.or_eq_false_iff, Bool.and_eq_false_iff, decide_eq_false_iff_not]
  omega

/-- Of values that are written as lines, each is one line. -/
theorem lines_jsonLines (values : List Value) :
    lines (jsonLines values).toList = values.map fun v => (compact v).toList := by
  have joined : (jsonLines values).toList =
      (values.map fun v => (compact v).toList).flatMap (· ++ ['\n']) := by
    induction values with
    | nil => rfl
    | cons v values ih =>
        rw [List.map_cons, List.flatMap_cons, ← ih]
        simp [jsonLines]
  rw [joined]
  apply lines_flatMap
  rw [List.forall_mem_map]
  intro v _ c mem
  exact isLineEnd_of_isPlain (List.all_eq_true.mp (compact_isPlain v) c mem)

end Values

end SignalGraph.Json
