import SignalGraph.Text.Blank
import SignalGraph.Text.Lines

/-!
Cutting a text that was put together. Words joined by blanks are found again, and so are lines
that end in line feeds.
-/

namespace SignalGraph.Text

section Strip

variable {blank : Char → Bool} {cs : List Char}

/-- Blanks behind characters that are none are stripped off. -/
theorem stripRight_append {tail : List Char} (h : ∀ c ∈ cs, blank c = false)
    (blanks : ∀ c ∈ tail, blank c) : stripRight blank (cs ++ tail) = cs := by
  induction cs with
  | nil =>
      induction tail with
      | nil => rfl
      | cons c tail ih =>
          rw [List.forall_mem_cons] at blanks
          rw [List.nil_append] at ih ⊢
          simp only [stripRight, ih blanks.2, blanks.1, ↓reduceIte]
  | cons c cs ih =>
      rw [List.forall_mem_cons] at h
      simp only [List.cons_append, stripRight, ih h.2]
      cases cs with
      | nil => simp only [h.1, Bool.false_eq_true, ↓reduceIte]
      | cons _ _ => rfl

theorem stripRight_of_none (h : ∀ c ∈ cs, blank c = false) : stripRight blank cs = cs := by
  have none : ∀ c ∈ ([] : List Char), blank c := fun _ mem => nomatch mem
  have same := stripRight_append h none
  rwa [List.append_nil] at same

/-- Only blanks are stripped off. -/
theorem exists_blanks (blank : Char → Bool) (cs : List Char) :
    ∃ tail, cs = stripRight blank cs ++ tail ∧ ∀ c ∈ tail, blank c := by
  induction cs with
  | nil => exact ⟨[], rfl, fun _ mem => nomatch mem⟩
  | cons c cs ih =>
      obtain ⟨tail, same, blanks⟩ := ih
      rw [stripRight]
      split
      · rename_i nothing
        rw [nothing, List.nil_append] at same
        split
        · rename_i hc
          exact ⟨c :: tail, by rw [← same, List.nil_append],
            List.forall_mem_cons.mpr ⟨hc, blanks⟩⟩
        · exact ⟨tail, by rw [← same, List.singleton_append], blanks⟩
      · exact ⟨tail, congrArg (c :: ·) same, blanks⟩

/-- What a text without blanks is stripped from. -/
theorem strip_eq_iff {word : List Char} (solid : ∀ c ∈ word, blank c = false) :
    strip blank cs = word ↔
      ∃ tail, cs.dropWhile blank = word ++ tail ∧ ∀ c ∈ tail, blank c := by
  constructor
  · rintro rfl
    exact exists_blanks blank _
  · rintro ⟨tail, same, blanks⟩
    rw [strip, stripLeft, same, stripRight_append solid blanks]

/-- Nothing is stripped off a text without blanks. -/
theorem strip_of_none (h : ∀ c ∈ cs, blank c = false) : strip blank cs = cs := by
  have left : stripLeft blank cs = cs := by
    cases cs with
    | nil => rfl
    | cons c cs => exact List.dropWhile_cons_of_neg (by simp [h c List.mem_cons_self])
  rw [strip, left, stripRight_of_none h]

end Strip

section Words

/-- A word has characters, and no blanks among them. -/
structure IsWord (word : List Char) : Prop where
  nonempty : word ≠ []
  solid : ∀ c ∈ word, isBlank c = false

theorem isWord_of_all {word : List Char} (h : !word.isEmpty && word.all fun c => !isBlank c) :
    IsWord word := by
  simp only [Bool.and_eq_true, Bool.not_eq_true', List.isEmpty_eq_false_iff, List.all_eq_true] at h
  exact ⟨h.1, h.2⟩

/-- A word ends where nothing follows or a blank does. -/
theorem words_append {word : List Char} (h : IsWord word) {rest : List Char}
    (ends : rest.head?.all isBlank) : words (word ++ rest) = word :: words rest := by
  obtain ⟨nonempty, solid⟩ := h
  induction word with
  | nil => exact absurd rfl nonempty
  | cons c word ih =>
      rw [List.forall_mem_cons] at solid
      rw [List.cons_append, words, if_neg (by rw [solid.1]; exact Bool.false_ne_true)]
      cases word with
      | nil => rw [List.nil_append, if_pos ends]
      | cons d word =>
          have next : ¬ ((d :: word) ++ rest).head?.all isBlank := by
            simp [solid.2 d List.mem_cons_self]
          rw [if_neg next, ih (List.cons_ne_nil d word) solid.2]

theorem words_blank (cs : List Char) : words (' ' :: cs) = words cs := by
  rw [words, if_pos (by decide)]

/-- Words each after a blank. -/
def spaced (ws : List (List Char)) : List Char := ws.flatMap (' ' :: ·)

theorem words_spaced {ws : List (List Char)} (h : ∀ word ∈ ws, IsWord word) :
    words (spaced ws) = ws := by
  induction ws with
  | nil => rfl
  | cons word ws ih =>
      rw [List.forall_mem_cons] at h
      have ends : (spaced ws).head?.all isBlank := by
        cases ws with
        | nil => rfl
        | cons _ _ => rfl
      show words (' ' :: (word ++ spaced ws)) = word :: ws
      rw [words_blank, words_append h.1 ends, ih h.2]

theorem isWord_of_mem_words {cs word : List Char} (mem : word ∈ words cs) : IsWord word := by
  induction cs generalizing word with
  | nil => cases mem
  | cons c cs ih =>
      rw [words] at mem
      split at mem
      · exact ih mem
      · rename_i solid
        have single : IsWord [c] := ⟨List.cons_ne_nil c [], by simpa using solid⟩
        split at mem
        · rcases List.mem_cons.mp mem with rfl | mem
          · exact single
          · exact ih mem
        · split at mem
          · exact List.mem_singleton.mp mem ▸ single
          · rename_i first others found
            rw [found] at ih
            rcases List.mem_cons.mp mem with rfl | mem
            · refine ⟨List.cons_ne_nil c first, List.forall_mem_cons.mpr ⟨by simpa using solid, ?_⟩⟩
              exact (ih List.mem_cons_self).solid
            · exact ih (List.mem_cons_of_mem first mem)

end Words

section Lines

theorem isBlank_of_isLineEnd {c : Char} (h : isLineEnd c) : isBlank c := by
  simp only [isLineEnd, Bool.or_eq_true, Bool.and_eq_true, decide_eq_true_eq] at h
  simp only [isBlank, inRanges, blankRanges, List.any_cons, List.any_nil, Bool.or_eq_true,
    Bool.and_eq_true, decide_eq_true_eq]
  omega

theorem lines_cons_of_end {c : Char} (ends : isLineEnd c) (cs : List Char) :
    ∃ rest, lines (c :: cs) = [] :: rest := by
  rw [lines.eq_def]
  split
  · rename_i same
    cases same
  · exact ⟨_, rfl⟩
  · rename_i same
    cases same
    exact ⟨lines cs, if_pos ends⟩

theorem lines_cons_of_not_end {c : Char} (goes_on : ¬isLineEnd c) (cs : List Char) :
    lines (c :: cs) = consLine c (lines cs) := by
  rw [lines]
  · exact if_neg goes_on
  · rintro _ rfl
    exact absurd rfl goes_on

/-- The first line of a text goes up to the first line end. -/
theorem lines_head? {cs : List Char} (h : cs ≠ []) :
    (lines cs).head? = some (cs.takeWhile fun c => !isLineEnd c) := by
  induction cs with
  | nil => exact absurd rfl h
  | cons c cs ih =>
      by_cases ends : isLineEnd c
      · obtain ⟨rest, split⟩ := lines_cons_of_end ends cs
        rw [split, List.takeWhile_cons_of_neg (by simp [ends])]
        rfl
      · rw [lines_cons_of_not_end ends, List.takeWhile_cons_of_pos (by simp [ends])]
        cases cs with
        | nil => rfl
        | cons d cs =>
            have first := ih (List.cons_ne_nil d cs)
            cases split : lines (d :: cs) with
            | nil =>
                rw [split] at first
                cases first
            | cons line rest =>
                rw [split] at first
                exact congrArg (fun line => some (c :: line)) (Option.some.inj first)

/-- A line ends at the first line feed. -/
theorem lines_append {line : List Char} (h : ∀ c ∈ line, isLineEnd c = false) (cs : List Char) :
    lines (line ++ '\n' :: cs) = line :: lines cs := by
  induction line with
  | nil => rfl
  | cons c line ih =>
      rw [List.forall_mem_cons] at h
      rw [List.cons_append, lines_cons_of_not_end (by simp [h.1]), ih h.2]
      rfl

theorem lines_flatMap {ls : List (List Char)} (h : ∀ line ∈ ls, ∀ c ∈ line, isLineEnd c = false) :
    lines (ls.flatMap (· ++ ['\n'])) = ls := by
  induction ls with
  | nil => rfl
  | cons line ls ih =>
      rw [List.forall_mem_cons] at h
      rw [List.flatMap_cons, List.append_assoc, List.singleton_append, lines_append h.1, ih h.2]

end Lines

end SignalGraph.Text
