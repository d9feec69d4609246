import SignalGraph.Proofs.Script.Lexeme

/-!
What tokens cover. The characters of a text are parted into classes; a mark is a token of its own,
and every other token is the longest word of its class from where it starts. The tokens of a text
stand one behind the other, and what none of them covers is blank.
-/

namespace SignalGraph.Script

section Classes

/-- A character that is neither blank nor of a class of its own. -/
def isOther (c : Char) : Bool :=
  !(isMark c || isOperator c || Text.isBlank c || isLetter c || isNumeral c)

/-- The characters that a kind of token starts with. -/
def TokenKind.starts : TokenKind → Char → Bool
  | .mark => isMark
  | .operator => isOperator
  | .name => isLetter
  | .number => isNumeral
  | .other => isOther

theorem isMark_apart {c : Char} (h : isMark c) :
    isOperator c = false ∧ isLetter c = false ∧ isNumeral c = false := by
  have all : ['(', ')', '{', '}', ',', ';'].all fun d =>
      isOperator d = false ∧ isLetter d = false ∧ isNumeral d = false := by decide
  exact of_decide_eq_true (List.all_eq_true.mp all c (of_decide_eq_true h))

theorem isOperator_apart {c : Char} (h : isOperator c) :
    isLetter c = false ∧ isNumeral c = false := by
  have all : ['=', '+', '-', '*', '/', '>', '<', '&', '|', '^', '!'].all fun d =>
      isLetter d = false ∧ isNumeral d = false := by decide
  exact of_decide_eq_true (List.all_eq_true.mp all c (of_decide_eq_true h))

theorem isLetter_apart {c : Char} (h : isLetter c) : isNumeral c = false := by
  have all : ∀ n < 123, isLetter (Char.ofNat n) → isNumeral (Char.ofNat n) = false := by decide
  have same := all c.toNat (toNat_lt_of_isLetter_or_isNumeral (by rw [h, Bool.true_or]))
  rw [Char.ofNat_toNat] at same
  exact same h

/-- Every character that is no blank starts one kind of token, that of its class. -/
theorem TokenKind.start?_eq_some {kind : TokenKind} {c : Char} :
    TokenKind.start? c = some kind ↔ kind.starts c := by
  unfold TokenKind.start?
  split
  · rename_i mark
    have apart := isMark_apart mark
    cases kind <;> simp [TokenKind.starts, isOther, mark, apart]
  · split
    · rename_i noMark operator
      have apart := isOperator_apart operator
      cases kind <;> simp [TokenKind.starts, isOther, noMark, operator, apart]
    · split
      · rename_i noMark noOperator blank
        have noLetter : (isLetter c || isNumeral c) = false := by
          refine Bool.eq_false_iff.mpr fun either => ?_
          rw [isBlank_eq_false_of_isLetter_or_isNumeral either] at blank
          cases blank
        rw [Bool.or_eq_false_iff] at noLetter
        cases kind <;> simp [TokenKind.starts, isOther, noMark, noOperator, blank, noLetter]
      · split
        · rename_i noMark noOperator solid letter
          have apart := isLetter_apart letter
          cases kind <;> simp [TokenKind.starts, isOther, noMark, noOperator, letter, apart]
        · split <;> rename_i noMark noOperator solid noLetter numeral <;>
            cases kind <;>
              simp [TokenKind.starts, isOther, noMark, noOperator, solid, noLetter, numeral]

/-- The words that can be tokens of a kind: one mark, some operators, a letter with letters and
digits behind it, some numerals, or some characters of no class. -/
def TokenKind.HasForm : TokenKind → List Char → Prop
  | .mark, word => ∃ c, word = [c] ∧ isMark c
  | .operator, word => word ≠ [] ∧ ∀ c ∈ word, isOperator c
  | .name, word => ∃ c cs, word = c :: cs ∧ isLetter c ∧ ∀ d ∈ cs, isLetter d || isDigit d
  | .number, word => word ≠ [] ∧ ∀ c ∈ word, isNumeral c
  | .other, word => word ≠ [] ∧ ∀ c ∈ word, isOther c

theorem TokenKind.spells_iff {kind : TokenKind} {word : List Char} :
    kind.Spells word ↔ kind.HasForm word := by
  cases word with
  | nil => cases kind <;> simp [TokenKind.Spells, TokenKind.HasForm]
  | cons c cs =>
      rw [TokenKind.Spells, TokenKind.start?_eq_some]
      cases kind with
      | mark =>
          cases cs with
          | nil => simp [TokenKind.HasForm, TokenKind.starts]
          | cons d cs =>
              -- nothing goes on with a mark
              refine iff_of_false (fun h => ?_) ?_
              · cases h.2 d List.mem_cons_self
              · rintro ⟨_, same, -⟩
                cases same
      | name => simp [TokenKind.HasForm, TokenKind.starts, TokenKind.continues]
      | operator => simp [TokenKind.HasForm, TokenKind.starts, TokenKind.continues]
      | number => simp [TokenKind.HasForm, TokenKind.starts, TokenKind.continues]
      | other =>
          simp [TokenKind.HasForm, TokenKind.starts, TokenKind.continues, TokenKind.start?_eq_some]

/-- A word at the front of a text that is of one kind with the word before what does not go on with
it is no longer than that. -/
theorem TokenKind.HasForm.prefix {kind : TokenKind} {word longer after : List Char}
    (spells : kind.Spells word) (ends : kind.endsBefore after) (form : kind.HasForm longer)
    (front : longer <+: word ++ after) : longer <+: word := by
  rcases List.prefix_or_prefix_of_prefix front (List.prefix_append word after) with h | ⟨more, rfl⟩
  · exact h
  · rw [List.prefix_append_right_inj] at front
    cases more with
    | nil => exact (List.append_nil word).symm ▸ List.prefix_refl word
    | cons c more =>
        obtain ⟨rest, rfl⟩ := front
        cases word with
        | nil => exact spells.elim
        | cons d word =>
            have goesOn := (TokenKind.spells_iff.mpr form).2 c (by simp)
            simp [TokenKind.endsBefore, goesOn] at ends

end Classes

section Lines

/-- Where the line of an offset starts: at the front of the text or behind a line feed, with no
other line feed between. -/
structure StartsLine (cs : List Char) (offset start : Nat) : Prop where
  within : start ≤ offset
  front : start = 0 ∨ cs[start - 1]? = some '\n'
  alone : ∀ i, start ≤ i → i < offset → cs[i]? ≠ some '\n'

theorem Place.past_offset (place : Place) (cs : List Char) :
    (place.past cs).offset = place.offset + cs.length := by
  induction cs generalizing place with
  | nil => rfl
  | cons c cs ih =>
      have next : (place.after c).offset = place.offset + 1 := by
        rw [Place.after]
        split <;> rfl
      rw [show place.past (c :: cs) = (place.after c).past cs from rfl, ih, next, List.length_cons]
      omega

/-- The column behind some text is the distance from the start of the line. -/
theorem exists_startsLine (before after : List Char) :
    ∃ start, StartsLine (before ++ after) before.length start ∧
      (Place.first.past before).column = before.length - start + 1 := by
  induction before using List.reverseRecOn generalizing after with
  | nil => exact ⟨0, ⟨Nat.le_refl 0, .inl rfl, fun i _ early => nomatch early⟩, rfl⟩
  | append_singleton before c ih =>
      rw [Place.past_append, List.append_assoc, List.length_append, List.length_singleton,
        List.singleton_append]
      by_cases feed : c = '\n'
      · subst feed
        refine ⟨before.length + 1, ⟨Nat.le_refl _, .inr ?_, fun i late early => ?_⟩, ?_⟩
        · rw [Nat.add_sub_cancel, List.getElem?_append_right (Nat.le_refl _), Nat.sub_self]
          rfl
        · omega
        · rw [Nat.sub_self]
          rfl
      · obtain ⟨start, ⟨within, front, alone⟩, column⟩ := ih (c :: after)
        refine ⟨start, ⟨Nat.le_succ_of_le within, front, fun i late early => ?_⟩, ?_⟩
        · rcases Nat.lt_or_ge i before.length with inside | last
          · exact alone i late inside
          · obtain rfl : i = before.length := by omega
            rw [List.getElem?_append_right (Nat.le_refl _), Nat.sub_self]
            exact fun same => feed (Option.some.inj same)
        · change (Place.after _ c).column = _
          rw [Place.after, if_neg feed]
          change (Place.first.past before).column + 1 = _
          rw [column]
          omega

end Lines

section Spans

/-- The offset behind a token. -/
def Token.stop (t : Token) : Nat := t.place.offset + t.text.length

/-- A token as it is cut from a text: the text has its characters at its offset, it is the longest
word of its kind there, and its line and column are those of its offset. -/
structure Token.IsCut (t : Token) (cs : List Char) : Prop where
  text : (cs.drop t.place.offset).take t.text.length = t.text.toList
  solid : ∀ c ∈ t.text.toList, Text.isBlank c = false
  form : t.kind.HasForm t.text.toList
  longest : ∀ word, t.kind.HasForm word → word <+: cs.drop t.place.offset → word <+: t.text.toList
  line : t.place.line = 1 + (cs.take t.place.offset).count '\n'
  column : ∃ start, StartsLine cs t.place.offset start ∧
    t.place.column = t.place.offset - start + 1

/-- No blank stands in a word. -/
theorem TokenKind.Spells.solid {kind : TokenKind} {word : List Char} (h : kind.Spells word) :
    ∀ c ∈ word, Text.isBlank c = false := by
  cases word with
  | nil => exact h.elim
  | cons c cs =>
      rw [List.forall_mem_cons]
      refine ⟨Bool.eq_false_iff.mpr fun blank => ?_, fun d mem =>
        kind.isBlank_eq_false_of_continues (h.2 d mem)⟩
      rw [TokenKind.Spells, TokenKind.start?_eq_none.mpr blank] at h
      cases h.1

theorem Token.isCut_of_mem {t : Token} {source : String} (mem : t ∈ tokens source) :
    t.IsCut source.toList := by
  obtain ⟨before, after, whole, there, spells, ends⟩ := exists_of_mem_scanFrom .first mem
  have offset : t.place.offset = before.length := by
    rw [there, Place.past_offset]
    exact Nat.zero_add _
  have stands := Token.standsIn_of_mem mem
  have behind : source.toList.drop t.place.offset = t.text.toList ++ after := by
    rw [offset, whole, List.drop_left]
  refine ⟨?_, spells.solid, TokenKind.spells_iff.mp spells, ?_, stands.line, ?_⟩
  · rw [behind, ← String.length_toList, List.take_left]
  · rw [behind]
    exact fun word form front => form.prefix spells ends front
  · rw [offset, whole, there]
    exact exists_startsLine before _

theorem offset_le_of_mem {t : Token} {place : Place} {cs : List Char}
    (mem : t ∈ scanFrom none place cs) : place.offset ≤ t.place.offset := by
  obtain ⟨before, -, -, there, -⟩ := exists_of_mem_scanFrom place mem
  rw [there, Place.past_offset]
  exact Nat.le_add_right _ _

/-- A token ends before the next ones start. -/
theorem scanFrom_pairwise (place : Place) (cs : List Char) :
    (scanFrom none place cs).Pairwise fun t next => t.stop ≤ next.place.offset := by
  induction cs using scan_induction generalizing place with
  | nil => exact .nil
  | blank c cs blank ih =>
      rw [scanFrom_blank place blank]
      exact ih _
  | word kind word rest spells ends ih =>
      rw [scanFrom_word place spells ends]
      refine .cons (fun next mem => ?_) (ih _)
      have late := offset_le_of_mem mem
      rw [Place.past_offset] at late
      rw [Token.stop, ← String.length_toList, String.toList_ofList]
      exact late

/-- A character of a text is blank or in a token. -/
theorem scanFrom_covers (place : Place) {cs : List Char} {i : Nat} {c : Char}
    (found : cs[i]? = some c) :
    Text.isBlank c ∨ ∃ t ∈ scanFrom none place cs,
      t.place.offset ≤ place.offset + i ∧ place.offset + i < t.stop := by
  induction cs using scan_induction generalizing place i with
  | nil => cases found
  | blank d cs blank ih =>
      rw [scanFrom_blank place blank]
      cases i with
      | zero =>
          obtain rfl := Option.some.inj found
          exact .inl blank
      | succ i =>
          have later := ih (place.after d) found
          rwa [show (place.after d).offset = place.offset + 1 from place.past_offset [d],
            Nat.add_assoc, Nat.add_comm 1 i] at later
  | word kind word rest spells ends ih =>
      rw [scanFrom_word place spells ends]
      rcases Nat.lt_or_ge i word.length with inside | behind
      · refine .inr ⟨_, List.mem_cons_self, Nat.le_add_right _ _, ?_⟩
        rw [Token.stop, ← String.length_toList, String.toList_ofList]
        exact Nat.add_lt_add_left inside _
      · rw [List.getElem?_append_right behind] at found
        have later := ih (place.past word) found
        rw [place.past_offset, Nat.add_assoc, Nat.add_sub_cancel' behind] at later
        exact later.imp_right fun ⟨t, mem, covers⟩ => ⟨t, List.mem_cons_of_mem _ mem, covers⟩

/-- The tokens of a text are cut from it one behind the other, and lose nothing but blanks. -/
theorem tokens_cover (source : String) :
    (∀ t ∈ tokens source, t.IsCut source.toList) ∧
      (tokens source).Pairwise (fun t next =>
        t.place.offset < next.place.offset ∧ t.stop ≤ next.place.offset) ∧
      ∀ (i : Nat) (c : Char), source.toList[i]? = some c →
        (∀ t ∈ tokens source, ¬(t.place.offset ≤ i ∧ i < t.stop)) → Text.isBlank c := by
  refine ⟨fun t => Token.isCut_of_mem, ?_, fun i c found outside => ?_⟩
  · refine (scanFrom_pairwise .first source.toList).imp_of_mem fun {t next} mem _ before =>
      ⟨Nat.lt_of_lt_of_le ?_ before, before⟩
    have given : t.text.toList ≠ [] := by
      intro empty
      exact (empty ▸ Token.spells_of_mem mem : t.kind.Spells [])
    rw [Token.stop, ← String.length_toList]
    exact Nat.lt_add_of_pos_right (List.length_pos_iff.mpr given)
  · rcases scanFrom_covers .first found with blank | ⟨t, mem, covers⟩
    · exact blank
    · rw [show Place.first.offset + i = i from Nat.zero_add i] at covers
      exact absurd covers (outside t mem)

/-- A name behind a number, a run of operators that is not parted, characters of no class around a
blank, and a second line. -/
example : lexemes "1ab>=-.5é €\n);" =
    [("1", .number), ("ab", .name), (">=-", .operator), (".5", .number), ("é", .other),
      ("€", .other), (")", .mark), (";", .mark)] := by
  decide +kernel

end Spans

end SignalGraph.Script
