import Mathlib.Data.List.Induction
import Mathlib.Data.List.TakeWhile
import SignalGraph.Script.Token

/-!
Tokens and the text they stand in. A text is made up of words, each of which spells one token, and
of blanks between them. Its tokens are found by taking off one word or one blank after the other,
and the place of a token is that of the text before it.
-/

namespace SignalGraph.Script

section Characters

theorem isBlank_eq_false_of_isMark {c : Char} (h : isMark c) : Text.isBlank c = false := by
  have all : ['(', ')', '{', '}', ',', ';'].all fun d => Text.isBlank d = false := by decide
  exact of_decide_eq_true (List.all_eq_true.mp all c (of_decide_eq_true h))

theorem isBlank_eq_false_of_isOperator {c : Char} (h : isOperator c) : Text.isBlank c = false := by
  have all : ['=', '+', '-', '*', '/', '>', '<', '&', '|', '^', '!'].all fun d =>
      Text.isBlank d = false := by decide
  exact of_decide_eq_true (List.all_eq_true.mp all c (of_decide_eq_true h))

theorem toNat_lt_of_isLetter_or_isNumeral {c : Char} (h : isLetter c || isNumeral c) :
    c.toNat < 123 := by
  have high {low high : Char} (within : low ≤ c ∧ c ≤ high) : c.toNat ≤ high.toNat := within.2
  simp only [isLetter, isNumeral, isDigit, Bool.or_eq_true, Bool.and_eq_true,
    decide_eq_true_eq] at h
  rcases h with ((h | h) | rfl) | h | rfl
  · exact Nat.lt_succ_of_le (high h)
  · exact Nat.lt_of_le_of_lt (high h) (by decide)
  · decide
  · exact Nat.lt_of_le_of_lt (high h) (by decide)
  · decide

theorem isBlank_eq_false_of_isLetter_or_isNumeral {c : Char} (h : isLetter c || isNumeral c) :
    Text.isBlank c = false := by
  have all : ∀ n < 123, isLetter (Char.ofNat n) || isNumeral (Char.ofNat n) →
      Text.isBlank (Char.ofNat n) = false := by decide
  have same := all c.toNat (toNat_lt_of_isLetter_or_isNumeral h)
  rw [Char.ofNat_toNat] at same
  exact same h

/-- The blanks are the characters that start no token. -/
theorem TokenKind.start?_eq_none {c : Char} : TokenKind.start? c = none ↔ Text.isBlank c := by
  unfold TokenKind.start?
  split
  · rename_i mark
    simp [isBlank_eq_false_of_isMark mark]
  · split
    · rename_i operator
      simp [isBlank_eq_false_of_isOperator operator]
    · repeat' split
      all_goals simp_all

/-- What goes on with a token is no blank. -/
theorem TokenKind.isBlank_eq_false_of_continues {kind : TokenKind} {c : Char}
    (h : kind.continues c) : Text.isBlank c = false := by
  cases kind with
  | mark => cases h
  | operator => exact isBlank_eq_false_of_isOperator h
  | name =>
      refine isBlank_eq_false_of_isLetter_or_isNumeral ?_
      simp only [TokenKind.continues, Bool.or_eq_true] at h
      simp only [isNumeral, Bool.or_eq_true]
      exact h.imp_right .inl
  | number =>
      refine isBlank_eq_false_of_isLetter_or_isNumeral ?_
      rw [Bool.or_eq_true]
      exact .inr h
  | other =>
      have starts : TokenKind.start? c = some .other := of_decide_eq_true h
      refine Bool.eq_false_iff.mpr fun blank => ?_
      rw [TokenKind.start?_eq_none.mpr blank] at starts
      cases starts

end Characters

section Words

/-- A word that is one token of a kind: a character that starts the kind, and then only characters
that go on with it. -/
def TokenKind.Spells (kind : TokenKind) : List Char → Prop
  | [] => False
  | c :: cs => TokenKind.start? c = some kind ∧ ∀ d ∈ cs, kind.continues d

/-- A word spells tokens of one kind only. -/
theorem TokenKind.Spells.kind_eq {kind kind' : TokenKind} {word : List Char} (h : kind.Spells word)
    (h' : kind'.Spells word) : kind = kind' := by
  cases word with
  | nil => exact h.elim
  | cons c cs => exact Option.some.inj (h.1.symm.trans h'.1)

/-- A token ends before these characters. -/
def TokenKind.endsBefore (kind : TokenKind) (cs : List Char) : Bool :=
  cs.head?.all fun c => !kind.continues c

/-- The place behind some characters. -/
def Place.past (place : Place) (cs : List Char) : Place := cs.foldl Place.after place

theorem Place.past_append (place : Place) (cs ds : List Char) :
    place.past (cs ++ ds) = (place.past cs).past ds := List.foldl_append

/-- An unfinished token takes all that goes on with it. -/
theorem scanFrom_some (t : Token) (place : Place) {cs rest : List Char}
    (goesOn : ∀ c ∈ cs, t.kind.continues c) (ends : t.kind.endsBefore rest) :
    scanFrom (some t) place (cs ++ rest) =
      { t with text := String.ofList (t.text.toList ++ cs) } ::
        scanFrom none (place.past cs) rest := by
  induction cs generalizing t place with
  | nil =>
      rw [List.append_nil, String.ofList_toList, List.nil_append]
      cases rest with
      | nil => rfl
      | cons c rest =>
          have stop : t.kind.continues c = false := by
            simpa [TokenKind.endsBefore] using ends
          simp only [scanFrom, stop, Bool.false_eq_true, ↓reduceIte]
          rfl
  | cons c cs ih =>
      rw [List.forall_mem_cons] at goesOn
      rw [List.cons_append, scanFrom, if_pos goesOn.1]
      rw [ih (t.push c) (place.after c) goesOn.2 ends]
      simp [Token.push, Place.past]

/-- A word at the front of a text is its first token. -/
theorem scanFrom_word {kind : TokenKind} {word rest : List Char} (place : Place)
    (spells : kind.Spells word) (ends : kind.endsBefore rest) :
    scanFrom none place (word ++ rest) =
      { text := String.ofList word, kind, place } :: scanFrom none (place.past word) rest := by
  cases word with
  | nil => exact spells.elim
  | cons c cs =>
      obtain ⟨starts, goesOn⟩ := spells
      have begun : Token.start? place c = some { text := String.singleton c, kind, place } := by
        rw [Token.start?, starts]
        rfl
      rw [List.cons_append, scanFrom, begun]
      rw [scanFrom_some { text := String.singleton c, kind, place } (place.after c) goesOn ends,
        String.toList_singleton]
      rfl

theorem scanFrom_blank (place : Place) {c : Char} (blank : Text.isBlank c) (cs : List Char) :
    scanFrom none place (c :: cs) = scanFrom none (place.after c) cs := by
  rw [scanFrom, Token.start?, TokenKind.start?_eq_none.mpr blank]
  rfl

theorem scanFrom_blanks (place : Place) {gap : List Char} (blanks : ∀ c ∈ gap, Text.isBlank c)
    (cs : List Char) : scanFrom none place (gap ++ cs) = scanFrom none (place.past gap) cs := by
  induction gap generalizing place with
  | nil => rfl
  | cons c gap ih =>
      rw [List.forall_mem_cons] at blanks
      rw [List.cons_append, scanFrom_blank place blanks.1, ih (place.after c) blanks.2]
      rfl

theorem TokenKind.endsBefore_of_blanks (kind : TokenKind) {gap : List Char} (given : gap ≠ [])
    (blanks : ∀ c ∈ gap, Text.isBlank c) (cs : List Char) : kind.endsBefore (gap ++ cs) := by
  cases gap with
  | nil => exact absurd rfl given
  | cons c gap =>
      have stop : kind.continues c = false := by
        refine Bool.eq_false_iff.mpr fun goesOn => ?_
        have blank := blanks c List.mem_cons_self
        rw [kind.isBlank_eq_false_of_continues goesOn] at blank
        cases blank
      simp [TokenKind.endsBefore, stop]

/-- Every text is empty, or starts with a blank, or starts with a whole word. -/
theorem scan_induction {motive : List Char → Prop} (nil : motive [])
    (blank : ∀ c cs, Text.isBlank c → motive cs → motive (c :: cs))
    (word : ∀ (kind : TokenKind) (word rest : List Char), kind.Spells word →
      kind.endsBefore rest → motive rest → motive (word ++ rest)) :
    (cs : List Char) → motive cs
  | [] => nil
  | c :: cs => by
      cases starts : TokenKind.start? c with
      | none =>
          exact blank c cs (TokenKind.start?_eq_none.mp starts) (scan_induction nil blank word cs)
      | some kind =>
          let more := cs.takeWhile kind.continues
          let rest := cs.dropWhile kind.continues
          have split : c :: cs = (c :: more) ++ rest :=
            congrArg (c :: ·) List.takeWhile_append_dropWhile.symm
          have goesOn : ∀ d ∈ more, kind.continues d := fun d mem => List.mem_takeWhile_imp mem
          have ends : kind.endsBefore rest := by
            have stop := List.head?_dropWhile_not kind.continues cs
            unfold TokenKind.endsBefore
            cases first : rest.head? with
            | none => rfl
            | some d => simpa [rest, first] using stop
          rw [split]
          exact word kind (c :: more) rest ⟨starts, goesOn⟩ ends
            (scan_induction nil blank word rest)
termination_by cs => cs.length
decreasing_by
  · simp
  · exact Nat.lt_succ_of_le (List.length_dropWhile_le _ cs)

end Words

section Places

/-- The place behind some text: its length, the line feeds in it, and what follows the last one. -/
theorem Place.past_first (cs : List Char) :
    Place.first.past cs =
      { offset := cs.length
        line := 1 + cs.count '\n'
        column := 1 + (cs.reverse.takeWhile (· ≠ '\n')).length } := by
  induction cs using List.reverseRecOn with
  | nil => rfl
  | append_singleton cs c ih =>
      rw [Place.past_append, ih]
      by_cases feed : c = '\n'
      · subst feed
        simp [Place.past, Place.after, Nat.add_assoc]
      · simp [Place.past, Place.after, feed, Nat.add_assoc, Nat.add_comm 1]

/-- A token stands at its place in a text. The place has the number of characters before it, one
more than the line feeds among them, and the distance from the last of these. -/
structure Token.StandsIn (t : Token) (source : String) : Prop where
  text : t.text.toList <+: source.toList.drop t.place.offset
  line : t.place.line = 1 + (source.toList.take t.place.offset).count '\n'
  column : t.place.column =
    1 + ((source.toList.take t.place.offset).reverse.takeWhile (· ≠ '\n')).length

/-- Each token is a word of the text, at the place behind what comes before it, and as long as it
can be. -/
theorem exists_of_mem_scanFrom {t : Token} {cs : List Char} (place : Place)
    (mem : t ∈ scanFrom none place cs) :
    ∃ before after, cs = before ++ (t.text.toList ++ after) ∧ t.place = place.past before ∧
      t.kind.Spells t.text.toList ∧ t.kind.endsBefore after := by
  induction cs using scan_induction generalizing place with
  | nil => cases mem
  | blank c cs blank ih =>
      rw [scanFrom_blank place blank] at mem
      obtain ⟨before, after, rfl, there, spells⟩ := ih (place.after c) mem
      exact ⟨c :: before, after, rfl, there, spells⟩
  | word kind word rest spells ends ih =>
      rw [scanFrom_word place spells ends] at mem
      rcases List.mem_cons.mp mem with rfl | mem
      · rw [String.toList_ofList]
        exact ⟨[], rest, rfl, rfl, spells, ends⟩
      · obtain ⟨before, after, rfl, there, later⟩ := ih (place.past word) mem
        refine ⟨word ++ before, after, by rw [List.append_assoc], ?_, later⟩
        rw [there, Place.past_append]

theorem Token.spells_of_mem {t : Token} {source : String} (mem : t ∈ tokens source) :
    t.kind.Spells t.text.toList := by
  obtain ⟨-, -, -, -, spells, -⟩ := exists_of_mem_scanFrom .first mem
  exact spells

theorem Token.standsIn_of_mem {t : Token} {source : String} (mem : t ∈ tokens source) :
    t.StandsIn source := by
  obtain ⟨before, after, whole, there, -⟩ := exists_of_mem_scanFrom .first mem
  rw [Place.past_first] at there
  have offset : t.place.offset = before.length := by rw [there]
  constructor
  · rw [offset, whole, List.drop_left]
    exact List.prefix_append _ _
  · rw [offset, whole, List.take_left, there]
  · rw [offset, whole, List.take_left, there]

end Places

section Seams

/-- Behind a bracket or a separator a text can be cut: what follows is scanned on its own, from the
place that it has. -/
theorem scanFrom_append (place : Place) {cs : List Char}
    (closed : ∀ t, (scanFrom none place cs).getLast? = some t → t.kind = .mark) (ds : List Char) :
    scanFrom none place (cs ++ ds) =
      scanFrom none place cs ++ scanFrom none (place.past cs) ds := by
  induction cs using scan_induction generalizing place with
  | nil => rfl
  | blank c cs blank ih =>
      rw [scanFrom_blank place blank] at closed ⊢
      rw [List.cons_append, scanFrom_blank place blank, ih (place.after c) closed]
      rfl
  | word kind word rest spells ends ih =>
      rw [scanFrom_word place spells ends] at closed ⊢
      have ends' : kind.endsBefore (rest ++ ds) := by
        cases rest with
        | nil =>
            -- the word is the last token, and a mark takes no more characters
            obtain rfl : kind = .mark := closed _ rfl
            cases ds <;> rfl
        | cons c rest => exact ends
      have closed' : ∀ t, (scanFrom none (place.past word) rest).getLast? = some t →
          t.kind = .mark := by
        intro t last
        refine closed t ?_
        rw [List.getLast?_cons, last]
        rfl
      rw [List.append_assoc, scanFrom_word place spells ends', ih (place.past word) closed',
        Place.past_append]
      rfl

end Seams

section Layouts

/-- What a token is, wherever it stands. -/
def Token.lexeme (t : Token) : String × TokenKind := (t.text, t.kind)

def lexemes (source : String) : List (String × TokenKind) := (tokens source).map Token.lexeme

theorem scanFrom_lexemes (place other : Place) (cs : List Char) :
    (scanFrom none place cs).map Token.lexeme = (scanFrom none other cs).map Token.lexeme := by
  induction cs using scan_induction generalizing place other with
  | nil => rfl
  | blank c cs blank ih =>
      rw [scanFrom_blank place blank, scanFrom_blank other blank]
      exact ih _ _
  | word kind word rest spells ends ih =>
      rw [scanFrom_word place spells ends, scanFrom_word other spells ends, List.map_cons,
        List.map_cons, ih _ (other.past word)]
      rfl

/-- The words of some tokens, with blanks between any two of them. -/
inductive Spaced : List Token → List Char → Prop where
  | nil : Spaced [] []
  | last (t : Token) : Spaced [t] t.text.toList
  | more (t : Token) {next : Token} {ts : List Token} (gap : List Char) {cs : List Char}
      (given : gap ≠ []) (blanks : ∀ c ∈ gap, Text.isBlank c) (others : Spaced (next :: ts) cs) :
      Spaced (t :: next :: ts) (t.text.toList ++ (gap ++ cs))

/-- However the words are spaced, they spell the same tokens. -/
theorem Spaced.lexemes {ts : List Token} {cs : List Char} (h : Spaced ts cs)
    (spells : ∀ t ∈ ts, t.kind.Spells t.text.toList) (place : Place) :
    (scanFrom none place cs).map Token.lexeme = ts.map Token.lexeme := by
  induction h generalizing place with
  | nil => rfl
  | last t =>
      have alone : scanFrom none place (t.text.toList ++ []) = _ :=
        scanFrom_word place (spells t List.mem_cons_self) rfl
      rw [List.append_nil] at alone
      rw [alone, String.ofList_toList]
      rfl
  | more t gap given blanks others ih =>
      rename_i cs
      rw [List.forall_mem_cons] at spells
      rw [scanFrom_word place spells.1 (t.kind.endsBefore_of_blanks given blanks cs),
        scanFrom_blanks _ blanks, List.map_cons, ih spells.2, String.ofList_toList]
      rfl

end Layouts

end SignalGraph.Script
