import SignalGraph.Graph.Archive
import SignalGraph.Proofs.Decimal.ReadBack
import SignalGraph.Proofs.Node.Making
import SignalGraph.Proofs.Text.Encoding

/-!
Bodies through their data. A body whose texts are plain gives words as its data, and is made from
them as it starts. All bodies that come from data are of this sort, so that they stay what they are.
-/

namespace SignalGraph

open Text

section Words

variable {word : List Char} {ws : List (List Char)}

/-- A text of words with single blanks between them, one word at least. -/
def isPlain (s : String) : Bool := !s.isEmpty && joinWords (words s.toList) = s

theorem joinWords_cons (word : List Char) (ws : List (List Char)) :
    (joinWords (word :: ws)).toList = word ++ spaced ws := by
  have same : ((word :: ws).map String.ofList).map String.toList = word :: ws := by
    simp only [List.map_map, Function.comp_def, String.toList_ofList, List.map_id']
  rw [joinWords, String.toList_intercalate, same]
  show [' '].intercalate (word :: ws) = word ++ spaced ws
  induction ws generalizing word with
  | nil => simp [spaced]
  | cons next ws ih =>
      rw [List.intercalate_cons_cons, ih next]
      · simp [spaced]
      · simp only [List.map_map, Function.comp_def, String.toList_ofList, List.map_id']

theorem joinWords_single (s : String) : joinWords [s.toList] = s := by
  rw [← String.toList_inj, joinWords_cons]
  simp [spaced]

theorem isEmpty_joinWords (h : ∀ word ∈ ws, IsWord word) :
    (joinWords ws).isEmpty = ws.isEmpty := by
  cases ws with
  | nil => rfl
  | cons word ws =>
      have given := (h word List.mem_cons_self).nonempty
      rw [List.isEmpty_cons, ← Bool.not_eq_true, String.isEmpty_iff, ← String.toList_inj,
        joinWords_cons]
      simp [given]

theorem words_joinWords (h : ∀ word ∈ ws, IsWord word) : words (joinWords ws).toList = ws := by
  cases ws with
  | nil => rfl
  | cons word ws => rw [joinWords_cons, ← words_blank]; exact words_spaced h

theorem isPlain_joinWords (h : ∀ word ∈ ws, IsWord word) (given : ws ≠ []) :
    isPlain (joinWords ws) := by
  simp [isPlain, isEmpty_joinWords h, words_joinWords h, given]

/-- A plain text is the join of its words, and has some. -/
theorem words_of_isPlain {s : String} (h : isPlain s) :
    words s.toList ≠ [] ∧ joinWords (words s.toList) = s := by
  simp only [isPlain, Bool.and_eq_true, Bool.not_eq_true', decide_eq_true_eq] at h
  refine ⟨fun none => ?_, h.2⟩
  rw [none] at h
  exact absurd h.1 (by rw [← h.2]; decide)

end Words

section Bodies

/-- Whether the key or the sound of a body is a plain text, if it has one, and its script a text. -/
def Body.isPlain : Body → Bool
  | .key (.text s) => SignalGraph.isPlain s
  | .key _ => false
  | .beep { sound := .text s, .. } => SignalGraph.isPlain s
  | .beep _ => false
  | .script (.text _) => true
  | .script _ => false
  | _ => true

/-- A body as it starts with the settings that its data hold. A timer starts at zero. -/
def Body.restart : Body → Body
  | .timer _ => .timer 0.0
  | .counter value _ _ => .counter value false false
  | .button toggle _ _ => .button toggle false false
  | .beep b => .beep { sound := b.sound }
  | .color .. => .color 0.0 0.0 0.0
  | .screen _ => .screen .blank
  | body => body

theorem isWord_plain (x : Float) : IsWord (Decimal.plain x).toList := by
  obtain ⟨clean, reads⟩ := Decimal.plain_reads x
  refine ⟨fun none => ?_, fun c mem => ?_⟩
  · have nothing : Decimal.readFloat? "" = Option.none := by decide
    rw [String.toList_eq_nil_iff.mp none, nothing] at reads
    cases reads
  · exact Decimal.numeralChars_solid c (clean c mem)

theorem Kind.isWord_name (kind : Kind) : IsWord kind.name.toList := by
  cases kind <;> exact isWord_of_all (by decide)

theorem MathOp.isWord_name (op : MathOp) : IsWord op.name.toList := by
  cases op <;> exact isWord_of_all (by decide)

theorem LogicOp.isWord_name (op : LogicOp) : IsWord op.name.toList := by
  cases op <;> exact isWord_of_all (by decide)

/-- A text without line ends and blanks holds a script. -/
theorem readScript_encode (s : String) :
    readScript (String.ofList (base64Encode (utf8Encode s.toList))) = .ok s := by
  have ascii : asciiFault? (base64Encode (utf8Encode s.toList)) = none := by
    have all : (base64Encode (utf8Encode s.toList)).dropWhile isAscii = [] := by
      rw [List.dropWhile_eq_nil_iff]
      intro c mem
      have plain := isBase64_of_mem_encode _ c mem
      simp only [isBase64, Bool.and_eq_true] at plain
      exact plain.1
    simp only [asciiFault?, all]
  simp only [readScript, String.toList_ofList, ascii, base64Decode_encode, utf8Decode_encode,
    Except.mapError, bind, Except.bind, pure, Except.pure, String.ofList_toList]

/-- Data that are some words, from which the body starts again. -/
def Body.Given (body : Body) (ws : List (List Char)) : Prop :=
  (∀ word ∈ ws, IsWord word) ∧ body.data = .ok (.text (joinWords ws)) ∧
    Body.ofData body.kind (joinWords ws) = .ok body.restart

theorem isEmpty_of_isWord {s : String} (h : IsWord s.toList) : s.isEmpty = false := by
  rw [← Bool.not_eq_true, String.isEmpty_iff, ← String.toList_eq_nil_iff]
  exact h.nonempty

theorem isEmpty_of_isPlain {s : String} (h : SignalGraph.isPlain s) : s.isEmpty = false := by
  simp only [SignalGraph.isPlain, Bool.and_eq_true, Bool.not_eq_true'] at h
  exact h.1

theorem numberParam_plain (x : Float) : numberParam (some (.text (Decimal.plain x))) = .ok x := by
  simp only [numberParam, Value.toFloat, (Decimal.plain_reads x).2]
  rfl

/-- A kind that takes its data for its parameter. -/
theorem Body.ofData_text (kind : Kind) {s : String} (given : s.isEmpty = false)
    (reads : kind ∈ [.constant, .math, .logic, .counter, .key, .beep]) :
    Body.ofData kind s = (Body.ofParam kind (some (.text s))).mapError .create := by
  simp only [List.mem_cons, List.not_mem_nil, or_false] at reads
  rcases reads with rfl | rfl | rfl | rfl | rfl | rfl
  all_goals
    simp only [Body.ofData, given]
    rfl

theorem Body.given_nil {body : Body} (data : body.data = .ok (.text ""))
    (starts : Body.initial body.kind = body.restart) : body.Given [] := by
  refine ⟨List.forall_mem_nil _, data, ?_⟩
  show (Body.ofParam body.kind none).mapError DataFault.create = _
  rw [Body.ofParam_none, starts]
  rfl

theorem Body.given_single {body : Body} {s : String} (word : IsWord s.toList)
    (data : body.data = .ok (.text s)) (made : Body.ofData body.kind s = .ok body.restart) :
    body.Given [s.toList] :=
  ⟨List.forall_mem_singleton.mpr word, by rw [joinWords_single]; exact data,
    by rw [joinWords_single]; exact made⟩

theorem Body.given_words {body : Body} {s : String} (plain : SignalGraph.isPlain s)
    (data : body.data = .ok (.text s)) (made : Body.ofData body.kind s = .ok body.restart) :
    body.Given (words s.toList) := by
  have join := (words_of_isPlain plain).2
  exact ⟨fun _ => isWord_of_mem_words, by rw [join]; exact data, by rw [join]; exact made⟩

/-- A setting that is written as one word is read back as the parameter of the kind. -/
theorem Body.given_param {body : Body} (kind : Kind) (same : body.kind = kind) {s : String}
    (word : IsWord s.toList) (data : body.data = .ok (.text s))
    (reads : kind ∈ [.constant, .math, .logic, .counter, .key, .beep])
    (made : Body.ofParam kind (some (.text s)) = .ok body.restart) : body.Given [s.toList] := by
  apply Body.given_single word data
  rw [same, ofData_text kind (isEmpty_of_isWord word) reads, made]
  rfl

/-- An empty script gives no word, and no word is read as an empty script. -/
theorem Body.given_script (s : String) : ∃ ws, (Body.script (.text s)).Given ws := by
  have solid := isBase64_of_mem_encode (utf8Encode s.toList)
  have reads := readScript_encode s
  by_cases none : base64Encode (utf8Encode s.toList) = []
  · rw [none] at reads
    have nothing : readScript "" = .ok "" := rfl
    obtain rfl := Except.ok.inj (nothing.symm.trans reads)
    exact ⟨_, given_nil rfl rfl⟩
  · have word : IsWord (String.ofList (base64Encode (utf8Encode s.toList))).toList := by
      rw [String.toList_ofList]
      refine ⟨none, fun c mem => ?_⟩
      have both := solid c mem
      simp only [isBase64, Bool.and_eq_true, Bool.not_eq_true'] at both
      exact both.2
    refine ⟨_, given_single word rfl ?_⟩
    simp only [Body.kind, Body.ofData, isEmpty_of_isWord word, reads]
    rfl

/-- A plain body gives words as its data, and starts again from them. -/
theorem Body.exists_given {body : Body} (plain : body.isPlain) : ∃ ws, body.Given ws := by
  cases body with
  | constant value =>
      refine ⟨_, given_param .constant rfl (isWord_plain value) rfl (by decide) ?_⟩
      rw [Body.ofParam, numberParam_plain]
      rfl
  | counter value _ _ =>
      refine ⟨_, given_param .counter rfl (isWord_plain value) rfl (by decide) ?_⟩
      rw [Body.ofParam, numberParam_plain]
      rfl
  | math op =>
      refine ⟨_, given_param .math rfl op.isWord_name rfl (by decide) ?_⟩
      rw [Body.ofParam, Option.map_some, MathOp.ofValue, op.ofName?_name]
      rfl
  | logic op =>
      refine ⟨_, given_param .logic rfl op.isWord_name rfl (by decide) ?_⟩
      rw [Body.ofParam, Option.map_some, LogicOp.ofValue, op.ofName?_name]
      rfl
  | button toggle _ _ =>
      have word : IsWord (if toggle then "True" else "False").toList := by
        cases toggle <;> exact isWord_of_all (by decide)
      refine ⟨_, given_single word rfl ?_⟩
      cases toggle <;> rfl
  | key v =>
      cases v with
      | text s =>
          exact ⟨_, given_words plain rfl (ofData_text .key (isEmpty_of_isPlain plain) (by decide))⟩
      | _ => cases plain
  | beep b =>
      obtain ⟨sound, shouldPlay, pitch, volume, wasHigh⟩ := b
      cases sound with
      | text s =>
          exact ⟨_, given_words plain rfl
            (ofData_text .beep (isEmpty_of_isPlain plain) (by decide))⟩
      | _ => cases plain
  | script v =>
      cases v with
      | text s => exact Body.given_script s
      | _ => cases plain
  | _ => exact ⟨[], given_nil rfl rfl⟩

theorem Body.initial_stored (kind : Kind) :
    (Body.initial kind).kind = kind ∧ (Body.initial kind).isPlain ∧
      (Body.initial kind).restart = .initial kind := by
  cases kind <;> exact ⟨rfl, by decide, rfl⟩

/-- A plain text as a parameter gives a plain body, which starts as it is unless it is a timer. -/
theorem Body.Made.stored {kind : Kind} {s : String} {body : Body} (plain : SignalGraph.isPlain s)
    (untimed : kind ≠ .timer) (made : Body.Made (some (.text s)) kind body) :
    body.kind = kind ∧ body.isPlain ∧ body.restart = body := by
  cases made with
  | timer => exact absurd rfl untimed
  | key | beep => exact ⟨rfl, plain, rfl⟩
  | bare => exact Body.initial_stored kind
  | _ => exact ⟨rfl, rfl, rfl⟩

/-- A body that words give as its data is plain and starts as it is. -/
theorem Body.ofData_stored {kind : Kind} {ws : List (List Char)} {body : Body}
    (solid : ∀ word ∈ ws, IsWord word) (made : Body.ofData kind (joinWords ws) = .ok body) :
    body.kind = kind ∧ body.isPlain ∧ body.restart = body := by
  cases ws with
  | nil =>
      have started := mapError_eq_ok.mp (show (Body.ofParam kind none).mapError _ = _ from made)
      rw [Body.ofParam_none] at started
      obtain rfl := Except.ok.inj started
      exact Body.initial_stored kind
  | cons word ws =>
      have plain := isPlain_joinWords solid (List.cons_ne_nil word ws)
      simp only [Body.ofData] at made
      rw [if_neg (by rw [isEmpty_of_isPlain plain]; exact Bool.false_ne_true)] at made
      split at made
      · obtain ⟨_, -, made⟩ := bind_eq_ok.mp made
        cases pure_eq_ok.mp made
        exact ⟨rfl, rfl, rfl⟩
      · obtain ⟨_, -, made⟩ := bind_eq_ok.mp made
        cases pure_eq_ok.mp made
        exact ⟨rfl, rfl, rfl⟩
      · cases made
        exact ⟨rfl, rfl, rfl⟩
      · rename_i untimed
        have made := mapError_eq_ok.mp made
        split at made
        · exact (Body.made_of_ofParam made).stored plain untimed
        · rw [Body.ofParam_none] at made
          obtain rfl := Except.ok.inj made
          exact Body.initial_stored kind

end Bodies

end SignalGraph
