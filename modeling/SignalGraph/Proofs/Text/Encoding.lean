import SignalGraph.Text.Base64
import SignalGraph.Text.Blank
import SignalGraph.Text.Utf8

/-!
Text as bytes and bytes as text. What is encoded is decoded to itself: base64 group by group, UTF-8
character by character.
-/

namespace SignalGraph.Text

section Base64

/-- A character of the alphabet stands for its six bits, and is not padding. -/
theorem base64Value?_char : ∀ n < 64,
    base64Value? (base64Char n) = some n ∧ base64Char n ≠ '=' := by
  decide

/-- Encoded bytes are one word of ASCII. -/
def isBase64 (c : Char) : Bool := c.toNat < 0x80 && !isBlank c

theorem isBase64_char : ∀ n < 64, isBase64 (base64Char n) := by
  decide

theorem isBase64_of_mem_encode (bytes : List UInt8) : ∀ c ∈ base64Encode bytes, isBase64 c := by
  have padding : isBase64 '=' := by decide
  induction bytes using base64Encode.induct with
  | case1 => exact List.forall_mem_nil _
  | case2 a =>
      have bound := a.toNat_lt
      simp only [base64Encode, List.forall_mem_cons]
      exact ⟨isBase64_char _ (by omega), isBase64_char _ (by omega), padding, padding,
        List.forall_mem_nil _⟩
  | case3 a b =>
      have bound := a.toNat_lt
      have bound' := b.toNat_lt
      simp only [base64Encode, List.forall_mem_cons]
      exact ⟨isBase64_char _ (by omega), isBase64_char _ (by omega), isBase64_char _ (by omega),
        padding, List.forall_mem_nil _⟩
  | case4 a b c rest ih =>
      have bound := a.toNat_lt
      have bound' := b.toNat_lt
      have bound'' := c.toNat_lt
      simp only [base64Encode, List.forall_mem_cons]
      exact ⟨isBase64_char _ (by omega), isBase64_char _ (by omega), isBase64_char _ (by omega),
        isBase64_char _ (by omega), ih⟩

theorem base64DecodeFrom_char {state : Base64State} {n : Nat} (h : n < 64) (pads : state.pads = 0)
    (cs : List Char) :
    base64DecodeFrom state (base64Char n :: cs) =
      ((state.push n).2 ++ ·) <$> base64DecodeFrom (state.push n).1 cs := by
  obtain ⟨value, data⟩ := base64Value?_char n h
  rw [base64DecodeFrom, if_neg data, value]
  simp only [pads, Nat.lt_irrefl, ↓reduceIte]

/-- Two characters hold a byte and four bits of the next one. -/
theorem base64DecodeFrom_two {state : Base64State} (whole : state.count % 4 = 0)
    (pads : state.pads = 0) (a : UInt8) {b : Nat} (hb : b < 16) (cs : List Char) :
    base64DecodeFrom state (base64Char (a.toNat / 4) :: base64Char (a.toNat % 4 * 16 + b) :: cs) =
      (a :: ·) <$> base64DecodeFrom { count := state.count + 2, bits := b, pads := 0 } cs := by
  have bound := a.toNat_lt
  rw [base64DecodeFrom_char (by omega) pads]
  simp only [Base64State.push, whole]
  rw [base64DecodeFrom_char (by omega) rfl]
  have next : (state.count + 1) % 4 = 1 := by omega
  have bits : (a.toNat % 4 * 16 + b) % 16 = b := by omega
  have byte : a.toNat / 4 * 4 + (a.toNat % 4 * 16 + b) / 16 = a.toNat := by omega
  simp only [Base64State.push, next, bits, byte, UInt8.ofNat_toNat, List.nil_append,
    List.singleton_append, id_map']

/-- A third character completes the second byte of a group. -/
theorem base64DecodeFrom_third {state : Base64State} (second : state.count % 4 = 2)
    (pads : state.pads = 0) (b : UInt8) (bits : state.bits = b.toNat / 16) {c : Nat} (hc : c < 4)
    (cs : List Char) :
    base64DecodeFrom state (base64Char (b.toNat % 16 * 4 + c) :: cs) =
      (b :: ·) <$> base64DecodeFrom { count := state.count + 1, bits := c, pads := 0 } cs := by
  have bound := b.toNat_lt
  rw [base64DecodeFrom_char (by omega) pads]
  have rest : (b.toNat % 16 * 4 + c) % 4 = c := by omega
  have byte : b.toNat / 16 * 16 + (b.toNat % 16 * 4 + c) / 4 = b.toNat := by omega
  simp only [Base64State.push, second, bits, rest, byte, UInt8.ofNat_toNat, List.singleton_append]

/-- A fourth character completes the group. -/
theorem base64DecodeFrom_fourth {state : Base64State} (third : state.count % 4 = 3)
    (pads : state.pads = 0) (c : UInt8) (bits : state.bits = c.toNat / 64) (cs : List Char) :
    base64DecodeFrom state (base64Char (c.toNat % 64) :: cs) =
      (c :: ·) <$> base64DecodeFrom { count := state.count + 1, bits := 0, pads := 0 } cs := by
  rw [base64DecodeFrom_char (Nat.mod_lt _ (by decide)) pads]
  have byte : c.toNat / 64 * 64 + c.toNat % 64 = c.toNat := by omega
  simp only [Base64State.push, third, bits, byte, UInt8.ofNat_toNat, List.singleton_append]

/-- Bytes are read back from whole groups on. -/
theorem base64DecodeFrom_encode (bytes : List UInt8) (state : Base64State)
    (whole : state.count % 4 = 0) (pads : state.pads = 0) :
    base64DecodeFrom state (base64Encode bytes) = .ok bytes := by
  induction bytes using base64Encode.induct generalizing state with
  | case1 =>
      rw [base64Encode, base64DecodeFrom, if_pos whole]
  | case2 a =>
      have two : (state.count + 2) % 4 = 2 := by omega
      rw [base64Encode, ← Nat.add_zero (a.toNat % 4 * 16),
        base64DecodeFrom_two whole pads a (by decide)]
      simp only [base64DecodeFrom, two]
      rfl
  | case3 a b =>
      have three : (state.count + 2 + 1) % 4 = 3 := by omega
      have bound := b.toNat_lt
      rw [base64Encode, base64DecodeFrom_two whole pads a (by omega),
        ← Nat.add_zero (b.toNat % 16 * 4),
        base64DecodeFrom_third (by simp only []; omega) rfl b rfl (by decide)]
      simp only [base64DecodeFrom, three]
      rfl
  | case4 a b c rest ih =>
      have bound := b.toNat_lt
      have bound' := c.toNat_lt
      rw [base64Encode, base64DecodeFrom_two whole pads a (by omega),
        base64DecodeFrom_third (by simp only []; omega) rfl b rfl (by omega),
        base64DecodeFrom_fourth (by simp only []; omega) rfl c rfl, ih]
      · rfl
      · simp only []
        omega
      · rfl

/-- Encoded bytes are read back. -/
theorem base64Decode_encode (bytes : List UInt8) :
    base64Decode (base64Encode bytes) = .ok bytes := by
  have data : (base64Encode bytes).head? ≠ some '=' := by
    cases bytes with
    | nil => decide
    | cons a bytes =>
        have bound := a.toNat_lt
        have first : (base64Encode (a :: bytes)).head? = some (base64Char (a.toNat / 4)) := by
          rcases bytes with _ | ⟨b, _ | ⟨c, bytes⟩⟩ <;> rfl
        rw [first, Ne, Option.some_inj]
        exact (base64Value?_char _ (by omega)).2
  rw [base64Decode, if_neg data]
  exact base64DecodeFrom_encode bytes {} rfl rfl

end Base64

section Utf8

theorem ofNat_eq_iff {n : Nat} (h : n < 256) (b : UInt8) :
    UInt8.ofNat n = b ↔ n = b.toNat := by
  rw [← UInt8.toNat_inj, UInt8.toNat_ofNat_of_lt' h]

/-- The lead byte of a character of two bytes. -/
theorem utf8Lead_two {n : Nat} (low : 0xc2 ≤ n) (high : n < 0xe0) (position : Nat) :
    ∃ p, utf8Lead position (UInt8.ofNat n) = some p ∧ p.code = n - 0xc0 ∧ p.missing = 1 ∧
      p.low.toNat = 0x80 ∧ p.high.toNat = 0xbf := by
  have bound : n < 256 := by omega
  simp only [utf8Lead, UInt8.ofNat_lt_iff bound, UInt8.reduceToNat, Nat.not_lt.mpr low, high,
    ↓reduceIte, UInt8.toNat_ofNat_of_lt' bound]
  exact ⟨_, rfl, rfl, rfl, rfl, rfl⟩

/-- The lead byte of a character of three bytes. -/
theorem utf8Lead_three {n : Nat} (low : 0xe0 ≤ n) (high : n < 0xf0) (position : Nat) :
    ∃ p, utf8Lead position (UInt8.ofNat n) = some p ∧ p.code = n - 0xe0 ∧ p.missing = 2 ∧
      p.low.toNat = (if n = 0xe0 then 0xa0 else 0x80) ∧
        p.high.toNat = if n = 0xed then 0x9f else 0xbf := by
  have bound : n < 256 := by omega
  simp only [utf8Lead, UInt8.ofNat_lt_iff bound, UInt8.reduceToNat, ofNat_eq_iff bound,
    show ¬ n < 0xc2 by omega, Nat.not_lt.mpr low, high, ↓reduceIte, UInt8.toNat_ofNat_of_lt' bound]
  refine ⟨_, rfl, rfl, rfl, ?_, ?_⟩
  · show UInt8.toNat (if _ then _ else _) = _
    split <;> rfl
  · show UInt8.toNat (if _ then _ else _) = _
    split <;> rfl

/-- The lead byte of a character of four bytes. -/
theorem utf8Lead_four {n : Nat} (low : 0xf0 ≤ n) (high : n < 0xf5) (position : Nat) :
    ∃ p, utf8Lead position (UInt8.ofNat n) = some p ∧ p.code = n - 0xf0 ∧ p.missing = 3 ∧
      p.low.toNat = (if n = 0xf0 then 0x90 else 0x80) ∧
        p.high.toNat = if n = 0xf4 then 0x8f else 0xbf := by
  have bound : n < 256 := by omega
  simp only [utf8Lead, UInt8.ofNat_lt_iff bound, UInt8.reduceToNat, ofNat_eq_iff bound,
    show ¬ n < 0xc2 by omega, show ¬ n < 0xe0 by omega, Nat.not_lt.mpr low, high, ↓reduceIte,
    UInt8.toNat_ofNat_of_lt' bound]
  refine ⟨_, rfl, rfl, rfl, ?_, ?_⟩
  · show UInt8.toNat (if _ then _ else _) = _
    split <;> rfl
  · show UInt8.toNat (if _ then _ else _) = _
    split <;> rfl

variable {p : Utf8Pending} {n : Nat}

/-- A byte that fits, with more to come. -/
theorem utf8DecodeFrom_next (low : p.low.toNat ≤ n) (high : n ≤ p.high.toNat)
    (more : 1 < p.missing) (position : Nat) (bytes : List UInt8) :
    ∃ q : Utf8Pending, utf8DecodeFrom position (some p) (UInt8.ofNat n :: bytes) =
        utf8DecodeFrom (position + 1) (some q) bytes ∧
      q.code = p.code * 64 + (n - 0x80) ∧ q.missing = p.missing - 1 ∧ q.low.toNat = 0x80 ∧
        q.high.toNat = 0xbf := by
  have bound : n < 256 := Nat.lt_of_le_of_lt high p.high.toNat_lt
  have byte := UInt8.toNat_ofNat_of_lt' bound
  have least := (UInt8.le_ofNat_iff bound).mpr low
  have greatest := (UInt8.ofNat_le_iff bound).mpr high
  refine ⟨{ p with
    length := p.length + 1, code := p.code * 64 + (n - 0x80), missing := p.missing - 1
    low := 0x80, high := 0xbf }, ?_, rfl, rfl, rfl, rfl⟩
  rw [utf8DecodeFrom]
  simp only [least, greatest, decide_true, Bool.and_self, ↓reduceIte, byte, Nat.not_le.mpr more]

/-- The last byte of a character. -/
theorem utf8DecodeFrom_last (low : p.low.toNat ≤ n) (high : n ≤ p.high.toNat)
    (last : p.missing ≤ 1) (position : Nat) (bytes : List UInt8) :
    utf8DecodeFrom position (some p) (UInt8.ofNat n :: bytes) =
      (Char.ofNat (p.code * 64 + (n - 0x80)) :: ·) <$>
        utf8DecodeFrom (position + 1) none bytes := by
  have bound : n < 256 := Nat.lt_of_le_of_lt high p.high.toNat_lt
  have byte := UInt8.toNat_ofNat_of_lt' bound
  have least := (UInt8.le_ofNat_iff bound).mpr low
  have greatest := (UInt8.ofNat_le_iff bound).mpr high
  rw [utf8DecodeFrom]
  simp only [least, greatest, decide_true, Bool.and_self, ↓reduceIte, byte, last]

theorem utf8DecodeFrom_lead {position : Nat} (lead : utf8Lead position (UInt8.ofNat n) = some p)
    (low : 0x80 ≤ n) (high : n < 256) (bytes : List UInt8) :
    utf8DecodeFrom position none (UInt8.ofNat n :: bytes) =
      utf8DecodeFrom (position + 1) (some p) bytes := by
  have beyond : ¬ UInt8.ofNat n < 0x80 := by
    rw [UInt8.ofNat_lt_iff high]
    exact Nat.not_lt.mpr low
  rw [utf8DecodeFrom, if_neg beyond, lead]

variable {v : Nat} (position : Nat) (bytes : List UInt8)

theorem utf8DecodeFrom_two (low : 0x7f < v) (high : v ≤ 0x7ff) :
    utf8DecodeFrom position none
        (UInt8.ofNat (v / 64 % 32 + 192) :: UInt8.ofNat (v % 64 + 128) :: bytes) =
      (Char.ofNat v :: ·) <$> utf8DecodeFrom (position + 1 + 1) none bytes := by
  obtain ⟨p, lead, code, missing, least, greatest⟩ :=
    utf8Lead_two (n := v / 64 % 32 + 192) (by omega) (by omega) position
  have last := utf8DecodeFrom_last (p := p) (n := v % 64 + 128) (by omega) (by omega)
    (Nat.le_of_eq missing) (position + 1) bytes
  have value : p.code * 64 + (v % 64 + 128 - 0x80) = v := by omega
  rw [utf8DecodeFrom_lead lead (by omega) (by omega), last, value]

/-- No surrogate has an encoding of three bytes. -/
theorem utf8DecodeFrom_three (low : 0x7ff < v) (high : v ≤ 0xffff)
    (scalar : v < 0xd800 ∨ 0xdfff < v) :
    utf8DecodeFrom position none
        (UInt8.ofNat (v / 4096 % 16 + 224) :: UInt8.ofNat (v / 64 % 64 + 128) ::
          UInt8.ofNat (v % 64 + 128) :: bytes) =
      (Char.ofNat v :: ·) <$> utf8DecodeFrom (position + 1 + 1 + 1) none bytes := by
  obtain ⟨p, lead, code, missing, least, greatest⟩ :=
    utf8Lead_three (n := v / 4096 % 16 + 224) (by omega) (by omega) position
  obtain ⟨q, next, code', missing', least', greatest'⟩ := utf8DecodeFrom_next (p := p)
    (n := v / 64 % 64 + 128) (by split at least <;> omega) (by split at greatest <;> omega)
    (by omega) (position + 1) (UInt8.ofNat (v % 64 + 128) :: bytes)
  have last := utf8DecodeFrom_last (p := q) (n := v % 64 + 128) (by omega) (by omega) (by omega)
    (position + 1 + 1) bytes
  have value : q.code * 64 + (v % 64 + 128 - 0x80) = v := by omega
  rw [utf8DecodeFrom_lead lead (by omega) (by omega), next, last, value]

theorem utf8DecodeFrom_four (low : 0xffff < v) (high : v < 0x110000) :
    utf8DecodeFrom position none
        (UInt8.ofNat (v / 262144 % 8 + 240) :: UInt8.ofNat (v / 4096 % 64 + 128) ::
          UInt8.ofNat (v / 64 % 64 + 128) :: UInt8.ofNat (v % 64 + 128) :: bytes) =
      (Char.ofNat v :: ·) <$> utf8DecodeFrom (position + 1 + 1 + 1 + 1) none bytes := by
  obtain ⟨p, lead, code, missing, least, greatest⟩ :=
    utf8Lead_four (n := v / 262144 % 8 + 240) (by omega) (by omega) position
  obtain ⟨q, next, code', missing', least', greatest'⟩ := utf8DecodeFrom_next (p := p)
    (n := v / 4096 % 64 + 128) (by split at least <;> omega) (by split at greatest <;> omega)
    (by omega) (position + 1)
    (UInt8.ofNat (v / 64 % 64 + 128) :: UInt8.ofNat (v % 64 + 128) :: bytes)
  obtain ⟨r, next', code'', missing'', least'', greatest''⟩ := utf8DecodeFrom_next (p := q)
    (n := v / 64 % 64 + 128) (by omega) (by omega) (by omega) (position + 1 + 1)
    (UInt8.ofNat (v % 64 + 128) :: bytes)
  have last := utf8DecodeFrom_last (p := r) (n := v % 64 + 128) (by omega) (by omega) (by omega)
    (position + 1 + 1 + 1) bytes
  have value : r.code * 64 + (v % 64 + 128 - 0x80) = v := by omega
  rw [utf8DecodeFrom_lead lead (by omega) (by omega), next, next', last, value]

/-- The bytes of a character are read as the character, wherever they stand. -/
theorem utf8DecodeFrom_char (c : Char) :
    utf8DecodeFrom position none (String.utf8EncodeChar c ++ bytes) =
      (c :: ·) <$> utf8DecodeFrom (position + (String.utf8EncodeChar c).length) none bytes := by
  have scalar := c.valid
  simp only [UInt32.isValidChar, Nat.isValidChar] at scalar
  have same : Char.ofNat c.val.toNat = c := Char.ofNat_toNat c
  simp only [String.utf8EncodeChar]
  split
  · have bound : c.val.toNat < 256 := by omega
    have ascii : UInt8.ofNat c.val.toNat < 0x80 := (UInt8.ofNat_lt_iff bound).mpr (by
      show c.val.toNat < 128
      omega)
    rw [List.singleton_append, utf8DecodeFrom, if_pos ascii, UInt8.toNat_ofNat_of_lt' bound, same]
    rfl
  · split
    · have two := utf8DecodeFrom_two position bytes (v := c.val.toNat) (by omega) (by omega)
      rwa [same] at two
    · split
      · have three := utf8DecodeFrom_three position bytes (v := c.val.toNat) (by omega) (by omega)
          (by omega)
        rwa [same] at three
      · have four := utf8DecodeFrom_four position bytes (v := c.val.toNat) (by omega) (by omega)
        rwa [same] at four

theorem utf8Decode_encode (cs : List Char) : utf8Decode (utf8Encode cs) = .ok cs := by
  suffices h : ∀ position, utf8DecodeFrom position none (utf8Encode cs) = .ok cs from h 0
  induction cs with
  | nil => intro position; rfl
  | cons c cs ih =>
      intro position
      rw [utf8Encode, List.flatMap_cons, utf8DecodeFrom_char,
        show cs.flatMap _ = utf8Encode cs from rfl, ih]
      rfl

end Utf8

end SignalGraph.Text
