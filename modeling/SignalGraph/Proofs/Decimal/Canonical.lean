import SignalGraph.Proofs.Decimal.Bits

/-!
Doubles as numbers. Two doubles are numerically equal when they differ at most in the sign of zero.
The order of doubles and their arithmetic take numerically equal doubles alike, except for division
by zero, and what is no number is neither less nor greater than anything.
-/

namespace SignalGraph.Decimal

open Float.Model

section Unpacked

/-- Where an unpacked double stands in the order: by its sign, its exponent and its mantissa. What
is no number has a place of its own. -/
def rank : UnpackedFloat → List Int
  | .notANumber => []
  | .infinity .negative => [-2]
  | .finite .negative mantissa exponent _ => [-1, -exponent, -mantissa]
  | .zero _ => [0]
  | .finite .positive mantissa exponent _ => [1, exponent, mantissa]
  | .infinity .positive => [2]

/-- Unpacked doubles that are the same but for the sign of zero. -/
inductive Like : UnpackedFloat → UnpackedFloat → Prop
  | same (u : UnpackedFloat) : Like u u
  | zeros (s t : UnpackedFloat.Sign) : Like (.zero s) (.zero t)

theorem then_eq_lt_iff (e f : Int) (m n : Nat) :
    (compare e f).then (compare m n) = .lt ↔ e < f ∨ e = f ∧ m < n := by
  rw [Ordering.then_eq_lt, compare_lt_iff_lt, compare_eq_iff_eq, compare_lt_iff_lt]

theorem then_eq_gt_iff (e f : Int) (m n : Nat) :
    (compare e f).then (compare m n) = .gt ↔ f < e ∨ e = f ∧ n < m := by
  rw [Ordering.then_eq_gt, compare_gt_iff_gt, compare_eq_iff_eq, compare_gt_iff_gt]

theorem compare_sign (s t : UnpackedFloat.Sign) :
    compare s t = compare (s.apply 1) (t.apply 1) := by
  cases s <;> cases t <;> rfl

variable {u u' v v' : UnpackedFloat}

theorem compare_eq_lt_iff :
    u.compare v = some .lt ↔ u ≠ .notANumber ∧ v ≠ .notANumber ∧ rank u < rank v := by
  rcases u with ⟨⟨⟩⟩ | _ | _ | ⟨⟨⟩, m, e, hm⟩ <;> rcases v with ⟨⟨⟩⟩ | _ | _ | ⟨⟨⟩, n, f, hn⟩ <;>
    simp [UnpackedFloat.compare, rank, compare_sign, UnpackedFloat.Sign.apply, then_eq_lt_iff,
      then_eq_gt_iff, compare_lt_iff_lt, List.cons_lt_cons_iff]

theorem rank_eq_iff : rank u = rank v ↔ Like u v := by
  constructor
  · intro same
    rcases u with ⟨⟨⟩⟩ | _ | _ | ⟨⟨⟩, m, e, hm⟩ <;>
      rcases v with ⟨⟨⟩⟩ | _ | _ | ⟨⟨⟩, n, f, hn⟩ <;>
      simp only [rank, List.cons.injEq, Int.neg_inj, Int.natCast_inj, reduceCtorEq, and_true,
        true_and, and_false, false_and, Int.reduceEq, Int.reduceNeg] at same
    all_goals first
      | exact .same _
      | exact .zeros _ _
      | (obtain ⟨rfl, rfl⟩ := same; exact .same _)
  · rintro (_ | _) <;> rfl

theorem rank_eq_nil_iff : rank u = [] ↔ u = .notANumber := by
  rcases u with ⟨⟨⟩⟩ | _ | _ | ⟨⟨⟩, m, e, hm⟩ <;> simp [rank]

theorem compare_eq_eq_iff : u.compare v = some .eq ↔ u ≠ .notANumber ∧ Like u v := by
  rw [← rank_eq_iff]
  rcases u with ⟨⟨⟩⟩ | _ | _ | ⟨⟨⟩, m, e, hm⟩ <;> rcases v with ⟨⟨⟩⟩ | _ | _ | ⟨⟨⟩, n, f, hn⟩ <;>
    simp [UnpackedFloat.compare, rank, compare_sign, UnpackedFloat.Sign.apply]

theorem unpack_pack_zero (s : UnpackedFloat.Sign) : (pack (.zero s)).unpack = .zero s := by
  cases s <;> rfl

theorem Like.repack (h : Like u v) : Like (pack u).unpack (pack v).unpack := by
  cases h with
  | same u => exact .same _
  | zeros s t =>
      rw [unpack_pack_zero, unpack_pack_zero]
      exact .zeros s t

/-- Zero is signed by a rule that only asks for the signs. -/
theorem Like.zero_of_ite (p q : Prop) [Decidable p] [Decidable q] (s t r r' : UnpackedFloat.Sign) :
    Like (if p then .zero s else .zero t) (if q then .zero r else .zero r') := by
  split <;> split <;> exact .zeros _ _

theorem Like.trans {w : UnpackedFloat} (h : Like u v) (h' : Like v w) : Like u w := by
  rw [← rank_eq_iff] at *
  exact h.trans h'

/-- An operation takes its arguments alike if it takes the two zeros alike on either side. -/
theorem Like.binary {f : UnpackedFloat → UnpackedFloat → UnpackedFloat}
    (left : ∀ s t v, Like (f (.zero s) v) (f (.zero t) v))
    (right : ∀ u s t, Like (f u (.zero s)) (f u (.zero t))) (h : Like u u') (h' : Like v v') :
    Like (f u v) (f u' v') := by
  have first : Like (f u v) (f u' v) := by
    cases h with
    | same u => exact .same _
    | zeros s t => exact left s t v
  have second : Like (f u' v) (f u' v') := by
    cases h' with
    | same v => exact .same _
    | zeros s t => exact right u' s t
  exact first.trans second

theorem Like.add (h : Like u u') (h' : Like v v') :
    Like (u.add .binary64 v) (u'.add .binary64 v') := by
  refine Like.binary ?_ ?_ h h'
  · intro s t v
    cases v <;> first | exact .same _ | exact Like.zero_of_ite _ _ _ _ _ _
  · intro u s t
    cases u <;> first | exact .same _ | exact Like.zero_of_ite _ _ _ _ _ _

theorem Like.sub (h : Like u u') (h' : Like v v') :
    Like (u.sub .binary64 v) (u'.sub .binary64 v') := by
  refine Like.binary ?_ ?_ h h'
  · intro s t v
    cases v <;> first | exact .same _ | exact Like.zero_of_ite _ _ _ _ _ _
  · intro u s t
    cases u <;> first | exact .same _ | exact Like.zero_of_ite _ _ _ _ _ _

theorem Like.mul (h : Like u u') (h' : Like v v') :
    Like (u.mul .binary64 v) (u'.mul .binary64 v') := by
  refine Like.binary ?_ ?_ h h'
  · intro s t v
    cases v <;> first | exact .same _ | exact .zeros _ _
  · intro u s t
    cases u <;> first | exact .same _ | exact .zeros _ _

theorem Like.div (h : Like u u') (v : UnpackedFloat) :
    Like (u.div .binary64 v) (u'.div .binary64 v) := by
  cases h with
  | same u => exact .same _
  | zeros s t => cases v <;> first | exact .same _ | exact .zeros _ _

theorem Like.abs (h : Like u u') : Like u.abs u'.abs := by
  cases h <;> exact .same _

end Unpacked

section Doubles

variable {x x' y y' : Float}

/-- A double as its model unpacks it. -/
def view (x : Float) : UnpackedFloat := x.toModel.unpack

theorem eq_of_view (h : view x = view y) : x = y :=
  Float.toBits_inj.mp <| UInt64.toBitVec_inj.mp <|
    (UnpackedFloat.unpack_inj_of_valid x.toModel.valid y.toModel.valid).mp h

theorem isNaN_iff : x.isNaN ↔ view x = .notANumber := UnpackedFloat.isNaN_iff

/-- Where a double stands in the order. -/
def standing (x : Float) : List Int := rank (view x)

theorem lt_iff : x < y ↔ ¬x.isNaN ∧ ¬y.isNaN ∧ standing x < standing y := by
  have less : x < y ↔ (view x).compare (view y) = some .lt := by
    show decide (x.toModel < y.toModel) = true ↔ _
    rw [decide_eq_true_iff]
    show ((view x).compare (view y) == some .lt) = true ↔ _
    exact beq_iff_eq
  rw [less, compare_eq_lt_iff, isNaN_iff, isNaN_iff]
  rfl

theorem beq_iff : (x == y) = true ↔ ¬x.isNaN ∧ Like (view x) (view y) := by
  have same : (x == y) = true ↔ (view x).compare (view y) = some .eq := by
    show ((view x).compare (view y) == some .eq) = true ↔ _
    exact beq_iff_eq
  rw [same, compare_eq_eq_iff, isNaN_iff]

theorem le_iff : x ≤ y ↔ ¬x.isNaN ∧ ¬y.isNaN ∧ standing x ≤ standing y := by
  have ordered : x ≤ y ↔ (view x).compare (view y) = some .lt ∨
      (view x).compare (view y) = some .eq := by
    show decide (x.toModel ≤ y.toModel) = true ↔ _
    rw [decide_eq_true_iff]
    show ((view x).compare (view y)).any Ordering.isLE = true ↔ _
    cases (view x).compare (view y) with
    | none => simp
    | some order => cases order <;> simp
  have defined : standing x = standing y → view x ≠ .notANumber → view y ≠ .notANumber := by
    intro same number none
    exact number (rank_eq_nil_iff.mp (same.trans (rank_eq_nil_iff.mpr none)))
  rw [ordered, compare_eq_lt_iff, compare_eq_eq_iff, ← rank_eq_iff, isNaN_iff, isNaN_iff,
    le_iff_lt_or_eq]
  constructor
  · rintro (⟨hx, hy, less⟩ | ⟨hx, same⟩)
    · exact ⟨hx, hy, .inl less⟩
    · exact ⟨hx, defined same hx, .inr same⟩
  · rintro ⟨hx, hy, less | same⟩
    · exact .inl ⟨hx, hy, less⟩
    · exact .inr ⟨hx, same⟩


/-- The double that stands for all that are numerically equal to a double: zero has no sign. -/
def canonical (x : Float) : Float := if x == 0.0 then 0.0 else x

theorem like_zero_iff {u : UnpackedFloat} : Like u (view 0.0) ↔ ∃ s, u = .zero s := by
  have zero : view 0.0 = .zero .positive := rfl
  rw [zero]
  constructor
  · rintro (_ | ⟨s, -⟩)
    · exact ⟨_, rfl⟩
    · exact ⟨s, rfl⟩
  · rintro ⟨s, rfl⟩
    exact .zeros _ _

theorem beq_zero_iff : (x == 0.0) = true ↔ ∃ s, view x = .zero s := by
  rw [beq_iff, like_zero_iff, isNaN_iff]
  constructor
  · exact And.right
  · rintro ⟨s, zero⟩
    refine ⟨?_, s, zero⟩
    rw [zero]
    exact nofun

theorem like_canonical (x : Float) : Like (view (canonical x)) (view x) := by
  unfold canonical
  split
  · rename_i zero
    obtain ⟨s, zero⟩ := beq_zero_iff.mp zero
    rw [zero, ← rank_eq_iff, rank_eq_iff.mpr (like_zero_iff.mpr ⟨s, rfl⟩)]
  · exact .same _

theorem canonical_eq_iff_like : canonical x = canonical y ↔ Like (view x) (view y) := by
  constructor
  · intro same
    rw [← rank_eq_iff, ← rank_eq_iff.mpr (like_canonical x), same,
      rank_eq_iff.mpr (like_canonical y)]
  · intro like
    generalize hu : view x = u at like
    generalize hv : view y = v at like
    cases like with
    | same u => rw [eq_of_view (hu.trans hv.symm)]
    | zeros s t =>
        unfold canonical
        rw [if_pos (beq_zero_iff.mpr ⟨s, hu⟩), if_pos (beq_zero_iff.mpr ⟨t, hv⟩)]

/-- Doubles are numerically equal if they compare as equal, or if both are no number. -/
theorem canonical_eq_iff : canonical x = canonical y ↔ x == y ∨ x.isNaN ∧ y.isNaN := by
  rw [canonical_eq_iff_like, beq_iff]
  constructor
  · intro like
    by_cases undefined : x.isNaN
    · right
      refine ⟨undefined, ?_⟩
      rw [isNaN_iff] at undefined ⊢
      rw [undefined] at like
      generalize view y = v at like
      cases like
      rfl
    · exact .inl ⟨undefined, like⟩
  · rintro (⟨-, like⟩ | ⟨undefined, undefined'⟩)
    · exact like
    · rw [isNaN_iff.mp undefined, isNaN_iff.mp undefined']
      exact .same _

@[simp] theorem canonical_canonical (x : Float) : canonical (canonical x) = canonical x :=
  canonical_eq_iff_like.mpr (like_canonical x)

theorem standing_eq_iff : standing x = standing y ↔ canonical x = canonical y := by
  rw [canonical_eq_iff_like, ← rank_eq_iff]
  rfl

theorem isNaN_congr (h : canonical x = canonical x') : x.isNaN = x'.isNaN := by
  rw [Bool.eq_iff_iff, isNaN_iff, isNaN_iff]
  have like := canonical_eq_iff_like.mp h
  generalize view x = u at like
  generalize view x' = v at like
  cases like <;> simp

theorem lt_congr (h : canonical x = canonical x') (h' : canonical y = canonical y') :
    x < y ↔ x' < y' := by
  rw [lt_iff, lt_iff, isNaN_congr h, isNaN_congr h', standing_eq_iff.mpr h, standing_eq_iff.mpr h']

theorem add_congr (h : canonical x = canonical x') (h' : canonical y = canonical y') :
    canonical (x + y) = canonical (x' + y') := by
  rw [canonical_eq_iff_like] at h h' ⊢
  exact (h.add h').repack

theorem sub_congr (h : canonical x = canonical x') (h' : canonical y = canonical y') :
    canonical (x - y) = canonical (x' - y') := by
  rw [canonical_eq_iff_like] at h h' ⊢
  exact (h.sub h').repack

theorem mul_congr (h : canonical x = canonical x') (h' : canonical y = canonical y') :
    canonical (x * y) = canonical (x' * y') := by
  rw [canonical_eq_iff_like] at h h' ⊢
  exact (h.mul h').repack

theorem div_congr (h : canonical x = canonical x') (y : Float) :
    canonical (x / y) = canonical (x' / y) := by
  rw [canonical_eq_iff_like] at h ⊢
  exact (h.div (view y)).repack

theorem abs_congr (h : canonical x = canonical x') : canonical x.abs = canonical x'.abs := by
  rw [canonical_eq_iff_like] at h ⊢
  exact h.abs.repack

/-- Of what is numerically equal only zero has two forms. -/
theorem canonical_eq_or (x : Float) : canonical x = x ∨ x = -0.0 := by
  unfold canonical
  split
  · rename_i zero
    obtain ⟨s, zero⟩ := beq_zero_iff.mp zero
    cases s with
    | positive =>
        left
        apply eq_of_view
        rw [zero]
        rfl
    | negative =>
        right
        apply eq_of_view
        rw [zero]
        rfl
  · exact .inl rfl

@[simp] theorem truncate?_canonical (x : Float) : truncate? (canonical x) = truncate? x := by
  rcases canonical_eq_or x with same | rfl
  · rw [same]
  · decide +kernel

theorem toSingle_canonical (x : Float) :
    canonical (toSingle (canonical x)) = canonical (toSingle x) := by
  rcases canonical_eq_or x with same | rfl
  · rw [same]
  · decide +kernel

end Doubles

end SignalGraph.Decimal
