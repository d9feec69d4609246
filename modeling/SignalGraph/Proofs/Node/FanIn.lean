import SignalGraph.Node.Step
import SignalGraph.Proofs.Decimal.Canonical

/-!
Inlets with several sources. Such an inlet shows the greatest of the numbers at its sources. Which
one that is does not depend on their order, as long as all of them are numbers or none is: what is
no number is shown if it comes first, and passed over otherwise.
-/

namespace SignalGraph

open Decimal

section FanIn

/-- Numbers of which all or none are defined. -/
def Unmixed (xs : List Float) : Prop := (∀ x ∈ xs, x.isNaN) ∨ ∀ x ∈ xs, ¬x.isNaN

instance (xs : List Float) : Decidable (Unmixed xs) :=
  inferInstanceAs (Decidable ((∀ x ∈ xs, x.isNaN) ∨ ∀ x ∈ xs, ¬x.isNaN))

variable {xs ys : List Float}

/-- The first number decides whether the highest is one. -/
theorem isNaN_highest? {x m : Float} (h : highest? (x :: xs) = some m) : m.isNaN = x.isNaN := by
  have fold : ∀ (ys : List Float) (y : Float),
      (ys.foldl (fun most z => if most < z then z else most) y).isNaN = y.isNaN := by
    intro ys
    induction ys with
    | nil => exact fun _ => rfl
    | cons z ys ih =>
        intro y
        rw [List.foldl_cons, ih]
        split
        · rename_i rises
          obtain ⟨here, next, -⟩ := lt_iff.mp rises
          rw [Bool.eq_false_iff.mpr here, Bool.eq_false_iff.mpr next]
        · rfl
  cases h
  exact fold xs x

theorem standing_of_isNaN {x : Float} (undefined : x.isNaN) : standing x = [] := by
  rw [standing, isNaN_iff.mp undefined]
  rfl

/-- The later one of two numbers in the order, also where neither is a number. -/
theorem standing_later {x y : Float} (alike : x.isNaN = y.isNaN) :
    standing (if x < y then y else x) = max (standing x) (standing y) := by
  by_cases undefined : x.isNaN
  · have undefined' : y.isNaN := alike ▸ undefined
    rw [standing_of_isNaN undefined, standing_of_isNaN undefined', max_self]
    split
    · exact standing_of_isNaN undefined'
    · exact standing_of_isNaN undefined
  · have less : x < y ↔ standing x < standing y := by
      rw [lt_iff, ← alike]
      exact (and_iff_right undefined).trans (and_iff_right undefined)
    split
    · rename_i rises
      exact (max_eq_right (less.mp rises).le).symm
    · rename_i stays
      exact (max_eq_left (not_lt.mp (less.not.mp stays))).symm

theorem Unmixed.isNaN_eq (h : Unmixed xs) {x y : Float} (mem : x ∈ xs) (mem' : y ∈ xs) :
    x.isNaN = y.isNaN := by
  rcases h with all | none
  · rw [all x mem, all y mem']
  · rw [Bool.eq_false_iff.mpr (none x mem), Bool.eq_false_iff.mpr (none y mem')]

/-- The highest number is the one that stands last in the order. -/
theorem Unmixed.standing_highest? (h : Unmixed xs) :
    (highest? xs).map standing = (xs.map standing).max? := by
  have fold : ∀ (ys : List Float) (y : Float), (∀ z ∈ ys, y.isNaN = z.isNaN) →
      standing (ys.foldl (fun most z => if most < z then z else most) y) =
        (ys.map standing).foldl max (standing y) := by
    intro ys
    induction ys with
    | nil => exact fun _ _ => rfl
    | cons z ys ih =>
        intro y alike
        obtain ⟨next, rest⟩ := List.forall_mem_cons.mp alike
        rw [List.foldl_cons, List.map_cons, List.foldl_cons, ← standing_later next]
        apply ih
        intro other mem
        split
        · rw [← next, rest other mem]
        · exact rest other mem
  cases xs with
  | nil => rfl
  | cons y ys =>
      rw [List.map_cons, List.max?_cons', highest?, Option.map_some, fold]
      exact fun z mem => h.isNaN_eq List.mem_cons_self (List.mem_cons_of_mem y mem)

theorem Unmixed.congr (h : Unmixed xs)
    (same : ∀ z, z ∈ xs.map canonical ↔ z ∈ ys.map canonical) : Unmixed ys := by
  have back : ∀ y ∈ ys, ∃ x ∈ xs, x.isNaN = y.isNaN := by
    intro y mem
    obtain ⟨x, mem', equal⟩ := List.mem_map.mp ((same _).mpr (List.mem_map_of_mem mem))
    exact ⟨x, mem', isNaN_congr equal⟩
  rcases h with all | none
  · left
    intro y mem
    obtain ⟨x, mem', alike⟩ := back y mem
    rw [← alike, all x mem']
  · right
    intro y mem
    obtain ⟨x, mem', alike⟩ := back y mem
    rw [← alike]
    exact none x mem'

/-- What the highest number is does not depend on the order of the numbers, nor on how often each of
them stands there. -/
theorem highest?_congr (unmixed : Unmixed xs)
    (same : ∀ z, z ∈ xs.map canonical ↔ z ∈ ys.map canonical) :
    (highest? xs).map canonical = (highest? ys).map canonical := by
  have positions : ∀ p, p ∈ xs.map standing ↔ p ∈ ys.map standing := by
    have image (zs : List Float) (p : List Int) :
        p ∈ zs.map standing ↔ ∃ z ∈ zs.map canonical, standing z = p := by
      have equal (z : Float) : standing (canonical z) = standing z :=
        standing_eq_iff.mpr (canonical_canonical z)
      simp [equal]
    intro p
    rw [image, image]
    simp only [same]
  have highest : (highest? xs).map standing = (highest? ys).map standing := by
    rw [unmixed.standing_highest?, (unmixed.congr same).standing_highest?]
    ext p
    rw [List.max?_eq_some_iff, List.max?_eq_some_iff, positions]
    simp only [positions]
  have equal : ∀ o o' : Option Float, o.map standing = o'.map standing →
      o.map canonical = o'.map canonical
    | none, none, _ => rfl
    | some _, some _, same => congrArg some (standing_eq_iff.mp (Option.some.inj same))
  exact equal _ _ highest

/-- The highest of some numbers is the same in every order of them exactly if all of them are
numbers or none is. -/
theorem unmixed_iff :
    Unmixed xs ↔ ∀ ys, ys.Perm xs → (highest? ys).map canonical = (highest? xs).map canonical := by
  constructor
  · intro unmixed ys order
    refine (highest?_congr unmixed ?_).symm
    intro z
    exact (order.map canonical).mem_iff.symm
  · intro ordered
    have first : ∀ x ∈ xs, ∃ m, highest? xs = some m ∧ m.isNaN = x.isNaN := by
      intro x mem
      obtain ⟨front, back, rfl⟩ := List.append_of_mem mem
      have moved := ordered (x :: (front ++ back)) List.perm_middle.symm
      rw [highest?, Option.map_some] at moved
      obtain ⟨m, found, equal⟩ := Option.map_eq_some_iff.mp moved.symm
      exact ⟨m, found, (isNaN_congr equal).trans (isNaN_highest? rfl)⟩
    by_cases undefined : ∃ x ∈ xs, x.isNaN
    · left
      obtain ⟨x, mem, undefined⟩ := undefined
      intro y mem'
      obtain ⟨m, found, alike⟩ := first x mem
      obtain ⟨m', found', alike'⟩ := first y mem'
      obtain rfl := Option.some.inj (found.symm.trans found')
      rw [← alike', alike, undefined]
    · right
      intro x mem undefined'
      exact undefined ⟨x, mem, undefined'⟩

end FanIn

end SignalGraph
