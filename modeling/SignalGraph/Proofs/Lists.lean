import Mathlib.Data.List.Nodup
import Mathlib.Data.List.Forall2
import Mathlib.Data.List.GetD
import Mathlib.Data.List.Induction

/-!
Lists by their positions, lists with numbered entries, and lists whose entries count once.
-/

namespace SignalGraph

variable {α β γ : Type}

section Positions

theorem getElem?_concat_eq_some {xs : List α} {x y : α} {i : Nat} :
    (xs ++ [x])[i]? = some y ↔ xs[i]? = some y ∨ i = xs.length ∧ x = y := by
  rcases Nat.lt_trichotomy i xs.length with early | rfl | late
  · rw [List.getElem?_append_left early]
    simp only [Nat.ne_of_lt early, false_and, or_false]
  · rw [List.getElem?_concat_length, List.getElem?_eq_none (Nat.le_refl _)]
    simp only [Option.some.injEq, reduceCtorEq, true_and, false_or]
  · have beyond : (xs ++ [x]).length ≤ i := by
      rw [List.length_append, List.length_singleton]
      exact late
    rw [List.getElem?_eq_none beyond, List.getElem?_eq_none (Nat.le_of_lt late)]
    simp only [reduceCtorEq, Nat.ne_of_gt late, false_and, or_false]

theorem set_getD_self (xs : List α) (i : Nat) (d : α) :
    xs.set i (xs.getD i d) = xs := by
  rcases Nat.lt_or_ge i xs.length with inside | outside
  · rw [List.getD_eq_getElem?_getD, List.getElem?_eq_getElem inside, Option.getD_some,
      List.set_getElem_self]
  · exact List.set_eq_of_length_le outside

/-- A list that is made from its positions is made from its entries, where these tell the same. -/
theorem map_range_eq_mapIdx {f : Nat → β} {g : Nat → α → β} {xs : List α}
    (same : ∀ i x, xs[i]? = some x → f i = g i x) :
    (List.range xs.length).map f = xs.mapIdx g := by
  apply List.ext_getElem
  · rw [List.length_map, List.length_range, List.length_mapIdx]
  · intro i _ inside
    rw [List.length_mapIdx] at inside
    rw [List.getElem_map, List.getElem_range, List.getElem_mapIdx]
    exact same i xs[i] (List.getElem?_eq_getElem inside)

/-- Where references follow one another, each stands at its distance from the first. -/
theorem idxOf_range_map {first count i : Nat} (bound : i < count) :
    ((List.range count).map (first + ·)).idxOf (first + i) = i := by
  have nodup : ((List.range count).map (first + ·)).Nodup :=
    List.nodup_range.map fun _ _ same => Nat.add_left_cancel same
  have inside : i < ((List.range count).map (first + ·)).length := by
    rwa [List.length_map, List.length_range]
  have there : ((List.range count).map (first + ·))[i] = first + i := by
    rw [List.getElem_map, List.getElem_range]
  rw [← there]
  exact nodup.idxOf_getElem i inside

theorem lookup_zip [BEq α] [LawfulBEq α] {keys : List α} {values : List β}
    (same : keys.length = values.length) (key : α) :
    (keys.zip values).lookup key = values[keys.idxOf key]? := by
  induction keys generalizing values with
  | nil =>
      obtain rfl := List.eq_nil_of_length_eq_zero same.symm
      rfl
  | cons first keys ih =>
      cases values with
      | nil => cases same
      | cons value values =>
          rw [List.zip_cons_cons, List.lookup_cons, List.idxOf_cons]
          by_cases hit : first = key
          · simp [hit]
          · rw [show (key == first) = false from beq_eq_false_iff_ne.mpr (Ne.symm hit),
              show (first == key) = false from beq_eq_false_iff_ne.mpr hit]
            exact ih (Nat.succ.inj same)

/-- Lists that agree entry by entry, each seen in its own way. -/
theorem map_eq_map_iff_forall₂ {f : α → γ} {g : β → γ} {as : List α} {bs : List β} :
    as.map f = bs.map g ↔ List.Forall₂ (fun a b => f a = g b) as bs := by
  rw [← List.forall₂_eq_eq_eq, List.forall₂_map_left_iff, List.forall₂_map_right_iff]

end Positions

section Numbers

/-- What is told of the entries of a numbered list without their numbers. -/
theorem map_zipIdx_fst (f : α → β) (xs : List α) :
    xs.zipIdx.map (fun p => f p.1) = xs.map f := by
  conv => rhs; rw [← List.zipIdx_map_fst 0 xs, List.map_map]
  rfl

theorem zipIdx_mapIdx (f : Nat → α → β) (xs : List α) :
    (xs.mapIdx f).zipIdx = xs.zipIdx.map fun p => (f p.2 p.1, p.2) := by
  apply List.ext_getElem
  · simp
  · intro i _ _
    simp

/-- Where each block has a key of its own, a key picks out its block. -/
theorem filter_flatMap_zipIdx {f : α × Nat → List β} (key : β → Nat)
    (keyed : ∀ p, ∀ b ∈ f p, key b = p.2) (xs : List α) (start i : Nat) :
    ((xs.zipIdx start).flatMap f).filter (fun b => key b = start + i) =
      (xs[i]?.map fun a => f (a, start + i)).getD [] := by
  induction xs generalizing start i with
  | nil => rfl
  | cons x xs ih =>
      rw [List.zipIdx_cons, List.flatMap_cons, List.filter_append]
      cases i with
      | zero =>
          have first : (f (x, start)).filter (fun b => key b = start + 0) = f (x, start) :=
            List.filter_eq_self.mpr fun b mem => decide_eq_true (keyed _ b mem)
          have later : ((xs.zipIdx (start + 1)).flatMap f).filter (fun b => key b = start + 0) =
              [] := by
            refine List.filter_eq_nil_iff.mpr fun b mem => ?_
            obtain ⟨p, entry, mem⟩ := List.mem_flatMap.mp mem
            have after := List.le_snd_of_mem_zipIdx entry
            rw [keyed p b mem, decide_eq_true_eq]
            omega
          rw [first, later, List.append_nil]
          rfl
      | succ i =>
          have first : (f (x, start)).filter (fun b => key b = start + (i + 1)) = [] := by
            refine List.filter_eq_nil_iff.mpr fun b mem => ?_
            rw [keyed _ b mem, decide_eq_true_eq]
            omega
          rw [first, List.nil_append, show start + (i + 1) = start + 1 + i by omega, ih]
          rfl

end Numbers

section Parts

/-- What the elements that pass a test bring in, all elements bring in if the others bring
nothing. -/
theorem flatMap_filter (p : α → Bool) (f : α → List β) (xs : List α) :
    (xs.filter p).flatMap f = xs.flatMap fun x => if p x then f x else [] := by
  induction xs with
  | nil => rfl
  | cons x xs ih =>
      rw [List.filter_cons, List.flatMap_cons, ← ih]
      split <;> rfl

variable [DecidableEq α]

/-- One more item counts if it is not there yet. -/
theorem eraseDups_concat (xs : List α) (x : α) :
    (xs ++ [x]).eraseDups = if x ∈ xs.eraseDups then xs.eraseDups else xs.eraseDups ++ [x] := by
  rw [List.eraseDups_append]
  by_cases old : x ∈ xs
  · simp [List.removeAll, old]
  · simp [List.removeAll, old, List.eraseDups_cons]

theorem nodup_eraseDups (xs : List α) : xs.eraseDups.Nodup := by
  induction xs using List.reverseRecOn with
  | nil => exact List.nodup_nil
  | append_singleton xs x ih =>
      rw [eraseDups_concat]
      split
      · exact ih
      · rename_i new
        rw [← List.concat_eq_append]
        exact ih.concat new

theorem eraseDups_map [DecidableEq β] {f : α → β} (injective : f.Injective)
    (xs : List α) : (xs.map f).eraseDups = xs.eraseDups.map f := by
  induction xs using List.reverseRecOn with
  | nil => rfl
  | append_singleton xs x ih =>
      rw [List.map_append, List.map_singleton, eraseDups_concat, eraseDups_concat, ih]
      simp only [List.mem_map_of_injective injective]
      split
      · rfl
      · rw [List.map_append, List.map_singleton]

/-- What stands before the first occurrence of an entry. -/
theorem takeWhile_ne_split {xs : List α} {a : α} (mem : a ∈ xs) :
    a ∉ (xs.takeWhile fun x => x ≠ a) ∧
      ∃ rest, xs = (xs.takeWhile fun x => x ≠ a) ++ a :: rest := by
  induction xs with
  | nil => cases mem
  | cons x xs ih =>
      by_cases same : x = a
      · subst same
        simp
      · have there : a ∈ xs := (List.mem_cons.mp mem).resolve_left (Ne.symm same)
        obtain ⟨apart, rest, split⟩ := ih there
        rw [List.takeWhile_cons_of_pos (by simpa using same), List.mem_cons, not_or]
        refine ⟨⟨Ne.symm same, apart⟩, rest, ?_⟩
        rw [List.cons_append, ← split]

/-- Lists that agree on each of some parts, and have nothing outside these parts. -/
theorem perm_of_filters {ι : Type} {p : ι → α → Bool} {xs ys : List α}
    (covered : ∀ a, a ∈ xs ∨ a ∈ ys → ∃ i, p i a) (same : ∀ i, xs.filter (p i) = ys.filter (p i)) :
    xs.Perm ys := by
  rw [List.perm_iff_count]
  intro a
  by_cases mem : a ∈ xs ∨ a ∈ ys
  · obtain ⟨i, hit⟩ := covered a mem
    rw [← List.count_filter hit, same, List.count_filter hit]
  · rw [not_or] at mem
    rw [List.count_eq_zero_of_not_mem mem.1, List.count_eq_zero_of_not_mem mem.2]

end Parts

end SignalGraph
