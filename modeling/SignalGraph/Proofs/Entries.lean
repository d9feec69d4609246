import SignalGraph.Value.Basic

/-!
Setting the value of one key, seen through look-up. All keys but one keep their values and their
places.
-/

namespace SignalGraph

variable {α β : Type} [BEq α]

theorem mem_putEntry {key : α} {value : β} {entries : List (α × β)} {entry : α × β}
    (h : entry ∈ putEntry key value entries) : entry = (key, value) ∨ entry ∈ entries := by
  induction entries with
  | nil => exact .inl (List.mem_singleton.mp h)
  | cons first entries ih =>
      simp only [putEntry] at h
      split at h
      · rcases List.mem_cons.mp h with rfl | h
        · exact .inl rfl
        · exact .inr (List.mem_cons_of_mem _ h)
      · rcases List.mem_cons.mp h with rfl | h
        · exact .inr List.mem_cons_self
        · rcases ih h with rfl | h
          · exact .inl rfl
          · exact .inr (List.mem_cons_of_mem _ h)

variable [LawfulBEq α]

theorem lookup_putEntry_self (key : α) (value : β) (entries : List (α × β)) :
    (putEntry key value entries).lookup key = some value := by
  induction entries with
  | nil => simp [putEntry]
  | cons entry entries ih =>
      simp only [putEntry]
      split
      · exact List.lookup_cons_self
      · rename_i other
        rw [List.lookup_cons, show (key == entry.1) = false by grind]
        exact ih

theorem lookup_putEntry_ne {key other : α} (h : other ≠ key) (value : β)
    (entries : List (α × β)) :
    (putEntry key value entries).lookup other = entries.lookup other := by
  induction entries with
  | nil => simp [putEntry, h]
  | cons entry entries ih =>
      simp only [putEntry]
      split
      · rename_i same
        obtain ⟨first, old⟩ := entry
        obtain rfl : first = key := eq_of_beq same
        have later : (other == first) = false := beq_eq_false_iff_ne.mpr h
        simp only [List.lookup_cons, later]
      · obtain ⟨first, old⟩ := entry
        simp only [List.lookup_cons, ih]

theorem putEntry_of_fresh {key : α} {value : β} {entries : List (α × β)}
    (h : key ∉ entries.map Prod.fst) : putEntry key value entries = entries ++ [(key, value)] := by
  induction entries with
  | nil => rfl
  | cons entry entries ih =>
      simp only [List.map_cons, List.mem_cons, not_or] at h
      have other : (entry.1 == key) = false := by
        simp only [beq_eq_false_iff_ne]
        exact fun same => h.1 same.symm
      simp only [putEntry, other, Bool.false_eq_true, ↓reduceIte, List.cons_append]
      rw [ih h.2]

/-- Keys that stand once go on to stand once. -/
theorem nodup_putEntry (key : α) (value : β) {entries : List (α × β)}
    (h : (entries.map Prod.fst).Nodup) : ((putEntry key value entries).map Prod.fst).Nodup := by
  by_cases fresh : key ∈ entries.map Prod.fst
  · suffices (putEntry key value entries).map Prod.fst = entries.map Prod.fst by rwa [this]
    clear h
    induction entries with
    | nil => simp at fresh
    | cons entry entries ih =>
        simp only [putEntry]
        split
        · rename_i same
          simp [eq_of_beq same]
        · rename_i other
          have rest : key ∈ entries.map Prod.fst := by
            rcases List.mem_cons.mp fresh with same | rest
            · simp [same] at other
            · exact rest
          rw [List.map_cons, List.map_cons, ih rest]
  · rw [putEntry_of_fresh fresh]
    simp only [List.map_append, List.map_cons, List.map_nil]
    exact List.nodup_append.mpr ⟨h, by simp, by
      rintro a mem b single rfl
      exact fresh (List.mem_singleton.mp single ▸ mem)⟩

/-- Entries whose keys are all new are set one after the other. -/
theorem foldl_putEntry {γ : Type} (f : γ → α × β) (xs : List γ) {entries : List (α × β)}
    (h : ((entries ++ xs.map f).map Prod.fst).Nodup) :
    xs.foldl (fun table x => putEntry (f x).1 (f x).2 table) entries = entries ++ xs.map f := by
  induction xs generalizing entries with
  | nil => exact (List.append_nil _).symm
  | cons x xs ih =>
      rw [List.map_cons, List.append_cons] at h
      have fresh : (f x).1 ∉ entries.map Prod.fst := by
        rw [List.map_append, List.map_append, List.nodup_append] at h
        have apart := (List.nodup_append.mp h.1).2.2
        exact fun mem => apart _ mem _ (List.mem_singleton_self _) rfl
      rw [List.foldl_cons, putEntry_of_fresh fresh, ih h, ← List.append_cons, List.map_cons]

/-- Where each key stands once, look-up finds every entry. -/
theorem lookup_of_mem {key : α} {value : β} {entries : List (α × β)}
    (h : (entries.map Prod.fst).Nodup) (mem : (key, value) ∈ entries) :
    entries.lookup key = some value := by
  induction entries with
  | nil => simp at mem
  | cons entry entries ih =>
      simp only [List.map_cons, List.nodup_cons] at h
      rcases List.mem_cons.mp mem with rfl | mem
      · exact List.lookup_cons_self
      · have other : key ≠ entry.1 := by
          rintro rfl
          exact h.1 (List.mem_map.mpr ⟨_, mem, rfl⟩)
        rw [List.lookup_cons, show (key == entry.1) = false by simpa using other]
        exact ih h.2 mem

theorem mem_of_lookup {key : α} {value : β} {entries : List (α × β)}
    (h : entries.lookup key = some value) : (key, value) ∈ entries := by
  obtain ⟨before, after, rfl, -⟩ := List.lookup_eq_some_iff.mp h
  simp

end SignalGraph
