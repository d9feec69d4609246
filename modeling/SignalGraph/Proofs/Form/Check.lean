import SignalGraph.Form.Check
import SignalGraph.Proofs.Outcome

/-!
What it means that a check accepts. A form accepts an object whose fields are each accepted, a field
accepts the value that it finds, and a list accepts when every item does.
-/

namespace SignalGraph.Form

variable {α β : Type}

theorem apply_eq_ok {f : Checked (α → β)} {a : Checked α} {b : β} :
    f.apply a = .ok b ↔ ∃ g x, f = .ok g ∧ a = .ok x ∧ g x = b := by
  cases f <;> cases a <;> simp [Checked.apply]

theorem map_eq_ok {f : α → β} {a : Checked α} {b : β} :
    Except.map f a = .ok b ↔ ∃ x, a = .ok x ∧ f x = b := by
  cases a <;> simp [Except.map]

/-- A form accepts objects only, and those only whose fields it accepts. -/
theorem model_ok {name : String} {known : List String} {check : Fields → Checked α} {v : Value}
    {a : α} (accepted : model name known check v = .ok a) :
    ∃ fields, v = .object fields ∧ check fields = .ok a := by
  cases v with
  | object fields =>
      refine ⟨fields, rfl, ?_⟩
      simp only [model, Checked.and] at accepted
      split at accepted
      · split at accepted
        · rename_i found _
          rw [found]
          exact accepted
        · cases accepted
      · cases accepted
  | _ => cases accepted

theorem required_eq_ok {name : String} {check : Value → Checked α} {fields : Fields} {a : α} :
    required name check fields = .ok a ↔ ∃ v, fields.lookup name = some v ∧ check v = .ok a := by
  rw [required, Checked.within, mapError_eq_ok]
  cases fields.lookup name <;> simp [issue]

theorem optional_ok {name : String} {check : Value → Checked α} {default : α} {fields : Fields}
    {a : α} (accepted : optional name check default fields = .ok a) :
    a = default ∨ ∃ v, check v = .ok a := by
  rw [optional, Checked.within, mapError_eq_ok] at accepted
  cases found : fields.lookup name with
  | none =>
      rw [found] at accepted
      exact .inl (Except.ok.inj accepted).symm
  | some v =>
      rw [found] at accepted
      exact .inr ⟨v, accepted⟩

/-- The items of an accepted list are each accepted, in their order. -/
theorem checkItems_ok {check : Value → Checked α} {first : Nat} {items : List Value} {as : List α}
    (accepted : checkItems check first items = .ok as) :
    List.Forall₂ (fun v a => check v = .ok a) items as := by
  induction items generalizing first as with
  | nil =>
      obtain rfl := Except.ok.inj accepted
      exact .nil
  | cons v items ih =>
      obtain ⟨f, rest, head, tail, rfl⟩ := apply_eq_ok.mp accepted
      obtain ⟨a, taken, rfl⟩ := map_eq_ok.mp head
      exact .cons (mapError_eq_ok.mp taken) (ih tail)

theorem listOf_ok {check : Value → Checked α} {v : Value} {as : List α}
    (accepted : listOf check v = .ok as) : ∀ a ∈ as, ∃ item, check item = .ok a := by
  cases v with
  | list items =>
      intro a mem
      obtain ⟨i, bound, rfl⟩ := List.mem_iff_getElem.mp mem
      have items := checkItems_ok accepted
      exact ⟨_, (List.forall₂_iff_get.mp items).2 i (items.length_eq ▸ bound) bound⟩
  | _ => cases accepted

theorem atLeast_ok {bound n m : Int} (accepted : atLeast bound n = .ok m) : bound ≤ m := by
  rw [atLeast] at accepted
  split at accepted
  · rename_i above
    exact Except.ok.inj accepted ▸ above
  · cases accepted

end SignalGraph.Form
