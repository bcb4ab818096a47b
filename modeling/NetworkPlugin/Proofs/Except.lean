import Mathlib.Data.List.Forall2
import NetworkPlugin.Failure

/-!
# Chains of results

When a chain of results succeeds, and with which error it fails.
-/

namespace Except

variable {ε α β : Type}

theorem ok_bind (a : α) (f : α → Except ε β) : (.ok a : Except ε α) >>= f = f a := rfl

theorem error_bind (e : ε) (f : α → Except ε β) : (.error e : Except ε α) >>= f = .error e := rfl

theorem mapError_ok {ε' : Type} (a : α) (f : ε → ε') :
    (.ok a : Except ε α).mapError f = .ok a := rfl

theorem mapError_eq_ok {ε' : Type} {x : Except ε α} {f : ε → ε'} {a : α} :
    x.mapError f = .ok a ↔ x = .ok a := by
  cases x <;> simp [Except.mapError]

theorem mapError_eq_error {ε' : Type} {x : Except ε α} {f : ε → ε'} {e : ε'} :
    x.mapError f = .error e ↔ ∃ e', x = .error e' ∧ f e' = e := by
  cases x <;> simp [Except.mapError]

theorem bind_eq_ok {x : Except ε α} {f : α → Except ε β} {b : β} :
    x >>= f = .ok b ↔ ∃ a, x = .ok a ∧ f a = .ok b := by
  cases x with
  | error e =>
      change Except.error e = Except.ok b ↔ _
      simp
  | ok a =>
      change f a = .ok b ↔ _
      simp

theorem bind_eq_error {x : Except ε α} {f : α → Except ε β} {e : ε} :
    x >>= f = .error e ↔ x = .error e ∨ ∃ a, x = .ok a ∧ f a = .error e := by
  cases x with
  | error e' =>
      change Except.error e' = Except.error e ↔ _
      simp
  | ok a =>
      change f a = .error e ↔ _
      simp

theorem map_eq_ok {x : Except ε α} {f : α → β} {b : β} :
    x.map f = .ok b ↔ ∃ a, x = .ok a ∧ f a = b := by
  cases x <;> simp [Except.map]

theorem mapM_eq_ok {f : α → Except ε β} {items : List α} {results : List β} :
    items.mapM f = .ok results ↔
      List.Forall₂ (fun item result => f item = .ok result) items results := by
  induction items generalizing results with
  | nil =>
      rw [List.mapM_nil, List.forall₂_nil_left_iff]
      change Except.ok [] = Except.ok results ↔ _
      simp [eq_comm]
  | cons item items ih =>
      simp only [List.mapM_cons, bind_eq_ok, List.forall₂_cons_left_iff]
      constructor
      · rintro ⟨result, first, others, rest, made⟩
        cases made
        exact ⟨result, others, first, ih.mp rest, rfl⟩
      · rintro ⟨result, others, first, rest, rfl⟩
        exact ⟨result, first, others, ih.mpr rest, rfl⟩

theorem exists_first_of_mapM_eq_error {f : α → Except ε β} {items : List α} {e : ε}
    (failed : items.mapM f = .error e) :
    ∃ before item after, items = before ++ item :: after ∧
      (∀ other ∈ before, ∃ result, f other = .ok result) ∧ f item = .error e := by
  induction items with
  | nil => cases failed
  | cons item items ih =>
      simp only [List.mapM_cons, bind_eq_error] at failed
      rcases failed with first | ⟨result, first, rest | ⟨results, -, made⟩⟩
      · exact ⟨[], item, items, rfl, by simp, first⟩
      · obtain ⟨before, other, after, rfl, fine, here⟩ := ih rest
        refine ⟨item :: before, other, after, rfl, ?_, here⟩
        rw [List.forall_mem_cons]
        exact ⟨⟨result, first⟩, fine⟩
      · cases made

theorem exists_of_mapM_eq_error {f : α → Except ε β} {items : List α} {e : ε}
    (failed : items.mapM f = .error e) : ∃ item ∈ items, f item = .error e := by
  obtain ⟨before, item, after, rfl, -, here⟩ := exists_first_of_mapM_eq_error failed
  exact ⟨item, List.mem_append_right _ List.mem_cons_self, here⟩

theorem foldlM_induction {P : β → Prop} {f : β → α → Except ε β} {items : List α}
    {start result : β} (holds : P start)
    (step : ∀ found item next, item ∈ items → P found → f found item = .ok next → P next)
    (done : items.foldlM f start = .ok result) : P result := by
  induction items generalizing start with
  | nil =>
      cases done
      exact holds
  | cons item items ih =>
      rw [List.foldlM_cons] at done
      obtain ⟨next, first, others⟩ := bind_eq_ok.mp done
      have kept := step start item next List.mem_cons_self holds first
      exact ih kept (fun found item next member => step found item next
        (List.mem_cons_of_mem _ member)) others

/-! ## Chains that succeed alike -/

/-- Both succeed with the same value or both fail, be it with different errors. -/
def Agree (one other : Except ε α) : Prop := ∀ a, one = .ok a ↔ other = .ok a

namespace Agree

variable {one other third : Except ε α}

theorem refl (one : Except ε α) : Agree one one := fun _ => Iff.rfl

theorem symm (agree : Agree one other) : Agree other one := fun a => (agree a).symm

theorem trans (first : Agree one other) (second : Agree other third) : Agree one third :=
  fun a => (first a).trans (second a)

theorem error (e e' : ε) : Agree (.error e : Except ε α) (.error e') := fun a => by simp

theorem bind {f g : α → Except ε β} (agree : Agree one other) (then_agree : ∀ a, Agree (f a) (g a)) :
    Agree (one >>= f) (other >>= g) := by
  intro b
  rw [bind_eq_ok, bind_eq_ok]
  exact exists_congr fun a => and_congr (agree a) (then_agree a b)

theorem map (agree : Agree one other) (f : α → β) : Agree (one.map f) (other.map f) := by
  intro b
  rw [map_eq_ok, map_eq_ok]
  exact exists_congr fun a => and_congr (agree a) Iff.rfl

theorem mapError (one : Except ε α) (f : ε → ε) : Agree (one.mapError f) one := by
  cases one with
  | ok a => exact .refl _
  | error e => exact .error _ _

variable {Item : Type} {items others : List Item}

theorem foldlM {f : β → Item → Except ε β}
    (each : List.Forall₂ (fun item other => ∀ b, Agree (f b item) (f b other)) items others)
    (start : β) : Agree (items.foldlM f start) (others.foldlM f start) := by
  induction each generalizing start with
  | nil => exact .refl _
  | cons first rest ih =>
      rw [List.foldlM_cons, List.foldlM_cons]
      exact (first start).bind ih

theorem mapM {f : Item → Except ε α}
    (each : List.Forall₂ (fun item other => Agree (f item) (f other)) items others) :
    Agree (items.mapM f) (others.mapM f) := by
  induction each with
  | nil => exact .refl _
  | cons first rest ih =>
      rw [List.mapM_cons, List.mapM_cons]
      exact first.bind fun a => ih.bind fun as => .refl _

end Agree

end Except
