/-!
# Outcomes

A computation that may fail has a result exactly if all of its steps have one. Two computations
whose steps fail together, with related errors, and otherwise have related results, do so too.

## Main definitions

* `Agree`: two computations fail together, or both have a result

## Main results

* `bind_eq_ok_iff`, `map_eq_ok_iff`, `mapError_eq_ok_iff`: the results of composed computations
* `bind_eq_error_iff`, `map_eq_error_iff`, `mapError_eq_error_iff`: their failures
* `exists_of_foldlM_eq_error`: a failure of a sequence of steps is that of one of them
* `bind_congr_of_ok`: what goes on after a result matters only for the results there are
* `Agree.bind`, `Agree.ite`: computations agree whose steps and branches do
-/

namespace XmlQuery

variable {ε ε' α β : Type}

theorem ok_bind (a : α) (f : α → Except ε β) : (Except.ok a >>= f) = f a := rfl

theorem bind_eq_ok_iff {x : Except ε α} {f : α → Except ε β} {b : β} :
    x >>= f = .ok b ↔ ∃ a, x = .ok a ∧ f a = .ok b := by
  cases x <;> simp [bind, Except.bind]

theorem bind_eq_error_iff {x : Except ε α} {f : α → Except ε β} {e : ε} :
    x >>= f = .error e ↔ x = .error e ∨ ∃ a, x = .ok a ∧ f a = .error e := by
  cases x <;> simp [bind, Except.bind]

theorem bind_congr_of_ok {x : Except ε α} {f g : α → Except ε β}
    (h : ∀ a, x = .ok a → f a = g a) : x >>= f = x >>= g := by
  cases x with
  | error e => rfl
  | ok a => exact h a rfl

theorem map_eq_ok_iff {x : Except ε α} {f : α → β} {b : β} :
    x.map f = .ok b ↔ ∃ a, x = .ok a ∧ f a = b := by
  cases x <;> simp [Except.map]

theorem map_eq_error_iff {x : Except ε α} {f : α → β} {e : ε} :
    x.map f = .error e ↔ x = .error e := by
  cases x <;> simp [Except.map]

theorem mapError_eq_ok_iff {x : Except ε α} {f : ε → ε'} {a : α} :
    x.mapError f = .ok a ↔ x = .ok a := by
  cases x with
  | error e => exact ⟨nofun, nofun⟩
  | ok b =>
    change (Except.ok b : Except ε' α) = .ok a ↔ _
    simp only [Except.ok.injEq]

theorem mapError_eq_error_iff {x : Except ε α} {f : ε → ε'} {e : ε'} :
    x.mapError f = .error e ↔ ∃ e', x = .error e' ∧ f e' = e := by
  cases x with
  | error e' =>
    change (Except.error (f e') : Except ε' α) = .error e ↔ _
    simp only [Except.error.injEq, exists_eq_left']
  | ok a => exact ⟨nofun, nofun⟩

/-- A failure of a sequence of steps is that of one of them, by induction on the steps. -/
theorem exists_of_foldlM_eq_error {f : β → α → Except ε β} {b : β} {l : List α} {e : ε}
    (h : l.foldlM f b = .error e) : ∃ a ∈ l, ∃ b', f b' a = .error e := by
  induction l generalizing b with
  | nil => cases h
  | cons a l ih =>
    rw [List.foldlM_cons, bind_eq_error_iff] at h
    rcases h with h | ⟨b', -, h⟩
    · exact ⟨a, List.mem_cons_self, b, h⟩
    · obtain ⟨a', ha', hstep⟩ := ih h
      exact ⟨a', List.mem_cons_of_mem a ha', hstep⟩

/-- Two computations both have a result, and the results are related, or both fail, and the errors
are related. -/
inductive Agree {ε ε' α α' : Type} (E : ε → ε' → Prop) (R : α → α' → Prop) :
    Except ε α → Except ε' α' → Prop
  /-- Both have a result. -/
  | ok {a : α} {a' : α'} : R a a' → Agree E R (.ok a) (.ok a')
  /-- Both fail. -/
  | error {e : ε} {e' : ε'} : E e e' → Agree E R (.error e) (.error e')

namespace Agree

variable {α' β' δ δ' : Type} {E : ε → ε' → Prop} {F : δ → δ' → Prop} {R : α → α' → Prop}
  {S : β → β' → Prop} {x : Except ε α} {y : Except ε' α'}

theorem refl (x : Except ε α) : Agree Eq Eq x x := by
  cases x with
  | ok a => exact .ok rfl
  | error e => exact .error rfl

/-- Computations agree on whether they have a result, if each has one where the other has, and the
results are related. -/
theorem of_exists (h : ∀ a, x = .ok a → ∃ a', y = .ok a' ∧ R a a')
    (h' : ∀ a', y = .ok a' → ∃ a, x = .ok a) : Agree (fun _ _ => True) R x y := by
  cases x with
  | ok a =>
    obtain ⟨a', rfl, hresult⟩ := h a rfl
    exact .ok hresult
  | error e =>
    cases y with
    | error e' => exact .error trivial
    | ok a' =>
      obtain ⟨_, ⟨⟩⟩ := h' a' rfl

theorem exists_eq (h : Agree E R x y) :
    (∃ a a', x = .ok a ∧ y = .ok a' ∧ R a a') ∨ ∃ f f', x = .error f ∧ y = .error f' ∧ E f f' := by
  cases h with
  | ok hresult => exact .inl ⟨_, _, rfl, rfl, hresult⟩
  | error herror => exact .inr ⟨_, _, rfl, rfl, herror⟩

theorem eq {x y : Except ε α} (h : Agree Eq Eq x y) : x = y := by
  cases h with
  | ok hresult => rw [hresult]
  | error herror => rw [herror]

theorem mono {R' : α → α' → Prop} (h : Agree E R x y) (hmono : ∀ a a', R a a' → R' a a') :
    Agree E R' x y := by
  cases h with
  | ok hresult => exact .ok (hmono _ _ hresult)
  | error herror => exact .error herror

/-- Computations agree if their first steps do, and what follows does for related results. -/
theorem bind {f : α → Except ε β} {g : α' → Except ε' β'} (h : Agree E R x y)
    (hnext : ∀ a a', R a a' → Agree E S (f a) (g a')) : Agree E S (x >>= f) (y >>= g) := by
  cases h with
  | ok hresult => exact hnext _ _ hresult
  | error herror => exact .error herror

/-- Computations that take the same branch agree if they do in both branches. -/
theorem ite {p : Prop} [Decidable p] {x' : Except ε α} {y' : Except ε' α'}
    (hthen : p → Agree E R x y) (helse : ¬ p → Agree E R x' y') :
    Agree E R (if p then x else x') (if p then y else y') := by
  by_cases hp : p
  · rw [if_pos hp, if_pos hp]
    exact hthen hp
  · rw [if_neg hp, if_neg hp]
    exact helse hp

theorem map {f : α → β} {g : α' → β'} (h : Agree E R x y)
    (hmap : ∀ a a', R a a' → S (f a) (g a')) : Agree E S (x.map f) (y.map g) := by
  cases h with
  | ok hresult => exact .ok (hmap _ _ hresult)
  | error herror => exact .error herror

theorem map_left {S : β → α' → Prop} {f : α → β} (h : Agree E R x y)
    (hmap : ∀ a a', R a a' → S (f a) a') : Agree E S (x.map f) y := by
  cases h with
  | ok hresult => exact .ok (hmap _ _ hresult)
  | error herror => exact .error herror

theorem mapError {f : ε → δ} {g : ε' → δ'} (h : Agree E R x y)
    (hmap : ∀ e e', E e e' → F (f e) (g e')) : Agree F R (x.mapError f) (y.mapError g) := by
  cases h with
  | ok hresult => exact .ok hresult
  | error herror => exact .error (hmap _ _ herror)

end Agree

end XmlQuery
