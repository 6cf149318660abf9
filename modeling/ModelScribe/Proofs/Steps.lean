/-! # Steps that succeed

What it takes for steps that can fail to succeed: each step of a sequence succeeds
(`ModelScribe.bind_eq_ok`), and how a failure is told does not matter
(`ModelScribe.mapError_eq_ok`). A reader gives what it found and the rest of its input;
what is made of the finding alone leaves the rest as it is
(`ModelScribe.found_eq_ok`, `ModelScribe.formed_eq_ok`).
-/

namespace ModelScribe

variable {ε δ α β ρ : Type}

/-- Steps one behind the other succeed if each of them does. -/
@[simp]
theorem bind_eq_ok {first : Except ε α} {next : α → Except ε β} {result : β} :
    (first >>= next) = .ok result ↔ ∃ value, first = .ok value ∧ next value = .ok result := by
  cases first with
  | error problem =>
      constructor
      · intro succeeds
        cases succeeds
      · rintro ⟨value, succeeds, -⟩
        cases succeeds
  | ok value =>
      constructor
      · intro succeeds
        exact ⟨value, rfl, succeeds⟩
      · rintro ⟨_, ⟨⟩, succeeds⟩
        exact succeeds

/-- A step succeeds whatever is made of its failures. -/
@[simp]
theorem mapError_eq_ok {step : Except ε α} {retold : ε → δ} {value : α} :
    step.mapError retold = .ok value ↔ step = .ok value := by
  cases step with
  | error problem =>
      constructor
      · intro succeeds
        cases succeeds
      · intro succeeds
        cases succeeds
  | ok other =>
      show Except.ok other = Except.ok value ↔ Except.ok other = Except.ok value
      rw [Except.ok.injEq, Except.ok.injEq]

theorem found_eq_ok {step : Except ε ρ} {found value : α} {rest : ρ} :
    (do let next ← step; return (found, next)) = (.ok (value, rest) : Except ε (α × ρ)) ↔
      found = value ∧ step = .ok rest := by
  constructor
  · intro succeeds
    obtain ⟨next, steps, same⟩ := bind_eq_ok.mp succeeds
    obtain ⟨rfl, rfl⟩ := Prod.mk.inj (Except.ok.inj same)
    exact ⟨rfl, steps⟩
  · rintro ⟨rfl, steps⟩
    exact bind_eq_ok.mpr ⟨rest, steps, rfl⟩

theorem formed_eq_ok {step : Except ε (β × ρ)} {form : β → α} {value : α} {rest : ρ} :
    (do let (found, next) ← step; return (form found, next)) =
        (.ok (value, rest) : Except ε (α × ρ)) ↔
      ∃ found, form found = value ∧ step = .ok (found, rest) := by
  constructor
  · intro succeeds
    obtain ⟨⟨found, next⟩, steps, same⟩ := bind_eq_ok.mp succeeds
    obtain ⟨rfl, rfl⟩ := Prod.mk.inj (Except.ok.inj same)
    exact ⟨found, rfl, steps⟩
  · rintro ⟨found, rfl, steps⟩
    exact bind_eq_ok.mpr ⟨(found, rest), steps, rfl⟩

end ModelScribe
