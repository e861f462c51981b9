import PromptTree.Document.Mapping

/-!
Readings without a problem. A description is accepted only if nothing in it was found wrong, so what
can be said of an accepted one is what can be said of readings that found nothing. Main statement: a
reading made of others finds nothing only if none of them does (`gives_bind`).
-/

namespace PromptTree.Document.Reading

variable {α γ : Type}

def Gives (reading : Reading α) (a : α) : Prop :=
  @Eq (Except Obstacle (α × List Problem)) reading (.ok (a, []))

@[simp] theorem gives_of {a b : α} : (of a).Gives b ↔ a = b := by
  simp [Gives, of]

@[simp] theorem gives_pure {a b : α} : Gives (pure a) b ↔ a = b :=
  gives_of

@[simp] theorem not_gives_stop {obstacle : Obstacle} {a : α} : ¬ (stop obstacle).Gives a := by
  simp [Gives, stop]

@[simp] theorem not_gives_note {path : String} {mistake : Mistake} {a : Unit} :
    ¬ (note path mistake).Gives a := by
  simp [Gives, note]

@[simp] theorem gives_bind {reading : Reading α} {next : α → Reading γ} {c : γ} :
    Gives (reading >>= next) c ↔ ∃ a, reading.Gives a ∧ (next a).Gives c := by
  change Gives (reading.andThen next) c ↔ _
  rcases reading with obstacle | ⟨a, found⟩
  · simp [andThen, Gives]
  · rcases ended : next a with obstacle | ⟨b, more⟩
    · constructor
      · simp [andThen, Gives, ended]
      · rintro ⟨_, ⟨⟩, same⟩
        rw [ended] at same
        cases same
    · constructor
      · intro same
        simp only [andThen, Gives, ended, Except.ok.injEq, Prod.mk.injEq,
          List.append_eq_nil_iff] at same
        obtain ⟨rfl, rfl, rfl⟩ := same
        exact ⟨a, rfl, ended⟩
      · rintro ⟨_, ⟨⟩, same⟩
        rw [ended] at same
        cases same
        simp [andThen, Gives, ended]

@[simp] theorem gives_map {reading : Reading α} {change : α → γ} {c : γ} :
    Gives (change <$> reading) c ↔ ∃ a, reading.Gives a ∧ change a = c := by
  change Gives (reading >>= fun a => pure (change a)) c ↔ _
  simp

theorem outcome_eq_ok_iff {reading : Reading (Option α)} {a : α} :
    reading.outcome = .ok a ↔ reading.Gives (some a) := by
  rcases reading with obstacle | ⟨_ | b, _ | ⟨problem, found⟩⟩ <;> simp [outcome, Gives]

end PromptTree.Document.Reading
