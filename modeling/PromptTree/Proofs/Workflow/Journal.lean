import PromptTree.Proofs.Workflow.Parts

/-!
The journal of a run. Main statement: no stretch of a run takes anything back from the journal
(`grows_parts`). `Noted` says of two sessions that nothing but log lines lies between them.
-/

namespace PromptTree.Workflow

open Run

variable {β : Type}

/-- The stretch only adds to the journal. -/
def Grows (α : Type) (stretch : Run β α) : Prop :=
  ∀ s, s.journal <+: (result stretch s).2.journal

theorem uniform_grows (engine : Engine β) : Uniform engine Grows where
  pure a s := List.prefix_rfl
  bind := by
    intro α γ stretch next first second s
    have begun := first s
    rw [result_bind]
    rcases ended : result stretch s with ⟨fault | a, t⟩
    · rw [ended] at begun
      exact begun
    · rw [ended] at begun
      exact begun.trans (second a t)
  throw fault _ s := List.prefix_rfl
  log level message s := List.prefix_append _ _
  pause milliseconds s := List.prefix_append _ _
  resolve text scope s := by
    rw [result_resolve]
    exact List.prefix_append _ _
  ask prompt schema s := by
    rw [result_ask]
    exact List.prefix_append _ _
  download locator s := by
    cases known : s.downloads.lookup locator with
    | none =>
      rw [result_download_of_new known]
      exact List.prefix_append _ _
    | some text =>
      exact ⟨[], by rw [result_download_of_cached known, List.append_nil]⟩

theorem grows_parts (engine : Engine β) : Compositional engine Grows :=
  (uniform_grows engine).compositional

/-- Nothing happens from one session to the other but that log lines are written. -/
def Noted (s t : Session β) : Prop :=
  ∃ lines : List LogEntry, t = s.after (lines.map .logged)

theorem Noted.refl (s : Session β) : Noted s s :=
  ⟨[], by simp⟩

theorem Noted.trans {s t u : Session β} (first : Noted s t) (second : Noted t u) : Noted s u := by
  obtain ⟨lines, rfl⟩ := first
  obtain ⟨more, rfl⟩ := second
  exact ⟨lines ++ more, by simp⟩

theorem noted_log (s : Session β) (level : LogLevel) (message : String) :
    Noted s (result (log level message) s).2 :=
  ⟨[⟨.run, level, s!"[{runId}] {message}"⟩], rfl⟩

end PromptTree.Workflow
