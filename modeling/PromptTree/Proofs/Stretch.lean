/-!
Stretches of a computation that has a state and can fail. A stretch is a function of the state it
begins in; the equations here compute its result part by part, so that no proof about a program that
is made of stretches opens the monad they are written in.
-/

namespace PromptTree

theorem except_bind_eq_error_iff {ε α γ : Type} {first : Except ε α}
    {next : α → Except ε γ} {e : ε} :
    (first >>= next) = .error e ↔ first = .error e ∨ ∃ a, first = .ok a ∧ next a = .error e := by
  cases first with
  | error other => simp [bind, Except.bind]
  | ok a => simp [bind, Except.bind]

theorem except_bind_eq_ok_iff {ε α γ : Type} {first : Except ε α} {next : α → Except ε γ} {c : γ} :
    (first >>= next) = .ok c ↔ ∃ a, first = .ok a ∧ next a = .ok c := by
  cases first with
  | error other => simp [bind, Except.bind]
  | ok a => simp [bind, Except.bind]

variable {ε σ α γ : Type}

/-- What a stretch comes to when it begins in a state, and the state that it leaves. -/
def result (stretch : ExceptT ε (StateM σ) α) (s : σ) : Except ε α × σ :=
  StateT.run (ExceptT.run stretch) s

@[simp] theorem result_pure (a : α) (s : σ) :
    result (pure a : ExceptT ε (StateM σ) α) s = (.ok a, s) := rfl

@[simp] theorem result_throw (fault : ε) (s : σ) :
    result (throw fault : ExceptT ε (StateM σ) α) s = (.error fault, s) := rfl

@[simp] theorem result_get (s : σ) :
    result (get : ExceptT ε (StateM σ) σ) s = (.ok s, s) := rfl

@[simp] theorem result_set (s t : σ) :
    result (set t : ExceptT ε (StateM σ) PUnit) s = (.ok ⟨⟩, t) := rfl

@[simp] theorem result_modify (change : σ → σ) (s : σ) :
    result (modify change : ExceptT ε (StateM σ) PUnit) s = (.ok ⟨⟩, change s) := rfl

theorem result_bind (stretch : ExceptT ε (StateM σ) α) (next : α → ExceptT ε (StateM σ) γ) (s : σ) :
    result (stretch >>= next) s =
      match result stretch s with
      | (.ok a, t) => result (next a) t
      | (.error fault, t) => (.error fault, t) := by
  change (match stretch s with | (r, t) => ExceptT.bindCont next r t) = _
  rcases ended : result stretch s with ⟨_ | a, t⟩
  · change stretch s = _ at ended
    rw [ended]
    rfl
  · change stretch s = _ at ended
    rw [ended]
    rfl

theorem result_bind_of_ok {stretch : ExceptT ε (StateM σ) α} {s t : σ} {a : α}
    (ended : result stretch s = (.ok a, t)) (next : α → ExceptT ε (StateM σ) γ) :
    result (stretch >>= next) s = result (next a) t := by
  rw [result_bind, ended]

theorem result_bind_of_error {stretch : ExceptT ε (StateM σ) α} {s t : σ} {fault : ε}
    (ended : result stretch s = (.error fault, t)) (next : α → ExceptT ε (StateM σ) γ) :
    result (stretch >>= next) s = (.error fault, t) := by
  rw [result_bind, ended]

/-- Two stretches come to a result if both do, the second in the state that the first leaves. -/
theorem result_bind_eq_ok_iff {stretch : ExceptT ε (StateM σ) α}
    {next : α → ExceptT ε (StateM σ) γ} {s t : σ} {c : γ} :
    result (stretch >>= next) s = (.ok c, t) ↔
      ∃ a u, result stretch s = (.ok a, u) ∧ result (next a) u = (.ok c, t) := by
  rw [result_bind]
  rcases result stretch s with ⟨_ | a, u⟩
  · simp
  · constructor
    · intro ended
      exact ⟨a, u, rfl, ended⟩
    · rintro ⟨_, _, ⟨⟩, ended⟩
      exact ended

/-- Two stretches come to a fault if the first does, or if the second does after it. -/
theorem result_bind_eq_error_iff {stretch : ExceptT ε (StateM σ) α}
    {next : α → ExceptT ε (StateM σ) γ} {s t : σ} {fault : ε} :
    result (stretch >>= next) s = (.error fault, t) ↔
      result stretch s = (.error fault, t) ∨
        ∃ a u, result stretch s = (.ok a, u) ∧ result (next a) u = (.error fault, t) := by
  rw [result_bind]
  rcases result stretch s with ⟨_ | a, u⟩
  · simp
  · constructor
    · intro ended
      exact .inr ⟨a, u, rfl, ended⟩
    · rintro (⟨⟨⟩⟩ | ⟨_, _, ⟨⟩, ended⟩)
      exact ended

end PromptTree
