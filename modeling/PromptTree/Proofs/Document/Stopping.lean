import PromptTree.Document.Mapping

/-!
Readings that meet an obstacle. A reading that meets one comes to nothing, and what was found wrong
before is lost; so it has to be known what a reading stops for (`StopsFor`). Main statement: a reading
made of two stops for what the first of them stops for and for what the second does (`StopsFor.bind`).
-/

namespace PromptTree.Document.Reading

variable {α γ : Type}

/-- The reading comes to `a`, whatever was found wrong. -/
def Comes (reading : Reading α) (a : α) : Prop :=
  ∃ found, @Eq (Except Obstacle (α × List Problem)) reading (.ok (a, found))

def Stops (reading : Reading α) (obstacle : Obstacle) : Prop :=
  @Eq (Except Obstacle (α × List Problem)) reading (.error obstacle)

/-- The reading meets no other obstacles than these, and it meets one if there is any of them. -/
structure StopsFor (reading : Reading α) (blocks : Obstacle → Prop) : Prop where
  only : ∀ obstacle, reading.Stops obstacle → blocks obstacle
  meets : ∀ obstacle, blocks obstacle → ∃ met, reading.Stops met

def Clear (reading : Reading α) : Prop :=
  ∀ obstacle, ¬ reading.Stops obstacle

theorem comes_or_stops (reading : Reading α) :
    (∃ a, reading.Comes a) ∨ ∃ obstacle, reading.Stops obstacle := by
  rcases reading with obstacle | ⟨a, found⟩
  · exact .inr ⟨obstacle, rfl⟩
  · exact .inl ⟨a, found, rfl⟩

@[simp] theorem comes_of {a b : α} : (of a).Comes b ↔ a = b := by
  simp [Comes, of]

@[simp] theorem comes_pure {a b : α} : Comes (pure a) b ↔ a = b :=
  comes_of

@[simp] theorem not_comes_stop {obstacle : Obstacle} {a : α} : ¬ (stop obstacle).Comes a := by
  simp [Comes, stop]

theorem stops_bind {reading : Reading α} {next : α → Reading γ} {obstacle : Obstacle} :
    Stops (reading >>= next) obstacle ↔
      reading.Stops obstacle ∨ ∃ a, reading.Comes a ∧ (next a).Stops obstacle := by
  change Stops (reading.andThen next) obstacle ↔ _
  rcases reading with other | ⟨a, found⟩
  · simp [andThen, Stops, Comes]
  · rcases ended : next a with other | ⟨b, more⟩ <;> simp [andThen, Stops, Comes, ended]

theorem comes_bind {reading : Reading α} {next : α → Reading γ} {c : γ} :
    Comes (reading >>= next) c ↔ ∃ a, reading.Comes a ∧ (next a).Comes c := by
  change Comes (reading.andThen next) c ↔ _
  rcases reading with other | ⟨a, found⟩
  · simp [andThen, Comes]
  · rcases ended : next a with other | ⟨b, more⟩ <;> simp [andThen, Comes, ended]

theorem comes_map {reading : Reading α} {change : α → γ} {c : γ} :
    Comes (change <$> reading) c ↔ ∃ a, reading.Comes a ∧ change a = c := by
  change Comes (reading >>= fun a => pure (change a)) c ↔ _
  simp [comes_bind]

/-! ### Readings without obstacles -/

@[simp] theorem clear_of (a : α) : (of a).Clear := by
  rintro _ ⟨⟩

@[simp] theorem clear_pure (a : α) : Clear (pure a) :=
  clear_of a

@[simp] theorem clear_note (path : String) (mistake : Mistake) : (note path mistake).Clear := by
  rintro _ ⟨⟩

@[simp] theorem clear_bind {reading : Reading α} {next : α → Reading γ} :
    Clear (reading >>= next) ↔ reading.Clear ∧ ∀ a, reading.Comes a → (next a).Clear := by
  simp only [Clear, stops_bind]
  constructor
  · intro clear
    constructor
    · intro o stops
      exact clear o (.inl stops)
    · intro a comes o stops
      exact clear o (.inr ⟨a, comes, stops⟩)
  · rintro ⟨clear, later⟩ o (stops | ⟨a, comes, stops⟩)
    · exact clear o stops
    · exact later a comes o stops

/-! ### What readings stop for -/

namespace StopsFor

variable {reading : Reading α} {next : α → Reading γ} {blocks more : Obstacle → Prop}

theorem congr (stops : StopsFor reading blocks) (same : ∀ o, blocks o ↔ more o) :
    StopsFor reading more := by
  have equal : blocks = more := funext fun o => propext (same o)
  exact equal ▸ stops

theorem of_clear (clear : reading.Clear) (none : ∀ o, ¬ blocks o) : StopsFor reading blocks where
  only o stops := absurd stops (clear o)
  meets o blocked := absurd blocked (none o)

theorem stop (obstacle : Obstacle) : StopsFor (stop obstacle : Reading α) (· = obstacle) where
  only := by
    rintro _ ⟨⟩
    rfl
  meets o _ := ⟨obstacle, rfl⟩

theorem bind (first : StopsFor reading blocks)
    (later : ∀ a, reading.Comes a → StopsFor (next a) more) :
    StopsFor (reading >>= next) fun o => blocks o ∨ more o where
  only o stops := by
    rcases stops_bind.mp stops with stops | ⟨a, comes, stops⟩
    · exact .inl (first.only o stops)
    · exact .inr ((later a comes).only o stops)
  meets o blocked := by
    rcases comes_or_stops reading with ⟨a, comes⟩ | ⟨met, stops⟩
    · rcases blocked with blocked | blocked
      · obtain ⟨met, stops⟩ := first.meets o blocked
        exact ⟨met, stops_bind.mpr (.inl stops)⟩
      · obtain ⟨met, stops⟩ := (later a comes).meets o blocked
        exact ⟨met, stops_bind.mpr (.inr ⟨a, comes, stops⟩)⟩
    · exact ⟨met, stops_bind.mpr (.inl stops)⟩

theorem after (clear : reading.Clear) (later : ∀ a, reading.Comes a → StopsFor (next a) more) :
    StopsFor (reading >>= next) more :=
  ((of_clear clear (by simp) : StopsFor reading fun _ => False).bind later).congr (by simp)

theorem before (first : StopsFor reading blocks) (clear : ∀ a, (next a).Clear) :
    StopsFor (reading >>= next) blocks :=
  (first.bind fun a _ => (of_clear (clear a) (by simp) : StopsFor (next a) fun _ => False)).congr
    (by simp)

theorem map (first : StopsFor reading blocks) (change : α → γ) :
    StopsFor (change <$> reading) blocks :=
  first.before fun a => clear_pure (change a)

end StopsFor

end PromptTree.Document.Reading
