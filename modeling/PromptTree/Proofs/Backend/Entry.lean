import PromptTree.Backend.Registry
import PromptTree.Proofs.Stretch
import PromptTree.Proofs.Value.Maps

/-!
What an entry of a section comes to. `ComesTo` says it field by field, together with the
configuration that stands in for others. Main statement: an entry that comes to a sound configuration
makes it, and every other entry is complained about (`read_cases`).
-/

namespace PromptTree.Backend

/-! ### Sound configurations -/

/-- A timeout is missing, or a number that is not zero or less. -/
inductive IsTimeout : Value → Prop where
  | missing : IsTimeout .null
  | bool : IsTimeout (.bool true)
  | int {n : Int} : 0 < n → IsTimeout (.int n)
  | float {x : Binary64} : x.leInt 0 = false → IsTimeout (.float x)

theorem isSpent_eq_ok_false_iff {timeout : Value} :
    Config.isSpent timeout = .ok false ↔ IsTimeout timeout := by
  constructor
  · intro lasting
    cases timeout with
    | null => exact .missing
    | bool b =>
      cases b with
      | true => exact .bool
      | false => cases lasting
    | int n =>
      apply IsTimeout.int
      simpa [Config.isSpent] using lasting
    | float x =>
      apply IsTimeout.float
      simpa [Config.isSpent] using lasting
    | _ => cases lasting
  · rintro (_ | _ | positive | positive)
    · rfl
    · rfl
    · simpa [Config.isSpent] using positive
    · simpa [Config.isSpent] using positive

theorem leInt_zero_of_isZero {x : Binary64} (isZero : x.isZero = true) : x.leInt 0 = true := by
  unfold Binary64.isZero at isZero
  split at isZero
  · next negative e _ =>
    by_cases fraction : e < 0 <;> cases negative <;>
      simp [Binary64.leInt, Binary64.toRatio?, Binary64.magnitude, fraction]
  · cases isZero

/-- Among the timeouts only the missing one counts as nothing. -/
theorem IsTimeout.isTruthy_iff {timeout : Value} (isTimeout : IsTimeout timeout) :
    timeout.isTruthy = true ↔ timeout ≠ .null := by
  cases isTimeout with
  | missing => simp [Value.isTruthy]
  | bool => simp [Value.isTruthy]
  | int positive =>
    simp [Value.isTruthy]
    omega
  | @float x positive =>
    cases isZero : x.isZero with
    | false => simp [Value.isTruthy, isZero]
    | true =>
      rw [leInt_zero_of_isZero isZero] at positive
      cases positive

/-- Nothing is wrong with the configuration. -/
structure Config.IsSound (config : Config) : Prop where
  address : config.address.isTruthy = true
  model : config.model.isTruthy = true
  timeout : IsTimeout config.timeout

theorem Config.problems_eq_nil_iff {config : Config} :
    config.problems = .ok [] ↔ config.IsSound := by
  unfold problems
  rw [except_bind_eq_ok_iff]
  constructor
  · rintro ⟨spent, isSpent, nothing⟩
    have none := Except.ok.inj nothing
    simp only [List.append_eq_nil_iff, ite_eq_left_iff, ite_eq_right_iff, reduceCtorEq, imp_false,
      Bool.not_eq_true, Bool.not_eq_false] at none
    obtain ⟨⟨address, model⟩, rfl⟩ := none
    exact ⟨address, model, isSpent_eq_ok_false_iff.mp isSpent⟩
  · rintro ⟨address, model, timeout⟩
    refine ⟨false, isSpent_eq_ok_false_iff.mpr timeout, ?_⟩
    rw [if_pos address, if_pos model]
    rfl

/-! ### What entries come to -/

/-- The fields of an entry over the configuration that stands in for others. -/
structure Combined (default : Config) (name : Value) (fields own : Entries) (config : Config) :
    Prop where
  name : config.name = name
  address : config.address = (Entries.get? fields "uri").getD default.address
  model : config.model = (Entries.get? fields "model").getD default.model
  timeout : ∀ given, Entries.get? fields "timeout_sec" = some given → config.timeout = given
  timeoutOfDefault : Entries.get? fields "timeout_sec" = none → default.timeout ≠ .null →
    config.timeout = default.timeout
  timeoutOfNone : Entries.get? fields "timeout_sec" = none → default.timeout = .null →
    config.timeout = .int 28800
  options : ∀ key : Value, Entries.find? key config.options =
    (Entries.find? key own).or (Entries.find? key default.options)
  keyed : Entries.IsKeyed config.options

/-- An entry is a map, and what it says about options is one too; so it comes to a configuration. -/
def ComesTo (default : Config) (name v : Value) (config : Config) : Prop :=
  ∃ fields own, v = .map fields ∧ (Entries.get? fields "options").getD (.map []) = .map own ∧
    Combined default name fields own config

def GivesOptions : Value → Prop
  | .map fields => match Entries.get? fields "options" with
    | some (.map own) => Entries.IsKeyed own
    | _ => True
  | _ => True

instance (v : Value) : Decidable (GivesOptions v) := by
  unfold GivesOptions
  split
  · split <;> infer_instance
  · infer_instance

theorem GivesOptions.keyed {fields own : Entries} (gives : GivesOptions (.map fields))
    (isOwn : (Entries.get? fields "options").getD (.map []) = .map own) : Entries.IsKeyed own := by
  unfold GivesOptions at gives
  cases said : Entries.get? fields "options" with
  | none =>
    rw [said] at isOwn
    cases isOwn
    exact Entries.isKeyed_nil
  | some options =>
    rw [said, Option.getD_some] at isOwn
    simpa only [said, isOwn] using gives

namespace Registry

def Complaint.about : Complaint → Value
  | problem name _ => name
  | unusable name => name

def complaintsOf (default : Config) (entry : Value × Value) : List Complaint :=
  match read default entry.1 entry.2 with
  | .ok _ => []
  | .error complaints => complaints

variable {default : Config} {name v : Value}

theorem merged?_eq_some_iff {config : Config} :
    merged? default name v = some config ↔ ∃ fields own, v = .map fields ∧
      (Entries.get? fields "options").getD (.map []) = .map own ∧
      config = ⟨name, (Entries.get? fields "uri").getD default.address,
        (Entries.get? fields "model").getD default.model,
        (Entries.get? fields "timeout_sec").getD
          (if default.timeout.isTruthy then default.timeout else Config.defaultTimeout),
        Entries.overlay own default.options⟩ := by
  unfold merged?
  cases v with
  | map fields =>
    cases isOwn : (Entries.get? fields "options").getD (.map []) with
    | map own => simp [isOwn, @eq_comm _ _ config]
    | _ => simp [isOwn]
  | _ => simp

theorem comesTo_of_merged? {config : Config} (timeout : IsTimeout default.timeout)
    (keyed : Entries.IsKeyed default.options) (gives : GivesOptions v)
    (made : merged? default name v = some config) : ComesTo default name v config := by
  obtain ⟨fields, own, rfl, isOwn, rfl⟩ := merged?_eq_some_iff.mp made
  have ownKeyed := gives.keyed isOwn
  refine ⟨fields, own, rfl, isOwn, rfl, rfl, rfl, ?_, ?_, ?_, Entries.find?_overlay ownKeyed _,
    ownKeyed.overlay keyed⟩
  · intro given isGiven
    rw [isGiven]
    rfl
  · intro notGiven hasTimeout
    rw [notGiven, Option.getD_none, if_pos (timeout.isTruthy_iff.mpr hasTimeout)]
  · intro notGiven noTimeout
    rw [notGiven, noTimeout]
    rfl

/-- There is a configuration whenever there is something that an entry comes to, and it is as sound.
-/
theorem merged?_of_comesTo {config : Config} (timeout : IsTimeout default.timeout)
    (comes : ComesTo default name v config) :
    ∃ made, merged? default name v = some made ∧ (config.IsSound → made.IsSound) := by
  obtain ⟨fields, own, rfl, isOwn, combined⟩ := comes
  refine ⟨_, merged?_eq_some_iff.mpr ⟨fields, own, rfl, isOwn, rfl⟩, ?_⟩
  intro sound
  refine ⟨combined.address ▸ sound.address, combined.model ▸ sound.model, ?_⟩
  have sameTimeout : config.timeout = (Entries.get? fields "timeout_sec").getD
      (if default.timeout.isTruthy then default.timeout else Config.defaultTimeout) := by
    cases given : Entries.get? fields "timeout_sec" with
    | some own => exact combined.timeout own given
    | none =>
      by_cases noTimeout : default.timeout = .null
      · rw [combined.timeoutOfNone given noTimeout, noTimeout]
        rfl
      · rw [combined.timeoutOfDefault given noTimeout, Option.getD_none,
          if_pos (timeout.isTruthy_iff.mpr noTimeout)]
  exact sameTimeout ▸ sound.timeout

/-- An entry makes a configuration with which nothing is wrong, or it is complained about. -/
theorem read_cases (default : Config) (name v : Value) :
    (∃ config, read default name v = .ok config ∧ merged? default name v = some config ∧
        config.IsSound) ∨
      ∃ complaints, read default name v = .error complaints ∧ complaints ≠ [] ∧
        (∀ complaint ∈ complaints, complaint.about = name) ∧
        ∀ config, merged? default name v = some config → ¬ config.IsSound := by
  unfold read
  cases made : merged? default name v with
  | none =>
    right
    exact ⟨_, rfl, by simp, by simp [Complaint.about], by simp⟩
  | some config =>
    have sound := config.problems_eq_nil_iff
    dsimp only
    split
    · next failed =>
      right
      refine ⟨_, rfl, by simp, by simp [Complaint.about], ?_⟩
      rintro _ ⟨⟩
      rw [← sound, failed]
      simp
    · next nothing => exact .inl ⟨config, rfl, rfl, sound.mp nothing⟩
    · next found something isFound =>
      right
      refine ⟨_, rfl, by simpa using something, by simp [Complaint.about], ?_⟩
      rintro _ ⟨⟩
      rw [← sound, isFound, Except.ok.injEq]
      exact something

/-- A configuration that can be taken up. -/
structure Fits (config : Config) : Prop where
  timeout : IsTimeout config.timeout
  options : Entries.IsKeyed config.options

/-- What is taken up of an entry. -/
theorem of_read_eq_ok {config : Config} (isRead : read default name v = .ok config) :
    merged? default name v = some config ∧ config.IsSound := by
  rcases read_cases default name v with ⟨other, isOther, made, sound⟩ | ⟨_, refused, _⟩
  · rw [isRead] at isOther
    cases isOther
    exact ⟨made, sound⟩
  · rw [isRead] at refused
    cases refused

theorem fits_of_read {config : Config} (defaultFits : Fits default)
    (gives : GivesOptions v) (isRead : read default name v = .ok config) : Fits config := by
  obtain ⟨made, sound⟩ := of_read_eq_ok isRead
  obtain ⟨_, _, _, _, combined⟩ :=
    comesTo_of_merged? defaultFits.timeout defaultFits.options gives made
  exact ⟨sound.timeout, combined.keyed⟩

theorem name_of_read {config : Config} (isRead : read default name v = .ok config) :
    config.name = name := by
  obtain ⟨_, _, _, _, rfl⟩ := merged?_eq_some_iff.mp (of_read_eq_ok isRead).1
  rfl

end Registry

end PromptTree.Backend
