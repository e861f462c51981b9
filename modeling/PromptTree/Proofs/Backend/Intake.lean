import PromptTree.Proofs.Backend.Coherence
import PromptTree.Proofs.Backend.Entry

/-!
Taking up the entries of a section, one after the other. Each step finds or leaves what look-ups ask
for (`find?_put`), and two steps with different names commute up to the order in which
configurations are kept (`alike_put_put`); so do whole sections (`alike_putAll`). Main statement: in
a registry that has come about in any way, each entry that is reached is registered with just what it
comes to or leaves its name untouched; and if all names can be written, all entries are reached and
their order makes no difference (`registerAll_each`).
-/

namespace PromptTree.Backend.Registry

variable {default : Config} {name v : Value}

/-! ### What is reached -/

theorem reached_sublist (entries : Entries) : (reached entries).Sublist entries := by
  induction entries with
  | nil => exact List.Sublist.refl _
  | cons entry rest inductionHypothesis =>
    rw [reached, List.cons_sublist_cons]
    split
    · exact inductionHypothesis
    · exact List.nil_sublist _

theorem reached_eq_self {entries : Entries}
    (writable : ∀ entry ∈ entries, entry.1.isWritable = true) : reached entries = entries := by
  induction entries with
  | nil => rfl
  | cons entry rest inductionHypothesis =>
    rw [List.forall_mem_cons] at writable
    rw [reached, if_pos writable.1, inductionHypothesis writable.2]

/-- The first name that cannot be written, or else the complaints about all entries. -/
def complaintsAbout (default : Config) (entries : Entries) : Except UnwritableName (List Complaint) :=
  match List.find? (fun entry => !entry.1.isWritable) entries with
  | some entry => .error ⟨entry.1⟩
  | none => .ok (entries.flatMap (complaintsOf default))

theorem complaintsAbout_of_writable {entries : Entries}
    (writable : ∀ entry ∈ entries, entry.1.isWritable = true) :
    complaintsAbout default entries = .ok (entries.flatMap (complaintsOf default)) := by
  have allWritten : List.find? (fun entry => !entry.1.isWritable) entries = none := by
    simpa [List.find?_eq_none] using writable
  rw [complaintsAbout, allWritten]

theorem complaintsAbout_cons (default : Config) (entry : Value × Value) (rest : Entries) :
    complaintsAbout default (entry :: rest) =
      if entry.1.isWritable then
        (complaintsAbout default rest).map (complaintsOf default entry ++ ·)
      else .error ⟨entry.1⟩ := by
  unfold complaintsAbout
  rw [List.find?_cons]
  cases entry.1.isWritable with
  | false => rfl
  | true =>
    cases List.find? (fun entry => !entry.1.isWritable) rest <;> rfl

theorem complaints_takeUp (default : Config) (registry : Registry) (entries : Entries) :
    (takeUp default registry entries).complaints = complaintsAbout default entries := by
  induction entries generalizing registry with
  | nil => rfl
  | cons entry rest inductionHypothesis =>
    obtain ⟨name, v⟩ := entry
    rw [complaintsAbout_cons, complaintsOf]
    cases isRead : read default name v with
    | ok config =>
      have later := inductionHypothesis (registry.put config)
      cases writable : name.isWritable
      · simp [takeUp, isRead, writable]
      · have same : complaintsAbout default rest = (complaintsAbout default rest).map ([] ++ ·) := by
          cases complaintsAbout default rest <;> rfl
        simpa [takeUp, isRead, writable] using later.trans same
    | error complaints =>
      have later := inductionHypothesis registry
      cases writable : name.isWritable
      · simp [takeUp, isRead, writable]
      · simp [takeUp, isRead, writable, later]

/-! ### What is found -/

/-- No two configurations of the registry have the same name, and each of them could be taken up. -/
structure WellKept (registry : Registry) : Prop where
  configs : Entries.IsKeyed registry.configs
  fits : ∀ entry ∈ registry.configs, Fits entry.2

variable {registry : Registry}

theorem WellKept.put {config : Config} (kept : WellKept registry) (fits : Fits config) :
    WellKept (registry.put config) := by
  refine ⟨kept.configs.insert _ config, ?_⟩
  intro entry isEntry
  rcases Entries.mem_insert isEntry with before | ⟨isConfig, _⟩
  · exact kept.fits entry before
  · rw [isConfig]
    exact fits

theorem WellKept.putAll {configs : List Config} (kept : WellKept registry)
    (fit : ∀ config ∈ configs, Fits config) : WellKept (registry.putAll configs) := by
  induction configs generalizing registry with
  | nil => exact kept
  | cons config configs inductionHypothesis =>
    rw [List.forall_mem_cons] at fit
    exact inductionHypothesis (kept.put fit.1) fit.2

theorem find?_put (registry : Registry) (config : Config) (other : Value) :
    Entries.find? other (registry.put config).configs =
        (if config.name.same other = true then some config
          else Entries.find? other registry.configs) ∧
      Entries.find? other (registry.put config).clients =
        (if config.name.same other = true then none
          else Entries.find? other registry.clients) :=
  ⟨Entries.find?_insert _ _ _ _, Entries.find?_without _ _ _⟩

/-- What configurations of other names leave as it is. -/
theorem find?_putAll_of_other {configs : List Config} {other : Value} {registry : Registry}
    (different : ∀ config ∈ configs, config.name.same other = false) :
    Entries.find? other (registry.putAll configs).configs =
        Entries.find? other registry.configs ∧
      Entries.find? other (registry.putAll configs).clients =
        Entries.find? other registry.clients := by
  induction configs generalizing registry with
  | nil => exact ⟨rfl, rfl⟩
  | cons config configs inductionHypothesis =>
    rw [List.forall_mem_cons] at different
    obtain ⟨sameConfigs, sameClients⟩ := inductionHypothesis different.2
    obtain ⟨found, client⟩ := find?_put registry config other
    have differ : ¬ config.name.same other = true := by
      rw [different.1]
      decide
    rw [if_neg differ] at found client
    exact ⟨sameConfigs.trans found, sameClients.trans client⟩

def Apart (first second : Config) : Prop :=
  first.name.same second.name = false

theorem Apart.symm {first second : Config} (apart : Apart first second) : Apart second first := by
  rwa [Apart, Value.same_comm]

/-- The configuration is kept under its name, and found under whatever is the same as it. -/
structure Registers (registry : Registry) (config : Config) : Prop where
  kept : ∃ key, (key, config) ∈ registry.configs ∧
    (key = config.name ∨ key.same config.name = true)
  found : ∀ name : Value, config.name.same name = true →
    Entries.find? name registry.configs = some config ∧ Entries.find? name registry.clients = none

theorem registers_put (registry : Registry) (config : Config) :
    Registers (registry.put config) config := by
  refine ⟨Entries.exists_mem_insert _ _ _, ?_⟩
  intro name same
  obtain ⟨found, client⟩ := find?_put registry config name
  rw [if_pos same] at found client
  exact ⟨found, client⟩

theorem Registers.put {config next : Config} (registers : Registers registry config)
    (different : config.name.same next.name = false) :
    Registers (registry.put next) config := by
  have differ : ¬ config.name.same next.name = true := by
    rw [different]
    decide
  constructor
  · obtain ⟨key, isEntry, isName⟩ := registers.kept
    have keyDifferent : key.same next.name = false := by
      rcases isName with rfl | same
      · exact different
      · rwa [Value.same_congr same]
    exact ⟨key, Entries.mem_insert_of_mem isEntry keyDifferent next, isName⟩
  · intro name same
    obtain ⟨found, client⟩ := find?_put registry next name
    rw [if_neg (Value.not_same_of_same differ same)] at found client
    obtain ⟨isFound, noClient⟩ := registers.found name same
    exact ⟨found.trans isFound, client.trans noClient⟩

theorem Registers.putAll {config : Config} {later : List Config}
    (registers : Registers registry config)
    (different : ∀ next ∈ later, config.name.same next.name = false) :
    Registers (registry.putAll later) config := by
  induction later generalizing registry with
  | nil => exact registers
  | cons next later inductionHypothesis =>
    rw [List.forall_mem_cons] at different
    exact inductionHypothesis (registers.put different.1) different.2

theorem registers_putAll {configs : List Config} (registry : Registry)
    (distinct : configs.Pairwise Apart) {config : Config} (isConfig : config ∈ configs) :
    Registers (registry.putAll configs) config := by
  induction configs generalizing registry with
  | nil => cases isConfig
  | cons first configs inductionHypothesis =>
    rw [List.pairwise_cons] at distinct
    rcases List.mem_cons.mp isConfig with rfl | later
    · exact (registers_put registry config).putAll distinct.1
    · exact inductionHypothesis _ distinct.2 later

/-! ### The order of configurations -/

/-- Registries that differ only in the order of their configurations. -/
structure Alike (first second : Registry) : Prop where
  configs : first.configs.Perm second.configs
  clients : first.clients = second.clients
  opened : first.opened = second.opened

theorem Alike.trans {first second third : Registry} (alike : Alike first second)
    (alikeToo : Alike second third) : Alike first third where
  configs := alike.configs.trans alikeToo.configs
  clients := alike.clients.trans alikeToo.clients
  opened := alike.opened.trans alikeToo.opened

theorem Alike.put {first second : Registry} (alike : Alike first second) (kept : WellKept first)
    (config : Config) : Alike (first.put config) (second.put config) where
  configs := Entries.insert_perm kept.configs alike.configs _ config
  clients := congrArg (Entries.without config.name) alike.clients
  opened := alike.opened

theorem Alike.putAll {first second : Registry} {configs : List Config} (alike : Alike first second)
    (kept : WellKept first) (fit : ∀ config ∈ configs, Fits config) :
    Alike (first.putAll configs) (second.putAll configs) := by
  induction configs generalizing first second with
  | nil => exact alike
  | cons config configs inductionHypothesis =>
    rw [List.forall_mem_cons] at fit
    exact inductionHypothesis (alike.put kept config) (kept.put fit.1) fit.2

theorem alike_put_put {first second : Config} (registry : Registry) (apart : Apart first second) :
    Alike ((registry.put second).put first) ((registry.put first).put second) where
  configs := Entries.insert_comm apart _ _ _
  clients := by
    change Entries.without _ (Entries.without _ _) = Entries.without _ (Entries.without _ _)
    unfold Entries.without
    rw [List.filter_filter, List.filter_filter]
    simp only [Bool.and_comm]
  opened := rfl

/-- The order in which configurations with different names are taken up shows only in the order in
which they are kept. -/
theorem alike_putAll {configs others : List Config} (kept : WellKept registry)
    (fit : ∀ config ∈ configs, Fits config) (distinct : configs.Pairwise Apart)
    (perm : configs.Perm others) : Alike (registry.putAll configs) (registry.putAll others) := by
  induction perm generalizing registry with
  | nil => exact ⟨.refl _, rfl, rfl⟩
  | cons config _ inductionHypothesis =>
    rw [List.forall_mem_cons] at fit
    rw [List.pairwise_cons] at distinct
    exact inductionHypothesis (kept.put fit.1) fit.2 distinct.2
  | swap first second rest =>
    rw [List.forall_mem_cons, List.forall_mem_cons] at fit
    rw [List.pairwise_cons, List.forall_mem_cons] at distinct
    obtain ⟨secondFits, firstFits, fit⟩ := fit
    have swapped := alike_put_put registry distinct.1.1.symm
    exact swapped.putAll ((kept.put secondFits).put firstFits) fit
  | trans perm _ first second =>
    have fitToo := fun config isConfig => fit config (perm.mem_iff.mpr isConfig)
    have distinctToo := (perm.pairwise_iff Apart.symm).mp distinct
    exact (first kept fit distinct).trans (second kept fitToo distinctToo)

/-! ### Sections of workflows -/

/-- The entries of a section are a map, and so are the options that they give. -/
structure IsSection (entries : Entries) : Prop where
  keyed : Entries.IsKeyed entries
  options : ∀ entry ∈ entries, GivesOptions entry.2

instance (entries : Entries) : Decidable (IsSection entries) :=
  decidable_of_iff (Entries.IsKeyed entries ∧ ∀ entry ∈ entries, GivesOptions entry.2)
    ⟨fun ⟨keyed, options⟩ => ⟨keyed, options⟩, fun ⟨keyed, options⟩ => ⟨keyed, options⟩⟩

theorem IsSection.reached {entries : Entries} (isSection : IsSection entries) :
    IsSection (reached entries) where
  keyed := List.Pairwise.sublist ((reached_sublist entries).map Prod.fst) isSection.keyed
  options entry isReached := isSection.options entry ((reached_sublist entries).subset isReached)

theorem toOption_read_eq_some_iff {config : Config} :
    (read default name v).toOption = some config ↔ read default name v = .ok config := by
  cases read default name v <;> simp [Except.toOption]

theorem mem_accepted_iff {entries : Entries} {config : Config} :
    config ∈ accepted default entries ↔
      ∃ entry ∈ entries, read default entry.1 entry.2 = .ok config := by
  simp only [accepted, List.mem_filterMap, toOption_read_eq_some_iff]

theorem fits_of_mem_accepted {entries : Entries} (isSection : IsSection entries)
    (defaultFits : Fits default) : ∀ config ∈ accepted default entries, Fits config := by
  intro config isConfig
  obtain ⟨entry, isEntry, isRead⟩ := mem_accepted_iff.mp isConfig
  exact fits_of_read defaultFits (isSection.options entry isEntry) isRead

theorem apart_accepted {entries : Entries} (keyed : Entries.IsKeyed entries) :
    (accepted default entries).Pairwise Apart := by
  unfold accepted
  rw [List.pairwise_filterMap]
  apply (List.pairwise_map.mp keyed).imp
  intro first second different config isConfig other isOther
  have named := name_of_read (toOption_read_eq_some_iff.mp isConfig)
  have otherNamed := name_of_read (toOption_read_eq_some_iff.mp isOther)
  rwa [Apart, named, otherNamed]

/-! ### Registries in use -/

theorem fits_builtIn (environment : Scope) : Fits (builtIn environment) :=
  ⟨.int (by decide), Entries.isKeyed_nil⟩

theorem wellKept_start (environment : Scope) : WellKept (start environment) := by
  refine ⟨List.pairwise_singleton _ _, ?_⟩
  intro entry isEntry
  rw [List.mem_singleton.mp isEntry]
  exact fits_builtIn environment

theorem WellKept.fits_default (kept : WellKept registry) : Fits registry.default := by
  unfold Registry.default
  cases found : Entries.find? defaultName registry.configs with
  | none => exact fits_builtIn .empty
  | some config =>
    obtain ⟨key, isEntry, _⟩ := Entries.exists_mem_of_find? found
    exact kept.fits _ isEntry

theorem WellKept.registerAll {entries : Entries} (kept : WellKept registry)
    (isSection : IsSection entries) : WellKept (registry.registerAll entries).registry := by
  rw [Registry.registerAll, registry_takeUp]
  exact kept.putAll (fits_of_mem_accepted isSection.reached kept.fits_default)

/-- If all names can be written, the order of the entries shows only in the order in which
configurations are kept. -/
theorem alike_registerAll {entries others : Entries} (kept : WellKept registry)
    (isSection : IsSection entries) (writable : ∀ entry ∈ entries, entry.1.isWritable = true)
    (writableToo : ∀ entry ∈ others, entry.1.isWritable = true) (perm : entries.Perm others) :
    Alike (registry.registerAll entries).registry (registry.registerAll others).registry := by
  unfold Registry.registerAll
  rw [registry_takeUp, registry_takeUp, reached_eq_self writable, reached_eq_self writableToo]
  exact alike_putAll kept (fits_of_mem_accepted isSection kept.fits_default)
    (apart_accepted isSection.keyed) (perm.filterMap _)

variable {β : Type}

/-- What an operation is given is data: maps have no key twice. -/
def Operation.IsProper : Operation β → Prop
  | register config => Entries.IsKeyed config.options
  | registerAll entries => IsSection entries
  | client _ | generate .. => True

instance : (operation : Operation β) → Decidable operation.IsProper
  | .register config => inferInstanceAs (Decidable (Entries.IsKeyed config.options))
  | .registerAll entries => inferInstanceAs (Decidable (IsSection entries))
  | .client _ | .generate .. => inferInstanceAs (Decidable True)

theorem WellKept.client (kept : WellKept registry) {name : Value} {client : Client}
    {next : Registry} (opened : registry.client name = .ok (client, next)) : WellKept next := by
  rcases client_eq_ok opened with ⟨_, rfl⟩ | ⟨_, _, _, rfl⟩
  · exact kept
  · exact ⟨kept.configs, kept.fits⟩

theorem sound_of_register {config : Config} {next : Registry}
    (registered : registry.register config = .ok next) : config.IsSound := by
  unfold register at registered
  split at registered
  · cases registered
  · next nothing => exact Config.problems_eq_nil_iff.mp nothing
  · cases registered

theorem WellKept.after (kept : WellKept registry) {operation : Operation β}
    (proper : operation.IsProper) : WellKept (operation.after registry) := by
  cases operation with
  | register config =>
    rw [Operation.after]
    cases registered : registry.register config with
    | error refusal => exact kept
    | ok next =>
      obtain rfl := eq_put_of_register registered
      exact kept.put ⟨(sound_of_register registered).timeout, proper⟩
  | registerAll entries => exact kept.registerAll proper
  | client name =>
    rw [Operation.after]
    split
    · next opened => exact kept.client opened
    · exact kept
  | generate network name prompt schema world =>
    rw [Operation.after, Registry.generate]
    cases opened : registry.client (.text name) with
    | error fault => exact kept
    | ok given => exact kept.client opened

theorem WellKept.afterAll (kept : WellKept registry) {operations : List (Operation β)}
    (proper : ∀ operation ∈ operations, operation.IsProper) :
    WellKept (registry.afterAll operations) := by
  induction operations generalizing registry with
  | nil => exact kept
  | cons operation operations inductionHypothesis =>
    rw [List.forall_mem_cons] at proper
    exact inductionHypothesis (kept.after proper.1) proper.2

/-- What comes of an entry that is taken up with the complaints about it: the configuration that it
comes to is registered, or nothing changes under its name. -/
inductive Outcome (default : Config) (before after : Registry) (name v : Value) :
    List Complaint → Prop where
  | registered {config : Config} : ComesTo default name v config → config.IsSound →
    Registers after config → Outcome default before after name v []
  | refused {complaints : List Complaint} : complaints ≠ [] →
    (∀ complaint ∈ complaints, complaint.about = name) →
    (∀ config, ComesTo default name v config → ¬ config.IsSound) →
    Entries.find? name after.configs = Entries.find? name before.configs →
    Entries.find? name after.clients = Entries.find? name before.clients →
    Outcome default before after name v complaints

theorem outcome_of_entry {entries : Entries} (defaultFits : Fits default)
    (isSection : IsSection entries) {entry : Value × Value} (isEntry : entry ∈ entries) :
    Outcome default registry (registry.putAll (accepted default entries)) entry.1 entry.2
      (complaintsOf default entry) := by
  rw [complaintsOf]
  rcases read_cases default entry.1 entry.2 with
    ⟨config, isRead, made, sound⟩ | ⟨complaints, refused, some, about, unsound⟩
  · have isAccepted := mem_accepted_iff.mpr ⟨entry, isEntry, isRead⟩
    have comes := comesTo_of_merged? defaultFits.timeout defaultFits.options
      (isSection.options entry isEntry) made
    rw [isRead]
    exact .registered comes sound
      (registers_putAll registry (apart_accepted isSection.keyed) isAccepted)
  · have different : ∀ config ∈ accepted default entries, config.name.same entry.1 = false := by
      intro config isConfig
      obtain ⟨other, isOther, isRead⟩ := mem_accepted_iff.mp isConfig
      rw [name_of_read isRead]
      rcases isSection.keyed.eq_or_different isOther isEntry with rfl | different
      · rw [refused] at isRead
        cases isRead
      · exact different
    obtain ⟨sameConfig, sameClient⟩ := find?_putAll_of_other different
    rw [refused]
    refine .refused some about ?_ sameConfig sameClient
    intro config comes configSound
    obtain ⟨made, isMade, madeSound⟩ := merged?_of_comesTo defaultFits.timeout comes
    exact unsound made isMade (madeSound configSound)

/-- However a registry has come about, it has a configuration that stands in for others, and this
one as it was before is what the entries of a section are combined with. An entry that is reached
comes to a sound configuration, which is registered, or it is complained about and nothing changes
under its name. If all names can be written, all entries are reached, and their order shows only in the
order of what is registered and of the complaints; else the first name that cannot be is what comes of
it, and no entry behind it is reached. -/
theorem registerAll_each (environment : Scope) {operations : List (Operation β)}
    (proper : ∀ operation ∈ operations, operation.IsProper) {entries : Entries}
    (isSection : IsSection entries) :
    let registry := (start environment).afterAll operations
    let intake := registry.registerAll entries
    Entries.find? defaultName registry.configs = some registry.default ∧
      intake.complaints = complaintsAbout registry.default entries ∧
      (∀ entry ∈ reached entries, Outcome registry.default registry intake.registry entry.1 entry.2
        (complaintsOf registry.default entry)) ∧
      (∀ name : Value, (∀ entry ∈ reached entries, entry.1.same name = false) →
        Entries.find? name intake.registry.configs = Entries.find? name registry.configs ∧
          Entries.find? name intake.registry.clients = Entries.find? name registry.clients) ∧
      ((∀ entry ∈ entries, entry.1.isWritable = true) → reached entries = entries ∧
        ∀ others, entries.Perm others →
          let other := registry.registerAll others
          Alike intake.registry other.registry ∧
            (∀ name : Value, Entries.find? name intake.registry.configs =
              Entries.find? name other.registry.configs) ∧
            ∃ complaints otherComplaints, intake.complaints = .ok complaints ∧
              other.complaints = .ok otherComplaints ∧ complaints.Perm otherComplaints) := by
  intro registry intake
  have coherent := (coherent_start environment).afterAll operations
  have kept : WellKept registry := (wellKept_start environment).afterAll proper
  have defaultFits := kept.fits_default
  have isIntake : intake.registry = _ := registry_takeUp _ _ _
  have complaints : intake.complaints = _ := complaints_takeUp _ _ _
  refine ⟨coherent.find?_default, complaints, ?_, ?_, ?_⟩
  · intro entry isEntry
    rw [isIntake]
    exact outcome_of_entry defaultFits isSection.reached isEntry
  · intro name other
    rw [isIntake]
    apply find?_putAll_of_other
    intro config isConfig
    obtain ⟨entry, isEntry, isRead⟩ := mem_accepted_iff.mp isConfig
    rw [name_of_read isRead]
    exact other entry isEntry
  · intro writable
    refine ⟨reached_eq_self writable, ?_⟩
    intro others perm other
    have writableToo : ∀ entry ∈ others, entry.1.isWritable = true :=
      fun entry isEntry => writable entry (perm.mem_iff.mpr isEntry)
    have alike : Alike intake.registry other.registry :=
      alike_registerAll kept isSection writable writableToo perm
    have otherComplaints : other.complaints = _ := complaints_takeUp _ _ _
    refine ⟨alike, Entries.find?_perm (kept.registerAll isSection).configs alike.configs, _, _, ?_, ?_,
      perm.flatMap_right (complaintsOf registry.default)⟩
    · rw [complaints, complaintsAbout_of_writable writable]
    · rw [otherComplaints, complaintsAbout_of_writable writableToo]

/-- A backend that is opened before a section is taken up. -/
def opening : List (Operation Unit) :=
  [.register (backendAt "near" "http://one"), .client "near"]

/-- What a section says of a backend without an address and without time. -/
def voidFields : Entries :=
  Entries.ofFields [("uri", .text ""), ("timeout_sec", .int 0)]

/-- What a section says of a backend with options under keys that are no texts. -/
def quickFields : Entries :=
  Entries.ofFields [("timeout_sec", .int 5),
    ("options", .map [(.bool true, .text "a"), (.float (.ofInt 2), .text "b")])]

/-- A section that also redefines the default, with two entries that cannot be taken up. -/
def mixedSection : Entries :=
  [(.text "default", .map (Entries.ofFields [("model", .text "large")])),
    (.text "near", .map voidFields), (.text "far", .text "http://far"), (.int 1, .map quickFields)]

theorem registerAll_each_mixed :
    let registry := (start .empty).afterAll opening
    let intake := registry.registerAll mixedSection
    (∀ operation ∈ opening, operation.IsProper) ∧ IsSection mixedSection ∧
      (∀ entry ∈ mixedSection, entry.1.isWritable = true) ∧
      Outcome registry.default registry intake.registry (.text "near") (.map voidFields)
        [.problem (.text "near") .noAddress, .problem (.text "near") .timeoutNotPositive] ∧
      (Entries.find? (.text "near") intake.registry.clients).isSome = true ∧
      Outcome registry.default registry intake.registry (.int 1) (.map quickFields) [] ∧
      ((Entries.find? (.bool true) intake.registry.configs).bind fun config =>
        config.model.asText?) = some "llama3.1" ∧
      Alike intake.registry (registry.registerAll mixedSection.reverse).registry := by
  intro registry intake
  have proper : ∀ operation ∈ opening, operation.IsProper := by decide
  have isSection : IsSection mixedSection := by decide
  have writable : ∀ entry ∈ mixedSection, entry.1.isWritable = true := by decide +kernel
  obtain ⟨_, _, each, _, order⟩ := registerAll_each .empty proper isSection
  obtain ⟨all, order⟩ := order writable
  rw [all] at each
  have void := each (.text "near", .map voidFields) (by simp [mixedSection])
  have quick := each (.int 1, .map quickFields) (by simp [mixedSection])
  exact ⟨proper, isSection, writable, void, by decide +kernel, quick, by decide +kernel,
    (order _ (List.reverse_perm _).symm).1⟩

/-- A name of more digits than a text may hold, for an entry with nothing wrong. -/
def unwritableSection : Entries :=
  [(.int (10 ^ Text.maxNumberDigits), .map [])]

theorem not_every_section_has_complaints : ¬ ∀ entries : Entries, IsSection entries →
    ∃ complaints, ((start .empty).registerAll entries).complaints = .ok complaints := by
  intro always
  obtain ⟨complaints, isOk⟩ := always unwritableSection (by decide)
  have unwritable : Value.isWritable (.int (10 ^ Text.maxNumberDigits)) = false := by
    simp [Value.isWritable, Int.natAbs_pow]
  rw [registerAll, complaints_takeUp, unwritableSection, complaintsAbout_cons, unwritable] at isOk
  cases isOk

end PromptTree.Backend.Registry
