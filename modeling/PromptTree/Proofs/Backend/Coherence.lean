import PromptTree.Backend.Registry
import PromptTree.Proofs.Value.Keys

/-!
Backends that are known by name, and the chats that are opened with them, over any history of a
registry. Configurations are kept under the names that look-ups ask for, chats under the names of the
configurations that look-ups find; `Coherent` ties both to the configurations taken up so far, and
every operation keeps it (`Coherent.put`, `Coherent.client`). Main statement: after any operations a
look-up finds the configuration taken up last, a chat is with just this one, and two names share a
chat if and only if they share the name of their configuration (`registry_coherent`).
-/

namespace PromptTree.Backend

/-- A chat can be opened with the address of the configuration. -/
def Config.HasAddress (config : Config) : Prop :=
  ∃ address parts, config.address = .text address ∧ Uri.splitCredentials address = .ok parts

theorem Chat.exists_of?_iff {config : Config} :
    (∃ chat, Chat.of? config = .ok chat) ↔ config.HasAddress := by
  unfold of? Config.HasAddress
  cases config.address with
  | text address =>
    cases split : Uri.splitCredentials address with
    | ok parts =>
      obtain ⟨clean, credentials⟩ := parts
      simp [split]
    | error fault => simp [split]
  | _ => simp

theorem Chat.config_of? {config : Config} {chat : Chat} (opened : Chat.of? config = .ok chat) :
    chat.config = config := by
  unfold of? at opened
  split at opened
  · split at opened
    · cases opened
      rfl
    · cases opened
  · cases opened

namespace Registry

inductive Operation (β : Type) where
  | register (config : Config)
  | registerAll (entries : Entries)
  | client (name : String)
  | generate (network : Web.Network β) (name prompt : String) (schema : Option Value) (world : β)

variable {β : Type}

/-- The registry after an operation. One that fails leaves it as it was. -/
def Operation.after (registry : Registry) : Operation β → Registry
  | register config => match registry.register config with
    | .ok next => next
    | .error _ => registry
  | registerAll entries => (registry.registerAll entries).registry
  | client name => match registry.client (.text name) with
    | .ok (_, next) => next
    | .error _ => registry
  | generate network name prompt schema world =>
    (Registry.generate network name prompt schema (registry, world)).world.1

/-- The entries of a section that are looked at: none behind the first one whose name cannot be written.
-/
def reached : Entries → Entries
  | [] => []
  | entry :: rest => entry :: if entry.1.isWritable then reached rest else []

def accepted (default : Config) (entries : Entries) : List Config :=
  entries.filterMap fun entry => (read default entry.1 entry.2).toOption

def putAll (registry : Registry) (configs : List Config) : Registry :=
  configs.foldl put registry

theorem registry_takeUp (default : Config) (registry : Registry) (entries : Entries) :
    (takeUp default registry entries).registry =
      registry.putAll (accepted default (reached entries)) := by
  induction entries generalizing registry with
  | nil => rfl
  | cons entry rest inductionHypothesis =>
    obtain ⟨name, v⟩ := entry
    cases isRead : read default name v with
    | ok config =>
      have later := inductionHypothesis (registry.put config)
      cases writable : name.isWritable
      · simp [takeUp, reached, accepted, putAll, isRead, writable, Except.toOption]
      · simpa [takeUp, reached, accepted, putAll, isRead, writable, Except.toOption] using later
    | error complaints =>
      have later := inductionHypothesis registry
      cases writable : name.isWritable
      · simp [takeUp, reached, accepted, putAll, isRead, writable, Except.toOption]
      · simpa [takeUp, reached, accepted, putAll, isRead, writable, Except.toOption] using later

/-- The configurations that an operation takes up, one after the other. -/
def Operation.taken (registry : Registry) : Operation β → List Config
  | register config => match registry.register config with
    | .ok _ => [config]
    | .error _ => []
  | registerAll entries => (reached entries).filterMap fun (name, v) =>
    (read registry.default name v).toOption
  | client _ | generate .. => []

def afterAll (registry : Registry) : List (Operation β) → Registry
  | [] => registry
  | operation :: operations => afterAll (operation.after registry) operations

def takenBy (registry : Registry) : List (Operation β) → List Config
  | [] => []
  | operation :: operations =>
    operation.taken registry ++ takenBy (operation.after registry) operations

def latest (name : String) (taken : List Config) : Option Config :=
  (taken.filter fun config => config.name.same (.text name)).getLast?

theorem latest_concat_of_name {name : String} {config : Config} (named : config.name = .text name)
    (taken : List Config) : latest name (taken ++ [config]) = some config := by
  simp [latest, List.filter_append, named, Value.same_text_right]

theorem latest_concat_of_ne {name : String} {config : Config} (other : config.name ≠ .text name)
    (taken : List Config) : latest name (taken ++ [config]) = latest name taken := by
  simp [latest, List.filter_append, other, Value.same_text_right]

/-- The registry holds what has been taken up, and its chats are with what it holds. -/
structure Coherent (registry : Registry) (taken : List Config) : Prop where
  configs : ∀ name : String, Entries.find? (.text name) registry.configs = latest name taken
  named : ∀ entry ∈ registry.configs,
    entry.1 = entry.2.name ∨ entry.1.same entry.2.name = true
  default : ∃ config, Entries.find? defaultName registry.configs = some config
  chats : ∀ entry ∈ registry.clients, ∃ name config, entry.1 = .text name ∧
    Entries.find? (.text name) registry.configs = some config ∧
      Chat.of? config = .ok entry.2.chat
  numbered : ∀ entry ∈ registry.clients, entry.2.number < registry.opened
  distinct : ∀ entry ∈ registry.clients, ∀ other ∈ registry.clients,
    entry.2.number = other.2.number → entry = other

theorem coherent_start (environment : Scope) :
    Coherent (start environment) [builtIn environment] where
  configs name := by
    by_cases isDefault : name = "default"
    · subst isDefault
      rfl
    · simp [start, latest, Entries.find?, builtIn, defaultName, Value.same, Ne.symm isDefault]
  named := by simp [start, builtIn]
  default := ⟨_, rfl⟩
  chats := by simp [start]
  numbered := by simp [start]
  distinct := by simp [start]

theorem eq_put_of_register {registry next : Registry} {config : Config}
    (registered : registry.register config = .ok next) : next = registry.put config := by
  unfold register at registered
  split at registered <;> cases registered
  rfl

namespace Coherent

variable {registry : Registry} {taken : List Config}

/-! ### Looking up -/

theorem name_of_find? (coherent : Coherent registry taken) {name : String} {config : Config}
    (found : Entries.find? (.text name) registry.configs = some config) :
    config.name = .text name := by
  rcases coherent.named _ (Entries.mem_of_find?_text found) with own | same
  · exact own.symm
  · exact Value.same_text_left.mp same

theorem find?_default (coherent : Coherent registry taken) :
    Entries.find? defaultName registry.configs = some registry.default := by
  obtain ⟨config, found⟩ := coherent.default
  rw [Registry.default, found]
  rfl

/-- What is found under a name has the name that it is kept under. -/
theorem exists_find?_get (coherent : Coherent registry taken) (name : String) :
    ∃ own, (registry.get (.text name)).name = .text own ∧
      Entries.find? (.text own) registry.configs = some (registry.get (.text name)) := by
  unfold get
  cases found : Entries.find? (.text name) registry.configs with
  | some config => exact ⟨name, coherent.name_of_find? found, found⟩
  | none =>
    have isDefault := coherent.find?_default
    exact ⟨"default", coherent.name_of_find? isDefault, isDefault⟩

/-! ### Taking up -/

theorem put (coherent : Coherent registry taken) (config : Config) :
    Coherent (registry.put config) (taken ++ [config]) where
  configs name := by
    by_cases named : config.name = .text name
    · rw [latest_concat_of_name named, Registry.put, named, Entries.find?_insert_self]
    · rw [latest_concat_of_ne named, ← coherent.configs, Registry.put,
        Entries.find?_insert_of_ne named]
  named entry isEntry := by
    rcases Entries.mem_insert isEntry with before | ⟨isConfig, key⟩
    · exact coherent.named entry before
    · rw [isConfig]
      exact key
  default := by
    by_cases named : config.name = defaultName
    · exact ⟨config, by rw [Registry.put, named, defaultName, Entries.find?_insert_self]⟩
    · obtain ⟨default, found⟩ := coherent.default
      exact ⟨default, by rw [Registry.put, defaultName, Entries.find?_insert_of_ne named, ← found]; rfl⟩
  chats entry isEntry := by
    obtain ⟨before, other⟩ := Entries.mem_without_iff.mp isEntry
    obtain ⟨name, stored, isName, found, opened⟩ := coherent.chats entry before
    have unnamed : config.name ≠ .text name := by
      intro named
      rw [isName, named] at other
      simp [Value.same] at other
    refine ⟨name, stored, isName, ?_, opened⟩
    rw [Registry.put, Entries.find?_insert_of_ne unnamed, found]
  numbered entry isEntry := coherent.numbered entry (Entries.mem_without_iff.mp isEntry).1
  distinct entry isEntry other isOther :=
    coherent.distinct entry (Entries.mem_without_iff.mp isEntry).1 other
      (Entries.mem_without_iff.mp isOther).1

theorem putAll (coherent : Coherent registry taken) (configs : List Config) :
    Coherent (registry.putAll configs) (taken ++ configs) := by
  induction configs generalizing registry taken with
  | nil =>
    rw [List.append_nil]
    exact coherent
  | cons config configs inductionHypothesis =>
    rw [← List.singleton_append, ← List.append_assoc]
    exact inductionHypothesis (coherent.put config)

theorem takeUp (coherent : Coherent registry taken) (default : Config) (entries : Entries) :
    Coherent (Registry.takeUp default registry entries).registry
      (taken ++ accepted default (reached entries)) := by
  rw [registry_takeUp]
  exact coherent.putAll _

end Coherent

/-! ### Opening chats -/

/-- A chat is one that was opened before, or it is opened now with the configuration that is found. -/
theorem client_eq_ok {registry next : Registry} {name : Value} {client : Client}
    (opened : registry.client name = .ok (client, next)) :
    (Entries.find? (registry.get name).name registry.clients = some client ∧ next = registry) ∨
      (Entries.find? (registry.get name).name registry.clients = none ∧
        Chat.of? (registry.get name) = .ok client.chat ∧ client.number = registry.opened ∧
        next = { registry with
          clients := registry.clients ++ [((registry.get name).name, client)]
          opened := registry.opened + 1 }) := by
  unfold Registry.client at opened
  dsimp only at opened
  cases known : Entries.find? (registry.get name).name registry.clients with
  | some found =>
    rw [known] at opened
    cases opened
    exact .inl ⟨rfl, rfl⟩
  | none =>
    rw [known] at opened
    dsimp only at opened
    cases made : Chat.of? (registry.get name) with
    | error fault =>
      rw [made] at opened
      cases opened
    | ok chat =>
      rw [made] at opened
      cases opened
      exact .inr ⟨rfl, rfl, rfl, by rw [Entries.insert_of_find?_eq_none known]⟩

namespace Coherent

variable {registry : Registry} {taken : List Config}

theorem client (coherent : Coherent registry taken) {name : String} {client : Client}
    {next : Registry} (opened : registry.client (.text name) = .ok (client, next)) :
    Coherent next taken := by
  rcases client_eq_ok opened with ⟨_, rfl⟩ | ⟨_, made, isNext, rfl⟩
  · exact coherent
  · obtain ⟨own, named, found⟩ := coherent.exists_find?_get name
    refine ⟨coherent.configs, coherent.named, coherent.default, ?_, ?_, ?_⟩
    · rw [List.forall_mem_append, List.forall_mem_singleton]
      exact ⟨coherent.chats, own, _, named, found, made⟩
    · rw [List.forall_mem_append, List.forall_mem_singleton]
      refine ⟨fun entry isEntry => Nat.lt_succ_of_lt (coherent.numbered entry isEntry), ?_⟩
      rw [isNext]
      exact Nat.lt_succ_self _
    · have new : ∀ entry ∈ registry.clients, entry.2.number ≠ client.number := by
        intro entry isEntry
        rw [isNext]
        exact Nat.ne_of_lt (coherent.numbered entry isEntry)
      intro entry isEntry other isOther same
      simp only [List.mem_append, List.mem_singleton] at isEntry isOther
      rcases isEntry with isEntry | rfl <;> rcases isOther with isOther | rfl
      · exact coherent.distinct entry isEntry other isOther same
      · exact absurd same (new entry isEntry)
      · exact absurd same.symm (new other isOther)
      · rfl

theorem after (coherent : Coherent registry taken) (operation : Operation β) :
    Coherent (operation.after registry) (taken ++ operation.taken registry) := by
  cases operation with
  | register config =>
    rw [Operation.after, Operation.taken]
    cases registered : registry.register config with
    | error refusal =>
      rw [List.append_nil]
      exact coherent
    | ok next =>
      obtain rfl := eq_put_of_register registered
      exact coherent.put config
  | registerAll entries => exact coherent.takeUp registry.default entries
  | client name =>
    rw [Operation.taken, List.append_nil, Operation.after]
    split
    · next opened => exact coherent.client opened
    · exact coherent
  | generate network name prompt schema world =>
    rw [Operation.taken, List.append_nil, Operation.after, Registry.generate]
    cases opened : registry.client (.text name) with
    | error fault => exact coherent
    | ok given => exact coherent.client opened

theorem afterAll (coherent : Coherent registry taken) (operations : List (Operation β)) :
    Coherent (registry.afterAll operations) (taken ++ registry.takenBy operations) := by
  induction operations generalizing registry taken with
  | nil =>
    rw [takenBy, List.append_nil]
    exact coherent
  | cons operation operations inductionHypothesis =>
    rw [takenBy, ← List.append_assoc]
    exact inductionHypothesis (coherent.after operation)

/-! ### What a chat is with -/

theorem get_eq (coherent : Coherent registry taken) (name : String) :
    registry.get (.text name) = (latest name taken).getD registry.default := by
  rw [get, coherent.configs]

/-- A chat for a name is with the configuration that is found under it. -/
theorem chat_of_client (coherent : Coherent registry taken) {name : String} {client : Client}
    {next : Registry} (opened : registry.client (.text name) = .ok (client, next)) :
    Chat.of? (registry.get (.text name)) = .ok client.chat := by
  rcases client_eq_ok opened with ⟨known, _⟩ | ⟨_, made, _⟩
  · obtain ⟨own, named, found⟩ := coherent.exists_find?_get name
    rw [named] at known
    obtain ⟨stored, config, isOwn, isStored, made⟩ :=
      coherent.chats _ (Entries.mem_of_find?_text known)
    obtain rfl := Value.text.inj isOwn
    rw [found] at isStored
    cases isStored
    exact made
  · exact made

theorem exists_client_iff (coherent : Coherent registry taken) (name : String) :
    (∃ client next, registry.client (.text name) = .ok (client, next)) ↔
      (registry.get (.text name)).HasAddress := by
  rw [← Chat.exists_of?_iff]
  constructor
  · rintro ⟨client, next, opened⟩
    exact ⟨_, coherent.chat_of_client opened⟩
  · rintro ⟨chat, made⟩
    unfold Registry.client
    dsimp only
    cases known : Entries.find? (registry.get (.text name)).name registry.clients with
    | some client => exact ⟨client, registry, rfl⟩
    | none =>
      rw [made]
      exact ⟨_, _, rfl⟩

/-- The chat that has been given for a name is kept under the name of its configuration. -/
theorem find?_of_client (coherent : Coherent registry taken) {name : String} {client : Client}
    {next : Registry} (opened : registry.client (.text name) = .ok (client, next)) :
    Entries.find? (registry.get (.text name)).name next.clients = some client := by
  rcases client_eq_ok opened with ⟨known, rfl⟩ | ⟨unknown, _, _, rfl⟩
  · exact known
  · obtain ⟨own, named, _⟩ := coherent.exists_find?_get name
    rw [named] at unknown ⊢
    dsimp only
    rw [← Entries.insert_of_find?_eq_none unknown, Entries.find?_insert_self]

theorem get_of_client {name : Value} {client : Client} {next : Registry}
    (opened : registry.client name = .ok (client, next)) (other : Value) :
    next.get other = registry.get other := by
  rcases client_eq_ok opened with ⟨_, rfl⟩ | ⟨_, _, _, rfl⟩ <;> rfl

theorem clients_subset_of_client {name : Value} {client : Client} {next : Registry}
    (opened : registry.client name = .ok (client, next)) :
    registry.clients ⊆ next.clients := by
  rcases client_eq_ok opened with ⟨_, rfl⟩ | ⟨_, _, _, rfl⟩
  · exact List.Subset.refl _
  · exact List.subset_append_left _ _

/-- Chats that are asked for one after the other are the same if and only if the configurations that
are found have the same name, and a chat is told by its number. -/
theorem eq_client_iff (coherent : Coherent registry taken) {a b : String} {first second : Client}
    {next last : Registry} (opened : registry.client (.text a) = .ok (first, next))
    (openedThen : next.client (.text b) = .ok (second, last)) :
    (first = second ↔ (registry.get (.text a)).name = (registry.get (.text b)).name) ∧
      (first.number = second.number → first = second) := by
  have coherentNext := coherent.client opened
  have firstKept := coherent.find?_of_client opened
  have byNumber (sameNumber : first.number = second.number) :
      (registry.get (.text a)).name = (registry.get (.text b)).name := by
    have secondKept := coherentNext.find?_of_client openedThen
    rw [get_of_client opened] at secondKept
    obtain ⟨own, named, _⟩ := coherent.exists_find?_get a
    obtain ⟨other, otherNamed, _⟩ := coherent.exists_find?_get b
    rw [named] at firstKept ⊢
    rw [otherNamed] at secondKept ⊢
    have isFirst := clients_subset_of_client openedThen (Entries.mem_of_find?_text firstKept)
    have isSecond := Entries.mem_of_find?_text secondKept
    exact congrArg Prod.fst
      ((coherentNext.client openedThen).distinct _ isFirst _ isSecond sameNumber)
  have byName (sameName : (registry.get (.text a)).name = (registry.get (.text b)).name) :
      first = second := by
    rw [sameName, ← get_of_client opened] at firstKept
    rcases client_eq_ok openedThen with ⟨known, _⟩ | ⟨unknown, _⟩
    · exact Option.some.inj (firstKept.symm.trans known)
    · rw [firstKept] at unknown
      cases unknown
  exact ⟨⟨fun same => byNumber (congrArg Client.number same), byName⟩, fun same =>
    byName (byNumber same)⟩

end Coherent

/-- However a registry has come about, a look-up finds the configuration that was taken up last under
the name, or else the one that was taken up last under the name of the default; every configuration
is kept under its own name; a chat is opened for a name just when the configuration that is found has
an address, and it is with this configuration; and two names share a chat if and only if their
configurations have the same name. -/
theorem registry_coherent (environment : Scope) (operations : List (Operation β)) :
    let registry := (start environment).afterAll operations
    let taken := builtIn environment :: (start environment).takenBy operations
    (∀ name, registry.get (.text name) = (latest name taken).getD registry.default) ∧
      latest "default" taken = some registry.default ∧
      (∀ entry ∈ registry.configs, entry.1 = entry.2.name ∨ entry.1.same entry.2.name = true) ∧
      (∀ name, (∃ client next, registry.client (.text name) = .ok (client, next)) ↔
        (registry.get (.text name)).HasAddress) ∧
      (∀ name client next, registry.client (.text name) = .ok (client, next) →
        client.chat.config = registry.get (.text name)) ∧
      ∀ a b first next second last, registry.client (.text a) = .ok (first, next) →
        next.client (.text b) = .ok (second, last) →
          (first = second ↔ (registry.get (.text a)).name = (registry.get (.text b)).name) ∧
            (first.number = second.number → first = second) := by
  intro registry taken
  have coherent : Coherent registry taken := (coherent_start environment).afterAll operations
  refine ⟨coherent.get_eq, ?_, coherent.named, coherent.exists_client_iff, ?_, ?_⟩
  · rw [← coherent.configs]
    exact coherent.find?_default
  · intro name client next opened
    exact Chat.config_of? (coherent.chat_of_client opened)
  · intro a b first next second last opened openedThen
    exact coherent.eq_client_iff opened openedThen

def backendAt (name address : String) : Config :=
  ⟨.text name, .text address, .text "small", .null, []⟩

/-- A backend is opened, taken up again at another address, and the default one is taken up after it.
-/
def moves : List (Operation Unit) :=
  [.register (backendAt "near" "http://one"), .client "near", .client "far",
    .register (backendAt "near" "http://two"), .register (backendAt "near" ""),
    .registerAll (Entries.ofFields
      [("default", .map (Entries.ofFields [("uri", .text "http://three")]))])]

theorem registry_coherent_moves :
    let registry := (start .empty).afterAll moves
    ∃ first next second last, registry.client (.text "near") = .ok (first, next) ∧
      next.client (.text "far") = .ok (second, last) ∧
      first.chat.config = backendAt "near" "http://two" ∧
      (registry.get (.text "far")).address = .text "http://three" ∧
      (first = second ↔ (registry.get (.text "near")).name = (registry.get (.text "far")).name) ∧
      first.number ≠ second.number := by
  intro registry
  obtain ⟨_, _, _, _, isWith, shared⟩ := registry_coherent (β := Unit) .empty moves
  obtain ⟨first, next, opened, second, last, openedThen⟩ :
      ∃ first next, registry.client (.text "near") = .ok (first, next) ∧
        ∃ second last, next.client (.text "far") = .ok (second, last) := ⟨_, _, rfl, _, _, rfl⟩
  obtain ⟨same, byNumber⟩ := shared _ _ _ _ _ _ opened openedThen
  have isTwo : registry.get (.text "near") = backendAt "near" "http://two" := rfl
  have isDefault : (registry.get (.text "far")).name = .text "default" := rfl
  refine ⟨first, next, second, last, opened, openedThen, ?_, rfl, same, ?_⟩
  · exact (isWith _ _ _ opened).trans isTwo
  · intro sameNumber
    have sameName := same.mp (byNumber sameNumber)
    rw [isTwo, isDefault] at sameName
    exact absurd (Value.text.inj sameName) (by decide)

end Registry

end PromptTree.Backend
