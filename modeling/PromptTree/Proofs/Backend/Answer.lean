import PromptTree.Backend.Chat
import PromptTree.Proofs.Stretch

/-!
What a chat makes of whatever comes back from the network. `Says` tells which answers have a text,
`Misshapen` in which of them something else stands where the message or its content is read, and
`ReadAs` what a text is read as. Main statement: a chat decodes the text of an answer or reports a
failure, unless the answer is misshapen or the address cannot be read (`ask_decodes_or_fails`); a
misshapen answer is not reported as a failure (`not_decodes_or_fails`).
-/

namespace PromptTree.Backend.Chat

/-- The text of an answer: the content of its message, which is not empty. -/
inductive Says : Value → String → Prop where
  | content {entries message : Entries} {said : String} :
    Entries.get? entries "message" = some (.map message) →
    Entries.get? message "content" = some (.text said) → said ≠ "" → Says (.map entries) said

/-- Something else than a map stands for the message, or something else than a text for its content.
What is null, false, zero or empty stands for nothing. -/
inductive Misshapen : Value → Prop where
  | message {entries : Entries} {v : Value} :
    Entries.get? entries "message" = some v → v.isTruthy = true → v.asMap? = none →
    Misshapen (.map entries)
  | content {entries message : Entries} {v : Value} :
    Entries.get? entries "message" = some (.map message) →
    Entries.get? message "content" = some v → v.isTruthy = true → v.asText? = none →
    Misshapen (.map entries)

/-- What a text is read as: without a schema as itself, with one as the JSON object that it writes. -/
inductive ReadAs : Option Value → String → Value → Prop where
  | text {answer : String} : ReadAs none answer (.text answer)
  | object {schema : Value} {answer : String} {entries : Entries} :
    Json.read answer = .ok (.map entries) → ReadAs (some schema) answer (.map entries)

/-- A text without the thoughts in it and the white space around it. -/
def spoken (said : String) : String :=
  .ofList (Text.trimWhile Text.isBlank (withoutThoughts said.length said.toList))

section

variable {raw v : Value} {said : String}

theorem isTruthy_of_ne_empty (notEmpty : said ≠ "") : (Value.text said).isTruthy = true := by
  simp [Value.isTruthy, notEmpty]

/-- A map in which something is found is not empty. -/
theorem isTruthy_of_get? {entries : Entries} {key : String} (found : Entries.get? entries key = some v) :
    (Value.map entries).isTruthy = true := by
  cases entries with
  | nil => cases found
  | cons entry entries => rfl

theorem content?_of_message {entries message : Entries}
    (isMessage : Entries.get? entries "message" = some (.map message))
    (isContent : Entries.get? message "content" = some v) (truthy : v.isTruthy = true) :
    content? (.map entries) = .ok (some v) := by
  unfold content?
  dsimp only
  rw [isMessage, Option.filter_some, if_pos (isTruthy_of_get? isContent)]
  dsimp only
  rw [isContent, Option.filter_some, if_pos truthy]

theorem Says.answerText_eq (isSaid : Says raw said) : answerText raw = .ok (spoken said) := by
  cases isSaid with
  | content isMessage isContent notEmpty =>
    unfold answerText
    rw [content?_of_message isMessage isContent (isTruthy_of_ne_empty notEmpty)]
    rfl

/-- Nothing is reported of a misshapen answer. -/
theorem Misshapen.answerText_eq (misshapen : Misshapen raw) :
    answerText raw = .error .messageNotMap ∨ answerText raw = .error .contentNotText := by
  unfold answerText
  cases misshapen with
  | @message entries v isMessage truthy notMap =>
    have failed : content? (.map entries) = .error .messageNotMap := by
      unfold content?
      dsimp only
      rw [isMessage, Option.filter_some, if_pos truthy]
      cases v with
      | map => cases notMap
      | _ => rfl
    rw [failed]
    exact .inl rfl
  | @content entries message v isMessage isContent truthy notText =>
    rw [content?_of_message isMessage isContent truthy]
    cases v with
    | text => cases notText
    | _ => exact .inr rfl

/-- An answer that neither says anything nor is misshapen is reported. -/
theorem answerText_of_neither (silent : ∀ said, ¬ Says raw said) (wellShaped : ¬ Misshapen raw) :
    ∃ message, answerText raw = .error (.failed message) := by
  have nothing : content? raw = .ok none := by
    unfold content?
    split
    · next entries =>
      split
      · rfl
      · next message isMessage =>
        obtain ⟨isMessage, _⟩ := Option.filter_eq_some_iff.mp isMessage
        congr 1
        rw [Option.filter_eq_none_iff]
        intro v isContent truthy
        cases v with
        | text said => exact silent said (.content isMessage isContent (by simpa [Value.isTruthy] using truthy))
        | _ => exact wellShaped (.content isMessage isContent truthy rfl)
      · next v notMap isMessage =>
        obtain ⟨isMessage, truthy⟩ := Option.filter_eq_some_iff.mp isMessage
        refine absurd (.message isMessage truthy ?_) wellShaped
        cases v with
        | map message => exact absurd rfl (notMap message)
        | _ => rfl
    · rfl
  unfold answerText
  rw [nothing]
  exact ⟨_, rfl⟩

theorem exists_says_of_answerText {text : String} (isText : answerText raw = .ok text) :
    ∃ said, Says raw said ∧ text = spoken said := by
  by_cases isSaid : ∃ said, Says raw said
  · obtain ⟨said, isSaid⟩ := isSaid
    have same := isText.symm.trans isSaid.answerText_eq
    exact ⟨said, isSaid, Except.ok.inj same⟩
  · by_cases misshapen : Misshapen raw
    · rcases misshapen.answerText_eq with failed | failed
      all_goals
        rw [failed] at isText
        cases isText
    · obtain ⟨message, failed⟩ := answerText_of_neither (not_exists.mp isSaid) misshapen
      rw [failed] at isText
      cases isText

theorem decode_eq_ok_iff {schema : Option Value} {answer : String} :
    decode schema answer = .ok v ↔ ReadAs schema answer v := by
  constructor
  · intro decoded
    unfold decode at decoded
    split at decoded
    · cases decoded
      exact .text
    · split at decoded
      · next isObject =>
        cases decoded
        exact .object isObject
      · cases decoded
      · cases decoded
  · intro readAs
    cases readAs with
    | text => rfl
    | object isObject =>
      unfold decode
      dsimp only
      rw [isObject]

theorem decode_ok_or_failed (schema : Option Value) (answer : String) :
    (∃ v, decode schema answer = .ok v) ∨ ∃ message, decode schema answer = .error (.failed message) := by
  unfold decode
  split
  · exact .inl ⟨_, rfl⟩
  · split
    · exact .inl ⟨_, rfl⟩
    · exact .inr ⟨_, rfl⟩
    · exact .inr ⟨_, rfl⟩

end

/-! ### Whatever comes back -/

section

variable {chat : Chat} {schema : Option Value} {answer : Web.Answer}

theorem outcome_data (chat : Chat) (schema : Option Value) (raw : Value) :
    chat.outcome schema (.data raw) = answerText raw >>= decode schema := rfl

theorem outcome_eq_ok_iff {v : Value} :
    chat.outcome schema answer = .ok v ↔
      ∃ raw said, answer = .data raw ∧ Says raw said ∧ ReadAs schema (spoken said) v := by
  constructor
  · intro decoded
    cases answer with
    | data raw =>
      rw [outcome_data] at decoded
      obtain ⟨text, isText, decoded⟩ := except_bind_eq_ok_iff.mp decoded
      obtain ⟨said, isSaid, rfl⟩ := exists_says_of_answerText isText
      exact ⟨raw, said, rfl, isSaid, decode_eq_ok_iff.mp decoded⟩
    | _ => cases decoded
  · rintro ⟨raw, said, rfl, isSaid, readAs⟩
    rw [outcome_data, except_bind_eq_ok_iff]
    exact ⟨_, isSaid.answerText_eq, decode_eq_ok_iff.mpr readAs⟩

theorem outcome_of_wellShaped (wellShaped : ∀ raw, answer = .data raw → ¬ Misshapen raw) :
    (∃ v, chat.outcome schema answer = .ok v) ∨
      ∃ message, chat.outcome schema answer = .error (.failed message) := by
  cases answer with
  | data raw =>
    rw [outcome_data]
    by_cases isSaid : ∃ said, Says raw said
    · obtain ⟨said, isSaid⟩ := isSaid
      rw [isSaid.answerText_eq]
      exact decode_ok_or_failed schema (spoken said)
    · obtain ⟨message, failed⟩ :=
        answerText_of_neither (not_exists.mp isSaid) (wellShaped raw rfl)
      rw [failed]
      exact .inr ⟨message, rfl⟩
  | _ => exact .inr ⟨_, rfl⟩

theorem outcome_of_misshapen {raw : Value} (chat : Chat) (schema : Option Value)
    (misshapen : Misshapen raw) :
    chat.outcome schema (.data raw) = .error .messageNotMap ∨
      chat.outcome schema (.data raw) = .error .contentNotText := by
  rw [outcome_data]
  rcases misshapen.answerText_eq with failed | failed <;> rw [failed]
  · exact .inl rfl
  · exact .inr rfl

end

/-- What comes of a prompt. There is an answer if and only if the address can be read and what comes back
has a text, which without a schema is the answer, and with one writes the JSON object that is the answer.
In all other cases a failure is reported, whatever comes back, unless the address cannot be read or what
comes back is misshapen. -/
theorem ask_decodes_or_fails {β : Type} (network : Web.Network β) (chat : Chat) (prompt : String)
    (schema : Option Value) (world : β) :
    let answer := (network.post (chat.request prompt schema) world).1
    let ended := (chat.ask network prompt schema world).outcome
    let readable := ∃ uri, Uri.read chat.url = .ok uri
    (∀ v, ended = .ok v ↔ readable ∧
      ∃ raw said, answer = .data raw ∧ Says raw said ∧ ReadAs schema (spoken said) v) ∧
    ((∃ v, ended = .ok v) ∨ (∃ message, ended = .error (.failed message)) ↔
      readable ∧ ∀ raw, answer = .data raw → ¬ Misshapen raw) := by
  intro answer ended readable
  cases read : Uri.read chat.url with
  | error fault =>
    have unread : ¬ readable := by
      rintro ⟨uri, isRead⟩
      rw [read] at isRead
      cases isRead
    have failed : ended = .error (.address fault) := by
      change (chat.ask network prompt schema world).outcome = _
      unfold ask
      rw [read]
    rw [failed]
    simp [unread]
  | ok uri =>
    have isRead : readable := ⟨uri, read⟩
    have decoded : ended = chat.outcome schema answer := by
      change (chat.ask network prompt schema world).outcome = _
      unfold ask
      rw [read]
    rw [decoded]
    refine ⟨fun v => ?_, ?_, ?_⟩
    · rw [outcome_eq_ok_iff, and_iff_right isRead]
    · intro fine
      refine ⟨isRead, ?_⟩
      intro raw isRaw misshapen
      rw [isRaw] at fine
      rcases outcome_of_misshapen chat schema misshapen with failed | failed
      all_goals
        rw [failed] at fine
        simp at fine
    · rintro ⟨_, wellShaped⟩
      exact outcome_of_wellShaped wellShaped

/-- A backend that is too busy to send a message in its proper form. -/
def busyNetwork : Web.Network Unit where
  post _ _ := (.data (.map (Entries.ofFields [("message", .text "busy")])), ())
  get _ _ := (.error "no page", ())

/-- A message that is a text where a map is read is neither decoded nor reported as a failure. -/
theorem not_decodes_or_fails :
    ¬ ∀ (network : Web.Network Unit) (config : Config) (chat : Chat) (prompt : String)
      (schema : Option Value), Chat.of? config = .ok chat →
      (∃ v, (chat.ask network prompt schema ()).outcome = .ok v) ∨
        ∃ message, (chat.ask network prompt schema ()).outcome = .error (.failed message) := by
  intro claimed
  obtain ⟨chat, opened⟩ : ∃ chat,
      Chat.of? ⟨.text "near", .text "http://one", .text "small", .null, []⟩ = .ok chat := ⟨_, rfl⟩
  have misshapen : (chat.ask busyNetwork "Are you there?" none ()).outcome =
      .error .messageNotMap := by
    cases opened
    rfl
  have fine := claimed busyNetwork _ chat "Are you there?" none opened
  rw [misshapen] at fine
  simp at fine

end PromptTree.Backend.Chat
