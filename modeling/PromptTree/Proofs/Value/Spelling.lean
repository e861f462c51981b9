import PromptTree.Proofs.Text.Classes
import PromptTree.Proofs.Value.Reading

/-!
Values that are spelled the same as they are shown and as they are kept. A value is shown with its texts
between quotes and kept as JSON. The two spellings are the same, or they part at some character, and
neither can make up for that later on; so a list or map is spelled the same exactly if everything in
it is (`spelled`). As a whole, a value is shown as it is kept if it is a text or number or such a
list or map (`toText_eq_shown_iff`).
-/

namespace PromptTree

/-! ### Spellings -/

def Parts (first second : List Char) : Prop :=
  ∃ lead c d rest rest', c ≠ d ∧ first = lead ++ c :: rest ∧ second = lead ++ d :: rest'

/-- The texts are the same if so it is claimed, and otherwise they part. -/
def Spelled (alike : Bool) (first second : List Char) : Prop :=
  if alike then first = second else Parts first second

theorem parts_cons {c d : Char} (different : c ≠ d) (rest rest' : List Char) :
    Parts (c :: rest) (d :: rest') :=
  ⟨[], c, d, rest, rest', different, rfl, rfl⟩

variable {alike alikeToo : Bool} {first second more moreToo : List Char}

theorem Parts.append (parts : Parts first second) (more moreToo : List Char) :
    Parts (first ++ more) (second ++ moreToo) := by
  obtain ⟨lead, c, d, rest, rest', different, rfl, rfl⟩ := parts
  exact ⟨lead, c, d, rest ++ more, rest' ++ moreToo, different, by simp, by simp⟩

theorem Parts.prepend (parts : Parts first second) (lead : List Char) :
    Parts (lead ++ first) (lead ++ second) := by
  obtain ⟨begin, c, d, rest, rest', different, rfl, rfl⟩ := parts
  exact ⟨lead ++ begin, c, d, rest, rest', different, by simp, by simp⟩

theorem Parts.ne (parts : Parts first second) : first ≠ second := by
  obtain ⟨lead, c, d, rest, rest', different, rfl, rfl⟩ := parts
  intro same
  exact different (List.cons.inj (List.append_cancel_left same)).1

theorem spelled_refl (text : List Char) : Spelled true text text :=
  rfl

theorem Spelled.eq_iff (spelled : Spelled alike first second) : first = second ↔ alike = true := by
  cases alike with
  | true => exact iff_of_true spelled rfl
  | false => exact iff_of_false (Parts.ne spelled) Bool.false_ne_true

/-- Where two spellings part, nothing that follows brings them together. -/
theorem Spelled.append (spelled : Spelled alike first second)
    (spelledToo : Spelled alikeToo more moreToo) :
    Spelled (alike && alikeToo) (first ++ more) (second ++ moreToo) := by
  cases alike with
  | false => exact Parts.append spelled more moreToo
  | true =>
    obtain rfl : first = second := spelled
    cases alikeToo with
    | false => exact Parts.prepend spelledToo first
    | true =>
      obtain rfl : more = moreToo := spelledToo
      exact spelled_refl _

/-- Both texts between the same ends. -/
theorem Spelled.between (spelled : Spelled alike first second) (before after : List Char) :
    Spelled alike (before ++ first ++ after) (before ++ second ++ after) := by
  have whole := ((spelled_refl before).append spelled).append (spelled_refl after)
  rwa [Bool.true_and, Bool.and_true] at whole

/-! ### Texts -/

/-- The character stands between quotes as it does in JSON. -/
def charAlike (c : Char) : Bool :=
  Text.isPrintable c || c = '\t' || c = '\n' || c = '\r'

/-- The text is quoted as it is in JSON: it is put between double quotes, and all its characters stand
there the same. -/
def textAlike (s : String) : Bool :=
  s.toList.contains '\'' && !s.toList.contains '"' && s.toList.all charAlike

/-- The escapes of a character that is not printable. -/
theorem escape_of_not_isPrintable {c : Char} (notPlain : charAlike c = false) (notQuote : c ≠ '"')
    (notSlash : c ≠ '\\') : ∃ mark rest, Text.Quoted.escape '"' c = '\\' :: mark :: rest ∧
      (c.toNat < 0x100 → mark = 'x') := by
  simp only [charAlike, Bool.or_eq_false_iff, decide_eq_false_iff_not] at notPlain
  obtain ⟨⟨⟨notPrintable, notTab⟩, notLine⟩, notReturn⟩ := notPlain
  simp only [Text.Quoted.escape, notQuote, notSlash, notTab, notLine, notReturn, notPrintable,
    decide_false, Bool.or_false, Bool.false_eq_true, if_false]
  split
  · exact ⟨'x', _, rfl, fun _ => rfl⟩
  · next large =>
    split
    · exact ⟨'u', _, rfl, fun small => absurd small large⟩
    · exact ⟨'U', _, rfl, fun small => absurd small large⟩

theorem isPrintable_of_lt {c : Char} (small : c.toNat < 0x20) : Text.isPrintable c = false := by
  have apart : Text.rangesApart [(0x00, 0x1F)] Text.printableRanges = true := by
    decide +kernel
  apply Text.not_inRanges_of_apart apart
  rw [Text.inRanges_eq_true_iff]
  exact ⟨_, List.mem_singleton_self _, Nat.zero_le _, Nat.le_of_lt_succ small⟩

theorem json_escape_of_large {c : Char} (notQuote : c ≠ '"') (notSlash : c ≠ '\\')
    (large : 0x20 ≤ c.toNat) : Json.escape Json.plain c = [c] := by
  have notControl : ∀ d ∈ ['\n', '\r', '\t', '\x08', '\x0c'], c ≠ d := by
    have control : ∀ d ∈ ['\n', '\r', '\t', '\x08', '\x0c'], d.toNat < 0x20 :=
      Text.forall_mem_of_all (by decide)
    rintro d isControl rfl
    exact Nat.not_lt.mpr large (control c isControl)
  simp only [List.forall_mem_cons] at notControl
  obtain ⟨notLine, notReturn, notTab, notBack, notFeed, _⟩ := notControl
  unfold Json.escape
  rw [if_neg notQuote, if_neg notSlash, if_neg notLine, if_neg notReturn, if_neg notTab,
    if_neg notBack, if_neg notFeed, if_neg (by simpa [Json.plain] using large)]

theorem json_escape_of_small {c : Char} (small : c.toNat < 0x20)
    (notSpace : c ∉ ['\n', '\r', '\t']) :
    ∃ mark rest, Json.escape Json.plain c = '\\' :: mark :: rest ∧ 'x' ≠ mark := by
  have escapes : ['b', 'f', 'u'].any (fun mark =>
      (Json.escape Json.plain c).take 2 == ['\\', mark]) = true := by
    revert notSpace
    exact Text.of_code_lt small (by decide +kernel)
  obtain ⟨mark, isMark, isEscape⟩ := List.any_eq_true.mp escapes
  rw [beq_iff_eq] at isEscape
  have whole := (List.take_append_drop 2 (Json.escape Json.plain c)).symm
  rw [isEscape] at whole
  refine ⟨mark, _, whole, ?_⟩
  rintro rfl
  revert isMark
  decide

theorem spelled_escape (c : Char) :
    Spelled (charAlike c) (Text.Quoted.escape '"' c) (Json.escape Json.plain c) := by
  by_cases special : c ∈ ['"', '\\', '\n', '\r', '\t']
  · have same : ∀ c ∈ ['"', '\\', '\n', '\r', '\t'], charAlike c = true ∧
        Text.Quoted.escape '"' c = Json.escape Json.plain c :=
      Text.forall_mem_of_all (by decide +kernel)
    rw [(same c special).1]
    exact (same c special).2
  · rw [List.mem_cons, List.mem_cons, not_or, not_or] at special
    obtain ⟨notQuote, notSlash, notSpace⟩ := special
    cases isPlain : charAlike c with
    | true =>
      have printable : Text.isPrintable c = true := by
        simp only [List.mem_cons, List.not_mem_nil, or_false, not_or] at notSpace
        simpa [charAlike, notSpace] using isPlain
      have large : 0x20 ≤ c.toNat := by
        rw [← Nat.not_lt]
        intro small
        rw [isPrintable_of_lt small] at printable
        cases printable
      rw [json_escape_of_large notQuote notSlash large]
      simp only [List.mem_cons, List.not_mem_nil, or_false, not_or] at notSpace
      simp [Text.Quoted.escape, notQuote, notSlash, notSpace, printable, Spelled]
    | false =>
      obtain ⟨mark, rest, isEscape, isX⟩ := escape_of_not_isPrintable isPlain notQuote notSlash
      rw [isEscape]
      by_cases small : c.toNat < 0x20
      · obtain ⟨markToo, restToo, isEscapeToo, notX⟩ := json_escape_of_small small notSpace
        rw [isEscapeToo, isX (Nat.lt_trans small (by decide))]
        exact Parts.prepend (parts_cons notX rest restToo) ['\\']
      · rw [json_escape_of_large notQuote notSlash (Nat.not_lt.mp small)]
        exact parts_cons (Ne.symm notSlash) _ _

theorem spelled_text (s : String) :
    Spelled (textAlike s) (Text.quoted s).toList (Json.string Json.plain s).toList := by
  have content : Spelled (s.toList.all charAlike) (s.toList.flatMap (Text.Quoted.escape '"'))
      (s.toList.flatMap (Json.escape Json.plain)) := by
    induction s.toList with
    | nil => exact spelled_refl []
    | cons c cs inductionHypothesis => exact (spelled_escape c).append inductionHypothesis
  unfold textAlike Text.quoted Text.Quoted.encode Text.Quoted.quoteFor Json.string
  rw [String.toList_ofList, String.toList_ofList]
  dsimp only
  cases isDouble : s.toList.contains '\'' && !s.toList.contains '"' with
  | true => exact content.between ['"'] ['"']
  | false => exact parts_cons (by decide) _ _

/-! ### Values -/

namespace Value

mutual

/-- The value inside a list or map is shown as it is in JSON. -/
def spelledAlike : Value → Bool
  | int _ | float (.finite ..) => true
  | text s => textAlike s
  | list items => itemsAlike items
  | map entries => entriesAlike entries
  | _ => false
termination_by structural v => v

def itemsAlike : List Value → Bool
  | [] => true
  | item :: items => item.spelledAlike && itemsAlike items
termination_by structural items => items

/-- Each of the keys is a text that is, and each of the values is. -/
def entriesAlike : List (Value × Value) → Bool
  | [] => true
  | (k, v) :: entries => k.asText?.any textAlike && v.spelledAlike && entriesAlike entries
termination_by structural entries => entries

end

theorem spelled_float (x : Binary64) :
    Spelled (float x).spelledAlike x.text.toList (x.render Json.numbers).toList := by
  cases x with
  | nan => exact parts_cons (by decide) _ _
  | infinite negative =>
    have differ : Parts "inf".toList "Infinity".toList := parts_cons (by decide) _ _
    cases negative with
    | true => exact differ.prepend ['-']
    | false => exact differ
  | finite negative m e => exact spelled_refl _

theorem toList_enclose (opening closing : String) (level : Nat) (parts : List String) :
    (Json.enclose Json.plain level opening closing parts).toList =
      opening.toList ++ (String.intercalate ", " parts).toList ++ closing.toList := by
  unfold Json.enclose
  cases parts with
  | nil => simp
  | cons part parts => simp [Json.breakAt, Json.afterComma, Json.plain]

/-- Two parts and what follows them, joined by commas. -/
theorem spelled_intercalate {part partToo : String} {parts partsToo : List String}
    (sameEnd : parts = [] ↔ partsToo = []) (spelled : Spelled alike part.toList partToo.toList)
    (spelledToo : Spelled alikeToo (String.intercalate ", " parts).toList
      (String.intercalate ", " partsToo).toList) :
    Spelled (alike && alikeToo) (String.intercalate ", " (part :: parts)).toList
      (String.intercalate ", " (partToo :: partsToo)).toList := by
  by_cases isEnd : parts = []
  · obtain rfl := isEnd
    obtain rfl := sameEnd.mp rfl
    simpa using spelled.append spelledToo
  · have isEndToo := mt sameEnd.mpr isEnd
    rw [String.intercalate_cons_of_ne_nil isEnd, String.intercalate_cons_of_ne_nil isEndToo]
    have whole := spelled.append ((spelled_refl ", ".toList).append spelledToo)
    simpa using whole

mutual

/-- The two spellings of a value inside a list or map. -/
theorem spelled (level : Nat) : (v : Value) → IsJson v → {json : String} →
    Json.write? Json.plain level v = some json → Spelled v.spelledAlike v.quoted.toList json.toList
  | .null, _, _, rfl | .bool true, _, _, rfl | .bool false, _, _, rfl => parts_cons (by decide) _ _
  | .int _, _, _, rfl => spelled_refl _
  | .float x, _, _, rfl => spelled_float x
  | .text s, _, _, rfl => spelled_text s
  | .list items, .list isJson, json, written => by
    obtain ⟨parts, areWritten, isWhole⟩ := Option.bind_eq_some_iff.mp written
    cases isWhole
    rw [quoted, String.toList_append, String.toList_append, toList_enclose]
    exact (spelled_items (level + 1) items isJson areWritten).2.between _ _
  | .map entries, .map named isJson, json, written => by
    obtain ⟨parts, areWritten, isWhole⟩ := Option.bind_eq_some_iff.mp written
    cases isWhole
    rw [quoted, String.toList_append, String.toList_append, toList_enclose]
    have areEntries : ∀ entry ∈ entries, Json.IsEntry entry :=
      fun entry isEntry => ⟨named.areTexts entry isEntry, isJson entry isEntry⟩
    exact (spelled_entries (level + 1) entries areEntries areWritten).2.between _ _
termination_by structural v => v

theorem spelled_items (level : Nat) : (items : List Value) → (∀ item ∈ items, IsJson item) →
    {parts : List String} → Json.writeItems? Json.plain level items = some parts →
      (quotedItems items = [] ↔ parts = []) ∧
        Spelled (itemsAlike items) (String.intercalate ", " (quotedItems items)).toList
          (String.intercalate ", " parts).toList
  | [], _, parts, written => by
    cases written
    exact ⟨Iff.rfl, spelled_refl _⟩
  | item :: items, isJson, parts, written => by
    rw [List.forall_mem_cons] at isJson
    obtain ⟨part, isPart, written⟩ := Option.bind_eq_some_iff.mp written
    obtain ⟨more, areParts, whole⟩ := Option.bind_eq_some_iff.mp written
    cases whole
    have first := spelled level item isJson.1 isPart
    obtain ⟨sameEnd, rest⟩ := spelled_items level items isJson.2 areParts
    exact ⟨iff_of_false (List.cons_ne_nil _ _) (List.cons_ne_nil _ _),
      spelled_intercalate sameEnd first rest⟩
termination_by structural items => items

theorem spelled_entries (level : Nat) : (entries : List (Value × Value)) →
    (∀ entry ∈ entries, Json.IsEntry entry) → {parts : List String} →
      Json.writeEntries? Json.plain level entries = some parts →
        (quotedEntries entries = [] ↔ parts = []) ∧
          Spelled (entriesAlike entries) (String.intercalate ", " (quotedEntries entries)).toList
            (String.intercalate ", " parts).toList
  | [], _, parts, written => by
    cases written
    exact ⟨Iff.rfl, spelled_refl _⟩
  | (k, v) :: entries, areEntries, parts, written => by
    rw [List.forall_mem_cons] at areEntries
    obtain ⟨⟨name, rfl⟩, isJson⟩ := areEntries.1
    obtain ⟨value, isValue, written⟩ := Option.bind_eq_some_iff.mp written
    obtain ⟨more, areParts, whole⟩ := Option.bind_eq_some_iff.mp written
    cases whole
    have first := (spelled_text name).append
      ((spelled_refl ": ".toList).append (spelled level v isJson isValue))
    obtain ⟨sameEnd, rest⟩ := spelled_entries level entries areEntries.2 areParts
    refine ⟨iff_of_false (List.cons_ne_nil _ _) (List.cons_ne_nil _ _),
      spelled_intercalate sameEnd ?_ rest⟩
    simpa [asText?, quoted] using first
termination_by structural entries => entries

end

/-- The value as a whole is shown as it is kept. -/
def shownAlike : Value → Bool
  | int _ | float _ | text _ => true
  | v => v.spelledAlike

/-- What makes no difference inside a list or map makes none to the whole of it. -/
theorem toText_eq_quoted_iff {v : Value} {json : String} (isJson : IsJson v)
    (written : Json.write? Json.plain 0 v = some json) (kept : v.toText = .ok json) :
    v.toText = .ok v.quoted ↔ v.spelledAlike = true := by
  rw [← (spelled 0 v isJson written).eq_iff, String.toList_inj, kept, Except.ok.injEq, eq_comm]

/-- A value is kept as it is shown exactly if it is a text, a number, or a list or map in which every
part is spelled the same. -/
theorem toText_eq_shown_iff {v : Value} (isJson : IsJson v) :
    v.toText = .ok v.shown ↔ v.shownAlike = true := by
  have hasJson : ∃ json, Json.write? Json.plain 0 v = some json :=
    Option.ne_none_iff_exists'.mp fun none =>
      isJson.not_wordless ((write?_eq_none_iff Json.plain 0 v).mp none)
  obtain ⟨json, written⟩ := hasJson
  cases v with
  | null => exact iff_of_false (fun same => absurd (Except.ok.inj same) (by decide)) (by decide)
  | bool b =>
    cases b with
    | false => exact iff_of_false (fun same => absurd (Except.ok.inj same) (by decide)) (by decide)
    | true => exact iff_of_false (fun same => absurd (Except.ok.inj same) (by decide)) (by decide)
  | int n => exact iff_of_true rfl rfl
  | float x => exact iff_of_true rfl rfl
  | text s => exact iff_of_true rfl rfl
  | list items => exact toText_eq_quoted_iff isJson written (by simp only [toText, toJson?, written])
  | map entries => exact toText_eq_quoted_iff isJson written (by simp only [toText, toJson?, written])
  | date | moment | bytes | set => cases isJson

end Value

end PromptTree
