import Mathlib.Data.List.Chain
import PromptTree.Text.Markup
import PromptTree.Text.Split

/-!
Plain text as markup, and the way back. A text is scanned from left to right into characters and line
breaks, each break as long as it can be. Main statement: the markup of a text is that of its scan, so
every tag stands before a line break and no other mark is left, and the text comes back when the tags
are taken out and the entities are decoded, that of the ampersand last (`ofText_lossless`).
-/

namespace PromptTree.Text

/-! ### Replacing -/

theorem length_lt_of_after? {mark : Char} {tail text rest : List Char}
    (found : after? (mark :: tail) text = some rest) : rest.length < text.length := by
  rw [append_of_after? found, List.length_append, List.length_cons]
  omega

/-- The text with `new` for each `mark :: tail` in it, found from left to right. -/
def replaceAll (mark : Char) (tail new : List Char) : List Char → List Char
  | [] => []
  | c :: cs =>
    match found : after? (mark :: tail) (c :: cs) with
    | some rest =>
      have := length_lt_of_after? found
      new ++ replaceAll mark tail new rest
    | none => c :: replaceAll mark tail new cs
termination_by cs => cs.length
decreasing_by
  · exact this
  · exact Nat.lt_succ_self cs.length

section

variable {mark : Char} {tail new : List Char}

theorem replaceAll_found (rest : List Char) :
    replaceAll mark tail new (mark :: (tail ++ rest)) = new ++ replaceAll mark tail new rest := by
  have found : after? (mark :: tail) (mark :: (tail ++ rest)) = some rest :=
    after?_append (mark :: tail) rest
  rw [replaceAll]
  split
  · next others isFound =>
    obtain rfl := Option.some.inj (found.symm.trans isFound)
    rfl
  · next notFound => cases found.symm.trans notFound

theorem replaceAll_cons {c : Char} {cs : List Char} (notFound : ¬ mark :: tail <+: c :: cs) :
    replaceAll mark tail new (c :: cs) = c :: replaceAll mark tail new cs := by
  rw [replaceAll]
  split
  · next found => cases (after?_eq_none_iff.mpr notFound).symm.trans found
  · rfl

theorem replaceAll_append {front : List Char} (unmarked : mark ∉ front) (rest : List Char) :
    replaceAll mark tail new (front ++ rest) = front ++ replaceAll mark tail new rest := by
  induction front with
  | nil => rfl
  | cons c front inductionHypothesis =>
    rw [List.mem_cons, not_or] at unmarked
    rw [List.cons_append, replaceAll_cons, inductionHypothesis unmarked.2, List.cons_append]
    intro begins
    exact unmarked.1 (List.cons_prefix_cons.mp begins).1

end

namespace Markup

/-! ### Entities -/

/-- What follows the ampersand of an entity, and the character that it stands for. -/
structure Entity where
  tail : List Char
  char : Char

/-- The five entities. That of the ampersand is decoded last: it begins what looks like another one
where the text has an ampersand. -/
def entities : List Entity :=
  [⟨['l', 't', ';'], '<'⟩, ⟨['g', 't', ';'], '>'⟩, ⟨['q', 'u', 'o', 't', ';'], '"'⟩,
    ⟨['#', 'x', '2', '7', ';'], '\''⟩, ⟨['a', 'm', 'p', ';'], '&'⟩]

/-- The text with the entities decoded, one kind after the other. -/
def decodeAll (left : List Entity) (cs : List Char) : List Char :=
  left.foldl (fun cs e => replaceAll '&' e.tail [e.char] cs) cs

/-- A character as it is written while some entities are left to be decoded. -/
def code (left : List Entity) (c : Char) : List Char :=
  match left.find? (·.char = c) with
  | some e => '&' :: e.tail
  | none => [c]

theorem escapeChar_eq_code (c : Char) : escapeChar c = code entities c := by
  unfold escapeChar
  split
  case h_6 noAmpersand noLess noGreater noQuote noApostrophe =>
    have isNone : entities.find? (·.char = c) = none := by
      simp [entities, Ne.symm noAmpersand, Ne.symm noLess, Ne.symm noGreater, Ne.symm noQuote,
        Ne.symm noApostrophe]
    rw [code, isNone]
  all_goals rfl

/-- Two entities for different characters, neither of which begins as the other is written. -/
def Entity.Apart (e other : Entity) : Prop :=
  e.char ≠ other.char ∧ ¬ e.tail <+: other.tail ∧ ¬ other.tail <+: e.tail

instance (e other : Entity) : Decidable (e.Apart other) :=
  inferInstanceAs (Decidable (_ ∧ _ ∧ _))

section

variable {e : Entity} {left : List Entity}

theorem replaceAll_code (apart : ∀ other ∈ left, e.Apart other)
    (unmarked : ∀ other ∈ left, '&' ∉ other.tail)
    (ampersand : ∃ other ∈ e :: left, other.char = '&') (cs : List Char) :
    replaceAll '&' e.tail [e.char] (cs.flatMap (code (e :: left))) = cs.flatMap (code left) := by
  induction cs with
  | nil => rw [List.flatMap_nil, List.flatMap_nil, replaceAll]
  | cons c cs inductionHypothesis =>
    rw [List.flatMap_cons, List.flatMap_cons]
    by_cases isChar : e.char = c
    · have isBare : left.find? (·.char = c) = none := by
        rw [List.find?_eq_none]
        intro other isOther
        simpa [← isChar] using Ne.symm (apart other isOther).1
      have isCoded : code (e :: left) c = '&' :: e.tail := by simp [code, isChar]
      rw [isCoded, code, isBare, List.cons_append, replaceAll_found, inductionHypothesis, isChar]
    · have sameCode : code (e :: left) c = code left c := by simp [code, isChar]
      rw [sameCode, code]
      cases found : left.find? (·.char = c) with
      | none =>
        have noAmpersand : '&' ∉ [c] := by
          rw [List.mem_singleton]
          rintro rfl
          obtain ⟨other, isOther, isAmpersand⟩ := ampersand
          rcases List.mem_cons.mp isOther with rfl | isOther
          · exact isChar isAmpersand
          · exact absurd (decide_eq_true isAmpersand) (List.find?_eq_none.mp found other isOther)
        rw [replaceAll_append noAmpersand, inductionHypothesis]
      | some other =>
        have isOther := List.mem_of_find?_eq_some found
        obtain ⟨_, notBegun, notBeginning⟩ := apart other isOther
        rw [List.cons_append, replaceAll_cons, replaceAll_append (unmarked other isOther),
          inductionHypothesis]
        · rfl
        · intro begins
          have begins := (List.cons_prefix_cons.mp begins).2
          rcases List.prefix_or_prefix_of_prefix begins (List.prefix_append other.tail _) with
            isBegun | isBeginning
          · exact notBegun isBegun
          · exact notBeginning isBeginning

end

theorem decodeAll_code {left : List Entity} (apart : left.Pairwise Entity.Apart)
    (unmarked : ∀ e ∈ left, '&' ∉ e.tail) (last : ∀ e ∈ left.getLast?, e.char = '&')
    (cs : List Char) : decodeAll left (cs.flatMap (code left)) = cs := by
  induction left with
  | nil => exact List.flatMap_singleton' cs
  | cons e left inductionHypothesis =>
    rw [List.pairwise_cons] at apart
    rw [List.forall_mem_cons] at unmarked
    have ampersand : ∃ other ∈ e :: left, other.char = '&' := by
      have isLast := List.getLast?_eq_some_getLast (List.cons_ne_nil e left)
      exact ⟨_, List.getLast_mem _, last _ isLast⟩
    have lastLater : ∀ other ∈ left.getLast?, other.char = '&' := by
      intro other isLast
      apply last
      rw [List.getLast?_cons, Option.mem_def.mp isLast]
      rfl
    rw [decodeAll, List.foldl_cons, replaceAll_code apart.1 unmarked.2 ampersand]
    exact inductionHypothesis apart.2 unmarked.2 lastLater

theorem decodeAll_escape (cs : List Char) : decodeAll entities (escape cs) = cs := by
  have coded : escape cs = cs.flatMap (code entities) :=
    congrArg cs.flatMap (funext escapeChar_eq_code)
  rw [coded]
  exact decodeAll_code (by decide) (by decide) (by decide) cs

def specials : List Char := ['<', '>', '"', '\'']

theorem mem_specials_iff {special : Char} :
    special ∈ specials ↔ special = '<' ∨ special = '>' ∨ special = '"' ∨ special = '\'' := by
  simp [specials]

theorem special_not_mem_escapeChar {special : Char} (isSpecial : special ∈ specials) (c : Char) :
    special ∉ escapeChar c := by
  unfold escapeChar
  split
  case h_6 _ noLess noGreater noQuote noApostrophe =>
    rw [List.mem_singleton]
    rintro rfl
    rw [mem_specials_iff] at isSpecial
    exact isSpecial.elim noLess (·.elim noGreater (·.elim noQuote noApostrophe))
  all_goals rcases mem_specials_iff.mp isSpecial with rfl | rfl | rfl | rfl <;> decide

theorem special_not_mem_escape {special : Char} (isSpecial : special ∈ specials) (cs : List Char) :
    special ∉ escape cs := by
  intro isIn
  obtain ⟨c, _, isIn⟩ := List.mem_flatMap.mp isIn
  exact special_not_mem_escapeChar isSpecial c isIn

/-! ### Scanning -/

/-- A line break: a line feed, a carriage return, or both in either order. -/
inductive Break where
  | feed
  | carriage
  | feedCarriage
  | carriageFeed
deriving DecidableEq

def Break.text : Break → List Char
  | feed => ['\n']
  | carriage => ['\r']
  | feedCarriage => ['\n', '\r']
  | carriageFeed => ['\r', '\n']

/-- A character of a line, or the break behind a line. -/
inductive Item where
  | char (c : Char)
  | lineBreak (b : Break)
deriving DecidableEq

namespace Item

def text : Item → List Char
  | char c => [c]
  | lineBreak b => b.text

def isBreak : Item → Bool
  | char _ => false
  | lineBreak _ => true

/-- A character with an entity for it, and a line break with the tag in front. -/
def markup : Item → List Char
  | char c => escapeChar c
  | lineBreak b => breakTag ++ b.text

/-- What follows an item is not what would make it a longer break. -/
def Parted : Item → Item → Prop
  | lineBreak .feed, next => next.text.head? ≠ some '\r'
  | lineBreak .carriage, next => next.text.head? ≠ some '\n'
  | _, _ => True

theorem text_ne_nil (item : Item) : item.text ≠ [] := by
  rcases item with c | (_ | _ | _ | _) <;> exact List.cons_ne_nil _ _

theorem head?_text {item : Item} {items : List Item} (isFirst : item ∈ items.head?) :
    item.text.head? = (items.flatMap text).head? := by
  cases items with
  | nil => cases isFirst
  | cons first items =>
    cases isFirst
    rw [List.flatMap_cons, List.head?_append_of_ne_nil _ (text_ne_nil item)]

end Item

/-- The items are the text, scanned from left to right: no break is left in the lines, and none is
cut in two. -/
structure IsScan (items : List Item) (cs : List Char) : Prop where
  text : items.flatMap Item.text = cs
  inLine : ∀ c, .char c ∈ items → c ≠ '\n' ∧ c ≠ '\r'
  longest : items.IsChain Item.Parted

def scan : List Char → List Item
  | '\r' :: '\n' :: cs => .lineBreak .carriageFeed :: scan cs
  | '\n' :: '\r' :: cs => .lineBreak .feedCarriage :: scan cs
  | '\n' :: cs => .lineBreak .feed :: scan cs
  | '\r' :: cs => .lineBreak .carriage :: scan cs
  | c :: cs => .char c :: scan cs
  | [] => []

theorem IsScan.cons {item : Item} {items : List Item} {cs : List Char} (scanned : IsScan items cs)
    (inLine : ∀ c, item = .char c → c ≠ '\n' ∧ c ≠ '\r')
    (longest : ∀ next ∈ items.head?, item.Parted next) :
    IsScan (item :: items) (item.text ++ cs) where
  text := by rw [List.flatMap_cons, scanned.text]
  inLine := by
    intro c isIn
    rcases List.mem_cons.mp isIn with isItem | isIn
    · exact inLine c isItem.symm
    · exact scanned.inLine c isIn
  longest := List.isChain_cons.mpr ⟨longest, scanned.longest⟩

theorem isScan_scan (cs : List Char) : IsScan (scan cs) cs := by
  have noLonger {cs : List Char} {c : Char} (scanned : IsScan (scan cs) cs)
      (differs : ∀ rest, cs ≠ c :: rest) : ∀ next ∈ (scan cs).head?, next.text.head? ≠ some c := by
    intro next isNext isHead
    rw [Item.head?_text isNext, scanned.text] at isHead
    obtain ⟨rest, begins⟩ := List.head?_eq_some_iff.mp isHead
    exact differs rest begins
  fun_induction scan cs with
  | case1 cs inductionHypothesis => exact inductionHypothesis.cons nofun fun _ _ => trivial
  | case2 cs inductionHypothesis => exact inductionHypothesis.cons nofun fun _ _ => trivial
  | case3 cs noReturn inductionHypothesis =>
    exact inductionHypothesis.cons nofun (noLonger inductionHypothesis noReturn)
  | case4 cs noFeed inductionHypothesis =>
    exact inductionHypothesis.cons nofun (noLonger inductionHypothesis noFeed)
  | case5 c cs _ _ noFeed noReturn inductionHypothesis =>
    apply inductionHypothesis.cons
    · rintro _ ⟨⟩
      exact ⟨noFeed, noReturn⟩
    · exact fun _ _ => trivial
  | case6 => exact ⟨rfl, nofun, .nil⟩

theorem scan_char {c : Char} (noBreak : c ≠ '\n' ∧ c ≠ '\r') (cs : List Char) :
    scan (c :: cs) = .char c :: scan cs := by
  rw [scan]
  · exact fun _ isReturn _ => noBreak.2 isReturn
  · exact fun _ isFeed _ => noBreak.1 isFeed
  · exact noBreak.1
  · exact noBreak.2

theorem scan_feed {cs : List Char} (noReturn : cs.head? ≠ some '\r') :
    scan ('\n' :: cs) = .lineBreak .feed :: scan cs := by
  rw [scan]
  rintro rest rfl
  exact noReturn rfl

theorem scan_carriage {cs : List Char} (noFeed : cs.head? ≠ some '\n') :
    scan ('\r' :: cs) = .lineBreak .carriage :: scan cs := by
  rw [scan]
  rintro rest rfl
  exact noFeed rfl

/-- There is one way to scan a text. -/
theorem isScan_iff {items : List Item} {cs : List Char} : IsScan items cs ↔ items = scan cs := by
  constructor
  · rintro ⟨rfl, inLine, longest⟩
    induction items with
    | nil => rfl
    | cons item items inductionHypothesis =>
      obtain ⟨parted, longest⟩ := List.isChain_cons.mp longest
      have rest := inductionHypothesis (fun c isIn => inLine c (List.mem_cons_of_mem item isIn)) longest
      have noLonger {c : Char} (differs : ∀ next ∈ items.head?, next.text.head? ≠ some c) :
          (items.flatMap Item.text).head? ≠ some c := by
        cases items with
        | nil => exact nofun
        | cons next items =>
          rw [← Item.head?_text (Option.mem_some_self next)]
          exact differs next rfl
      rw [List.flatMap_cons]
      rcases item with c | (_ | _ | _ | _)
      · rw [Item.text, List.singleton_append, scan_char (inLine c List.mem_cons_self), ← rest]
      · rw [Item.text, Break.text, List.singleton_append, scan_feed (noLonger parted), ← rest]
      · rw [Item.text, Break.text, List.singleton_append, scan_carriage (noLonger parted), ← rest]
      · exact congrArg _ rest
      · exact congrArg _ rest
  · rintro rfl
    exact isScan_scan cs

/-! ### The markup of a scan -/

theorem noBreak_of_mem_escapeChar {c : Char} (noBreak : c ≠ '\n' ∧ c ≠ '\r') :
    ∀ d ∈ escapeChar c, d ≠ '\n' ∧ d ≠ '\r' := by
  unfold escapeChar
  split
  case h_6 => simpa using noBreak
  all_goals simp

theorem markBreaks_append {front : List Char} (noBreak : ∀ c ∈ front, c ≠ '\n' ∧ c ≠ '\r')
    (rest : List Char) : markBreaks (front ++ rest) = front ++ markBreaks rest := by
  induction front with
  | nil => rfl
  | cons c front inductionHypothesis =>
    rw [List.forall_mem_cons] at noBreak
    rw [List.cons_append, markBreaks, inductionHypothesis noBreak.2, List.cons_append]
    · exact fun _ isReturn _ => noBreak.1.2 isReturn
    · exact fun _ isFeed _ => noBreak.1.1 isFeed
    · exact noBreak.1.1
    · exact noBreak.1.2

/-- Only a line feed or a carriage return is written as one. -/
theorem begins_of_escape {c : Char} (isBreak : c = '\n' ∨ c = '\r') {cs rest : List Char}
    (begins : escape cs = c :: rest) : ∃ rest, cs = c :: rest := by
  cases cs with
  | nil => cases begins
  | cons d cs =>
    rw [escape, List.flatMap_cons] at begins
    unfold escapeChar at begins
    split at begins <;> cases begins
    case h_6 => exact ⟨cs, rfl⟩
    all_goals simp at isBreak

theorem ofText_eq_flatMap_scan (cs : List Char) : ofText cs = (scan cs).flatMap Item.markup := by
  unfold ofText
  fun_induction scan cs with
  | case1 cs inductionHypothesis =>
    rw [List.flatMap_cons, ← inductionHypothesis]
    rfl
  | case2 cs inductionHypothesis =>
    rw [List.flatMap_cons, ← inductionHypothesis]
    rfl
  | case3 cs noReturn inductionHypothesis =>
    rw [List.flatMap_cons, ← inductionHypothesis]
    change markBreaks ('\n' :: escape cs) = _
    rw [markBreaks]
    · rfl
    · intro rest begins
      obtain ⟨rest, isReturn⟩ := begins_of_escape (.inr rfl) begins
      exact noReturn rest isReturn
  | case4 cs noFeed inductionHypothesis =>
    rw [List.flatMap_cons, ← inductionHypothesis]
    change markBreaks ('\r' :: escape cs) = _
    rw [markBreaks]
    · rfl
    · intro rest begins
      obtain ⟨rest, isFeed⟩ := begins_of_escape (.inl rfl) begins
      exact noFeed rest isFeed
  | case5 c cs _ _ noFeed noReturn inductionHypothesis =>
    rw [List.flatMap_cons, ← inductionHypothesis]
    exact markBreaks_append (noBreak_of_mem_escapeChar ⟨noFeed, noReturn⟩) (escape cs)
  | case6 => rfl

def withoutTags (cs : List Char) : List Char :=
  replaceAll '<' breakTag.tail [] cs

theorem withoutTags_markup (items : List Item) :
    withoutTags (items.flatMap Item.markup) = escape (items.flatMap Item.text) := by
  unfold withoutTags
  induction items with
  | nil => rw [List.flatMap_nil, replaceAll]; rfl
  | cons item items inductionHypothesis =>
    rw [List.flatMap_cons, List.flatMap_cons, escape, List.flatMap_append, ← escape, ← escape,
      ← inductionHypothesis]
    cases item with
    | char c =>
      have unmarked : '<' ∉ escapeChar c := special_not_mem_escapeChar (by decide) c
      rw [Item.markup, replaceAll_append unmarked, Item.text, escape, List.flatMap_singleton]
    | lineBreak b =>
      have tagged : Item.markup (.lineBreak b) ++ items.flatMap Item.markup =
          '<' :: (breakTag.tail ++ (b.text ++ items.flatMap Item.markup)) := by
        simp [Item.markup, breakTag]
      have unmarked : '<' ∉ b.text := by cases b <;> decide
      have escaped : escape b.text = b.text := by cases b <;> rfl
      rw [tagged, replaceAll_found, List.nil_append, replaceAll_append unmarked, Item.text, escaped]

theorem count_markup {special : Char} (isSpecial : special ∈ specials) (item : Item) :
    item.markup.count special =
      if item.isBreak then breakTag.count special else 0 := by
  cases item with
  | char c => exact List.count_eq_zero.mpr (special_not_mem_escapeChar isSpecial c)
  | lineBreak b =>
    have noSpecial : special ∉ b.text := by
      rcases mem_specials_iff.mp isSpecial with rfl | rfl | rfl | rfl <;> cases b <;> decide
    rw [Item.markup, List.count_append, List.count_eq_zero.mpr noSpecial]
    rfl

theorem count_ofText {special : Char} (isSpecial : special ∈ specials) (cs : List Char) :
    (ofText cs).count special = (scan cs).countP Item.isBreak * breakTag.count special := by
  rw [ofText_eq_flatMap_scan]
  induction scan cs with
  | nil => simp
  | cons item items inductionHypothesis =>
    rw [List.flatMap_cons, List.count_append, inductionHypothesis, count_markup isSpecial,
      List.countP_cons, Nat.add_mul, Nat.add_comm]
    split <;> simp

theorem decode_ofText (cs : List Char) : decodeAll entities (withoutTags (ofText cs)) = cs := by
  rw [ofText_eq_flatMap_scan, withoutTags_markup, (isScan_scan cs).text, decodeAll_escape]

/-- The markup of a text has one tag for each line break, directly before it, and none of the four
special characters besides; the text can be read off it. -/
theorem ofText_lossless (cs : List Char) :
    (∀ items, IsScan items cs ↔ items = scan cs) ∧
      ofText cs = (scan cs).flatMap Item.markup ∧
      (ofText cs).count '<' = (scan cs).countP Item.isBreak ∧
      (ofText cs).count '>' = (scan cs).countP Item.isBreak ∧
      '"' ∉ ofText cs ∧ '\'' ∉ ofText cs ∧
      decodeAll entities (withoutTags (ofText cs)) = cs ∧
      ∀ other, ofText other = ofText cs ↔ other = cs := by
  have counted (special : Char) (isSpecial : special ∈ specials) := count_ofText isSpecial cs
  refine ⟨fun _ => isScan_iff, ofText_eq_flatMap_scan cs, ?_, ?_, ?_, ?_, decode_ofText cs, ?_⟩
  · exact (counted '<' (by decide)).trans (Nat.mul_one _)
  · exact (counted '>' (by decide)).trans (Nat.mul_one _)
  · exact List.count_eq_zero.mp (counted '"' (by decide))
  · exact List.count_eq_zero.mp (counted '\'' (by decide))
  · intro other
    constructor
    · intro same
      rw [← decode_ofText other, same, decode_ofText]
    · rintro rfl
      rfl

end Markup

end PromptTree.Text
