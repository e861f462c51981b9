import PromptTree.Uri
import PromptTree.Proofs.Stretch
import PromptTree.Proofs.Text.Classes

/-!
Addresses that are written and read again. What has been read of an address is in parts that cannot be
taken for each other (`inParts_of_read`), so the text of such parts is read as the same parts, provided
that its authority is well formed (`read_text`).
-/

namespace PromptTree.Uri

def isHostChar (c : Char) : Bool :=
  c ≠ '/' && c ≠ '?' && c ≠ '#'

def isBreak (c : Char) : Bool :=
  c = '\t' || c = '\r' || c = '\n'

def IsRooted (path : List Char) : Prop :=
  ∀ c, path.head? = some c → c = '/'

/-- A scheme as it is kept. -/
structure IsScheme (scheme : List Char) : Prop where
  first : scheme.head?.any Char.isAlpha = true
  chars : ∀ c ∈ scheme, isSchemeChar c = true
  lower : scheme.map Char.toLower = scheme

/-- The parts of an address that has been read: no part holds a mark that would end it. -/
structure InParts (u : Uri) : Prop where
  scheme : u.scheme.toList = [] ∨ IsScheme u.scheme.toList
  authority : ∀ c ∈ u.authority.toList, isHostChar c = true
  path : '#' ∉ u.path.toList ∧ '?' ∉ u.path.toList
  rooted : u.authority.toList ≠ [] → IsRooted u.path.toList
  query : '#' ∉ u.query.toList
  unbroken : ∀ part ∈ [u.authority, u.path, u.query, u.fragment], ∀ c ∈ part.toList, isBreak c = false

/-! ### Reading -/

def readRest (scheme authority rest : List Char) : Except Fault Uri := do
  checkAuthority authority
  let (rest, fragment) := Text.cutAt '#' rest
  let (path, query) := Text.cutAt '?' rest
  return ⟨.ofList scheme, .ofList authority, .ofList path, .ofList (query.getD []),
    .ofList (fragment.getD [])⟩

theorem read_of_authority {text : String} {scheme rest : List Char}
    (cut : cutScheme (clean text.toList) = (scheme, '/' :: '/' :: rest)) :
    read text = readRest scheme (rest.takeWhile isHostChar) (rest.dropWhile isHostChar) := by
  unfold read
  rw [cut]
  rfl

theorem read_of_no_authority {text : String} {scheme rest : List Char}
    (cut : cutScheme (clean text.toList) = (scheme, rest))
    (noAuthority : ∀ more, rest ≠ '/' :: '/' :: more) : read text = readRest scheme [] rest := by
  unfold read
  rw [cut]
  dsimp only
  split
  · next more => exact absurd rfl (noAuthority more)
  · rfl

/-- Both sides of a cut are parts of the text, and the first of them ends before the mark. -/
theorem parts_of_cutAt {mark : Char} {cs head : List Char} {tail : Option (List Char)}
    (cut : Text.cutAt mark cs = (head, tail)) :
    mark ∉ head ∧ head <+: cs ∧ tail.getD [] ⊆ cs := by
  rcases Text.mem_or_cutAt mark cs with ⟨unmarked, whole⟩ | ⟨lead, rest, unmarked, rfl, atMark⟩
  · obtain ⟨rfl, rfl⟩ := Prod.mk.inj (whole.symm.trans cut)
    exact ⟨unmarked, List.prefix_rfl, List.nil_subset _⟩
  · obtain ⟨rfl, rfl⟩ := Prod.mk.inj (atMark.symm.trans cut)
    refine ⟨unmarked, List.prefix_append _ _, ?_⟩
    exact List.subset_append_of_subset_right _ (List.subset_cons_self _ _)

theorem parts_cutAt (mark : Char) (cs : List Char) : mark ∉ (Text.cutAt mark cs).1 ∧
    (Text.cutAt mark cs).1 <+: cs ∧ (Text.cutAt mark cs).2.getD [] ⊆ cs :=
  parts_of_cutAt rfl

/-- The characters of a scheme are among the first characters there are. -/
theorem toNat_lt_of_isSchemeChar {c : Char} (isChar : isSchemeChar c = true) : c.toNat < 128 := by
  unfold isSchemeChar Char.isAlphanum Char.isAlpha Char.isUpper Char.isLower Char.isDigit at isChar
  simp only [Bool.or_eq_true, Bool.and_eq_true, decide_eq_true_eq, UInt32.le_iff_toNat_le] at isChar
  rcases isChar with ((((⟨_, last⟩ | ⟨_, last⟩) | ⟨_, last⟩) | rfl) | rfl) | rfl
  · exact Nat.lt_of_le_of_lt last (by decide)
  · exact Nat.lt_of_le_of_lt last (by decide)
  · exact Nat.lt_of_le_of_lt last (by decide)
  · decide
  · decide
  · decide

theorem toLower_of_isSchemeChar {c : Char} (isChar : isSchemeChar c = true) :
    isSchemeChar c.toLower = true ∧ c.toLower.toLower = c.toLower ∧
      c.toLower.isAlpha = c.isAlpha := by
  have isAscii := toNat_lt_of_isSchemeChar isChar
  revert isChar
  exact Text.of_code_lt isAscii (by decide +kernel)

theorem plain_of_isSchemeChar {c : Char} (isChar : isSchemeChar c = true) :
    c ≠ ':' ∧ 0x20 < c.toNat ∧ isBreak c = false := by
  have isAscii := toNat_lt_of_isSchemeChar isChar
  revert isChar
  exact Text.of_code_lt isAscii (by decide +kernel)

/-- A text has no scheme, or one before its first colon. -/
theorem cutScheme_cases {cs scheme rest : List Char} (cut : cutScheme cs = (scheme, rest)) :
    (scheme = [] ∨ IsScheme scheme) ∧ ∀ c ∈ rest, c ∈ cs := by
  unfold cutScheme at cut
  split at cut
  · next lead tail atColon =>
    split at cut
    · next isScheme =>
      obtain ⟨rfl, rfl⟩ := Prod.mk.inj cut
      rw [Bool.and_eq_true, List.all_eq_true] at isScheme
      refine ⟨.inr ⟨?_, ?_, ?_⟩, fun c isIn => (parts_of_cutAt atColon).2.2 isIn⟩
      · cases lead with
        | nil => exact isScheme.1
        | cons c lead =>
          have lowered := toLower_of_isSchemeChar (isScheme.2 c List.mem_cons_self)
          simpa [lowered.2.2] using isScheme.1
      · intro c isChar
        obtain ⟨capital, isCapital, rfl⟩ := List.mem_map.mp isChar
        exact (toLower_of_isSchemeChar (isScheme.2 capital isCapital)).1
      · rw [List.map_map]
        exact List.map_congr_left fun c isChar => (toLower_of_isSchemeChar (isScheme.2 c isChar)).2.1
    · obtain ⟨rfl, rfl⟩ := Prod.mk.inj cut
      exact ⟨.inl rfl, fun c isIn => isIn⟩
  · obtain ⟨rfl, rfl⟩ := Prod.mk.inj cut
    exact ⟨.inl rfl, fun c isIn => isIn⟩

theorem isBreak_of_mem_clean {cs : List Char} {c : Char} (isIn : c ∈ clean cs) :
    isBreak c = false := by
  unfold clean at isIn
  have kept := (List.mem_filter.mp isIn).2
  unfold isBreak
  simpa [and_assoc] using kept

theorem inParts_of_readRest {scheme authority rest : List Char} {u : Uri}
    (isRead : readRest scheme authority rest = .ok u) (isScheme : scheme = [] ∨ IsScheme scheme)
    (isAuthority : ∀ c ∈ authority, isHostChar c = true)
    (stop : authority ≠ [] → ∀ c, rest.head? = some c → isHostChar c = false)
    (unbroken : ∀ c ∈ authority ++ rest, isBreak c = false) :
    InParts u ∧ checkAuthority u.authority.toList = .ok () := by
  unfold readRest at isRead
  obtain ⟨_, accepted, isRead⟩ := except_bind_eq_ok_iff.mp isRead
  rcases atHash : Text.cutAt '#' rest with ⟨lead, fragment⟩
  rcases atQuestion : Text.cutAt '?' lead with ⟨path, query⟩
  rw [atHash] at isRead
  dsimp only at isRead
  rw [atQuestion] at isRead
  cases isRead
  obtain ⟨noHash, leadWithin, fragmentWithin⟩ := parts_of_cutAt atHash
  obtain ⟨noQuestion, pathWithin, queryWithin⟩ := parts_of_cutAt atQuestion
  rw [List.forall_mem_append] at unbroken
  refine ⟨⟨?scheme, ?authority, ?path, ?rooted, ?query, ?unbroken⟩, ?accepted⟩
  case scheme => rwa [String.toList_ofList]
  case authority => rwa [String.toList_ofList]
  case path =>
    rw [String.toList_ofList]
    exact ⟨fun isHash => noHash (pathWithin.subset isHash), noQuestion⟩
  case rooted =>
    rw [String.toList_ofList, String.toList_ofList]
    intro hasAuthority c isFirst
    have isIn := List.mem_of_head? isFirst
    have starts := (List.singleton_prefix_iff_head?_eq_some.mpr isFirst).trans
      (pathWithin.trans leadWithin)
    have atStop := stop hasAuthority c (List.singleton_prefix_iff_head?_eq_some.mp starts)
    simp only [isHostChar, Bool.and_eq_false_iff, decide_eq_false_iff_not, not_not] at atStop
    rcases atStop with (isSlash | rfl) | rfl
    · exact isSlash
    · exact absurd isIn noQuestion
    · exact absurd (pathWithin.subset isIn) noHash
  case query =>
    rw [String.toList_ofList]
    exact fun isHash => noHash (queryWithin isHash)
  case unbroken =>
    simp only [List.forall_mem_cons, String.toList_ofList, List.not_mem_nil, false_implies,
      implies_true, and_true]
    exact ⟨unbroken.1, fun c isIn => unbroken.2 c (leadWithin.subset (pathWithin.subset isIn)),
      fun c isIn => unbroken.2 c (leadWithin.subset (queryWithin isIn)),
      fun c isIn => unbroken.2 c (fragmentWithin isIn)⟩
  case accepted => rwa [String.toList_ofList]

/-- What has been read of an address is in parts, and its authority is well formed. -/
theorem inParts_of_read {text : String} {u : Uri} (isRead : read text = .ok u) :
    InParts u ∧ checkAuthority u.authority.toList = .ok () := by
  rcases cut : cutScheme (clean text.toList) with ⟨scheme, rest⟩
  obtain ⟨isScheme, restWithin⟩ := cutScheme_cases cut
  have unbroken (c : Char) (isIn : c ∈ rest) : isBreak c = false :=
    isBreak_of_mem_clean (restWithin c isIn)
  by_cases withAuthority : ∃ more, rest = '/' :: '/' :: more
  · obtain ⟨more, rfl⟩ := withAuthority
    rw [read_of_authority cut] at isRead
    apply inParts_of_readRest isRead isScheme
    · exact fun c => Text.run_of_mem_takeWhile
    · exact fun _ c => Text.stop_of_head?_dropWhile
    · rw [List.takeWhile_append_dropWhile]
      exact fun c isIn => unbroken c (List.mem_cons_of_mem _ (List.mem_cons_of_mem _ isIn))
  · rw [read_of_no_authority cut (not_exists.mp withAuthority)] at isRead
    apply inParts_of_readRest isRead isScheme
    · exact fun c => nofun
    · exact fun hasAuthority => absurd rfl hasAuthority
    · exact unbroken

/-! ### Writing -/

def marked (mark : Char) (part : List Char) : List Char :=
  if part.isEmpty then [] else mark :: part

def schemed (scheme : List Char) : List Char :=
  if scheme.isEmpty then [] else scheme ++ [':']

def showsAuthority (u : Uri) : Bool :=
  !u.authority.isEmpty || schemesWithAuthority.contains u.scheme || u.path.startsWith "//"

/-- The text of an address between its scheme and its query. -/
def place (u : Uri) : List Char :=
  if u.showsAuthority then '/' :: '/' :: (u.authority.toList ++ u.path.toList) else u.path.toList

def ending (query fragment : List Char) : List Char :=
  marked '?' query ++ marked '#' fragment

theorem isEmpty_eq (s : String) : s.isEmpty = s.toList.isEmpty := by
  rw [Bool.eq_iff_iff, String.isEmpty_iff, List.isEmpty_iff, String.toList_eq_nil_iff]

theorem IsRooted.cases {path : List Char} (rooted : IsRooted path) :
    path = [] ∨ ∃ rest, path = '/' :: rest := by
  cases path with
  | nil => exact .inl rfl
  | cons c rest =>
    rw [rooted c rfl]
    exact .inr ⟨rest, rfl⟩

theorem toList_text {u : Uri} (rooted : IsRooted u.path.toList) : u.text.toList =
    schemed u.scheme.toList ++ (u.place ++ ending u.query.toList u.fragment.toList) := by
  have noSlash : (!u.path.isEmpty && !u.path.startsWith "/") = false := by
    rw [isEmpty_eq]
    rcases rooted.cases with isNil | ⟨rest, startsThere⟩
    · rw [isNil]
      rfl
    · have starts : u.path.startsWith "/" = true := by
        rw [String.startsWith_string_iff, startsThere]
        exact List.prefix_append ['/'] rest
      rw [starts, Bool.not_true, Bool.and_false]
  unfold Uri.text place ending marked schemed showsAuthority
  rw [noSlash]
  simp only [isEmpty_eq, String.toList_append, apply_ite String.toList, String.toList_empty,
    Bool.false_eq_true, if_false, List.append_assoc]
  rfl

/-! ### Reading what is written -/

theorem head?_ending {query fragment : List Char} {c : Char}
    (first : (ending query fragment).head? = some c) : c = '?' ∨ c = '#' := by
  unfold ending marked at first
  split at first
  · split at first
    · cases first
    · exact .inr (Option.some.inj first).symm
  · exact .inl (Option.some.inj first).symm

/-- What follows an authority does not belong to it. -/
theorem isHostChar_of_rooted {path : List Char} (rooted : IsRooted path) (query fragment : List Char)
    {c : Char} (first : (path ++ ending query fragment).head? = some c) : isHostChar c = false := by
  rcases rooted.cases with rfl | ⟨rest, rfl⟩
  · rcases head?_ending first with rfl | rfl
    · rfl
    · rfl
  · cases first
    rfl

theorem mark_of_not_isHostChar {c : Char} (isMark : isHostChar c = false) :
    c.isAlpha = false ∧ 0x20 < c.toNat := by
  simp only [isHostChar, Bool.and_eq_false_iff, decide_eq_false_iff_not, not_not] at isMark
  rcases isMark with (rfl | rfl) | rfl
  · decide
  · decide
  · decide

theorem cutAt_marked {mark : Char} {head : List Char} (unmarked : mark ∉ head) (part : List Char) :
    ∃ tail, Text.cutAt mark (head ++ marked mark part) = (head, tail) ∧ tail.getD [] = part := by
  unfold marked
  cases part with
  | nil => exact ⟨none, by simp [Text.cutAt_of_not_mem unmarked], rfl⟩
  | cons c part => exact ⟨some (c :: part), Text.cutAt_append unmarked _, rfl⟩

theorem readRest_ending (scheme authority : List Char) {path query : List Char}
    (noMark : '#' ∉ path ∧ '?' ∉ path) (noHash : '#' ∉ query) (fragment : List Char) :
    readRest scheme authority (path ++ ending query fragment) =
      (checkAuthority authority).map fun _ =>
        ⟨.ofList scheme, .ofList authority, .ofList path, .ofList query, .ofList fragment⟩ := by
  have unhashed : '#' ∉ path ++ marked '?' query := by
    unfold marked
    split
    · simpa using noMark.1
    · simpa using ⟨noMark.1, noHash⟩
  obtain ⟨fragment', atHash, isFragment⟩ := cutAt_marked unhashed fragment
  obtain ⟨query', atQuestion, isQuery⟩ := cutAt_marked noMark.2 query
  unfold readRest ending
  rw [← List.append_assoc, atHash]
  dsimp only
  rw [atQuestion]
  dsimp only
  rw [isFragment, isQuery]
  cases checkAuthority authority with
  | error fault => rfl
  | ok checked => rfl

theorem clean_eq_self {cs : List Char} (unbroken : ∀ c ∈ cs, isBreak c = false)
    (first : ∀ c, cs.head? = some c → 0x20 < c.toNat) : clean cs = cs := by
  unfold clean
  rw [Text.dropWhile_of_stop, List.filter_eq_self]
  · intro c isIn
    have isNone := unbroken c isIn
    unfold isBreak at isNone
    simpa [and_assoc] using isNone
  · intro c isFirst
    exact decide_eq_false (Nat.not_le.mpr (first c isFirst))

theorem cutScheme_of_not_isAlpha {cs : List Char} (first : ∀ c, cs.head? = some c → c.isAlpha = false) :
    cutScheme cs = ([], cs) := by
  unfold cutScheme
  split
  · next scheme rest atColon =>
    have notScheme : scheme.head?.any Char.isAlpha = false := by
      cases scheme with
      | nil => rfl
      | cons c scheme =>
        have starts := (parts_of_cutAt atColon).2.1
        obtain ⟨more, rfl⟩ := starts
        exact first c rfl
    rw [notScheme, Bool.false_and, if_neg Bool.false_ne_true]
  · rfl

theorem IsScheme.cutScheme {scheme : List Char} (isScheme : IsScheme scheme) (rest : List Char) :
    cutScheme (scheme ++ ':' :: rest) = (scheme, rest) := by
  have noColon : ':' ∉ scheme := fun isIn => (plain_of_isSchemeChar (isScheme.chars ':' isIn)).1 rfl
  unfold Uri.cutScheme
  rw [Text.cutAt_append noColon]
  dsimp only
  rw [if_pos, isScheme.lower]
  rw [isScheme.first, Bool.true_and, List.all_eq_true]
  exact isScheme.chars

/-- A scheme is read back, if what follows does not begin as one. -/
theorem cutScheme_clean_schemed {scheme rest : List Char} (isScheme : scheme = [] ∨ IsScheme scheme)
    (unbroken : ∀ c ∈ rest, isBreak c = false)
    (stop : ∀ c, rest.head? = some c → isHostChar c = false) :
    cutScheme (clean (schemed scheme ++ rest)) = (scheme, rest) := by
  rcases isScheme with rfl | isScheme
  · rw [schemed, List.isEmpty_nil, if_pos rfl, List.nil_append, clean_eq_self unbroken]
    · exact cutScheme_of_not_isAlpha fun c isFirst => (mark_of_not_isHostChar (stop c isFirst)).1
    · exact fun c isFirst => (mark_of_not_isHostChar (stop c isFirst)).2
  · have notEmpty : scheme.isEmpty = false := by
      cases scheme with
      | nil => cases isScheme.first
      | cons c scheme => rfl
    have atFront : schemed scheme ++ rest = scheme ++ ':' :: rest := by
      rw [schemed, notEmpty, if_neg Bool.false_ne_true, List.append_assoc, List.singleton_append]
    rw [atFront, clean_eq_self, isScheme.cutScheme]
    · intro c isIn
      rcases List.mem_append.mp isIn with isIn | isIn
      · exact (plain_of_isSchemeChar (isScheme.chars c isIn)).2.2
      · rcases List.mem_cons.mp isIn with rfl | isIn
        · rfl
        · exact unbroken c isIn
    · intro c isFirst
      cases scheme with
      | nil => cases notEmpty
      | cons first scheme =>
        rw [← Option.some.inj isFirst]
        exact (plain_of_isSchemeChar (isScheme.chars first List.mem_cons_self)).2.1

theorem mem_marked {mark : Char} {part : List Char} {c : Char} (isIn : c ∈ marked mark part) :
    c = mark ∨ c ∈ part := by
  unfold marked at isIn
  split at isIn
  · cases isIn
  · exact List.mem_cons.mp isIn

theorem InParts.unbroken_text {u : Uri} (inParts : InParts u) :
    ∀ c ∈ u.place ++ ending u.query.toList u.fragment.toList, isBreak c = false := by
  have unbroken := inParts.unbroken
  simp only [List.forall_mem_cons, List.not_mem_nil, false_implies, implies_true, and_true] at unbroken
  obtain ⟨authority, path, query, fragment⟩ := unbroken
  rw [List.forall_mem_append]
  constructor
  · unfold place
    split
    · rw [List.forall_mem_cons, List.forall_mem_cons, List.forall_mem_append]
      exact ⟨rfl, rfl, authority, path⟩
    · exact path
  · rw [ending, List.forall_mem_append]
    constructor
    · intro c isIn
      rcases mem_marked isIn with rfl | isIn
      · rfl
      · exact query c isIn
    · intro c isIn
      rcases mem_marked isIn with rfl | isIn
      · rfl
      · exact fragment c isIn

/-- An authority that is not shown is empty, and what is written instead does not look like one. -/
theorem not_shown {u : Uri} (rooted : IsRooted u.path.toList) (hidden : u.showsAuthority = false) :
    u.authority.toList = [] ∧
      ∀ more, u.path.toList ++ ending u.query.toList u.fragment.toList ≠ '/' :: '/' :: more := by
  unfold showsAuthority at hidden
  rw [Bool.or_eq_false_iff, Bool.or_eq_false_iff, Bool.not_eq_false', isEmpty_eq,
    List.isEmpty_iff] at hidden
  obtain ⟨⟨isNil, _⟩, noDouble⟩ := hidden
  refine ⟨isNil, fun more startsDouble => ?_⟩
  have notSlash (c : Char) (rest : List Char)
      (begins : ending u.query.toList u.fragment.toList = c :: rest) : c ≠ '/' := by
    rintro rfl
    rcases head?_ending (congrArg List.head? begins) with isMark | isMark
    · exact absurd isMark (by decide)
    · exact absurd isMark (by decide)
  rcases rooted.cases with isEmpty | ⟨rest, isSlashed⟩
  · rw [isEmpty] at startsDouble
    exact notSlash _ _ startsDouble rfl
  · rw [isSlashed, List.cons_append, List.cons.injEq] at startsDouble
    cases rest with
    | nil => exact notSlash _ _ startsDouble.2 rfl
    | cons c rest =>
      obtain ⟨rfl, _⟩ := List.cons.inj startsDouble.2
      rw [Bool.eq_false_iff, Ne, String.startsWith_string_iff, isSlashed] at noDouble
      exact noDouble (List.prefix_append ['/', '/'] rest)

/-- The parts of an address are read back from its text, if the authority is well formed. -/
theorem read_text {u : Uri} (inParts : InParts u) (rooted : IsRooted u.path.toList) :
    read u.text = (checkAuthority u.authority.toList).map fun _ => u := by
  have unbroken := inParts.unbroken_text
  have written := toList_text rooted
  have rest := readRest_ending u.scheme.toList u.authority.toList inParts.path inParts.query
    u.fragment.toList
  simp only [String.ofList_toList] at rest
  rw [← rest]
  have stop (c : Char) := isHostChar_of_rooted (c := c) rooted u.query.toList u.fragment.toList
  by_cases shown : u.showsAuthority = true
  · rw [place, if_pos shown, List.cons_append, List.cons_append, List.append_assoc] at unbroken written
    have cut := cutScheme_clean_schemed inParts.scheme unbroken (by rintro c ⟨⟩; rfl)
    rw [← written] at cut
    rw [read_of_authority cut, Text.takeWhile_run inParts.authority stop,
      Text.dropWhile_run inParts.authority stop]
  · obtain ⟨isNil, noAuthority⟩ := not_shown rooted (Bool.eq_false_iff.mpr shown)
    rw [place, if_neg shown] at unbroken written
    have cut := cutScheme_clean_schemed inParts.scheme unbroken stop
    rw [← written] at cut
    rw [read_of_no_authority cut noAuthority, isNil]

end PromptTree.Uri
