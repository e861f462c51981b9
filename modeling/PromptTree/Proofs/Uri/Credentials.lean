import PromptTree.Proofs.Text.Lowering
import PromptTree.Proofs.Uri.Writing

/-!
What becomes of an address when user and password are taken out of it. The host is written in lower case
and without the brackets it may have stood in, so the address is kept exactly if the host holds no mark
of an authority and its number is not zero (`splitCredentials_keeps_iff`).
-/

namespace PromptTree.Uri

/-- The address says the same as the other one, except that it has no user. -/
structure IsBareOf (v u : Uri) : Prop where
  scheme : v.scheme = u.scheme
  host : v.host = u.host
  portNumber : v.portNumber = u.portNumber
  path : v.path = u.path
  query : v.query = u.query
  fragment : v.fragment = u.fragment
  noUser : v.userAndHost.1 = none

/-! ### The name of a host -/

def lowerHost (name : List Char) : String :=
  match Text.cutAt '%' name with
  | (name, some zone) => Text.lower (.ofList name) ++ "%" ++ .ofList zone
  | (name, none) => Text.lower (.ofList name)

theorem host_eq (u : Uri) : u.host = lowerHost u.hostAndPort.1 :=
  rfl

/-- The code points of the characters that mean something in an address. -/
def markRanges : List (Nat × Nat) :=
  ambiguous ++ [(0x09, 0x0A), (0x0D, 0x0D), (0x23, 0x23), (0x25, 0x25), (0x2F, 0x2F), (0x3A, 0x3A),
    (0x3F, 0x40), (0x5B, 0x5B), (0x5D, 0x5D)]

def isMark (c : Char) : Bool :=
  Text.inRanges markRanges c

theorem mem_of_mem_lower {cs : List Char} {c : Char} (isIn : c ∈ (Text.lower (.ofList cs)).toList)
    (isMark : isMark c = true) : c ∈ cs := by
  have apart : Text.rangesApart Text.letterRanges markRanges = true := by
    decide +kernel
  unfold Text.lower at isIn
  rw [String.toList_ofList, String.toList_ofList] at isIn
  exact Text.mem_of_mem_lowerCharsAfter apart isIn isMark

/-- A name in lower case, from the parts before and behind its first `%`. -/
theorem toList_lowerHost (name : List Char) :
    (lowerHost name).toList = (Text.lower (.ofList (Text.cutAt '%' name).1)).toList ++
      (match (Text.cutAt '%' name).2 with | some zone => '%' :: zone | none => []) := by
  unfold lowerHost
  rcases Text.cutAt '%' name with ⟨lead, _ | zone⟩
  · exact (List.append_nil _).symm
  · simp

/-- A mark in the name of a host was there before the name was lowered. -/
theorem mem_of_mem_lowerHost {name : List Char} {c : Char} (isIn : c ∈ (lowerHost name).toList)
    (isMark : isMark c = true) : c ∈ name := by
  rw [toList_lowerHost, List.mem_append] at isIn
  rcases isIn with isIn | isIn
  · exact (parts_cutAt '%' name).2.1.subset (mem_of_mem_lower isIn isMark)
  · rcases atPercent : Text.cutAt '%' name with ⟨lead, _ | zone⟩
    · rw [atPercent] at isIn
      cases isIn
    · rw [atPercent] at isIn
      rw [Text.append_of_cutAt_some atPercent]
      exact List.mem_append_right _ isIn

theorem lowerHost_lowerHost (name : List Char) : lowerHost (lowerHost name).toList = lowerHost name := by
  rcases atPercent : Text.cutAt '%' name with ⟨lead, zone⟩
  have noPercent : '%' ∉ (Text.lower (.ofList lead)).toList :=
    fun isIn => (parts_of_cutAt atPercent).1 (mem_of_mem_lower isIn (by decide))
  have written := toList_lowerHost name
  rw [atPercent] at written
  apply String.toList_injective
  rw [toList_lowerHost (lowerHost name).toList, written]
  cases zone with
  | none =>
    rw [List.append_nil, Text.cutAt_of_not_mem noPercent]
    dsimp only
    rw [String.ofList_toList, Text.lower_lower, List.append_nil]
  | some zone =>
    rw [Text.cutAt_append noPercent]
    dsimp only
    rw [String.ofList_toList, Text.lower_lower]

/-! ### The parts of an authority -/

theorem hostAndPort_of_bracket {u : Uri} {lead bracketed : List Char}
    (atOpen : Text.cutAt '[' u.userAndHost.2 = (lead, some bracketed)) :
    u.hostAndPort.1 = (Text.cutAt ']' bracketed).1 := by
  unfold hostAndPort
  dsimp only
  rw [atOpen]

theorem hostAndPort_of_no_bracket {u : Uri} (noOpen : '[' ∉ u.userAndHost.2) :
    u.hostAndPort =
      ((Text.cutAt ':' u.userAndHost.2).1, (Text.cutAt ':' u.userAndHost.2).2.getD []) := by
  unfold hostAndPort
  dsimp only
  rw [Text.cutAt_of_not_mem noOpen]

/-- The name of a host is a part of the authority, and no name has brackets on both sides. -/
theorem hostAndPort_name (u : Uri) :
    u.hostAndPort.1 ⊆ u.userAndHost.2 ∧ ('[' ∉ u.hostAndPort.1 ∨ ']' ∉ u.hostAndPort.1) := by
  rcases Text.mem_or_cutAt '[' u.userAndHost.2 with ⟨noOpen, _⟩ | ⟨lead, bracketed, _, _, atOpen⟩
  · rw [hostAndPort_of_no_bracket noOpen]
    have within := (parts_cutAt ':' u.userAndHost.2).2.1.subset
    exact ⟨within, .inl fun isIn => noOpen (within isIn)⟩
  · rw [hostAndPort_of_bracket atOpen]
    obtain ⟨noClose, within, _⟩ := parts_cutAt ']' bracketed
    exact ⟨fun c isIn => (parts_of_cutAt atOpen).2.2 (within.subset isIn), .inr noClose⟩

/-- An authority with a user and a password, in parts. -/
theorem userAndHost_of_at {u : Uri} {user place : List Char} (noAt : '@' ∉ place)
    (isAuthority : u.authority.toList = user ++ '@' :: place) : u.userAndHost = (some user, place) := by
  have backwards : u.authority.toList.reverse = place.reverse ++ '@' :: user.reverse := by
    rw [isAuthority, List.reverse_append, List.reverse_cons, List.append_assoc]
    rfl
  unfold userAndHost cutUser
  rw [backwards, Text.cutAt_append (by simpa using noAt)]
  simp only [List.reverse_reverse]

theorem userAndHost_of_no_at {u : Uri} (noAt : '@' ∉ u.authority.toList) :
    u.userAndHost = (none, u.authority.toList) := by
  unfold userAndHost cutUser
  rw [Text.cutAt_of_not_mem (by simpa using noAt)]
  simp only [List.reverse_reverse]

theorem credentials?_of_at {u : Uri} {user password place : List Char} (noColon : ':' ∉ user)
    (hasUser : user ≠ []) (hasPassword : password ≠ [])
    (isPlace : u.userAndHost = (some (user ++ ':' :: password), place)) :
    u.credentials? = some (.ofList user, .ofList password) := by
  unfold credentials?
  rw [isPlace, Option.map_some, Text.cutAt_append noColon]
  simp [hasUser, hasPassword]

/-! ### The number after the host -/

def portText : Option Nat → List Char
  | none => []
  | some n => if n = 0 then [] else ':' :: Nat.toDigits 10 n

def bareAuthority (u : Uri) (port : Option Nat) : List Char :=
  u.host.toList ++ portText port

theorem numberOfDigits_toDigits (n : Nat) :
    Text.numberOfDigits 10 ((Nat.toDigits 10 n).map fun c => c.toNat - 48) = n := by
  have sameStep : (fun (m : Nat) (c : Char) => m * 10 + (c.toNat - 48)) =
      fun m c => 10 * m + (c.toNat - 48) := by
    funext m c
    rw [Nat.mul_comm]
  rw [Text.numberOfDigits, List.foldl_map, sameStep]
  exact Nat.ofDigitChars_ten_toDigits

theorem portNumber_le {u : Uri} {n : Nat} (isPort : u.portNumber = .ok (some n)) : n ≤ 65535 := by
  unfold portNumber at isPort
  dsimp only at isPort
  split at isPort
  · cases isPort
  · split at isPort
    · split at isPort
      · next small =>
        cases isPort
        exact small
      · cases isPort
    · cases isPort

/-- A number is read back, unless it is zero: then there is none. -/
theorem portNumber_of_portText {u v : Uri} {port : Option Nat} (isPort : u.portNumber = .ok port)
    (isText : v.hostAndPort.2 = (portText port).tail) :
    v.portNumber = .ok (if port = some 0 then none else port) := by
  unfold portNumber
  dsimp only
  rw [isText]
  cases port with
  | none => rfl
  | some n =>
    by_cases isZero : n = 0
    · rw [isZero]
      rfl
    · have allDigits : (Nat.toDigits 10 n).all Char.isDigit = true :=
        List.all_eq_true.mpr fun c isIn => Nat.isDigit_of_mem_toDigits (by decide) (by decide) isIn
      have notEmpty : (Nat.toDigits 10 n).isEmpty = false := by
        simp
      rw [portText, if_neg isZero, List.tail_cons, notEmpty, if_neg Bool.false_ne_true, allDigits,
        if_pos rfl, numberOfDigits_toDigits, if_pos (portNumber_le isPort),
        if_neg (by simpa using isZero)]

/-! ### The address without user and password -/

def withoutUser (u : Uri) (port : Option Nat) : Uri :=
  { u with authority := .ofList (u.bareAuthority port) }

theorem splitCredentials_of_credentials {text : String} {u : Uri} {credentials : String × String}
    {port : Option Nat} (isRead : read text = .ok u) (hasBoth : u.credentials? = some credentials)
    (isPort : u.portNumber = .ok port) :
    splitCredentials text = .ok ((u.withoutUser port).text, some credentials) := by
  unfold splitCredentials
  rw [isRead]
  simp only [bind, Except.bind, hasBoth, isPort]
  unfold withoutUser bareAuthority portText
  cases port with
  | none =>
    dsimp only
    rw [List.append_nil, String.ofList_toList]
    rfl
  | some n =>
    dsimp only
    by_cases isZero : n = 0
    · rw [if_pos isZero, if_pos isZero, List.append_nil, String.ofList_toList]
      rfl
    · have written : u.host.toList ++ ':' :: Nat.toDigits 10 n = s!"{u.host}:{n}".toList := by
        simp [toString]
      rw [if_neg isZero, if_neg isZero, written, String.ofList_toList]
      rfl

theorem isMark_of_isDigit {c : Char} (isDigit : c.isDigit = true) : isMark c = false := by
  have apart : Text.rangesApart [(0x30, 0x39)] markRanges = true := by
    decide
  apply Text.not_inRanges_of_apart apart
  simpa [Text.inRanges, Char.isDigit, UInt32.le_iff_toNat_le] using isDigit

theorem mem_portText {port : Option Nat} {c : Char} (isIn : c ∈ portText port)
    (isMark : isMark c = true) : c = ':' := by
  cases port with
  | none => cases isIn
  | some n =>
    unfold portText at isIn
    dsimp only at isIn
    split at isIn
    · cases isIn
    · rcases List.mem_cons.mp isIn with isColon | isDigit
      · exact isColon
      · have noMark := isMark_of_isDigit (Nat.isDigit_of_mem_toDigits (by decide) (by decide) isDigit)
        rw [isMark] at noMark
        cases noMark

/-- A mark other than a colon is in the authority that is left only if it is in the host. -/
theorem mem_host_of_mem_bareAuthority {u : Uri} {port : Option Nat} {c : Char}
    (isIn : c ∈ u.bareAuthority port) (isMark : isMark c = true) (notColon : c ≠ ':') :
    c ∈ u.host.toList := by
  rcases List.mem_append.mp isIn with isIn | isIn
  · exact isIn
  · exact absurd (mem_portText isIn isMark) notColon

theorem mem_name_of_mem_host {u : Uri} {c : Char} (isIn : c ∈ u.host.toList)
    (isMark : isMark c = true) : c ∈ u.hostAndPort.1 := by
  rw [host_eq] at isIn
  exact mem_of_mem_lowerHost isIn isMark

theorem checkAuthority_eq_ok_iff {cs : List Char} : checkAuthority cs = .ok () ↔
    ('[' ∈ cs ↔ ']' ∈ cs) ∧
      ('[' ∈ cs → ∃ host, bracketedHost (cutUser cs).2 = .ok host ∧ checkHost host = .ok ()) ∧
      ∀ c ∈ cs, Text.inRanges ambiguous c = false := by
  unfold checkAuthority
  simp only [throw, throwThe, MonadExceptOf.throw, bind, pure, Except.pure]
  by_cases opens : '[' ∈ cs
  · by_cases closes : ']' ∈ cs
    · simp only [opens, closes]
      cases bracketedHost (cutUser cs).2 with
      | error fault => simp [Except.bind]
      | ok host => cases checked : checkHost host <;> simp [Except.bind, checked]
    · simp [opens, closes, Except.bind]
  · by_cases closes : ']' ∈ cs
    · simp [opens, closes, Except.bind]
    · simp [opens, closes]

variable {u : Uri} {port : Option Nat}

/-- No name of a host has brackets on both sides, so the authority that is left is accepted only if it
has none. -/
theorem checkAuthority_bareAuthority
    (unambiguous : ∀ c ∈ u.userAndHost.2, Text.inRanges ambiguous c = false) (port : Option Nat) :
    checkAuthority (u.bareAuthority port) = .ok () ↔ '[' ∉ u.host.toList ∧ ']' ∉ u.host.toList := by
  have inHost {c : Char} (isMark : isMark c = true) (notColon : c ≠ ':') :
      c ∈ u.bareAuthority port ↔ c ∈ u.host.toList :=
    ⟨fun isIn => mem_host_of_mem_bareAuthority isIn isMark notColon,
      fun isIn => List.mem_append_left _ isIn⟩
  have inName {c : Char} (isMark : isMark c = true) (isIn : c ∈ u.host.toList) :
      c ∈ u.hostAndPort.1 :=
    mem_name_of_mem_host isIn isMark
  obtain ⟨nameWithin, oneSide⟩ := hostAndPort_name u
  rw [checkAuthority_eq_ok_iff, inHost (by decide) (by decide), inHost (by decide) (by decide)]
  constructor
  · rintro ⟨paired, _, _⟩
    rcases oneSide with noOpen | noClose
    · have absent := fun isIn => noOpen (inName (by decide) isIn)
      exact ⟨absent, fun closes => absent (paired.mpr closes)⟩
    · have absent := fun isIn => noClose (inName (by decide) isIn)
      exact ⟨fun opens => absent (paired.mp opens), absent⟩
  · rintro ⟨noOpen, noClose⟩
    refine ⟨⟨fun opens => absurd opens noOpen, fun closes => absurd closes noClose⟩,
      fun opens => absurd opens noOpen, fun c isIn => ?_⟩
    rw [Bool.eq_false_iff]
    intro isAmbiguous
    have isMark : isMark c = true :=
      Text.inRanges_of_within (by decide) isAmbiguous
    have notColon : c ≠ ':' := by
      rintro rfl
      revert isAmbiguous
      decide
    have isPlace := nameWithin (inName isMark ((inHost isMark notColon).mp isIn))
    rw [unambiguous c isPlace] at isAmbiguous
    cases isAmbiguous

theorem withoutUser_parts (u : Uri) (port : Option Nat) : (u.withoutUser port).scheme = u.scheme ∧
    (u.withoutUser port).authority.toList = u.bareAuthority port ∧
      (u.withoutUser port).path = u.path ∧ (u.withoutUser port).query = u.query ∧
        (u.withoutUser port).fragment = u.fragment := by
  unfold withoutUser
  exact ⟨rfl, String.toList_ofList, rfl, rfl, rfl⟩

theorem isMark_of_ends {c : Char} (ends : isHostChar c = false ∨ isBreak c = true) :
    isMark c = true ∧ c ≠ ':' := by
  simp only [isHostChar, isBreak, Bool.and_eq_false_iff, Bool.or_eq_true, decide_eq_false_iff_not,
    decide_eq_true_eq, not_not] at ends
  rcases ends with ((rfl | rfl) | rfl) | (rfl | rfl) | rfl
  all_goals decide

theorem inParts_withoutUser (inParts : InParts u) (rooted : IsRooted u.path.toList)
    (within : u.userAndHost.2 ⊆ u.authority.toList) (port : Option Nat) :
    InParts (u.withoutUser port) := by
  have inPlace {c : Char} (isIn : c ∈ u.bareAuthority port)
      (ends : isHostChar c = false ∨ isBreak c = true) : c ∈ u.authority.toList := by
    obtain ⟨isMark, notColon⟩ := isMark_of_ends ends
    have inName := mem_name_of_mem_host (mem_host_of_mem_bareAuthority isIn isMark notColon) isMark
    exact within ((hostAndPort_name u).1 inName)
  obtain ⟨scheme, authority, path, query, fragment⟩ := withoutUser_parts u port
  have unbroken := inParts.unbroken
  rw [List.forall_mem_cons] at unbroken
  refine ⟨?scheme, ?authority, ?path, ?rooted, ?query, ?unbroken⟩
  case scheme =>
    rw [scheme]
    exact inParts.scheme
  case authority =>
    rw [authority]
    intro c isIn
    rw [← Bool.not_eq_false]
    intro ends
    have kept := inParts.authority c (inPlace isIn (.inl ends))
    rw [ends] at kept
    cases kept
  case path =>
    rw [path]
    exact inParts.path
  case rooted =>
    rw [path]
    exact fun _ => rooted
  case query =>
    rw [query]
    exact inParts.query
  case unbroken =>
    rw [path, query, fragment]
    refine List.forall_mem_cons.mpr ⟨?_, unbroken.2⟩
    rw [authority]
    intro c isIn
    rw [Bool.eq_false_iff]
    intro breaks
    have kept := unbroken.1 c (inPlace isIn (.inr breaks))
    rw [breaks] at kept
    cases kept

theorem userAndHost_withoutUser (noAt : '@' ∉ u.userAndHost.2) (port : Option Nat) :
    (u.withoutUser port).userAndHost = (none, u.bareAuthority port) := by
  have authority := (withoutUser_parts u port).2.1
  rw [userAndHost_of_no_at, authority]
  rw [authority]
  intro isIn
  have inHost := mem_host_of_mem_bareAuthority isIn (by decide) (by decide)
  exact noAt ((hostAndPort_name u).1 (mem_name_of_mem_host inHost (by decide)))

/-- Without brackets, the name of the host ends at its first colon. -/
theorem hostAndPort_withoutUser (noAt : '@' ∉ u.userAndHost.2) (noOpen : '[' ∉ u.host.toList) :
    (u.withoutUser port).hostAndPort = ((Text.cutAt ':' (u.bareAuthority port)).1,
      (Text.cutAt ':' (u.bareAuthority port)).2.getD []) := by
  have place := userAndHost_withoutUser noAt port
  rw [hostAndPort_of_no_bracket, place]
  rw [place]
  exact fun isIn => noOpen (mem_host_of_mem_bareAuthority isIn (by decide) (by decide))

theorem portText_cases (port : Option Nat) :
    portText port = [] ∨ ∃ digits, portText port = ':' :: digits := by
  unfold portText
  cases port with
  | none => exact .inl rfl
  | some n =>
    dsimp only
    split
    · exact .inl rfl
    · exact .inr ⟨_, rfl⟩

theorem cutAt_bareAuthority (noColon : ':' ∉ u.host.toList) (port : Option Nat) :
    ∃ digits, Text.cutAt ':' (u.bareAuthority port) = (u.host.toList, digits) ∧
      digits.getD [] = (portText port).tail := by
  unfold bareAuthority
  rcases portText_cases port with isNone | ⟨digits, isSome⟩
  · rw [isNone, List.append_nil]
    exact ⟨none, Text.cutAt_of_not_mem noColon, rfl⟩
  · rw [isSome]
    exact ⟨some digits, Text.cutAt_append noColon digits, rfl⟩

theorem portNumber_withoutUser (isPort : u.portNumber = .ok port) (noAt : '@' ∉ u.userAndHost.2)
    (noOpen : '[' ∉ u.host.toList) (noColon : ':' ∉ u.host.toList) :
    (u.withoutUser port).portNumber = .ok (if port = some 0 then none else port) := by
  obtain ⟨digits, cut, isText⟩ := cutAt_bareAuthority noColon port
  apply portNumber_of_portText isPort
  rw [hostAndPort_withoutUser noAt noOpen, cut]
  exact isText

/-- The authority that is left is read as the same host and number exactly if nothing in the host is
taken for another part, and the number is written. -/
theorem isBareOf_withoutUser_iff (isPort : u.portNumber = .ok port) (noAt : '@' ∉ u.userAndHost.2)
    (noOpen : '[' ∉ u.host.toList) :
    IsBareOf (u.withoutUser port) u ↔ ':' ∉ u.host.toList ∧ port ≠ some 0 := by
  have host : (u.withoutUser port).host = lowerHost (Text.cutAt ':' (u.bareAuthority port)).1 := by
    rw [host_eq, hostAndPort_withoutUser noAt noOpen]
  constructor
  · intro isBare
    have noColon : ':' ∉ u.host.toList := by
      rw [← isBare.host, host]
      intro isIn
      exact (parts_cutAt ':' (u.bareAuthority port)).1 (mem_of_mem_lowerHost isIn (by decide))
    refine ⟨noColon, fun isZero => ?_⟩
    have number := portNumber_withoutUser isPort noAt noOpen noColon
    rw [if_pos isZero, isBare.portNumber, isPort, isZero] at number
    cases number
  · rintro ⟨noColon, notZero⟩
    obtain ⟨digits, cut, _⟩ := cutAt_bareAuthority noColon port
    obtain ⟨scheme, _, path, query, fragment⟩ := withoutUser_parts u port
    constructor
    · exact scheme
    · rw [host, cut, host_eq, lowerHost_lowerHost]
    · rw [portNumber_withoutUser isPort noAt noOpen noColon, if_neg notZero, isPort]
    · exact path
    · exact query
    · exact fragment
    · rw [userAndHost_withoutUser noAt]

/-- An address with a user, a password and a host comes apart into the two and an address without them.
That address says the same exactly if the host holds no mark of an authority and its number is not zero;
then it stays as it is. -/
theorem splitCredentials_keeps_iff {text : String} {user password place : List Char}
    (isRead : read text = .ok u)
    (isAuthority : u.authority.toList = (user ++ ':' :: password) ++ '@' :: place)
    (noAt : '@' ∉ place) (noColon : ':' ∉ user) (hasUser : user ≠ []) (hasPassword : password ≠ [])
    (isPort : u.portNumber = .ok port) :
    ∃ address,
      splitCredentials text = .ok (address, some (.ofList user, .ofList password)) ∧
      ((∃ v, read address = .ok v ∧ IsBareOf v u) ↔
        (∀ c ∈ [':', '[', ']'], c ∉ u.host.toList) ∧ port ≠ some 0) ∧
      ((∃ v, read address = .ok v ∧ IsBareOf v u) →
        splitCredentials address = .ok (address, none)) := by
  obtain ⟨inParts, accepted⟩ := inParts_of_read isRead
  have isPlace := userAndHost_of_at noAt isAuthority
  have within : u.userAndHost.2 ⊆ u.authority.toList := by
    rw [isPlace, isAuthority]
    exact List.subset_append_of_subset_right _ (List.subset_cons_self _ _)
  have rooted : IsRooted u.path.toList := inParts.rooted (by rw [isAuthority]; simp)
  have noAt : '@' ∉ u.userAndHost.2 := by
    rwa [isPlace]
  have unambiguous : ∀ c ∈ u.userAndHost.2, Text.inRanges ambiguous c = false :=
    fun c isIn => (checkAuthority_eq_ok_iff.mp accepted).2.2 c (within isIn)
  obtain ⟨_, authority, path, _, _⟩ := withoutUser_parts u port
  have readBack := read_text (inParts_withoutUser inParts rooted within port) (by rwa [path])
  rw [authority] at readBack
  have checked := checkAuthority_bareAuthority unambiguous port
  refine ⟨(u.withoutUser port).text, ?_, ?_, ?_⟩
  · exact splitCredentials_of_credentials isRead
      (credentials?_of_at noColon hasUser hasPassword isPlace) isPort
  · simp only [List.forall_mem_cons, List.not_mem_nil, false_implies, implies_true, and_true]
    constructor
    · rintro ⟨v, isRead, isBare⟩
      rw [readBack] at isRead
      cases isChecked : checkAuthority (u.bareAuthority port) with
      | error fault =>
        rw [isChecked] at isRead
        cases isRead
      | ok _ =>
        rw [isChecked] at isRead
        cases isRead
        obtain ⟨noOpen, noClose⟩ := checked.mp isChecked
        obtain ⟨noColon, notZero⟩ := (isBareOf_withoutUser_iff isPort noAt noOpen).mp isBare
        exact ⟨⟨noColon, noOpen, noClose⟩, notZero⟩
    · rintro ⟨⟨noColon, noOpen, noClose⟩, notZero⟩
      rw [checked.mpr ⟨noOpen, noClose⟩] at readBack
      exact ⟨_, readBack, (isBareOf_withoutUser_iff isPort noAt noOpen).mpr ⟨noColon, notZero⟩⟩
  · rintro ⟨v, isRead, isBare⟩
    have noCredentials : v.credentials? = none := by
      rw [credentials?, isBare.noUser]
      rfl
    rw [splitCredentials, isRead]
    simp only [bind, Except.bind, noCredentials]
    rfl

theorem splitCredentials_keeps_iff_name :
    ∃ u : Uri, read "http://u:p@Host:8080/x" = .ok u ∧ u.portNumber = .ok (some 8080) ∧
      ∃ address,
        splitCredentials "http://u:p@Host:8080/x" = .ok (address, some ("u", "p")) ∧
        ((∃ v, read address = .ok v ∧ IsBareOf v u) ↔
          (∀ c ∈ [':', '[', ']'], c ∉ u.host.toList) ∧ some 8080 ≠ some 0) ∧
        ((∃ v, read address = .ok v ∧ IsBareOf v u) →
          splitCredentials address = .ok (address, none)) := by
  have isRead : read "http://u:p@Host:8080/x" = .ok ⟨"http", "u:p@Host:8080", "/x", "", ""⟩ := by
    decide +kernel
  have isPort : portNumber ⟨"http", "u:p@Host:8080", "/x", "", ""⟩ = .ok (some 8080) := by
    decide +kernel
  have isAuthority : "u:p@Host:8080".toList = (['u'] ++ ':' :: ['p']) ++ '@' :: "Host:8080".toList := by
    decide
  exact ⟨_, isRead, isPort, splitCredentials_keeps_iff isRead isAuthority (by decide) (by decide)
    (by decide) (by decide) isPort⟩

/-- An address in brackets loses them, and what is left has no host. -/
theorem not_always_bare : ¬ ∀ (text : String) (u : Uri) (user password : String) (port : Option Nat),
    read text = .ok u → u.credentials? = some (user, password) → u.portNumber = .ok port →
      ∃ address v, splitCredentials text = .ok (address, some (user, password)) ∧
        read address = .ok v ∧ IsBareOf v u := by
  intro always
  obtain ⟨address, v, split, isRead, isBare⟩ := always "http://u:p@[::1]:8080/x"
    ⟨"http", "u:p@[::1]:8080", "/x", "", ""⟩ "u" "p" (some 8080) (by decide +kernel) (by decide +kernel)
    (by decide +kernel)
  have isSplit : splitCredentials "http://u:p@[::1]:8080/x" =
      .ok ("http://::1:8080/x", some ("u", "p")) := by
    decide +kernel
  have isLeft : read "http://::1:8080/x" = .ok ⟨"http", "::1:8080", "/x", "", ""⟩ := by
    decide +kernel
  cases isSplit.symm.trans split
  cases isLeft.symm.trans isRead
  exact absurd isBare.host (by decide +kernel)

end PromptTree.Uri
