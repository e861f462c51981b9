import PromptTree.Proofs.Text.Markup
import PromptTree.Text.QuotedPrintable

/-!
Texts in which the mark `<` does not stand three times in a row and does not stand last. Main
statements: plain text shown as markup is always of this kind (`Markup.sparse_ofText`), and a text
of this kind remains so when it is encoded (`QuotedPrintable.sparse_ofText`).
-/

namespace PromptTree.Text

/-- No three marks stand next to each other and none stands last, when `before` marks stand in
front. -/
inductive Sparse {α : Type} (mark : α) : (before : Nat) → List α → Prop where
  | nil : Sparse mark 0 []
  | mark {before : Nat} {cs : List α} :
    before < 2 → Sparse mark (before + 1) cs → Sparse mark before (mark :: cs)
  | other {before : Nat} {c : α} {cs : List α} :
    c ≠ mark → Sparse mark 0 cs → Sparse mark before (c :: cs)

section

variable {α : Type} {mark : α}

theorem Sparse.mono {less more : Nat} {cs : List α} (sparse : Sparse mark more cs)
    (le : less ≤ more) : Sparse mark less cs := by
  induction sparse generalizing less with
  | nil =>
    obtain rfl := Nat.le_zero.mp le
    exact .nil
  | mark few _ inductionHypothesis =>
    exact .mark (by omega) (inductionHypothesis (by omega))
  | other noMark others _ => exact .other noMark others

theorem sparse_append {before : Nat} {first second : List α} (left : Sparse mark before first)
    (right : Sparse mark 0 second) : Sparse mark before (first ++ second) := by
  induction left with
  | nil => exact right
  | mark few _ inductionHypothesis => exact .mark few inductionHypothesis
  | other noMark _ inductionHypothesis => exact .other noMark inductionHypothesis

/-- Marks that stand before other characters do not count behind these. -/
theorem sparse_append_of_not_mem (before : Nat) {first second : List α} (unmarked : mark ∉ first)
    (some : first ≠ []) (right : Sparse mark 0 second) : Sparse mark before (first ++ second) := by
  induction first generalizing before with
  | nil => exact absurd rfl some
  | cons c first inductionHypothesis =>
    rw [List.mem_cons, not_or] at unmarked
    refine .other (fun isMark => unmarked.1 isMark.symm) ?_
    cases first with
    | nil => exact right
    | cons d first => exact inductionHypothesis 0 unmarked.2 (List.cons_ne_nil d first)

theorem sparse_of_not_mem {cs : List α} (unmarked : mark ∉ cs) : Sparse mark 0 cs := by
  cases cs with
  | nil => exact .nil
  | cons c cs =>
    rw [← List.append_nil (c :: cs)]
    exact sparse_append_of_not_mem 0 unmarked (List.cons_ne_nil c cs) .nil

theorem sparse_mark_cons_iff {before : Nat} {cs : List α} :
    Sparse mark before (mark :: cs) ↔ before < 2 ∧ Sparse mark (before + 1) cs := by
  constructor
  · intro sparse
    cases sparse with
    | mark few others => exact ⟨few, others⟩
    | other noMark _ => exact absurd rfl noMark
  · rintro ⟨few, others⟩
    exact .mark few others

theorem sparse_cons_iff_of_ne {before : Nat} {c : α} {cs : List α} (noMark : c ≠ mark) :
    Sparse mark before (c :: cs) ↔ Sparse mark 0 cs := by
  constructor
  · intro sparse
    cases sparse with
    | mark => exact absurd rfl noMark
    | other _ others => exact others
  · exact .other noMark

end

/-! ### Plain text as markup -/

namespace Markup

/-- The tags of line breaks are the only marks, and each has its line break behind it. -/
theorem sparse_markBreaks {cs : List Char} (unmarked : '<' ∉ cs) :
    Sparse '<' 0 (markBreaks cs) := by
  have tag {others : List Char} (sparse : Sparse '<' 0 others) :
      Sparse '<' 0 (breakTag ++ others) :=
    .mark (by decide) (sparse_append_of_not_mem 1 (by decide) (by decide) sparse)
  fun_induction markBreaks cs with
  | case1 rest inductionHypothesis =>
    exact tag (.other (by decide) (.other (by decide) (inductionHypothesis (by simp_all))))
  | case2 rest inductionHypothesis =>
    exact tag (.other (by decide) (.other (by decide) (inductionHypothesis (by simp_all))))
  | case3 rest _ inductionHypothesis =>
    exact tag (.other (by decide) (inductionHypothesis (by simp_all)))
  | case4 rest _ inductionHypothesis =>
    exact tag (.other (by decide) (inductionHypothesis (by simp_all)))
  | case5 c rest _ _ _ _ inductionHypothesis =>
    rw [List.mem_cons, not_or] at unmarked
    exact .other (fun isMark => unmarked.1 isMark.symm) (inductionHypothesis unmarked.2)
  | case6 => exact .nil

theorem sparse_ofText (cs : List Char) : Sparse '<' 0 (ofText cs) :=
  sparse_markBreaks (special_not_mem_escape (by decide) cs)

end Markup

/-! ### Quoted-printable -/

namespace QuotedPrintable

theorem toList_loop_eq (bytes : ByteArray) (i : Nat) (read : List UInt8) :
    ByteArray.toList.loop bytes i read = read.reverse ++ bytes.data.toList.drop i := by
  induction i, read using ByteArray.toList.loop.induct bytes with
  | case1 i read more inductionHypothesis =>
    have inside : i < bytes.data.toList.length := by simpa using more
    have next : bytes.get! i = bytes.data.toList[i] :=
      getElem!_pos bytes.data i (by simpa using more)
    rw [ByteArray.toList.loop, if_pos more, inductionHypothesis, List.drop_eq_getElem_cons inside,
      next, List.reverse_cons, List.append_assoc, List.singleton_append]
  | case2 i read noMore =>
    have outside : bytes.data.toList.length ≤ i := by simpa using noMore
    rw [ByteArray.toList.loop, if_neg noMore, List.drop_eq_nil_of_le outside, List.append_nil]

/-- The bytes of a text are those of its characters. -/
theorem toList_toUTF8 (cs : List Char) :
    (String.ofList cs).toUTF8.toList = cs.flatMap String.utf8EncodeChar := by
  change (String.ofList cs).toByteArray.toList = _
  rw [String.toByteArray_ofList, ByteArray.toList, toList_loop_eq]
  simp [List.utf8Encode]

def markByte : UInt8 := 0x3C

theorem not_mem_utf8EncodeChar {c : Char} (noMark : c ≠ '<') :
    markByte ∉ String.utf8EncodeChar c := by
  have code : c.val.toNat ≠ 0x3C := by
    intro same
    exact noMark (Char.ext (UInt32.toNat_inj.mp same))
  unfold String.utf8EncodeChar markByte
  dsimp only
  repeat' split
  all_goals
    simp only [List.mem_cons, List.not_mem_nil, or_false, ← UInt8.toNat_inj, UInt8.toNat_ofNat,
      UInt8.toNat_ofNat']
    omega

theorem sparse_flatMap_utf8EncodeChar {before : Nat} {cs : List Char}
    (sparse : Sparse '<' before cs) :
    Sparse markByte before (cs.flatMap String.utf8EncodeChar) := by
  induction sparse with
  | nil => exact .nil
  | mark few _ inductionHypothesis => exact .mark few inductionHypothesis
  | other noMark _ inductionHypothesis =>
    rw [List.flatMap_cons]
    exact sparse_append_of_not_mem _ (not_mem_utf8EncodeChar noMark) String.utf8EncodeChar_ne_nil
      inductionHypothesis

theorem exists_digitChar_of_mem {base n : Nat} {c : Char} (valid : 1 < base)
    (isDigit : c ∈ digitsOf base n) : ∃ d < base, Nat.digitChar d = c := by
  unfold digitsOf at isDigit
  induction n using Nat.strongRecOn with
  | ind n inductionHypothesis =>
    by_cases small : n < base
    · rw [Nat.toDigits_of_lt_base small, List.mem_singleton] at isDigit
      exact ⟨n, small, isDigit.symm⟩
    · rw [Nat.toDigits_of_base_le valid (Nat.not_lt.mp small), List.mem_append,
        List.mem_singleton] at isDigit
      rcases isDigit with leading | isLast
      · exact inductionHypothesis _ (Nat.div_lt_self (by omega) valid) leading
      · exact ⟨n % base, Nat.mod_lt _ (by omega), isLast.symm⟩

theorem not_mem_escape (b : UInt8) : '<' ∉ escape b := by
  have noDigit : ∀ d < 16, (Nat.digitChar d).toUpper ≠ '<' := by
    decide
  intro marked
  simp only [escape, padZeros, List.mem_cons, List.mem_map, String.toList_append,
    String.toList_ofList, List.mem_append] at marked
  obtain isSign | ⟨c, isZero | isDigit, same⟩ := marked
  · exact absurd isSign (by decide)
  · rw [List.eq_of_mem_replicate isZero] at same
    exact absurd same (by decide)
  · obtain ⟨d, small, rfl⟩ := exists_digitChar_of_mem (by decide) isDigit
    exact noDigit d small same

theorem charOf_ne_mark {b : UInt8} (noMark : b ≠ markByte) : charOf b ≠ '<' := by
  have all : ∀ n < 256, n ≠ 0x3C → charOf (UInt8.ofNat n) ≠ '<' := by
    decide +kernel
  have code : b.toNat ≠ 0x3C := fun same => noMark (UInt8.toNat_inj.mp same)
  simpa using all b.toNat b.toNat_lt code

theorem charOf_markByte : charOf markByte = '<' := by
  decide

theorem isSpace_markByte : isSpace markByte = false := by
  decide

theorem mustEscape_mark (column : Nat) (rest : List UInt8) :
    mustEscape column markByte rest = false := by
  unfold mustEscape
  rw [isSpace_markByte]
  simp [isLoneStop, markByte]

theorem ne_markByte_of_mustEscape {column : Nat} {b : UInt8} {rest : List UInt8}
    (escaped : mustEscape column b rest = true) : b ≠ markByte := by
  rintro rfl
  rw [mustEscape_mark] at escaped
  cases escaped

section

variable {lineEnd tail : List Char} {before : Nat}

/-- A soft break of the line only parts marks. -/
theorem sparse_mark_behind (soft : Bool) (unmarked : '<' ∉ lineEnd) (few : before < 2)
    (sparse : Sparse '<' (before + 1) tail) :
    Sparse '<' before ((if soft then '=' :: lineEnd else []) ++ ['<'] ++ tail) := by
  cases soft with
  | false => exact .mark few sparse
  | true =>
    rw [if_pos rfl, List.append_assoc]
    refine sparse_append_of_not_mem _ (by simp [unmarked]) (List.cons_ne_nil _ _) ?_
    exact .mark (by decide) (sparse.mono (Nat.le_add_left 1 before))

theorem sparse_other_behind (soft : Bool) {shown : List Char} (unmarked : '<' ∉ lineEnd)
    (noMark : '<' ∉ shown) (some : shown ≠ []) (sparse : Sparse '<' 0 tail) :
    Sparse '<' before ((if soft then '=' :: lineEnd else []) ++ shown ++ tail) := by
  refine sparse_append_of_not_mem _ ?_ (List.append_ne_nil_of_right_ne_nil _ some) sparse
  split <;> simp [unmarked, noMark]

/-- The encoding keeps a mark as it is, writes other characters for other bytes, and breaks lines
between two characters. -/
theorem sparse_encodeFrom (unmarked : '<' ∉ lineEnd) (some : lineEnd ≠ []) (column : Nat)
    {bytes : List UInt8} (sparse : Sparse markByte before bytes) :
    Sparse '<' before (encodeFrom lineEnd column bytes) := by
  fun_induction encodeFrom lineEnd column bytes generalizing before with
  | case1 column =>
    cases sparse
    exact .nil
  | case2 column b rest escaped wide inductionHypothesis =>
    rw [sparse_cons_iff_of_ne (ne_markByte_of_mustEscape escaped)] at sparse
    refine sparse_append_of_not_mem _ ?_ (by simp) (inductionHypothesis sparse)
    simp [unmarked, not_mem_escape]
  | case3 column b rest escaped narrow inductionHypothesis =>
    rw [sparse_cons_iff_of_ne (ne_markByte_of_mustEscape escaped)] at sparse
    exact sparse_append_of_not_mem _ (not_mem_escape b) (List.cons_ne_nil _ _)
      (inductionHypothesis sparse)
  | case4 column rest plain inductionHypothesis =>
    rw [sparse_cons_iff_of_ne (by decide)] at sparse
    exact sparse_append_of_not_mem _ unmarked some (inductionHypothesis sparse)
  | case5 column rest plain inductionHypothesis =>
    rw [sparse_cons_iff_of_ne (by decide), sparse_cons_iff_of_ne (by decide)] at sparse
    exact sparse_append_of_not_mem _ unmarked some (inductionHypothesis sparse)
  | case6 column b rest noFeed noWide soft shown plain =>
    rename_i inductionHypothesis
    by_cases isMark : b = markByte
    · subst isMark
      obtain ⟨few, others⟩ := sparse_mark_cons_iff.mp sparse
      have asItIs : shown = ['<'] := by
        simp only [shown, isSpace_markByte, charOf_markByte, Bool.false_and, Bool.false_eq_true,
          if_false]
      rw [asItIs]
      exact sparse_mark_behind soft unmarked few (inductionHypothesis others)
    · rw [sparse_cons_iff_of_ne isMark] at sparse
      have isOther := charOf_ne_mark isMark
      refine sparse_other_behind soft unmarked ?_ ?_ (inductionHypothesis sparse)
      · simp only [shown]
        split <;> simp [not_mem_escape, isOther.symm]
      · simp only [shown]
        split <;> simp [escape]

end

/-- The encoding keeps what is between two marks, or puts more there. -/
theorem sparse_ofText {before : Nat} {cs : List Char} (sparse : Sparse '<' before cs) :
    Sparse '<' before (ofText cs) := by
  unfold ofText encode
  rw [toList_toUTF8]
  have bytes := sparse_flatMap_utf8EncodeChar sparse
  split
  · exact sparse_encodeFrom (by decide) (by decide) 0 bytes
  · exact sparse_encodeFrom (by decide) (by decide) 0 bytes

end QuotedPrintable

end PromptTree.Text
