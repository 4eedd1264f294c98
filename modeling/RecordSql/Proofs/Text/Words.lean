import RecordSql.Formats.Wording
import RecordSql.Proofs.Text

/-!
# Words of a text

Every text is words with blanks between them in one way, and cutting it at its
blanks finds them.  Blanks at its ends belong to no word.
-/

namespace RecordSql.Text

/-- A blank ends a word, wherever it stands. -/
theorem words_append_blank {blank : Char} (isBlank : isBlank blank = true)
    (before after : List Char) :
    words (before ++ blank :: after) = words before ++ words after := by
  simp only [words, splitOn_eq_splitOnP,
    List.splitOnP_append_cons before after isBlank, List.filter_append]

theorem words_blanks_append {blanks : List Char}
    (blank : ∀ character ∈ blanks, isBlank character = true)
    (text : List Char) : words (blanks ++ text) = words text := by
  induction blanks with
  | nil => rfl
  | cons first blanks induction =>
      rw [List.forall_mem_cons] at blank
      have cut := words_append_blank blank.1 [] (blanks ++ text)
      exact cut.trans (induction blank.2)

theorem words_append_blanks {blanks : List Char}
    (blank : ∀ character ∈ blanks, isBlank character = true)
    (text : List Char) : words (text ++ blanks) = words text := by
  cases blanks with
  | nil => rw [List.append_nil]
  | cons first blanks =>
      rw [List.forall_mem_cons] at blank
      have nothing := words_blanks_append blank.2 []
      rw [List.append_nil] at nothing
      rw [words_append_blank blank.1, nothing]
      exact List.append_nil _

theorem words_of_shown {word : List Char} (present : word ≠ [])
    (shown : ∀ character ∈ word, isBlank character = false) :
    words word = [word] := by
  simp [words, splitOn_eq_splitOnP, List.splitOnP_eq_singleton shown, present]

/-- Trimming keeps all words. -/
theorem words_trimChars (text : List Char) :
    words (trimChars text) = words text := by
  obtain ⟨leading, trailing, leadingBlank, trailingBlank, whole⟩ :=
    exists_blanks_trimChars text
  conv => rhs; rw [whole]
  rw [words_blanks_append leadingBlank, words_append_blanks trailingBlank]

theorem Spaced.words_eq {spaced : List (List Char)} {text : List Char}
    (isSpaced : Spaced spaced text) : words text = spaced := by
  induction isSpaced with
  | blanks blank =>
      have nothing := words_blanks_append blank []
      rwa [List.append_nil] at nothing
  | @word blanks word rest _ blank present shown ends _ induction =>
      rw [words_blanks_append blank]
      cases rest with
      | nil =>
          rw [← induction, List.append_nil, words_of_shown present shown]
          rfl
      | cons first rest =>
          have firstBlank : isBlank first = true := ends first rfl
          have others :=
            @words_blanks_append [first] (by simpa using firstBlank) rest
          rw [words_append_blank firstBlank,
            words_of_shown present shown, ← induction]
          exact congrArg _ others.symm

/-- The rest after the first word is shorter, but no part of the recursion of
the text itself. -/
theorem exists_spaced (text : List Char) : ∃ spaced, Spaced spaced text := by
  induction length : text.length using Nat.strongRecOn generalizing text with
  | ind _ induction =>
      have whole : text.takeWhile isBlank ++ dropBlanks text = text :=
        List.takeWhile_append_dropWhile
      have blank : ∀ character ∈ text.takeWhile isBlank,
          isBlank character = true :=
        fun _ => List.mem_takeWhile_imp
      cases start : dropBlanks text with
      | nil =>
          rw [start, List.append_nil] at whole
          rw [← whole]
          exact ⟨[], .blanks blank⟩
      | cons first more =>
          let shown : Char → Bool := fun character => !isBlank character
          have firstShown : isBlank first = false := by
            have head := List.head?_dropWhile_not isBlank text
            rw [← dropBlanks, start] at head
            exact head
          have cut :
            (first :: more).takeWhile shown ++ (first :: more).dropWhile shown =
              first :: more := List.takeWhile_append_dropWhile
          have wordCut : (first :: more).takeWhile shown =
              first :: more.takeWhile shown :=
            List.takeWhile_cons_of_pos (by simp [shown, firstShown])
          have shorter : ((first :: more).dropWhile shown).length <
              text.length := by
            rw [← whole, ← cut.trans start.symm, wordCut]
            simp only [List.length_append, List.length_cons]
            omega
          obtain ⟨spaced, rest⟩ :=
            induction _ (by rw [← length]; exact shorter) _ rfl
          have present : (first :: more).takeWhile shown ≠ [] := by
            rw [wordCut]
            exact List.cons_ne_nil _ _
          have wordShown : ∀ character ∈ (first :: more).takeWhile shown,
              isBlank character = false := by
            intro character member
            simpa [shown] using List.mem_takeWhile_imp member
          have ends : ∀ character ∈ ((first :: more).dropWhile shown).head?,
              isBlank character = true := by
            intro character isFirst
            have head := List.head?_dropWhile_not shown (first :: more)
            rw [Option.mem_def.mp isFirst] at head
            simpa [shown] using head
          have spacedWord := Spaced.word blank present wordShown ends rest
          rw [cut, ← start, whole] at spacedWord
          exact ⟨_, spacedWord⟩

/-- Cutting a text at its blanks finds its words. -/
theorem words_eq_iff {text : List Char} {spaced : List (List Char)} :
    words text = spaced ↔ Spaced spaced text := by
  constructor
  · rintro rfl
    obtain ⟨spaced, isSpaced⟩ := exists_spaced text
    rwa [isSpaced.words_eq]
  · exact Spaced.words_eq

/-- But for blanks, a text starts with its first word. -/
theorem Spaced.head?_dropBlanks {first : Char} {more : List Char}
    {others : List (List Char)} {text : List Char}
    (isSpaced : Spaced ((first :: more) :: others) text) :
    (dropBlanks text).head? = some first := by
  cases isSpaced with
  | word blank present shown ends rest =>
      have firstShown := shown first List.mem_cons_self
      rw [dropBlanks, List.dropWhile_append_of_pos blank, List.cons_append,
        List.dropWhile_cons_of_neg (by simp [firstShown]), List.head?_cons]

end RecordSql.Text
