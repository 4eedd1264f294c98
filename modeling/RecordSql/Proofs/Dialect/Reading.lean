import RecordSql.Dialect.Reading
import RecordSql.Proofs.Number.Whole
import RecordSql.Proofs.Text

/-!
# Quoted names are read back

A quoted name is read as the segments that it was made from, whatever characters
they have and whatever follows, as long as that cannot belong to the name.
-/

namespace RecordSql

/-- A doubled quote cannot end the text that it is in. -/
theorem readQuoted_doubling (closing : Char) (text : List Char)
    {rest : List Char} (ends : rest.head? ≠ some closing) :
    readQuoted closing (Dialect.doubling closing text ++ closing :: rest) =
      some (text, rest) := by
  induction text with
  | nil =>
      cases rest with
      | nil => simp [Dialect.doubling, readQuoted]
      | cons first after =>
          have different : first ≠ closing := by simpa using ends
          simp [Dialect.doubling, readQuoted, different]
  | cons first text induction =>
      by_cases same : first = closing
      · simp [Dialect.doubling, same, readQuoted, induction]
      · rw [Dialect.doubling, if_neg same, List.cons_append, readQuoted.eq_def]
        simp [same, induction]

namespace Dialect

variable {dialect : Dialect} {rest : List Char}

/-- What follows cannot belong to a segment. -/
def EndsSegment (dialect : Dialect) (rest : List Char) : Prop :=
  ∀ next ∈ rest.head?, next ≠ dialect.closingQuote ∧
    Text.continuesWord next = false

/-- What follows cannot belong to a name. -/
def EndsName (dialect : Dialect) (rest : List Char) : Prop :=
  dialect.EndsSegment rest ∧ rest.head? ≠ some '.'

theorem endsName_nil : dialect.EndsName [] := by
  refine ⟨?_, by simp⟩
  intro next member
  cases member

theorem endsName_cons {next : Char} (separates : next ∈ [' ', ')', ',']) :
    dialect.EndsName (next :: rest) := by
  simp only [List.mem_cons, List.not_mem_nil, or_false] at separates
  refine ⟨?_, ?_⟩
  · intro first member
    cases member
    rcases separates with rfl | rfl | rfl <;> cases dialect <;>
      exact ⟨by simp [closingQuote], rfl⟩
  · rcases separates with rfl | rfl | rfl <;> simp

theorem startsWord_openingQuote (dialect : Dialect) :
    Text.startsWord dialect.openingQuote = false := by
  cases dialect <;> rfl

theorem openingQuote_ne_star (dialect : Dialect) :
    dialect.openingQuote ≠ '*' := by
  cases dialect <;> simp [openingQuote]

theorem EndsSegment.unquoted (ends : dialect.EndsSegment rest) :
    rest.head? ≠ some dialect.closingQuote := by
  intro closes
  exact (ends _ closes).1 rfl

theorem EndsSegment.digits (ends : dialect.EndsSegment rest) :
    EndsDigits rest := by
  intro next first
  have stop := (ends next first).2
  simp only [Text.continuesWord, Char.isAlphanum, Bool.or_eq_false_iff] at stop
  exact stop.1.2

theorem readSegment_quoted (words : Bool) (text : List Char)
    (ends : dialect.EndsSegment rest) :
    dialect.readSegment words
        (quoted dialect.openingQuote dialect.closingQuote text ++ rest) =
      some (.quoted text, rest) := by
  rw [quoted, List.append_assoc, List.cons_append, List.singleton_append,
    readSegment, if_neg dialect.openingQuote_ne_star, if_pos rfl,
    readQuoted_doubling dialect.closingQuote text ends.unquoted,
    Option.map_some]

/-- A word is read to its end. -/
theorem splitWord {word : List Char}
    (continues : ∀ character ∈ word, Text.continuesWord character = true)
    (ends : dialect.EndsSegment rest) :
    (word ++ rest).takeWhile Text.continuesWord = word ∧
      (word ++ rest).dropWhile Text.continuesWord = rest := by
  rw [List.takeWhile_append_of_pos continues,
    List.dropWhile_append_of_pos continues]
  cases rest with
  | nil => exact ⟨List.append_nil word, rfl⟩
  | cons next after =>
      have stop := (ends next rfl).2
      simp [stop]

theorem ne_of_startsWord {first : Char}
    (starts : Text.startsWord first = true) :
    first ≠ '*' ∧ first ≠ dialect.openingQuote := by
  constructor
  · rintro rfl
    exact absurd starts (by decide)
  · rintro rfl
    rw [startsWord_openingQuote] at starts
    cases starts

theorem readSegment_word {first : Char} {word : List Char}
    (starts : Text.startsWord first = true)
    (continues : ∀ character ∈ word, Text.continuesWord character = true)
    (ends : dialect.EndsSegment rest) :
    dialect.readSegment true (first :: word ++ rest) =
      some (.bare (first :: word), rest) := by
  obtain ⟨notStar, notQuote⟩ := @ne_of_startsWord dialect first starts
  obtain ⟨taken, left⟩ := splitWord continues ends
  rw [List.cons_append, readSegment, if_neg notStar, if_neg notQuote,
    if_pos (by simp [starts]), taken, left]

theorem word_of_isBareWord {segment : List Char}
    (bare : isBareWord segment = true) :
    ∃ first word, segment = first :: word ∧ Text.startsWord first = true ∧
      ∀ character ∈ word, Text.continuesWord character = true := by
  simp only [isBareWord, Text.isPlainWord, Bool.and_eq_true,
    String.toList_ofList] at bare
  cases segment with
  | nil => simp at bare
  | cons first word =>
      have plain := bare.1
      simp only [Bool.and_eq_true, List.all_eq_true] at plain
      exact ⟨first, word, rfl, plain⟩

/-- The way a segment is written. -/
def written (dialect : Dialect) (segment : List Char) : NameSegment :=
  if segment = ['*'] then .star
  else if dialect.takesBareWords && isBareWord segment then .bare segment
  else .quoted segment

theorem text_written (dialect : Dialect) (segment : List Char) :
    (dialect.written segment).text = segment := by
  unfold written
  split
  · next star => exact star.symm
  · split <;> rfl

theorem quoteSegment_eq (dialect : Dialect) (segment : List Char) :
    dialect.quoteSegment segment =
      match dialect.written segment with
      | .star => ['*']
      | .bare word => word
      | .quoted text =>
          quoted dialect.openingQuote dialect.closingQuote text := by
  unfold quoteSegment written
  split
  · assumption
  · cases dialect with
    | mysql _ | sqlserver => rfl
    | sqlite =>
        cases isBareWord segment <;>
          simp [takesBareWords, openingQuote, closingQuote]

/-- A quoted segment is read by each reader that takes the plain words of the
dialect's names. -/
theorem readSegment_quoteSegment {words : Bool}
    (takes : dialect.takesBareWords = true → words = true) (segment : List Char)
    (ends : dialect.EndsSegment rest) :
    dialect.readSegment words (dialect.quoteSegment segment ++ rest) =
      some (dialect.written segment, rest) := by
  rw [quoteSegment_eq]
  unfold written
  split_ifs with star bare
  · simp [readSegment]
  · rw [Bool.and_eq_true] at bare
    obtain ⟨first, word, rfl, starts, continues⟩ := word_of_isBareWord bare.2
    rw [takes bare.1]
    exact readSegment_word starts continues ends
  · exact readSegment_quoted words segment ends

/-- A quoted segment starts with a star or a quote, or it is a bare word. -/
theorem quoteSegment_eq_cons (dialect : Dialect) (segment : List Char) :
    ∃ first tail, dialect.quoteSegment segment = first :: tail ∧
      (first = '*' ∨ first = dialect.openingQuote ∨
        Text.startsWord first = true ∧ isBareWord segment = true) := by
  unfold quoteSegment
  split
  · next star => exact ⟨'*', [], star, .inl rfl⟩
  · split
    · exact ⟨_, _, rfl, .inr (.inl rfl)⟩
    · exact ⟨_, _, rfl, .inr (.inl rfl)⟩
    · split
      · next bare =>
          obtain ⟨first, word, rfl, starts, _⟩ := word_of_isBareWord bare
          exact ⟨first, word, rfl, .inr (.inr ⟨starts, bare⟩)⟩
      · exact ⟨_, _, rfl, .inr (.inl rfl)⟩

theorem quoteSegment_ne_nil (dialect : Dialect) (segment : List Char) :
    dialect.quoteSegment segment ≠ [] := by
  obtain ⟨first, tail, quotes, _⟩ := dialect.quoteSegment_eq_cons segment
  simp [quotes]

theorem endsSegment_dot (dialect : Dialect) (rest : List Char) :
    dialect.EndsSegment ('.' :: rest) := by
  intro next dot
  cases dot
  cases dialect <;> exact ⟨by simp [closingQuote], rfl⟩

theorem EndsName.no_dot (ends : dialect.EndsName rest) :
    ['.'].isPrefixOf? rest = none := by
  cases rest with
  | nil => rfl
  | cons next after =>
      have notDot : next ≠ '.' := by simpa using ends.2
      simp [List.isPrefixOf?, Ne.symm notDot]

theorem quoteChars_ne_nil (dialect : Dialect) (name : List Char) :
    dialect.quoteChars name ≠ [] := by
  unfold quoteChars
  cases segments : Text.splitOn (· == '.') name with
  | nil => exact absurd segments (Text.splitOn_ne_nil _ name)
  | cons first rest =>
      have present := dialect.quoteSegment_ne_nil first
      cases rest with
      | nil => simpa using present
      | cons next rest => simp [List.intercalate_cons_cons, present]

theorem readSegments_quoteChars {words : Bool}
    (takes : dialect.takesBareWords = true → words = true) (name : List Char)
    (ends : dialect.EndsName rest) :
    dialect.readSegments words (dialect.quoteChars name ++ rest) =
      some ((Text.splitOn (· == '.') name).map dialect.written, rest) :=
  Text.readItems_intercalate (Text.splitOn_ne_nil (· == '.') name)
    (fun segment _ => dialect.quoteSegment_ne_nil segment)
    (fun segment _ _ => readSegment_quoteSegment takes segment)
    dialect.endsSegment_dot ends.1 ends.no_dot

theorem readName_quoteChars (name : List Char) (ends : dialect.EndsName rest) :
    dialect.readName (dialect.quoteChars name ++ rest) =
      some (Text.splitOn (· == '.') name, rest) := by
  rw [readName, readSegments_quoteChars (fun _ => rfl) name ends]
  simp [Function.comp_def, text_written]

theorem readName_word {first : Char} {word : List Char}
    (starts : Text.startsWord first = true)
    (continues : ∀ character ∈ word, Text.continuesWord character = true)
    (ends : dialect.EndsName rest) :
    dialect.readName (first :: word ++ rest) =
      some ([first :: word], rest) := by
  rw [readName, readSegments, Text.readItems, List.cons_append,
    List.length_cons, Text.readItemsWithin, ← List.cons_append,
      readSegment_word starts continues ends.1]
  simp [ends.no_dot, NameSegment.text]

theorem readPlaceholder?_placeholder (position : Nat)
    (ends : dialect.EndsSegment rest) :
    dialect.readPlaceholder? ((dialect.placeholder position).toList ++ rest) =
      some rest := by
  cases dialect with
  | mysql _ | sqlite => simp [placeholder, readPlaceholder?]
  | sqlserver =>
      have digits : ∀ digit ∈ Number.digitChars position,
          digit.isDigit = true :=
        fun digit member =>
          Nat.isDigit_of_mem_toDigits (by decide) (by decide) member
      cases written : Number.digitChars position with
      | nil => exact absurd written Nat.toDigits_ne_nil
      | cons digit more =>
          rw [written] at digits
          obtain ⟨isDigit, inMore⟩ := List.forall_mem_cons.mp digits
          have dropped := Number.dropWhile_digits inMore ends.digits
          simp [placeholder, Number.natText, written, readPlaceholder?,
            isDigit, dropped]

end Dialect

end RecordSql
