import Mathlib.Data.List.DropRight
import RecordSql.Text.Blank
import RecordSql.Text.Hex
import RecordSql.Text.Letters
import RecordSql.Text.Separated

/-!
# Pieces of text are read back

Words in letters of any case, bytes as hexadecimal digits, and items with
separators: each is read back from the text that it is written as, and what
follows is left.  Pieces that are trimmed or joined stay as they are when
that is done again.
-/

namespace RecordSql.Text

theorem afterWord?_append {word : String} {written : List Char}
    (same : written.map Char.toLower = word.toList) (rest : List Char) :
    afterWord? word (written ++ rest) = some rest := by
  have length : word.length = written.length := by
    rw [← String.length_toList, ← same, List.length_map]
  simp [afterWord?, length, same]

theorem afterWord?_eq_none {word : String} {written : List Char}
    (short : written.length ≤ word.length)
    (other : ¬ written.map Char.toLower <+: word.toList) (rest : List Char) :
    afterWord? word (written ++ rest) = none := by
  have different : ((written ++ rest).take word.length).map Char.toLower ≠
      word.toList := by
    rw [List.take_append, List.take_of_length_le short, List.map_append]
    intro same
    exact other ⟨_, same⟩
  rw [afterWord?, if_neg different]

theorem isUpper_iff {character : Char} :
    character.isUpper = true ↔
      'A'.val ≤ character.val ∧ character.val ≤ 'Z'.val :=
  decide_eq_true_iff

theorem isLower_iff {character : Char} :
    character.isLower = true ↔
      'a'.val ≤ character.val ∧ character.val ≤ 'z'.val :=
  (Bool.and_eq_true_iff).trans (and_congr decide_eq_true_iff decide_eq_true_iff)

theorem isAlpha_iff {character : Char} :
    character.isAlpha = true ↔
      character.isUpper = true ∨ character.isLower = true :=
  Bool.or_eq_true_iff

theorem isUpper_toUpper {character : Char} (lower : character.isLower = true) :
    character.toUpper.isUpper = true := by
  rw [isLower_iff] at lower
  obtain ⟨valid, raised⟩ : ∃ valid,
      character.toUpper = ⟨character.val + ('A'.val - 'a'.val), valid⟩ :=
        ⟨_, dif_pos lower⟩
  rw [isUpper_iff, raised]
  simp only [UInt32.le_iff_toNat_le] at lower ⊢
  simp at lower ⊢
  omega

theorem toUpper_eq_self {character : Char} (plain : character.isAlpha = false) :
    character.toUpper = character := by
  refine dif_neg fun lower => ?_
  rw [isAlpha_iff.mpr (.inr (isLower_iff.mpr lower))] at plain
  cases plain

theorem toLower_eq_self {character : Char} (plain : character.isAlpha = false) :
    character.toLower = character := by
  refine dif_neg fun upper => ?_
  rw [isAlpha_iff.mpr (.inl (isUpper_iff.mpr upper))] at plain
  cases plain

theorem isAlpha_toUpper (character : Char) :
    character.toUpper.isAlpha = character.isAlpha := by
  cases lower : character.isLower with
  | true =>
      rw [isAlpha_iff.mpr (.inl (isUpper_toUpper lower)),
        isAlpha_iff.mpr (.inr lower)]
  | false =>
      have same : character.toUpper = character := dif_neg fun between => by
        rw [isLower_iff.mpr between] at lower
        cases lower
      rw [same]

theorem isAlpha_of_isDigit {character : Char}
    (digit : character.isDigit = true) : character.isAlpha = false := by
  rw [← Bool.not_eq_true, isAlpha_iff, isUpper_iff, isLower_iff]
  simp [Char.isDigit, UInt32.le_iff_toNat_le] at digit ⊢
  omega

theorem toUpper_eq_iff {mark : Char} (plain : mark.isAlpha = false)
    {character : Char} : character.toUpper = mark ↔ character = mark := by
  constructor
  · rintro rfl
    rw [isAlpha_toUpper] at plain
    exact (toUpper_eq_self plain).symm
  · rintro rfl
    exact toUpper_eq_self plain

theorem upperAsciiChars_eq_self {text : List Char}
    (plain : ∀ character ∈ text, character.isAlpha = false) :
    upperAsciiChars text = text :=
  (List.map_congr_left fun _ member => toUpper_eq_self (plain _ member)).trans
    (List.map_id _)

theorem plain_of_upperAsciiChars {text : List Char}
    (plain : ∀ character ∈ upperAsciiChars text, character.isAlpha = false) :
    ∀ character ∈ text, character.isAlpha = false := by
  intro character member
  rw [← isAlpha_toUpper]
  exact plain _ (List.mem_map_of_mem member)

theorem hexValue?_hexDigit :
    ∀ value < 16, hexValue? (hexDigit value) = some value := by
  decide

theorem isAlphanum_hexDigit :
    ∀ value < 16, (hexDigit value).isAlphanum = true := by
  decide

theorem bytesOfHex?_hexChars (bytes : List UInt8) :
    bytesOfHex? (hexChars bytes) = some bytes := by
  induction bytes with
  | nil => rfl
  | cons byte bytes induction =>
      have below := byte.toNat_lt
      have high := hexValue?_hexDigit (byte.toNat / 16) (by omega)
      have low := hexValue?_hexDigit (byte.toNat % 16) (by omega)
      simp only [hexChars, bytesOfHex?, high, low, induction,
        Option.bind_eq_bind, Option.bind_some, Option.pure_def]
      rw [Nat.div_add_mod, UInt8.ofNat_toNat]

theorem isAlphanum_of_mem_hexChars {bytes : List UInt8} {character : Char}
    (member : character ∈ hexChars bytes) : character.isAlphanum = true := by
  induction bytes with
  | nil => cases member
  | cons byte bytes induction =>
      have below := byte.toNat_lt
      simp only [hexChars, List.mem_cons] at member
      rcases member with rfl | rfl | later
      · exact isAlphanum_hexDigit _ (by omega)
      · exact isAlphanum_hexDigit _ (by omega)
      · exact induction later

private theorem trimChars_eq_rdropWhile (text : List Char) :
    trimChars text = (text.dropWhile isBlank).rdropWhile isBlank := rfl

theorem dropBlanks_trimChars (text : List Char) :
    dropBlanks (trimChars text) = trimChars text := by
  cases trimmed : trimChars text with
  | nil => rfl
  | cons first rest =>
      obtain ⟨trailing, whole⟩ :=
        List.rdropWhile_prefix isBlank (l := text.dropWhile isBlank)
      rw [← trimChars_eq_rdropWhile, trimmed] at whole
      have starts := List.head?_dropWhile_not isBlank text
      rw [← whole] at starts
      have shown : isBlank first = false := by simpa using starts
      exact List.dropWhile_cons_of_neg (by simp [shown])

theorem trimChars_trimChars (text : List Char) :
    trimChars (trimChars text) = trimChars text := by
  have leading := dropBlanks_trimChars text
  rw [dropBlanks] at leading
  rw [trimChars_eq_rdropWhile, leading, trimChars_eq_rdropWhile,
    List.rdropWhile_idempotent]

theorem exists_dropTrailing (test : Char → Bool) (text : List Char) :
    ∃ trailing, (∀ character ∈ trailing, test character = true) ∧
      text = dropTrailing test text ++ trailing := by
  refine ⟨(text.reverse.takeWhile test).reverse, ?_, ?_⟩
  · intro character member
    exact List.mem_takeWhile_imp (List.mem_reverse.mp member)
  · rw [dropTrailing, ← List.reverse_append, List.takeWhile_append_dropWhile,
      List.reverse_reverse]

theorem dropTrailing_append {test : Char → Bool} {text trailing : List Char}
    (dropped : ∀ character ∈ trailing, test character = true)
    (ends : ∀ last ∈ text.getLast?, test last = false) :
    dropTrailing test (text ++ trailing) = text := by
  have reversed : ∀ character ∈ trailing.reverse,
      test character = true := fun character member =>
    dropped character (List.mem_reverse.mp member)
  rw [dropTrailing, List.reverse_append, List.dropWhile_append_of_pos reversed]
  cases backwards : text.reverse with
  | nil => simpa using backwards.symm
  | cons last before =>
      have kept : test last = false :=
        ends last (by simp [← List.head?_reverse, backwards])
      rw [List.dropWhile_cons_of_neg (by simp [kept]), ← backwards,
        List.reverse_reverse]

theorem exists_blanks_trimChars (text : List Char) :
    ∃ leading trailing, (∀ character ∈ leading, isBlank character = true) ∧
      (∀ character ∈ trailing, isBlank character = true) ∧
      text = leading ++ (trimChars text ++ trailing) := by
  obtain ⟨trailing, trailingBlank, whole⟩ :=
    exists_dropTrailing isBlank (dropBlanks text)
  refine ⟨text.takeWhile isBlank, trailing, fun _ => List.mem_takeWhile_imp,
    trailingBlank, ?_⟩
  rw [trimChars, ← whole, dropBlanks, List.takeWhile_append_dropWhile]

theorem trimChars_eq_self {text : List Char}
    (starts : ∃ first more, text = first :: more ∧ isBlank first = false)
    (ends : ∃ before last, text = before ++ [last] ∧ isBlank last = false) :
    trimChars text = text := by
  have leading : dropBlanks text = text := by
    obtain ⟨first, more, rfl, shown⟩ := starts
    simp [dropBlanks, shown]
  obtain ⟨before, last, rfl, shown⟩ := ends
  simp [trimChars, leading, dropTrailing, shown]

theorem trimChars_of_shown {text : List Char} (present : text ≠ [])
    (shown : ∀ character ∈ text, isBlank character = false) :
    trimChars text = text := by
  obtain ⟨first, more, written⟩ := List.exists_cons_of_ne_nil present
  exact trimChars_eq_self ⟨first, more, written,
    shown first (by simp [written])⟩
    ⟨text.dropLast, text.getLast present,
      (List.dropLast_append_getLast present).symm,
      shown _ (List.getLast_mem present)⟩

theorem trim_trim (text : String) : trim (trim text) = trim text := by
  simp [trim, trimChars_trimChars]

theorem trim_eq_empty_iff {text : String} :
    trim text = "" ↔ isAllBlank text = true := by
  rw [trim, String.ofList_eq_empty_iff, trimChars_eq_rdropWhile,
    List.rdropWhile_eq_nil_iff, ← List.dropWhile_eq_nil_iff,
      List.dropWhile_idempotent, List.dropWhile_eq_nil_iff, isAllBlank,
      List.all_eq_true]

theorem pieces_intercalate {separator : Char} {parts : List String}
    (several : parts ≠ []) (free : ∀ part ∈ parts, separator ∉ part.toList) :
    pieces separator ((String.singleton separator).intercalate parts) =
      parts := by
  have split :
      ([separator].intercalate (parts.map String.toList)).splitOn separator =
        parts.map String.toList :=
    List.splitOn_intercalate separator (by simpa using free)
      (by simpa using several)
  rw [pieces, splitOn_eq_splitOn, String.toList_intercalate,
    String.toList_singleton, split]
  simp [Function.comp_def]

section Fields

variable {mark : Char}

theorem splitOn_append_mark {field : List Char} (free : mark ∉ field)
    (rest : List Char) :
    splitOn (· == mark) (field ++ mark :: rest) =
      field :: splitOn (· == mark) rest := by
  have others : ∀ character ∈ field,
      (character == mark) = false := fun _ member =>
    beq_false_of_ne fun same => free (same ▸ member)
  have cut :=
    @List.splitOnP_append_cons Char (· == mark) field rest mark
      (beq_self_eq_true mark)
  rw [splitOn_eq_splitOnP, cut, List.splitOnP_eq_singleton others,
    splitOn_eq_splitOnP]
  rfl

theorem splitOn_of_free {field : List Char} (free : mark ∉ field) :
    splitOn (· == mark) field = [field] := by
  have others : ∀ character ∈ field,
      (character == mark) = false := fun _ member =>
    beq_false_of_ne fun same => free (same ▸ member)
  rw [splitOn_eq_splitOnP, List.splitOnP_eq_singleton others]

theorem splitOn_upperAsciiChars (plain : mark.isAlpha = false)
    (text : List Char) : splitOn (· == mark) (upperAsciiChars text) =
      (splitOn (· == mark) text).map upperAsciiChars := by
  induction text with
  | nil => rfl
  | cons first rest induction =>
      have same : (first.toUpper == mark) = (first == mark) := by
        rw [Bool.eq_iff_iff, beq_iff_eq, beq_iff_eq, toUpper_eq_iff plain]
      rw [upperAsciiChars] at induction
      rw [upperAsciiChars, List.map_cons, splitOn, splitOn, induction, same]
      cases splitOn (· == mark) rest <;> cases first == mark <;> rfl

end Fields

variable {α β : Type} {separator : List Char}
  {read : List Char → Option (α × List Char)} {write : β → List Char}
  {view : β → α} {ends : List Char → Prop}

private theorem length_le_length_intercalate (separator : List Char)
    {items : List β} (present : ∀ item ∈ items, write item ≠ []) :
    items.length ≤ (separator.intercalate (items.map write)).length := by
  induction items with
  | nil => exact Nat.zero_le _
  | cons item items induction =>
      obtain ⟨itemPresent, itemsPresent⟩ := List.forall_mem_cons.mp present
      have positive : 0 < (write item).length :=
        List.length_pos_of_ne_nil itemPresent
      cases items with
      | nil => simpa using Nat.succ_le_of_lt positive
      | cons next items =>
          have further := induction itemsPresent
          rw [List.map_cons, List.map_cons, List.intercalate_cons_cons,
            ← List.map_cons]
          simp only [List.length_append, List.length_cons] at further ⊢
          omega

private theorem readItemsWithin_intercalate {items : List β}
    (several : items ≠ []) (reads : ∀ item ∈ items, ∀ rest, ends rest →
      read (write item ++ rest) = some (view item, rest))
    (separates : ∀ rest, ends (separator ++ rest)) {rest : List Char}
    (restEnds : ends rest) (last : separator.isPrefixOf? rest = none)
    {count : Nat} (enough : items.length ≤ count) :
    readItemsWithin separator read count
        (separator.intercalate (items.map write) ++ rest) =
      some (items.map view, rest) := by
  induction items generalizing count with
  | nil => exact absurd rfl several
  | cons item items induction =>
      obtain ⟨itemReads, itemsRead⟩ := List.forall_mem_cons.mp reads
      cases count with
      | zero => simp at enough
      | succ count =>
          cases items with
          | nil => simp [readItemsWithin, itemReads rest restEnds, last]
          | cons next items =>
              have further :=
                induction (by simp) itemsRead (Nat.le_of_succ_le_succ enough)
              have follows : separator.isPrefixOf?
                      (separator ++
                        (separator.intercalate ((next :: items).map write) ++
                          rest)) =
                    some (separator.intercalate ((next :: items).map write) ++
                      rest) :=
                List.isPrefixOf?_eq_some_iff_append_eq.mpr rfl
              rw [List.map_cons, List.map_cons, List.intercalate_cons_cons,
                ← List.map_cons, List.append_assoc, List.append_assoc,
                  readItemsWithin, itemReads _ (separates _)]
              simp only [Option.bind_eq_bind, Option.bind_some,
                follows, further]
              rfl

/-- The reader of one item may ask that what follows cannot belong to the item;
the separator must be of that kind. -/
theorem readItems_intercalate {items : List β} (several : items ≠ [])
    (present : ∀ item ∈ items, write item ≠ [])
    (reads : ∀ item ∈ items, ∀ rest, ends rest →
      read (write item ++ rest) = some (view item, rest))
    (separates : ∀ rest, ends (separator ++ rest)) {rest : List Char}
    (restEnds : ends rest) (last : separator.isPrefixOf? rest = none) :
    readItems separator read (separator.intercalate (items.map write) ++ rest) =
      some (items.map view, rest) := by
  refine readItemsWithin_intercalate several reads separates restEnds last ?_
  rw [List.length_append]
  exact Nat.le_add_right_of_le (length_le_length_intercalate separator present)

end RecordSql.Text
