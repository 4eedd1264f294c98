import RecordSql.Dialect.Literals
import RecordSql.Proofs.Dialect.Reading
import RecordSql.Proofs.Number.Whole

/-!
# Literals are read back

The literal of a text, of a whole number or of bytes is read as the
parameter that it was written for, whatever follows, and so no operand can
end its literal early.
-/

namespace RecordSql

/-- A doubled quote cannot end the text that it is in, and neither can a
backslash before it. -/
theorem readEscaped_doubling (text : List Char) {rest : List Char}
    (ends : rest.head? ≠ some '\'') :
    readEscaped (Dialect.doubling '\'' (Dialect.doubling '\\' text) ++
        '\'' :: rest) =
      some (text, rest) := by
  induction text with
  | nil =>
      cases rest with
      | nil => simp [Dialect.doubling, readEscaped]
      | cons first after =>
          have different : first ≠ '\'' := by simpa using ends
          simp [Dialect.doubling, readEscaped, different]
  | cons first text induction =>
      by_cases backslash : first = '\\'
      · simp [Dialect.doubling, backslash, readEscaped, escapedChars, induction]
      by_cases quote : first = '\''
      · simp [Dialect.doubling, quote, readEscaped, induction]
      · rw [Dialect.doubling, if_neg backslash, Dialect.doubling, if_neg quote,
          List.cons_append, readEscaped.eq_def]
        simp [backslash, quote, induction]

namespace Dialect

variable {rest : List Char}

theorem readText_textLiteralChars (dialect : Dialect) (text : List Char)
    (ends : rest.head? ≠ some '\'') :
    dialect.readText (dialect.textLiteralChars text ++ rest) =
      some (text, rest) := by
  have readsQuoted : readQuoted '\'' (doubling '\'' text ++ '\'' :: rest) =
      some (text, rest) :=
    readQuoted_doubling '\'' text ends
  have readsEscaped := readEscaped_doubling text ends
  cases dialect <;> simpa [textLiteralChars, quoted, readText]

theorem doubling_of_not_mem {quote : Char} {text : List Char}
    (absent : quote ∉ text) : doubling quote text = text := by
  induction text with
  | nil => rfl
  | cons first text induction =>
      obtain ⟨different, absentLater⟩ := not_or.mp (mt List.mem_cons.mpr absent)
      rw [doubling, if_neg (Ne.symm different), induction absentLater]

private theorem textLiteralChars_hexChars (dialect : Dialect)
    (bytes : List UInt8) :
    dialect.textLiteralChars (Text.hexChars bytes) =
      '\'' :: Text.hexChars bytes ++ ['\''] := by
  have absent : ∀ character : Char, character.isAlphanum = false →
      character ∉ Text.hexChars bytes := by
    intro character sign member
    rw [Text.isAlphanum_of_mem_hexChars member] at sign
    cases sign
  have noQuote := doubling_of_not_mem (absent '\'' rfl)
  have noBackslash := doubling_of_not_mem (absent '\\' rfl)
  cases dialect <;> simp [textLiteralChars, quoted, noQuote, noBackslash]

/-- Bytes are written as a text of digits in a call. -/
private theorem exists_bytesCall (dialect : Dialect) (bytes : List UInt8) :
    ∃ opening closing : String,
      (dialect.bytesLiteral bytes).toList =
          opening.toList ++
            (dialect.textLiteralChars (Text.hexChars bytes) ++ closing.toList) ∧
        opening.toList.map Char.toLower = dialect.bytesCall.1.toList ∧
        closing.toList.map Char.toLower = dialect.bytesCall.2.toList ∧
        (∃ first ∈ opening.toList.head?, first ≠ '\'' ∧
          startsWhole first = false) ∧
        ∃ first ∈ closing.toList.head?, first ≠ '\'' := by
  rw [textLiteralChars_hexChars]
  unfold bytesLiteral bytesCall
  cases dialect with
  | mysql sequenceFunction =>
      exact ⟨"UNHEX(", ")", by simp [Text.hex], by simp, by
        simp, ⟨'U', by simp, by decide⟩, ⟨')', by simp, by decide⟩⟩
  | sqlserver =>
      exact ⟨"CONVERT(VARBINARY(MAX), ",
        ", 2)", by simp [Text.hex], by simp, by
          simp, ⟨'C', by simp, by decide⟩, ⟨',', by simp, by decide⟩⟩
  | sqlite =>
      exact ⟨"unhex(", ")", by simp [Text.hex], by simp, by
        simp, ⟨'u', by simp, by decide⟩, ⟨')', by simp, by decide⟩⟩

theorem readBytes_bytesLiteral (dialect : Dialect) (bytes : List UInt8)
    (rest : List Char) :
    dialect.readBytes ((dialect.bytesLiteral bytes).toList ++ rest) =
      some (bytes, rest) := by
  obtain ⟨opening, closing, written, opens, closes, _, first,
    starts, different⟩ :=
    dialect.exists_bytesCall bytes
  have ends : (closing.toList ++ rest).head? ≠ some '\'' := by
    simpa [Option.mem_def.mp starts] using different
  simp [readBytes, written, Text.afterWord?_append opens,
    Text.afterWord?_append closes, dialect.readText_textLiteralChars _ ends,
    Text.bytesOfHex?_hexChars]

private theorem readWhole_of_isDigit {first : Char}
    (digit : first.isDigit = true) : readWhole (first :: rest) =
      (Number.int64? ((first :: rest).takeWhile Char.isDigit)).map fun value =>
        (value, (first :: rest).dropWhile Char.isDigit) := by
  unfold readWhole
  split
  · next minus =>
      obtain ⟨rfl, _⟩ := List.cons.inj minus
      cases digit
  · rfl

theorem readWhole_intChars (value : Int64) (ends : EndsDigits rest) :
    readWhole (Number.intChars value.toInt ++ rest) = some (value, rest) := by
  have read := Number.int64?_intChars value
  have every : ∀ digit ∈ Number.digitChars value.toInt.natAbs,
      digit.isDigit = true := fun _ =>
    Nat.isDigit_of_mem_toDigits (by decide) (by decide)
  have taken := Number.takeWhile_digits every ends
  have dropped := Number.dropWhile_digits every ends
  unfold Number.intChars at read ⊢
  split
  · next negative =>
      rw [if_pos negative] at read
      simp [readWhole, taken, dropped, read]
  · next positive =>
      rw [if_neg positive] at read
      obtain ⟨first, more, written, digit⟩ :=
        Number.digitChars_starts value.toInt.natAbs
      rw [written, List.cons_append] at taken dropped ⊢
      rw [readWhole_of_isDigit digit, taken, dropped, ← written, read,
        Option.map_some]

private theorem intChars_starts (value : Int) :
    ∃ first ∈ (Number.intChars value).head?, startsWhole first = true := by
  unfold Number.intChars
  split
  · exact ⟨'-', rfl, rfl⟩
  · obtain ⟨first, more, written, digit⟩ :=
      Number.digitChars_starts value.natAbs
    exact ⟨first, by simp [written], by simp [startsWhole, digit]⟩

end Dialect

/-- The parameters whose literals tell them apart. -/
def Param.IsTold : Param → Prop
  | .text _ | .bytes _ | .integer _ => True
  | _ => False

/-- The literals of a dialect are read as what they are written for. -/
structure Dialect.ReadsLiteralsBack (dialect : Dialect) : Prop where
  text : ∀ (text : String) (rest : List Char), rest.head? ≠ some '\'' →
    dialect.readLiteral ((dialect.literal (.text text)).toList ++ rest) =
      some (.text text, rest)
  bytes : ∀ (bytes : List UInt8) (rest : List Char),
    dialect.readLiteral ((dialect.literal (.bytes bytes)).toList ++ rest) =
      some (.bytes bytes, rest)
  integer : ∀ (value : Int64) (rest : List Char), EndsDigits rest →
    dialect.readLiteral ((dialect.literal (.integer value)).toList ++ rest) =
      some (.integer value, rest)
  /-- Parameters that are not equal are written differently. -/
  distinct : ∀ left right : Param, left.IsTold → right.IsTold →
    dialect.literal left = dialect.literal right → left = right

namespace Dialect

variable {rest : List Char}

private theorem readLiteral_text (dialect : Dialect) (text : String)
    (ends : rest.head? ≠ some '\'') :
    dialect.readLiteral ((dialect.literal (.text text)).toList ++ rest) =
      some (.text text, rest) := by
  have read := dialect.readText_textLiteralChars text.toList ends
  have starts : (dialect.textLiteralChars text.toList).head? = some '\'' := by
    cases dialect <;> rfl
  simp [literal, textLiteral, readLiteral, starts, read]

private theorem readLiteral_bytes (dialect : Dialect) (bytes : List UInt8)
    (rest : List Char) :
    dialect.readLiteral ((dialect.literal (.bytes bytes)).toList ++ rest) =
      some (.bytes bytes, rest) := by
  have read := dialect.readBytes_bytesLiteral bytes rest
  obtain ⟨opening, closing, written, _, _,
    ⟨first, starts, noQuote, noNumber⟩, _⟩ :=
    dialect.exists_bytesCall bytes
  have head : ((dialect.bytesLiteral bytes).toList ++ rest).head? =
      some first := by
    simp [written, Option.mem_def.mp starts]
  simp [literal, readLiteral, head, noQuote, noNumber, read]

private theorem readLiteral_integer (dialect : Dialect) (value : Int64)
    (ends : EndsDigits rest) :
    dialect.readLiteral ((dialect.literal (.integer value)).toList ++ rest) =
      some (.integer value, rest) := by
  have read := readWhole_intChars value ends
  obtain ⟨first, starts, isNumber⟩ := intChars_starts value.toInt
  have head : (Number.intChars value.toInt ++ rest).head? = some first := by
    simp [Option.mem_def.mp starts]
  have noQuote : first ≠ '\'' := by
    rintro rfl
    cases isNumber
  simp [literal, Number.int64Text, readLiteral, head, noQuote, isNumber, read]

private theorem readLiteral_literal (dialect : Dialect) {param : Param}
    (told : param.IsTold) :
    dialect.readLiteral (dialect.literal param).toList = some (param, []) := by
  rw [← List.append_nil (dialect.literal param).toList]
  cases param with
  | text text => exact dialect.readLiteral_text text (by simp)
  | bytes bytes => exact dialect.readLiteral_bytes bytes []
  | integer value =>
      exact dialect.readLiteral_integer value (by simp [EndsDigits])
  | null | double | boolean => exact told.elim

/-- Whatever a text, a whole number or bytes have in them, their literal is read
as them, and no more of the text is. -/
theorem readsLiteralsBack (dialect : Dialect) : dialect.ReadsLiteralsBack where
  text text _ ends := dialect.readLiteral_text text ends
  bytes := dialect.readLiteral_bytes
  integer value _ ends := dialect.readLiteral_integer value ends
  distinct left right leftTold rightTold same := by
    have readLeft := dialect.readLiteral_literal leftTold
    rw [same, dialect.readLiteral_literal rightTold] at readLeft
    exact (Prod.mk.inj (Option.some.inj readLeft)).1.symm

/-- A backslash and a quote at the end of a text: a backslash that is not
doubled would let the quote out. -/
example :
    (mysql "nextval").literal (.text "\\'") = "'\\\\'''" ∧
      (mysql "nextval").readLiteral "'\\\\''', 1".toList =
        some (.text "\\'", ", 1".toList) := by
  decide +kernel

end Dialect

end RecordSql
