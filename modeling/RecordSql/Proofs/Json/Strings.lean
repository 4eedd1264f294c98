import RecordSql.Json.Reading
import RecordSql.Proofs.Text

/-!
# Strings of JSON texts

A string is read back from its escapes, whatever characters it has and whatever
follows its closing quote.
-/

namespace RecordSql

namespace Json

/-- Control characters whose escape is a letter. -/
def shortEscapes : List Char := ['\x08', '\x0c', '\n', '\r', '\t']

/-- The unit that the escape of a character is read as. -/
def unitOf (character : Char) : StringUnit :=
  if character.toNat < 32 ∧ character ∉ shortEscapes then .unit character.toNat
  else .character character

/-- A byte is written with two hexadecimal digits after two zeros. -/
theorem unitCode?_hexDigit {code : Nat} (byte : code < 256) :
    unitCode? '0' '0' (Text.hexDigit (code / 16)) (Text.hexDigit (code % 16)) =
      some code := by
  have high := Text.hexValue?_hexDigit (code / 16) (by omega)
  have low := Text.hexValue?_hexDigit (code % 16) (by omega)
  have zero : Text.hexValue? '0' = some 0 := rfl
  simp only [unitCode?, zero, high, low, Option.bind_eq_bind, Option.bind_some,
    Option.pure_def, Option.some.injEq]
  omega

theorem stringUnits?_escapeChars (character : Char) (rest : List Char) :
    stringUnits? (escapeChars character ++ rest) =
      withUnit (some (unitOf character)) (stringUnits? rest) := by
  by_cases short : character ∈ '"' :: '\\' :: shortEscapes
  · simp only [shortEscapes, List.mem_cons, List.not_mem_nil, or_false] at short
    rcases short with rfl | rfl | rfl | rfl | rfl | rfl | rfl <;> rfl
  have escapes : escapeChars character =
      if character.toNat < 32 then
        ['\\', 'u', '0', '0', Text.hexDigit (character.toNat / 16),
          Text.hexDigit (character.toNat % 16)]
      else [character] := by
    simp only [shortEscapes, List.mem_cons, List.not_mem_nil, or_false, not_or]
      at short
    simp [escapeChars, short]
  simp only [List.mem_cons, not_or] at short
  by_cases control : character.toNat < 32
  · have code := unitCode?_hexDigit (show character.toNat < 256 by omega)
    rw [escapes, if_pos control, unitOf, if_pos ⟨control, short.2.2⟩]
    simp only [List.cons_append, List.nil_append, stringUnits?, code,
      Option.map_some]
  · rw [escapes, if_neg control, unitOf, if_neg fun both => control both.1]
    have plain : ¬ (character.toNat < 32 ∨ character = '\\') :=
      not_or.mpr ⟨control, short.2.1⟩
    rw [List.singleton_append, stringUnits?.eq_def]
    split
    case h_5 same =>
      obtain ⟨rfl, rfl⟩ := List.cons.inj same
      rw [if_neg plain]
    all_goals simp_all

/-- The unit that stands for a character does so whatever units follow. -/
theorem charsOfUnits?_unitOf (character : Char) (units : List StringUnit) :
    charsOfUnits? (unitOf character :: units) =
      (charsOfUnits? units).map (character :: ·) := by
  unfold unitOf
  split
  · next control =>
      have same : Char.ofNat character.toNat = character :=
        Char.ofNat_toNat character
      have noHigh :
          ¬ (0xD800 ≤ character.toNat ∧ character.toNat < 0xDC00) := by omega
      have noLow : ¬ (0xDC00 ≤ character.toNat ∧ character.toNat < 0xE000) := by
        omega
      have noHalf :
          ¬ (0xD800 ≤ character.toNat ∧ character.toNat < 0xE000) := by omega
      cases units with
      | nil => simp [charsOfUnits?, noHalf, same]
      | cons next units =>
          cases next with
          | character value => simp [charsOfUnits?, noHalf, same]
          | unit code => rw [charsOfUnits?, if_neg noHigh, if_neg noLow, same]
  · rfl

theorem quoted?_escapeChars (text : String) (rest : List Char) :
    quoted? (text.toList.flatMap escapeChars ++ '"' :: rest) =
      some (some text, rest) := by
  have units : ∀ characters : List Char,
      stringUnits? (characters.flatMap escapeChars ++ '"' :: rest) =
        some (characters.map unitOf, rest) := by
    intro characters
    induction characters with
    | nil => rfl
    | cons first characters induction =>
        rw [List.flatMap_cons, List.append_assoc,
          stringUnits?_escapeChars, induction]
        rfl
  have characters : ∀ characters : List Char,
      charsOfUnits? (characters.map unitOf) = some characters := by
    intro characters
    induction characters with
    | nil => rfl
    | cons first characters induction =>
        rw [List.map_cons, charsOfUnits?_unitOf, induction]
        rfl
  simp [quoted?, units, characters]

end Json

end RecordSql
