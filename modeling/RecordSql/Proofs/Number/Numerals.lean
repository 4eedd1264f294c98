import RecordSql.Formats.Wording
import RecordSql.Proofs.Number.Whole
import RecordSql.Proofs.Text

/-!
# Numerals

A text is read as a whole number of 32 bits just when it is a numeral of that
number.  A numeral has no letters, so capitals do not matter to it.
-/

namespace RecordSql.Number

variable {text : List Char} {value : Nat}

theorem Digits.isDigit_head {first : Char}
    (digits : Digits (first :: text) value) : first.isDigit = true :=
  digits.every first List.mem_cons_self

theorem numeral_plus_iff : Numeral ('+' :: text) value ↔ Digits text value := by
  constructor
  · intro numeral
    cases numeral with
    | digits digits => cases digits.isDigit_head
    | plus digits => exact digits
  · exact .plus

theorem numeral_iff_digits (noPlus : ∀ rest, text ≠ '+' :: rest) :
    Numeral text value ↔ Digits text value := by
  constructor
  · intro numeral
    cases numeral with
    | digits digits => exact digits
    | plus => exact absurd rfl (noPlus _)
  · exact .digits

theorem signedNumeral_minus_iff {value : Int} :
    SignedNumeral ('-' :: text) value ↔
      ∃ size : Nat, Digits text size ∧ -(size : Int) = value := by
  constructor
  · intro signed
    cases signed with
    | numeral numeral =>
        cases numeral with
        | digits digits => cases digits.isDigit_head
    | minus digits => exact ⟨_, digits, rfl⟩
  · rintro ⟨size, digits, rfl⟩
    exact .minus digits

theorem signedNumeral_iff_numeral (noMinus : ∀ rest, text ≠ '-' :: rest)
    {value : Int} :
    SignedNumeral text value ↔
      ∃ size : Nat, Numeral text size ∧ (size : Int) = value := by
  constructor
  · intro signed
    cases signed with
    | numeral numeral => exact ⟨_, numeral, rfl⟩
    | minus => exact absurd rfl (noMinus _)
  · rintro ⟨size, numeral, rfl⟩
    exact .numeral numeral

theorem natOfDigits?_eq_some_iff :
    natOfDigits? text = some value ↔ Digits text value := by
  constructor
  · intro read
    unfold natOfDigits? at read
    split_ifs at read with empty every
    exact ⟨by
      simpa using empty, List.all_eq_true.mp every, Option.some.inj read⟩
  · rintro ⟨present, every, stands⟩
    rw [natOfDigits?, if_neg (by simpa using present),
      if_pos (List.all_eq_true.mpr every), stands]

theorem nat32?_eq_some_iff :
    nat32? text = some value ↔ Numeral text value ∧ value < 4294967296 := by
  unfold nat32? unsigned?
  split
  · next rest => simp [numeral_plus_iff, natOfDigits?_eq_some_iff]
  · next noPlus => simp [numeral_iff_digits noPlus, natOfDigits?_eq_some_iff]

theorem signed?_eq_some_iff {value : Int} :
    signed? text = some value ↔ SignedNumeral text value := by
  unfold signed?
  split
  · next rest =>
      simp [Option.bind_eq_some_iff, natOfDigits?_eq_some_iff,
        signedNumeral_minus_iff]
  · next rest =>
      simp [signedNumeral_iff_numeral, numeral_plus_iff,
        natOfDigits?_eq_some_iff]
  · next noMinus noPlus =>
      simp [signedNumeral_iff_numeral noMinus, numeral_iff_digits noPlus,
        natOfDigits?_eq_some_iff]

theorem int32?_eq_some_iff {value : Int} :
    int32? text = some value ↔
      SignedNumeral text value ∧ -2147483648 ≤ value ∧ value < 2147483648 := by
  simp [int32?, signed?_eq_some_iff]

theorem Numeral.isDigit_or_plus (numeral : Numeral text value)
    {character : Char} (member : character ∈ text) :
    character.isDigit = true ∨ character = '+' := by
  cases numeral with
  | digits digits => exact .inl (digits.every _ member)
  | plus digits =>
      rcases List.mem_cons.mp member with plus | digit
      · exact .inr plus
      · exact .inl (digits.every _ digit)

theorem Numeral.not_mem (numeral : Numeral text value) {mark : Char}
    (other : mark.isDigit = false ∧ mark ≠ '+') : mark ∉ text := by
  intro member
  rcases numeral.isDigit_or_plus member with digit | plus
  · rw [other.1] at digit
    cases digit
  · exact other.2 plus

theorem Numeral.plain (numeral : Numeral text value) :
    ∀ character ∈ text, character.isAlpha = false := by
  intro character member
  rcases numeral.isDigit_or_plus member with digit | rfl
  · exact Text.isAlpha_of_isDigit digit
  · rfl

theorem numeral_upperAsciiChars_iff :
    Numeral (Text.upperAsciiChars text) value ↔ Numeral text value := by
  constructor
  · intro numeral
    have plain := Text.plain_of_upperAsciiChars numeral.plain
    rwa [Text.upperAsciiChars_eq_self plain] at numeral
  · intro numeral
    rwa [Text.upperAsciiChars_eq_self numeral.plain]

theorem nat32?_upperAsciiChars (text : List Char) :
    nat32? (Text.upperAsciiChars text) = nat32? text := by
  apply Option.ext
  intro value
  rw [nat32?_eq_some_iff, nat32?_eq_some_iff, numeral_upperAsciiChars_iff]

end RecordSql.Number
