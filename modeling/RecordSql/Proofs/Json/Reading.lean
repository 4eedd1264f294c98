import RecordSql.Proofs.Json.Numbers
import RecordSql.Proofs.Json.Strings

/-!
# Reading what was printed

A value without doubles is read back from its text, whatever follows, if that
does not go on with a number.  The fuel that reading takes is bounded by the
length of the text.
-/

namespace RecordSql.Json

mutual

/-- A value without doubles or numbers beyond 64 bits. -/
def IsExact : Json → Prop
  | null | boolean _ | string _ => True
  | integer value => Fits value
  | double _ | unreadable => False
  | array items => AreExact items
  | object members => HaveExactValues members

/-- List counterpart of `IsExact`. -/
def AreExact : List Json → Prop
  | [] => True
  | item :: items => item.IsExact ∧ AreExact items

def HaveExactValues : List (String × Json) → Prop
  | [] => True
  | (_, value) :: members => value.IsExact ∧ HaveExactValues members

end

theorem areExact_iff {items : List Json} :
    AreExact items ↔ ∀ item ∈ items, item.IsExact := by
  induction items with
  | nil => simp [AreExact]
  | cons item items induction => simp [AreExact, induction]

theorem haveExactValues_iff {members : List (String × Json)} :
    HaveExactValues members ↔ ∀ member ∈ members, member.2.IsExact := by
  induction members with
  | nil => simp [HaveExactValues]
  | cons member members induction =>
      obtain ⟨name, value⟩ := member
      rw [HaveExactValues, induction, List.forall_mem_cons]

/-- A character that an exact value may start with. -/
def Starts (first : Char) : Prop :=
  first ∈ ['n', 't', 'f', '"', '[', '{', '-'] ∨ first.isDigit = true

theorem starts_chars {json : Json} (exact : json.IsExact) :
    ∃ first more, json.chars = first :: more ∧ Starts first := by
  cases json with
  | null => exact ⟨_, _, rfl, .inl (by decide)⟩
  | boolean value => cases value <;> exact ⟨_, _, rfl, .inl (by decide)⟩
  | integer value =>
      rw [chars, Number.intChars]
      split
      · exact ⟨_, _, rfl, .inl (by decide)⟩
      · obtain ⟨first, more, written, digit⟩ :=
          Number.digitChars_starts value.natAbs
        exact ⟨first, more, written, .inr digit⟩
  | double _ | unreadable => exact exact.elim
  | string value => exact ⟨_, _, rfl, .inl (by decide)⟩
  | array items => exact ⟨_, _, rfl, .inl (by decide)⟩
  | object members => exact ⟨_, _, rfl, .inl (by decide)⟩

/-- A value starts neither with a blank nor with the end of an array. -/
theorem Starts.ne {first : Char} (starts : Starts first) :
    first ∉ [' ', '\n', '\r', '\t', ']'] := by
  intro other
  simp only [List.mem_cons, List.not_mem_nil, or_false] at other
  rcases other with rfl | rfl | rfl | rfl | rfl <;>
    exact absurd starts (by unfold Starts; decide)

theorem Starts.skipBlanks {first : Char} (starts : Starts first)
    (rest : List Char) : skipBlanks (first :: rest) = first :: rest := by
  have others := starts.ne
  simp only [List.mem_cons, List.not_mem_nil, or_false, not_or] at others
  simp [Json.skipBlanks, others]

theorem endsNumber_cons {last : Char} (closes : last ∈ [',', ']', '}'])
    (rest : List Char) : EndsNumber (last :: rest) := by
  simp only [List.mem_cons, List.not_mem_nil, or_false] at closes
  rcases closes with rfl | rfl | rfl <;> simp [EndsNumber, EndsDigits]

theorem endsNumber_nil : EndsNumber [] := by
  simp [EndsNumber, EndsDigits]

theorem value?_of_isDigit {first : Char} {rest : List Char} {fuel : Nat}
    (digit : first.isDigit = true) :
    value? (fuel + 1) (first :: rest) = number? (first :: rest) := by
  rw [value?, Starts.skipBlanks (.inr digit)]
  split
  all_goals first
    | (next same =>
        obtain ⟨rfl, _⟩ := List.cons.inj same
        cases digit)
    | rfl

theorem value?_intChars {whole : Int} {rest : List Char} {fuel : Nat}
    (fits : Fits whole) (ends : EndsNumber rest) :
    value? (fuel + 1) (Number.intChars whole ++ rest) =
      some (.integer whole, rest) := by
  rw [← number?_intChars fits ends, Number.intChars]
  split
  · rfl
  · obtain ⟨first, more, written, digit⟩ :=
      Number.digitChars_starts whole.natAbs
    rw [written, List.cons_append, value?_of_isDigit digit]

theorem value?_stringChars (text : String) (rest : List Char) (fuel : Nat) :
    value? (fuel + 1) (stringChars text ++ rest) =
      some (.string text, rest) := by
  have unfolded : stringChars text ++ rest =
      '"' :: (text.toList.flatMap escapeChars ++ '"' :: rest) := by
    simp [stringChars]
  rw [unfolded, value?, Starts.skipBlanks (.inl (by decide))]
  simp only [quoted?_escapeChars]

/-- Members whose names denote texts make an object. -/
theorem ofMembers_some (members : List (String × Json)) :
    ofMembers (members.map fun member => (some member.1, member.2)) =
      .object members := by
  have all : (members.map fun member => (some member.1, member.2)).mapM
      (fun member => member.1.map fun name => (name, member.2)) =
      some members := by
    induction members with
    | nil => rfl
    | cons member members induction => simp [induction]
  simp only [ofMembers, all]

section Parts

variable {fuel : Nat} {text after rest : List Char}

theorem items?_last {item : Json}
    (read : value? fuel text = some (item, ']' :: rest)) :
    items? (fuel + 1) text = some ([item], rest) := by
  rw [items?, read]
  rfl

theorem items?_next {item : Json} {items : List Json}
    (read : value? fuel text = some (item, ',' :: after))
    (others : items? fuel after = some (items, rest)) :
    items? (fuel + 1) text = some (item :: items, rest) := by
  have comma : skipBlanks (',' :: after) = ',' :: after := rfl
  rw [items?, read]
  simp only [comma, others]

/-- An array that has items starts with the first of them. -/
theorem value?_array {items : List Json} {first : Char} (starts : Starts first)
    (read : items? fuel (first :: text) = some (items, rest)) :
    value? (fuel + 1) ('[' :: first :: text) = some (.array items, rest) := by
  have opening : skipBlanks ('[' :: first :: text) = '[' :: first :: text := rfl
  have others := starts.ne
  rw [value?, opening]
  simp only [starts.skipBlanks]
  split
  · next same =>
      obtain ⟨rfl, _⟩ := List.cons.inj same
      simp at others
  · rw [read]

/-- A member is read once its value is. -/
theorem member?_stringChars {name : String} {value : Json}
    (read : value? fuel text = some (value, rest)) :
    member? (fuel + 1) (stringChars name ++ ':' :: text) =
      some ((some name, value), rest) := by
  have unfolded : stringChars name ++ ':' :: text =
      '"' :: (name.toList.flatMap escapeChars ++ '"' :: ':' :: text) := by
    simp [stringChars]
  have colon : skipBlanks (':' :: text) = ':' :: text := rfl
  rw [unfolded, member?, Starts.skipBlanks (.inl (by decide))]
  simp only [quoted?_escapeChars, colon, read]

theorem members?_last {member : Option String × Json}
    (read : member? fuel text = some (member, '}' :: rest)) :
    members? (fuel + 1) text = some ([member], rest) := by
  rw [members?, read]
  rfl

theorem members?_next {member : Option String × Json}
    {members : List (Option String × Json)}
    (read : member? fuel text = some (member, ',' :: after))
    (others : members? fuel after = some (members, rest)) :
    members? (fuel + 1) text = some (member :: members, rest) := by
  have comma : skipBlanks (',' :: after) = ',' :: after := rfl
  rw [members?, read]
  simp only [comma, others]

/-- An object that has members starts with the name of the first. -/
theorem value?_object {members : List (String × Json)}
    (read : members? fuel ('"' :: text) =
      some (members.map fun member => (some member.1, member.2), rest)) :
    value? (fuel + 1) ('{' :: '"' :: text) = some (.object members, rest) := by
  have opening : skipBlanks ('{' :: '"' :: text) = '{' :: '"' :: text := rfl
  have quote : skipBlanks ('"' :: text) = '"' :: text := rfl
  rw [value?, opening]
  simp only [quote]
  split
  · next same => simp at same
  · simp only [read, ofMembers_some]

end Parts

theorem charsList_cons_cons (item next : Json) (items : List Json) :
    charsList (item :: next :: items) =
      item.chars ++ ',' :: charsList (next :: items) :=
  rfl

theorem charsMembers_cons_cons (name : String) (value : Json)
    (next : String × Json) (members : List (String × Json)) :
    charsMembers ((name, value) :: next :: members) =
      stringChars name ++ ':' :: value.chars ++
        ',' :: charsMembers (next :: members) :=
  rfl

theorem starts_charsList {item : Json} (exact : item.IsExact)
    (items : List Json) :
    ∃ first more, charsList (item :: items) = first :: more ∧ Starts first := by
  obtain ⟨first, more, written, starts⟩ := starts_chars exact
  cases items with
  | nil => exact ⟨first, more, written, starts⟩
  | cons next items =>
      rw [charsList_cons_cons, written]
      exact ⟨first, _, rfl, starts⟩

theorem charsMembers_starts (member : String × Json)
    (members : List (String × Json)) :
    ∃ more, charsMembers (member :: members) = '"' :: more := by
  cases members with
  | nil => exact ⟨_, rfl⟩
  | cons next members => exact ⟨_, rfl⟩

mutual

/-- A value is read back from its text before any rest that does
not go on with it. -/
theorem value?_chars :
    ∀ (json : Json) (fuel : Nat) (rest : List Char), json.IsExact →
      2 * json.chars.length ≤ fuel → EndsNumber rest →
        value? fuel (json.chars ++ rest) = some (json, rest)
  | .null, fuel, rest, _, enough, _ => by
    obtain ⟨fuel, rfl⟩ : ∃ less, fuel = less + 1 :=
      ⟨fuel - 1, by simp [chars] at enough; omega⟩
    rfl
  | .boolean value, fuel, rest, _, enough, _ => by
    obtain ⟨fuel, rfl⟩ : ∃ less, fuel = less + 1 :=
      ⟨fuel - 1, by cases value <;> simp [chars] at enough <;> omega⟩
    cases value <;> rfl
  | .integer value, fuel, rest, exact, enough, ends => by
    obtain ⟨first, more, written, _⟩ := starts_chars exact
    rw [written, List.length_cons] at enough
    obtain ⟨fuel, rfl⟩ : ∃ less, fuel = less + 1 := ⟨fuel - 1, by omega⟩
    exact value?_intChars exact ends
  | .double _, _, _, exact, _, _ => exact.elim
  | .unreadable, _, _, exact, _, _ => exact.elim
  | .string value, fuel, rest, _, enough, _ => by
    obtain ⟨fuel, rfl⟩ : ∃ less, fuel = less + 1 :=
      ⟨fuel - 1, by simp [chars, stringChars] at enough; omega⟩
    exact value?_stringChars value rest fuel
  | .array [], fuel, rest, _, enough, _ => by
    obtain ⟨fuel, rfl⟩ : ∃ less, fuel = less + 1 :=
      ⟨fuel - 1, by simp [chars, charsList] at enough; omega⟩
    rfl
  | .array (item :: items), fuel, rest, exact, enough, _ => by
    have unfolded : (Json.array (item :: items)).chars ++ rest =
        '[' :: (charsList (item :: items) ++ ']' :: rest) := by simp [chars]
    simp only [chars, List.cons_append, List.length_cons, List.length_append]
      at enough
    obtain ⟨fuel, rfl⟩ : ∃ less, fuel = less + 1 := ⟨fuel - 1, by omega⟩
    have read :=
      items?_charsList (item :: items) fuel rest (by simp) exact (by omega)
    obtain ⟨first, more, written, starts⟩ := starts_charsList exact.1 items
    rw [unfolded, written, List.cons_append]
    rw [written, List.cons_append] at read
    exact value?_array starts read
  | .object [], fuel, rest, _, enough, _ => by
    obtain ⟨fuel, rfl⟩ : ∃ less, fuel = less + 1 :=
      ⟨fuel - 1, by simp [chars, charsMembers] at enough; omega⟩
    rfl
  | .object ((name, value) :: members), fuel, rest, exact, enough, _ => by
    have unfolded : (Json.object ((name, value) :: members)).chars ++ rest =
        '{' :: (charsMembers ((name, value) :: members) ++ '}' :: rest) := by
      simp [chars]
    simp only [chars, List.cons_append, List.length_cons, List.length_append]
      at enough
    obtain ⟨fuel, rfl⟩ : ∃ less, fuel = less + 1 := ⟨fuel - 1, by omega⟩
    have read :=
      members?_charsMembers ((name, value) :: members) fuel rest
        (by simp) exact (by omega)
    obtain ⟨more, written⟩ := charsMembers_starts (name, value) members
    rw [unfolded, written, List.cons_append]
    rw [written, List.cons_append] at read
    exact value?_object read

theorem items?_charsList :
    ∀ (items : List Json) (fuel : Nat) (rest : List Char), items ≠ [] →
      AreExact items → 2 * (charsList items).length + 1 ≤ fuel →
        items? fuel (charsList items ++ ']' :: rest) = some (items, rest)
  | [], _, _, present, _, _ => absurd rfl present
  | [item], fuel, rest, _, exact, enough => by
    obtain ⟨fuel, rfl⟩ : ∃ less, fuel = less + 1 := ⟨fuel - 1, by omega⟩
    rw [charsList] at enough ⊢
    exact items?_last
      (value?_chars item fuel _ exact.1
        (by omega) (endsNumber_cons (by decide) _))
  | item :: next :: items, fuel, rest, _, exact, enough => by
    obtain ⟨fuel, rfl⟩ : ∃ less, fuel = less + 1 := ⟨fuel - 1, by omega⟩
    rw [charsList_cons_cons] at enough ⊢
    simp only [List.length_append, List.length_cons] at enough
    rw [List.append_assoc, List.cons_append]
    exact items?_next
      (value?_chars item fuel _ exact.1
        (by omega) (endsNumber_cons (by decide) _))
      (items?_charsList (next :: items) fuel rest (by simp) exact.2 (by omega))

theorem members?_charsMembers : ∀ (members : List (String × Json)) (fuel : Nat)
    (rest : List Char), members ≠ [] → HaveExactValues members →
      2 * (charsMembers members).length + 1 ≤ fuel →
        members? fuel (charsMembers members ++ '}' :: rest) =
          some (members.map fun member => (some member.1, member.2), rest)
  | [], _, _, present, _, _ => absurd rfl present
  | [(name, value)], fuel, rest, _, exact, enough => by
    rw [charsMembers] at enough ⊢
    simp only [List.length_append, List.length_cons] at enough
    obtain ⟨fuel, rfl⟩ : ∃ less, fuel = less + 2 := ⟨fuel - 2, by omega⟩
    rw [List.append_assoc, List.cons_append]
    exact members?_last
      (member?_stringChars
        (value?_chars value fuel _ exact.1
          (by omega) (endsNumber_cons (by decide) _)))
  | (name, value) :: next :: members, fuel, rest, _, exact, enough => by
    rw [charsMembers_cons_cons] at enough ⊢
    simp only [List.length_append, List.length_cons] at enough
    obtain ⟨fuel, rfl⟩ : ∃ less, fuel = less + 2 := ⟨fuel - 2, by omega⟩
    simp only [List.append_assoc, List.cons_append]
    exact members?_next
      (member?_stringChars
        (value?_chars value fuel _ exact.1
          (by omega) (endsNumber_cons (by decide) _)))
      (members?_charsMembers (next :: members) (fuel + 1) rest
        (by simp) exact.2 (by omega))

end

/-- A text that was printed is read back as the value that it was printed
from. -/
theorem ofText?_text {json : Json} (exact : json.IsExact) :
    ofText? json.text = some json := by
  have read :=
    value?_chars json
      (2 * json.chars.length + 2) [] exact (by omega) endsNumber_nil
  rw [List.append_nil] at read
  simp [ofText?, text, read, Json.skipBlanks]

end RecordSql.Json
