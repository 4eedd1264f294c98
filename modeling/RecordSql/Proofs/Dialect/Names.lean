import RecordSql.Proofs.Dialect.Reading

/-!
# Quoting of names is undone by reading

Whatever characters a name has, its quoted form is read as the segments between
its dots, and what follows is left.  So names that differ are quoted
differently, no name escapes its quotes, and no word that SQLite reserves
stands without quotes.
-/

namespace RecordSql.Dialect

variable {dialect : Dialect} {rest : List Char}

private theorem not_reserved_of_written {segment word : List Char}
    (bare : dialect.written segment = .bare word) :
    Text.lowerAscii (String.ofList word) ∉ reservedWords := by
  unfold written at bare
  split_ifs at bare with star isBare
  cases bare
  simp only [isBareWord, Bool.and_eq_true, Bool.not_eq_true',
    List.contains_eq_mem, decide_eq_false_iff_not] at isBare
  exact isBare.2.2

private theorem readNameSegments_quoteName (name : String)
    (ends : dialect.EndsName rest) :
    dialect.readNameSegments ((dialect.quoteName name).toList ++ rest) =
      some ((name.toList.splitOn '.').map dialect.written, rest) := by
  rw [quoteName, String.toList_ofList, ← Text.splitOn_eq_splitOn]
  exact readSegments_quoteChars id name.toList ends

/-- Names are read as what they are quoted for, with the quotes that they need:
letters of any case are no way around the quotes of a reserved word. -/
structure ReadsNamesBack (dialect : Dialect) : Prop where
  reads : ∀ (name : String) (rest : List Char),
    dialect.EndsName rest → ∃ segments,
      dialect.readNameSegments ((dialect.quoteName name).toList ++ rest) =
          some (segments, rest) ∧
        segments.map NameSegment.text = name.toList.splitOn '.' ∧
        ∀ word, .bare word ∈ segments →
          Text.lowerAscii (String.ofList word) ∉ reservedWords
  distinct : ∀ left right : String,
    dialect.quoteName left = dialect.quoteName right →
      left = right

theorem readsNamesBack (dialect : Dialect) : dialect.ReadsNamesBack where
  reads name rest ends := by
    refine ⟨_, readNameSegments_quoteName name ends, ?_, ?_⟩
    · simp [Function.comp_def, text_written]
    · intro word member
      obtain ⟨segment, _, bare⟩ := List.mem_map.mp member
      exact not_reserved_of_written bare
  distinct left right same := by
    have readLeft := readNameSegments_quoteName left (@endsName_nil dialect)
    rw [same, readNameSegments_quoteName right endsName_nil] at readLeft
    have segments := congrArg (List.map NameSegment.text)
      (Prod.mk.inj (Option.some.inj readLeft)).1
    simp only [List.map_map, Function.comp_def, text_written, List.map_id']
      at segments
    have joined := congrArg ['.'].intercalate segments
    rw [List.intercalate_splitOn, List.intercalate_splitOn] at joined
    exact (String.toList_injective joined).symm

end RecordSql.Dialect
