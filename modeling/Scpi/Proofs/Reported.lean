import Scpi.Proofs.Separators
import Scpi.Proofs.Shorthand

set_option autoImplicit false

namespace Scpi

theorem Query.word_tidy (word : String) (isWord : IsWord word) : Tidy word := by
  obtain ⟨present, characters⟩ := isWord
  have noBlank : ∀ c ∈ word.toList, Text.isBlank c = false := by
    intro c member
    apply Bool.eq_false_iff.mpr
    intro blank
    have gap := blank_is_gap c blank
    simp [isGap, word_char_iff, characters c member] at gap
  constructor
  · exact fun none => present (by rw [none]; rfl)
  · exact alphabet_absent isCommandChar ':' rfl word.toList characters
  · exact fun c first => noBlank c (List.mem_of_head? first)
  · exact fun c last => noBlank c (List.mem_of_getLast? last)

namespace CommandSet

variable {η : Type}

theorem keywords_tidy (definitions : List (String × η)) : ∀ keyword ∈ keywordsOf definitions, Tidy keyword := by
  intro keyword member
  obtain ⟨definition, _, inside⟩ := List.mem_flatMap.mp member
  exact Header.of_text_tidy definition.1 keyword inside

end CommandSet

namespace Chain

variable {η : Type}

theorem unknown_read_back (definitions : List (String × η)) (query : String) (header : Header)
    (unknown : resolve (CommandSet.ofDefinitions definitions) (Query.tokens query) = .error header) :
    Header.ofText (Failure.unknownHeader header).message = header := by
  apply Header.of_text_text
  apply unknown_keywords (CommandSet.ofDefinitions definitions) Tidy query header _ unknown
  intro word isWord
  exact CommandSet.long_form_from definitions Tidy word (CommandSet.keywords_tidy definitions)
    (Query.word_tidy word isWord)

theorem refusal_names_header (definitions : List (String × η)) (query : String) (header : Header)
    (unknown : resolve (CommandSet.ofDefinitions definitions) (Query.tokens query) = .error header) :
    let commands := CommandSet.ofDefinitions definitions
    let message := (Failure.unknownHeader header).message
    ((plan commands (Query.tokens query)).map Command.header).find?
        (fun planned => (commands.handler? planned).isNone) = some (Header.ofText message) ∧
      commands.handler? (Header.ofText message) = none ∧
      ∀ (others : List (String × η)) (otherQuery : String) (other : Header),
        resolve (CommandSet.ofDefinitions others) (Query.tokens otherQuery) = .error other →
        (Failure.unknownHeader other).message = message → other = header := by
  intro commands message
  have readBack := unknown_read_back definitions query header unknown
  have first := unknown
  rw [resolve_plan, calls_error_iff] at first
  refine ⟨?_, ?_, ?_⟩
  · rw [readBack]
    exact first
  · rw [readBack]
    simpa using List.find?_some first
  · intro others otherQuery other otherUnknown same
    have otherReadBack := unknown_read_back others otherQuery other otherUnknown
    rw [same, readBack] at otherReadBack
    exact otherReadBack.symm

-- The blank within the defined keyword stays, and those around it are no part of it.
theorem resistance_refused :
    let commands := CommandSet.ofDefinitions [(" MEAS ure :: VOLT ", 0)]
    let header : Header := ⟨["MEAS ure", "RES"]⟩
    let query := "MEAS:VOLT;RES \"a:b\";CURR"
    (resolve commands (Query.tokens query) = .error header) ∧
      (Failure.unknownHeader header).message = "MEAS ure:RES" ∧
      ((plan commands (Query.tokens query)).map Command.header).find?
        (fun planned => (commands.handler? planned).isNone) = some (Header.ofText "MEAS ure:RES") ∧
      commands.handler? (Header.ofText "MEAS ure:RES") = none := by
  intro commands header query
  have unknown : resolve commands (Query.tokens query) = .error header := by
    rw [resolve_plan, calls_error_iff]
    decide +kernel
  obtain ⟨first, absent, _⟩ := refusal_names_header [(" MEAS ure :: VOLT ", 0)] query header unknown
  exact ⟨unknown, by decide, first, absent⟩

end Chain

end Scpi
