import Scpi.Proofs.Definitions
import Scpi.Proofs.Keywords

set_option autoImplicit false

namespace Scpi

-- A keyword that is written in full or, where it has one, in its short form.
structure Spelling where
  keyword : String
  short : Bool
  isWord : Query.IsWord keyword

namespace Spelling

def word (spelling : Spelling) : String :=
  if spelling.short then (Keyword.shortForm? spelling.keyword).getD spelling.keyword else spelling.keyword

end Spelling

structure WrittenCommand where
  spellings : List Spelling
  arguments : List String
  spelled : spellings ≠ []
  closed : ∀ argument ∈ arguments, '"' ∉ argument.toList

namespace WrittenCommand

def header (command : WrittenCommand) : Header := ⟨command.spellings.map Spelling.keyword⟩

def words (command : WrittenCommand) : List String := command.spellings.map Spelling.word

def text (command : WrittenCommand) : String :=
  ":" ++ ":".intercalate command.words ++
    String.join (command.arguments.map fun argument => " \"" ++ argument ++ "\"")

def chainText (commands : List WrittenCommand) : String := ";".intercalate (commands.map text)

def characters (command : WrittenCommand) : List Char :=
  command.words.flatMap Query.keywordText ++ command.arguments.flatMap Query.argumentText

def rawTokens (command : WrittenCommand) : List Token :=
  command.words.flatMap Query.keywordTokens ++ command.arguments.map (Token.mk .quotedString)

def tokens (command : WrittenCommand) : List Token :=
  command.words.flatMap Query.keywordTokens ++ command.arguments.map (Token.mk .argument)

theorem word_is_word (spelling : Spelling) : Query.IsWord spelling.word := by
  unfold Spelling.word
  split
  · cases short : Keyword.shortForm? spelling.keyword with
    | none => exact spelling.isWord
    | some word =>
        obtain ⟨present, parts⟩ := Keyword.short_form_parts _ _ short
        exact ⟨present, fun c member => Query.short_is_command_char c (parts c member)⟩
  · exact spelling.isWord

theorem words_are_words (command : WrittenCommand) : ∀ word ∈ command.words, Query.IsWord word := by
  intro word member
  obtain ⟨spelling, _, rfl⟩ := List.mem_map.mp member
  exact word_is_word spelling

theorem words_cons (command : WrittenCommand) : ∃ first rest, command.words = first :: rest := by
  obtain ⟨first, rest, spellings⟩ := List.exists_cons_of_ne_nil command.spelled
  exact ⟨first.word, rest.map Spelling.word, by simp [words, spellings]⟩

theorem text_characters (command : WrittenCommand) : command.text.toList = command.characters := by
  obtain ⟨first, rest, words⟩ := command.words_cons
  have headers : (":" ++ ":".intercalate command.words).toList =
      command.words.flatMap Query.keywordText := by
    rw [words, String.toList_append, Query.intercalate_cons]
    rfl
  have quoted (argument : String) : (" \"" ++ argument ++ "\"").toList = Query.argumentText argument := by
    simp [Query.argumentText]
  have ending : (String.join (command.arguments.map fun argument => " \"" ++ argument ++ "\"")).toList =
      command.arguments.flatMap Query.argumentText := by
    rw [String.toList_join, List.flatMap_map]
    simp only [quoted]
  rw [text, String.toList_append, headers, ending, characters]

theorem chain_characters (first : WrittenCommand) (rest : List WrittenCommand) :
    (chainText (first :: rest)).toList =
      first.characters ++ rest.flatMap fun command => ';' :: command.characters := by
  rw [chainText, List.map_cons, Query.intercalate_cons, text_characters, List.flatMap_map]
  simp only [text_characters]
  rfl

theorem raw_tokens_written (command : WrittenCommand) (rest : List Char) (boundary : Query.Boundary rest) :
    Query.rawTokens (command.characters ++ rest) = command.rawTokens ++ Query.rawTokens rest := by
  rw [characters, List.append_assoc,
    Query.raw_tokens_keywords command.words _ command.words_are_words
      (Query.arguments_boundary command.arguments rest boundary),
    Query.raw_tokens_arguments command.arguments rest command.closed, rawTokens, List.append_assoc]

theorem raw_tokens_chain (first : WrittenCommand) (rest : List WrittenCommand) :
    Query.rawTokens (first.characters ++ rest.flatMap fun command => ';' :: command.characters) =
      first.rawTokens ++ rest.flatMap fun command => .semicolon :: command.rawTokens := by
  induction rest generalizing first with
  | nil => exact raw_tokens_written first [] (fun _ none => by cases none)
  | cons second others ih =>
      rw [List.flatMap_cons, List.cons_append,
        raw_tokens_written first _ (Query.boundary_of_separator ';' _ (by decide)),
        Query.raw_tokens_begin ';' _ (by decide), ih second]
      rfl

theorem settle_written (command : WrittenCommand) (previous : Option Token.Kind) (rest : List Token)
    (beginning : previous = none ∨ previous = some .semicolon) :
    ∃ last : Token.Kind, last.isWord = true ∧
      Query.settle previous (command.rawTokens ++ rest) =
        command.tokens ++ Query.settle (some last) rest := by
  obtain ⟨first, others, words⟩ := command.words_cons
  obtain ⟨last, lastWord, settled⟩ := Query.settle_arguments command.arguments rest .command rfl
  have keywords := Query.settle_keywords others (command.arguments.map (Token.mk .quotedString) ++ rest)
  refine ⟨last, lastWord, ?_⟩
  rw [rawTokens, tokens, words, List.flatMap_cons, List.append_assoc, List.append_assoc, List.append_assoc,
    List.append_assoc, ← settled, ← keywords]
  rcases beginning with rfl | rfl <;> rfl

theorem settle_chain (first : WrittenCommand) (rest : List WrittenCommand) (previous : Option Token.Kind)
    (beginning : previous = none ∨ previous = some .semicolon) :
    Query.settle previous (first.rawTokens ++ rest.flatMap fun command => .semicolon :: command.rawTokens) =
      (first :: rest).flatMap fun command => command.tokens ++ [.semicolon] := by
  induction rest generalizing first previous with
  | nil =>
      obtain ⟨last, word, settled⟩ := settle_written first previous [] beginning
      rw [List.flatMap_nil, settled, Query.settle_end last word, List.flatMap_singleton]
  | cons second others ih =>
      obtain ⟨last, word, settled⟩ := settle_written first previous
        ((second :: others).flatMap fun command => .semicolon :: command.rawTokens) beginning
      rw [settled, List.flatMap_cons, List.cons_append, Query.settle_semicolon last _ word,
        ih second (some .semicolon) (.inr rfl)]
      simp

theorem tokens_chain (commands : List WrittenCommand) (present : commands ≠ []) :
    Query.tokens (chainText commands) = commands.flatMap fun command => command.tokens ++ [.semicolon] := by
  obtain ⟨first, rest, rfl⟩ := List.exists_cons_of_ne_nil present
  rw [Query.tokens, chain_characters, raw_tokens_chain, settle_chain first rest none (.inl rfl)]

theorem words_arguments (arguments : List String) :
    Chain.words (arguments.map (Token.mk .argument)) = [] := by
  induction arguments with
  | nil => rfl
  | cons argument others ih => exact ih

theorem arguments_arguments (arguments : List String) :
    Chain.arguments (arguments.map (Token.mk .argument)) = arguments := by
  induction arguments with
  | nil => rfl
  | cons argument others ih => exact congrArg (List.cons argument) ih

theorem tokens_inside (command : WrittenCommand) :
    ∀ token ∈ command.tokens, Chain.endsCommand token = false := by
  intro token member
  rcases List.mem_append.mp member with keyword | argument
  · exact Query.keywords_inside command.words token keyword
  · obtain ⟨_, _, rfl⟩ := List.mem_map.mp argument
    rfl

theorem words_tokens (command : WrittenCommand) : Chain.words command.tokens = command.words := by
  rw [tokens, Chain.words_append, Query.words_keywords, words_arguments, List.append_nil]

theorem arguments_tokens (command : WrittenCommand) :
    Chain.arguments command.tokens = command.arguments := by
  rw [tokens, Chain.arguments_append, Query.arguments_keywords, arguments_arguments, List.nil_append]

theorem absolute_tokens (command : WrittenCommand) : Chain.isAbsolute command.tokens = true := by
  obtain ⟨first, others, words⟩ := command.words_cons
  rw [tokens, words]
  rfl

variable {η : Type}

-- The leading colon makes the header independent of the one before it.
theorem header_after_tokens (commands : CommandSet η) (previous : Header) (command : WrittenCommand)
    (read : ∀ spelling ∈ command.spellings, commands.longForm spelling.word = spelling.keyword) :
    Chain.headerAfter commands previous command.tokens = command.header := by
  rw [Chain.headerAfter, Chain.base, absolute_tokens, words_tokens, words, List.map_map, header]
  congr 1
  exact List.map_congr_left read

theorem plan_from_written (commands : CommandSet η) (previous : Header) (written : List WrittenCommand)
    (read : ∀ command ∈ written, ∀ spelling ∈ command.spellings,
      commands.longForm spelling.word = spelling.keyword) :
    Chain.planFrom commands previous (written.map tokens) =
      written.map fun command => ⟨command.header, command.arguments⟩ := by
  induction written generalizing previous with
  | nil => rfl
  | cons command rest ih =>
      have first := header_after_tokens commands previous command (read command (by simp))
      have others := ih command.header fun other member => read other (by simp [member])
      rw [List.map_cons, Chain.planFrom, first, arguments_tokens, others]
      rfl

theorem plan_chain (commands : CommandSet η) (written : List WrittenCommand) (present : written ≠ [])
    (read : ∀ command ∈ written, ∀ spelling ∈ command.spellings,
      commands.longForm spelling.word = spelling.keyword) :
    Chain.plan commands (Query.tokens (chainText written)) =
      written.map fun command => ⟨command.header, command.arguments⟩ := by
  have ended : written.flatMap (fun command => command.tokens ++ [Token.semicolon]) =
      (written.map tokens).flatMap fun command => command ++ [Token.semicolon] := by
    rw [List.flatMap_map]
  have inside : ∀ command ∈ written.map tokens, ∀ token ∈ command, Chain.endsCommand token = false := by
    intro command member
    obtain ⟨original, _, rfl⟩ := List.mem_map.mp member
    exact original.tokens_inside
  rw [Chain.plan, tokens_chain written present, ended, Chain.commands_of_ended _ inside,
    plan_from_written commands .root written read]

theorem long_form_word (definitions : List (String × η)) (spelling : Spelling)
    (unambiguous : CommandSet.Unambiguous (CommandSet.keywordsOf definitions))
    (defined : spelling.keyword ∈ CommandSet.keywordsOf definitions) :
    (CommandSet.ofDefinitions definitions).longForm spelling.word = spelling.keyword := by
  unfold Spelling.word
  split
  · cases short : Keyword.shortForm? spelling.keyword with
    | none => exact CommandSet.long_form_full definitions _ unambiguous defined
    | some word => exact CommandSet.long_form_short definitions _ word unambiguous defined short
  · exact CommandSet.long_form_full definitions _ unambiguous defined

theorem resolve_chain_text (definitions : List (String × η)) (written : List WrittenCommand)
    (present : written ≠ []) (unambiguous : CommandSet.Unambiguous (CommandSet.keywordsOf definitions))
    (defined : ∀ command ∈ written, ∃ definition ∈ definitions, Header.ofText definition.1 = command.header) :
    ∃ calls,
      Chain.resolve (CommandSet.ofDefinitions definitions) (Query.tokens (chainText written)) = .ok calls ∧
      calls.map (fun call => (some call.handler, call.arguments)) = written.map fun command =>
        (CommandSet.latestHandler definitions command.header, command.arguments) := by
  have read : ∀ command ∈ written, ∀ spelling ∈ command.spellings,
      (CommandSet.ofDefinitions definitions).longForm spelling.word = spelling.keyword := by
    intro command member spelling spelled
    obtain ⟨definition, definitionMember, same⟩ := defined command member
    apply long_form_word definitions spelling unambiguous
    refine List.mem_flatMap.mpr ⟨definition, definitionMember, ?_⟩
    rw [same]
    exact List.mem_map_of_mem spelled
  have planned := plan_chain (CommandSet.ofDefinitions definitions) written present read
  have known : ∃ calls, Chain.resolve (CommandSet.ofDefinitions definitions)
      (Query.tokens (chainText written)) = .ok calls := by
    rw [Chain.resolves_iff_known, planned]
    intro command member
    obtain ⟨original, originalMember, rfl⟩ := List.mem_map.mp member
    obtain ⟨definition, definitionMember, same⟩ := defined original originalMember
    rw [CommandSet.handler_of_definitions, ← same]
    exact CommandSet.latest_handler_defined definitions definition definitionMember
  obtain ⟨calls, resolved⟩ := known
  have made := resolved
  rw [Chain.resolve_plan, planned, Chain.calls_ok_iff, List.map_map] at made
  refine ⟨calls, resolved, made.trans ?_⟩
  apply List.map_congr_left
  intro command _
  simp [CommandSet.handler_of_definitions]

-- Both spellings of MEASure, an argument that looks like a command, and a header that is defined twice.
def meterDefinitions : List (String × Nat) :=
  [("MEASure:VOLTage:DC?", 0), ("*IDN?", 1), ("MEASure:VOLTage:DC?", 2)]

def meterChain : List WrittenCommand :=
  [⟨[⟨"MEASure", true, by decide⟩, ⟨"VOLTage", false, by decide⟩,
      ⟨"DC?", true, by decide⟩], ["1;:*IDN?", ""], by decide, by decide⟩,
    ⟨[⟨"*IDN?", false, by decide⟩], [], by decide, by decide⟩]

theorem meter_chain_resolves :
    let commands := CommandSet.ofDefinitions meterDefinitions
    meterChain ≠ [] ∧ CommandSet.Unambiguous (CommandSet.keywordsOf meterDefinitions) ∧
      (∀ command ∈ meterChain, ∃ definition ∈ meterDefinitions, Header.ofText definition.1 = command.header) ∧
      chainText meterChain = ":MEAS:VOLTage:DC? \"1;:*IDN?\" \"\";:*IDN?" ∧
      Chain.resolve commands (Query.tokens ":MEAS:VOLTage:DC? \"1;:*IDN?\" \"\";:*IDN?") =
        .ok [⟨2, ["1;:*IDN?", ""]⟩, ⟨1, []⟩] := by
  intro commands
  have unambiguous : CommandSet.Unambiguous (CommandSet.keywordsOf meterDefinitions) := by decide
  have defined : ∀ command ∈ meterChain, ∃ definition ∈ meterDefinitions,
      Header.ofText definition.1 = command.header := by decide
  have written : chainText meterChain = ":MEAS:VOLTage:DC? \"1;:*IDN?\" \"\";:*IDN?" := by decide +kernel
  have latest : (meterChain.map fun command =>
        (CommandSet.latestHandler meterDefinitions command.header, command.arguments)) =
      [⟨2, ["1;:*IDN?", ""]⟩, ⟨1, []⟩].map fun call : Call Nat => (some call.handler, call.arguments) := by
    decide
  obtain ⟨calls, resolved, made⟩ :=
    resolve_chain_text meterDefinitions meterChain (by decide) unambiguous defined
  have same : calls = [⟨2, ["1;:*IDN?", ""]⟩, ⟨1, []⟩] := by
    refine (List.map_inj_right ?_).mp (made.trans latest)
    rintro ⟨handler, arguments⟩ ⟨other, others⟩ equal
    cases equal
    rfl
  rw [written, same] at resolved
  exact ⟨by decide, unambiguous, defined, written, resolved⟩

end WrittenCommand

end Scpi
