import Mathlib.Data.List.Basic
import Mathlib.Data.List.TakeWhile
import Scpi.Proofs.Rendering

set_option autoImplicit false

namespace Scpi.Query

def IsArgumentWord (word : String) : Prop := word.toList ≠ [] ∧ ∀ c ∈ word.toList, isArgumentChar c = true

instance (word : String) : Decidable (IsArgumentWord word) :=
  have := List.decidableBAll (fun c => isArgumentChar c = true) word.toList
  instDecidableAnd

def isCut (word : String) : Bool := word.toList.head?.any isLetter && word.toList.any fun c => !isLetter c

def parts (word : String) : List String :=
  let letters := String.ofList (word.toList.takeWhile isLetter)
  let others := String.ofList (word.toList.dropWhile isLetter)
  [letters, others].filter (· ≠ "")

theorem parts_split (word : String) :
    ∃ letters others : List Char, word.toList = letters ++ others ∧ (∀ c ∈ letters, isLetter c = true) ∧
      (∀ c, others.head? = some c → isLetter c = false) ∧
      parts word = [String.ofList letters, String.ofList others].filter (· ≠ "") := by
  refine ⟨_, _, List.takeWhile_append_dropWhile.symm, fun c => List.mem_takeWhile_imp, ?_, rfl⟩
  intro c first
  have stopped := List.head?_dropWhile_not isLetter word.toList
  rw [first] at stopped
  simpa using stopped

theorem letters_are_word (letters : List Char) (present : letters ≠ [])
    (lettered : ∀ c ∈ letters, isLetter c = true) : IsWord (String.ofList letters) := by
  rw [IsWord, String.toList_ofList]
  refine ⟨present, fun c member => ?_⟩
  simp [isCommandChar, lettered c member]

theorem others_are_bare (first : Char) (rest : List Char) (begins : isLetter first = false)
    (inWord : ∀ c ∈ first :: rest, isArgumentChar c = true) :
    IsBareArgument (String.ofList (first :: rest)) := by
  have here := inWord first (by simp)
  rw [isArgumentChar, begins, Bool.false_or] at here
  exact (bare_argument_cons first rest).mpr ⟨here, fun c member => inWord c (by simp [member])⟩

-- A word is a command word, an argument, or the first followed by the second.
theorem argument_word_cases (word : String) (isWord : IsArgumentWord word) :
    ((IsWord word ∨ IsBareArgument word) ∧ parts word = [word] ∧ isCut word = false) ∨
      ∃ letters others, IsWord letters ∧ IsBareArgument others ∧ word = letters ++ others ∧
        parts word = [letters, others] ∧ isCut word = true := by
  obtain ⟨letters, others, split, lettered, ended, cut⟩ := parts_split word
  obtain ⟨present, inWord⟩ := isWord
  have same : word = String.ofList letters ++ String.ofList others := by simp [← String.toList_inj, split]
  rw [split] at present inWord
  have inOthers (c : Char) (member : c ∈ others) := inWord c (List.mem_append_right letters member)
  cases letters with
  | nil =>
      cases others with
      | nil => exact absurd rfl present
      | cons first rest =>
          have begins := ended first rfl
          have whole : word = String.ofList (first :: rest) := by simpa using same
          have bare := others_are_bare first rest begins inOthers
          refine .inl ⟨.inr (whole ▸ bare), ?_, ?_⟩
          · rw [cut, whole]
            simp
          · simp [isCut, split, begins]
  | cons letter more =>
      have command := letters_are_word (letter :: more) (by simp) lettered
      cases others with
      | nil =>
          have whole : word = String.ofList (letter :: more) := by simpa using same
          refine .inl ⟨.inl (whole ▸ command), ?_, ?_⟩
          · rw [cut, whole]
            simp
          · simpa [isCut, split] using fun _ => lettered
      | cons first rest =>
          have begins := ended first rfl
          have bare := others_are_bare first rest begins inOthers
          refine .inr ⟨_, _, command, bare, same, ?_, ?_⟩
          · simp [cut]
          · simp [isCut, split, lettered, begins]

theorem raw_tokens_argument_word (word : String) (isWord : IsArgumentWord word) :
    (rawTokens word.toList).map Token.text = parts word ∧
      ∀ token ∈ rawTokens word.toList, token.kind.isWord = true := by
  obtain ⟨command | argument, whole, _⟩ | ⟨letters, others, command, argument, same, cut, _⟩ :=
    argument_word_cases word isWord
  · rw [raw_tokens_word word command, whole]
    simp [Token.Kind.isWord]
  · rw [raw_tokens_bare_argument word argument, whole]
    simp [Token.Kind.isWord]
  · have closed := bare_argument_closed others argument
    have ended := bare_argument_not_command others argument
    have raw := raw_tokens_command letters others.toList command closed ended
    rw [cut, same, String.toList_append, raw, raw_tokens_bare_argument others argument]
    simp [Token.Kind.isWord]

theorem spaced_boundary (words : List String) :
    Boundary (words.flatMap fun word => " ".toList ++ word.toList) := by
  cases words with
  | nil => exact fun _ none => by cases none
  | cons word others => exact boundary_of_separator ' ' _ (by decide)

theorem raw_tokens_spaced (words : List String) (areWords : ∀ word ∈ words, IsArgumentWord word) :
    rawTokens (words.flatMap fun word => " ".toList ++ word.toList) =
      words.flatMap fun word => rawTokens word.toList := by
  induction words with
  | nil => rfl
  | cons word others ih =>
      have closed := alphabet_absent isArgumentChar '"' rfl word.toList (areWords word (by simp)).2
      have balanced := balanced_of_no_quote word.toList closed
      have later := ih fun other member => areWords other (by simp [member])
      have spaced := raw_tokens_before word.toList _ balanced (spaced_boundary others)
      rw [List.flatMap_cons, List.append_assoc, List.flatMap_cons, ← later, ← spaced]
      exact raw_tokens_begin ' ' _ (by decide)

theorem parts_length (word : String) (isWord : IsArgumentWord word) :
    (parts word).length = 1 + if isCut word then 1 else 0 := by
  obtain ⟨_, whole, uncut⟩ | ⟨_, _, _, _, _, twice, cut⟩ := argument_word_cases word isWord
  · rw [whole, uncut]
    rfl
  · rw [twice, cut]
    rfl

-- Each cut adds one argument, so that the words are told from their parts by number alone.
theorem all_parts_length (words : List String) (areWords : ∀ word ∈ words, IsArgumentWord word) :
    (words.flatMap parts).length = words.length + words.countP isCut := by
  induction words with
  | nil => rfl
  | cons word others ih =>
      have own := parts_length word (areWords word (by simp))
      have later := ih fun other member => areWords other (by simp [member])
      rw [List.flatMap_cons, List.length_append, own, later, List.countP_cons, List.length_cons]
      omega

theorem all_parts_whole (words : List String) (areWords : ∀ word ∈ words, IsArgumentWord word) :
    words.flatMap parts = words ↔ ∀ word ∈ words, isCut word = false := by
  constructor
  · intro whole
    have length := all_parts_length words areWords
    have none : words.countP isCut = 0 := by
      rw [whole] at length
      omega
    simpa using List.countP_eq_zero.mp none
  · intro uncut
    have own (word : String) (member : word ∈ words) : parts word = [word] := by
      obtain ⟨_, whole, _⟩ | ⟨_, _, _, _, _, _, cut⟩ := argument_word_cases word (areWords word member)
      · exact whole
      · rw [uncut word member] at cut
        cases cut
    rw [List.flatMap_congr own, List.flatMap_singleton']

theorem tokens_spaced (command : String) (words : List String) (isWord : IsWord command)
    (areWords : ∀ word ∈ words, IsArgumentWord word) :
    tokens (" ".intercalate (command :: words)) =
      ⟨.command, command⟩ :: (words.flatMap parts).map (Token.mk .argument) ++ [.semicolon] := by
  let raw := words.flatMap fun word => rawTokens word.toList
  have arrived : raw.map Token.text = words.flatMap parts := by
    rw [List.map_flatMap]
    exact List.flatMap_congr fun word member => (raw_tokens_argument_word word (areWords word member)).1
  have allWords : ∀ token ∈ raw, token.kind.isWord = true := by
    intro token member
    obtain ⟨word, inWords, inWord⟩ := List.mem_flatMap.mp member
    exact (raw_tokens_argument_word word (areWords word inWords)).2 token inWord
  obtain ⟨last, lastWord, settled⟩ := settle_words raw [] .command rfl allWords
  have first : settle none (⟨.command, command⟩ :: raw) = ⟨.command, command⟩ :: settle (some .command) raw :=
    settle_word_first none _ raw rfl (by simp [afterWord])
  rw [List.append_nil, settle_end last lastWord] at settled
  rw [tokens, intercalate_cons, raw_tokens_word_before command _ isWord (spaced_boundary words),
    raw_tokens_spaced words areWords, first, settled, ← arrived, List.map_map]
  rfl

theorem bare_words_cut (command : String) (words : List String) (isWord : IsWord command)
    (areWords : ∀ word ∈ words, IsArgumentWord word) :
    let query := " ".intercalate (command :: words)
    tokens query = ⟨.command, command⟩ :: (words.flatMap parts).map (Token.mk .argument) ++ [.semicolon] ∧
      (tokens query = ⟨.command, command⟩ :: words.map (Token.mk .argument) ++ [.semicolon] ↔
        ∀ word ∈ words, isCut word = false) := by
  intro query
  have arrived := tokens_spaced command words isWord areWords
  refine ⟨arrived, ?_⟩
  rw [arrived, ← all_parts_whole words areWords]
  have injective : Function.Injective (Token.mk .argument) := fun _ _ same => congrArg Token.text same
  simp [List.map_inj_right injective]

-- Letters are cut from the digit or the point behind them, but stay with one before them.
theorem mixed_words_cut :
    let command := "CONC"
    let words := ["A1", "1e5", "V.5x", "abc", ".b"]
    let query := " ".intercalate (command :: words)
    IsWord command ∧ (∀ word ∈ words, IsArgumentWord word) ∧
      tokens query = ⟨.command, command⟩ :: (words.flatMap parts).map (Token.mk .argument) ++ [.semicolon] ∧
      words.flatMap parts = ["A", "1", "1e5", "V", ".5x", "abc", ".b"] ∧
      ¬ tokens query = ⟨.command, command⟩ :: words.map (Token.mk .argument) ++ [.semicolon] := by
  intro command words query
  have isWord : IsWord command := by decide
  have areWords : ∀ word ∈ words, IsArgumentWord word := by decide
  obtain ⟨arrived, whole⟩ := bare_words_cut command words isWord areWords
  refine ⟨isWord, areWords, arrived, by decide, ?_⟩
  rw [whole]
  decide

theorem numbered_word_split :
    ¬ ∀ (command : String) (words : List String), IsWord command → words ≠ [] →
      (∀ word ∈ words, IsArgumentWord word) →
      tokens (" ".intercalate (command :: words)) =
        ⟨.command, command⟩ :: words.map (Token.mk .argument) ++ [.semicolon] := by
  intro whole
  have arrived := whole "CONC" ["A1"] (by decide) (by decide) (by decide)
  revert arrived
  decide

end Scpi.Query
