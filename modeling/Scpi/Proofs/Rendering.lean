import Scpi.Proofs.Keywords

set_option autoImplicit false

namespace Scpi.Query

def quotation (text : String) : List Char := '"' :: (text.toList ++ ['"'])

-- Words at the beginning of a command are bare, and what would lose its kind or its text is quoted.
def writtenToken (previous : Option Token.Kind) (token : Token) : List Char :=
  match token.kind with
  | .colon => [':']
  | .semicolon => [';']
  | .command => token.text.toList
  | .argument => if afterWord previous then quotation token.text else token.text.toList
  | .quotedString => quotation token.text
  | .whitespace | .newline => []

def written (previous : Option Token.Kind) : List Token → List Char
  | [] => []
  | token :: rest => writtenToken previous token ++ written (some token.kind) rest

def render (tokens : List Token) : String := String.ofList (written none tokens)

-- Regular tokens as they are before they are settled: a word after a word was quoted.
def unsettled (previous : Option Token.Kind) : List Token → List Token
  | [] => []
  | token :: rest =>
      (if token.kind.isWord && afterWord previous then ⟨.quotedString, token.text⟩ else token) ::
        unsettled (some token.kind) rest

theorem unsettled_after (previous : Option Token.Kind) (text : String) (rest : List Token)
    (after : afterWord previous = true) :
    unsettled previous (⟨.argument, text⟩ :: rest) =
      ⟨.quotedString, text⟩ :: unsettled (some .argument) rest := by
  simp only [unsettled, Token.Kind.isWord, after, Bool.and_self, if_true]

theorem unsettled_same (previous : Option Token.Kind) (token : Token) (rest : List Token)
    (same : (token.kind.isWord && afterWord previous) = false) :
    unsettled previous (token :: rest) = token :: unsettled (some token.kind) rest := by
  simp only [unsettled, same, Bool.false_eq_true, if_false]

theorem mark_no_word (token : Token) (mark : token = .colon ∨ token = .semicolon) :
    token.kind.isWord = false := by
  rcases mark with rfl | rfl <;> rfl

theorem settle_unsettled (previous : Option Token.Kind) (tokens : List Token)
    (regular : Regular previous tokens) : settle previous (unsettled previous tokens) = tokens := by
  induction tokens generalizing previous with
  | nil =>
      change previous = some .semicolon at regular
      rw [unsettled, settle, if_pos regular]
  | cons token rest ih =>
      obtain ⟨fits, others⟩ := regular
      have later := ih (some token.kind) others
      obtain ⟨after, text, rfl, _⟩ | ⟨first, word, _⟩ | ⟨different, mark⟩ := fits_cases previous token fits
      · rw [unsettled_after previous text rest after, settle_word_after previous _ _ rfl after, later]
      · rw [unsettled_same previous token rest (by simp [first]),
          settle_word_first previous token _ word (by simp [first]), later]
      · have noWord := mark_no_word token mark
        rw [unsettled_same previous token rest (by simp [noWord]),
          settle_mark_first previous token _ (by simp [noWord]) different, later]

theorem plain_tokens_argument (word rest : List Char) (inWord : ∀ c ∈ rest, isArgumentChar c = true) :
    plainTokens (some (.argument word)) rest = [⟨.argument, String.ofList (word.reverse ++ rest)⟩] := by
  induction rest generalizing word with
  | nil => simp [plainTokens, Run.token]
  | cons c tail ih =>
      have here := inWord c (by simp)
      rw [plainTokens, Option.bind_some, Run.extend?, if_pos here]
      simp only [ih (c :: word) (fun d member => inWord d (by simp [member]))]
      simp

theorem raw_tokens_bare_argument (text : String) (bare : IsBareArgument text) :
    rawTokens text.toList = [⟨.argument, text⟩] := by
  obtain ⟨first, rest, characters, begins, inWord⟩ := bare_argument_split text bare
  obtain ⟨argument, command⟩ := bare_argument_char first begins
  have tokens := plain_tokens_argument [first] rest inWord
  rw [List.reverse_singleton, List.singleton_append, ← characters, String.ofList_toList] at tokens
  rw [raw_tokens_plain _ (bare_argument_closed text bare), characters, plain_tokens_begin,
    alphabet_no_punctuation isArgumentChar rfl rfl first argument]
  simpa [Run.start?, command, argument] using tokens

theorem raw_tokens_quotation (before : List Char) (text : String) (rest : List Char)
    (closedBefore : '"' ∉ before) (closed : '"' ∉ text.toList) :
    rawTokens (before ++ (quotation text ++ rest)) =
      rawTokens before ++ ⟨.quotedString, text⟩ :: rawTokens rest := by
  have split := raw_tokens_quoted before text.toList rest (balanced_of_no_quote before closedBefore) closed
  rw [String.ofList_toList] at split
  simpa [quotation] using split

theorem mark_character (token : Token) (mark : token = .colon ∨ token = .semicolon) :
    ∃ c, separates c = true ∧ punctuation c = [token] ∧ ∀ previous, writtenToken previous token = [c] := by
  rcases mark with rfl | rfl
  · exact ⟨':', rfl, rfl, fun _ => rfl⟩
  · exact ⟨';', rfl, rfl, fun _ => rfl⟩

theorem written_after (previous : Option Token.Kind) (text : String) (rest : List Token)
    (after : afterWord previous = true) :
    written previous (⟨.argument, text⟩ :: rest) = quotation text ++ written (some .argument) rest := by
  simp only [written, writtenToken, after, if_true]

theorem raw_tokens_bare (word : List Char) (kind : Token.Kind) (tokens : List Token) (closed : '"' ∉ word)
    (isWord : kind.isWord = true) (regular : Regular (some kind) tokens) :
    rawTokens (word ++ written (some kind) tokens) =
      rawTokens word ++ rawTokens (written (some kind) tokens) := by
  have after : afterWord (some kind) = true := isWord
  cases tokens with
  | nil =>
      rw [written, List.append_nil]
      exact (List.append_nil _).symm
  | cons token rest =>
      obtain ⟨_, text, rfl, quotable⟩ | ⟨first, _⟩ | ⟨_, mark⟩ := fits_cases (some kind) token regular.1
      · have alone := raw_tokens_quotation [] text (written (some .argument) rest) (by simp) quotable
        rw [List.nil_append] at alone
        rw [written_after (some kind) text rest after, raw_tokens_quotation word text _ closed quotable, alone]
        rfl
      · rw [after] at first
        cases first
      · obtain ⟨c, separator, _, characters⟩ := mark_character token mark
        have balanced := balanced_of_no_quote word closed
        rw [written, characters]
        exact raw_tokens_before word _ balanced (boundary_of_separator c _ separator)

theorem raw_tokens_rendered (previous : Option Token.Kind) (tokens : List Token)
    (regular : Regular previous tokens) : rawTokens (written previous tokens) = unsettled previous tokens := by
  induction tokens generalizing previous with
  | nil => rfl
  | cons token rest ih =>
      obtain ⟨fits, others⟩ := regular
      have later := ih (some token.kind) others
      obtain ⟨after, text, rfl, quotable⟩ | ⟨first, word, lexeme⟩ | ⟨_, mark⟩ := fits_cases previous token fits
      · have quoted := raw_tokens_quotation [] text (written (some .argument) rest) (by simp) quotable
        rw [List.nil_append] at quoted
        rw [written_after previous text rest after, unsettled_after previous text rest after, quoted, later]
        rfl
      · rw [unsettled_same previous token rest (by simp [first]), written, ← later]
        rcases token with ⟨kind, text⟩
        cases kind with
        | command =>
            have closed := word_without_quote text lexeme
            rw [writtenToken, raw_tokens_bare text.toList .command rest closed rfl others,
              raw_tokens_word text lexeme]
            rfl
        | argument =>
            simp only [writtenToken, first, Bool.false_eq_true, if_false]
            rw [raw_tokens_bare text.toList .argument rest (bare_argument_closed text lexeme) rfl others,
              raw_tokens_bare_argument text lexeme]
            rfl
        | quotedString =>
            have quoted := raw_tokens_quotation [] text (written (some .quotedString) rest) (by simp) lexeme
            rw [List.nil_append] at quoted
            rw [writtenToken, quoted]
            rfl
        | colon | semicolon | whitespace | newline => cases word
      · obtain ⟨c, separator, punctuated, characters⟩ := mark_character token mark
        rw [written, characters, List.singleton_append, raw_tokens_begin c _ separator, punctuated, later,
          unsettled_same previous token rest (by simp [mark_no_word token mark])]
        rfl

theorem tokens_render (sequence : List Token) (regular : Regular none sequence) :
    tokens (render sequence) = sequence := by
  rw [tokens, render, String.toList_ofList, raw_tokens_rendered none sequence regular,
    settle_unsettled none sequence regular]

theorem tokens_of_queries :
    (∀ sequence, Regular none sequence ↔ ∃ query, tokens query = sequence) ∧
    (∀ sequence, Regular none sequence → tokens (render sequence) = sequence) ∧
    (∀ query, tokens (render (tokens query)) = tokens query) := by
  refine ⟨?_, tokens_render, fun query => tokens_render _ (tokens_regular query)⟩
  intro sequence
  constructor
  · exact fun regular => ⟨render sequence, tokens_render sequence regular⟩
  · rintro ⟨query, rfl⟩
    exact tokens_regular query

-- Empty and punctuated arguments, a quotation at the head, and an argument without a command.
def mixedTokens : List Token :=
  [.colon, ⟨.command, "CONC?"⟩, ⟨.argument, ""⟩, ⟨.argument, "a;:\n1"⟩, .semicolon, .colon,
    ⟨.quotedString, "*RST"⟩, .colon, ⟨.argument, ".5V"⟩, ⟨.argument, "B"⟩, .semicolon]

theorem mixed_tokens_written : Regular none mixedTokens ∧ tokens (render mixedTokens) = mixedTokens :=
  ⟨by decide, tokens_of_queries.2.1 mixedTokens (by decide)⟩

end Scpi.Query
