import Scpi.Proofs.Scan

set_option autoImplicit false

namespace Scpi.Query

def beginsBareArgument (c : Char) : Bool := ('0' ≤ c && c ≤ '9') || c == '.'

def IsBareArgument (text : String) : Prop :=
  match text.toList with
  | [] => False
  | first :: rest => beginsBareArgument first = true ∧ ∀ c ∈ rest, isArgumentChar c = true

def IsLexeme (token : Token) : Prop :=
  match token.kind with
  | .colon | .semicolon => token.text = ""
  | .command => IsWord token.text
  | .argument => IsBareArgument token.text
  | .quotedString => '"' ∉ token.text.toList
  | .whitespace | .newline => False

def afterWord (previous : Option Token.Kind) : Bool := previous.any Token.Kind.isWord

-- A word that follows a word is an argument with any text that can be quoted. Punctuation does not follow
-- punctuation of its own kind.
def Fits (previous : Option Token.Kind) (token : Token) : Prop :=
  if token.kind.isWord then
    if afterWord previous then token.kind = .argument ∧ '"' ∉ token.text.toList else IsLexeme token
  else previous ≠ some token.kind ∧ IsLexeme token

-- Tokens that may follow one of kind `previous`, or come first, up to a semicolon that is the last one.
def Regular (previous : Option Token.Kind) : List Token → Prop
  | [] => previous = some .semicolon
  | token :: rest => Fits previous token ∧ Regular (some token.kind) rest

instance (text : String) : Decidable (IsBareArgument text) :=
  match characters : text.toList with
  | [] => .isFalse (by simp [IsBareArgument, characters])
  | first :: rest =>
      have := List.decidableBAll (fun c => isArgumentChar c = true) rest
      decidable_of_iff (beginsBareArgument first = true ∧ ∀ c ∈ rest, isArgumentChar c = true)
        (by simp [IsBareArgument, characters])

instance : (token : Token) → Decidable (IsLexeme token)
  | ⟨.colon, text⟩ | ⟨.semicolon, text⟩ => inferInstanceAs (Decidable (text = ""))
  | ⟨.command, text⟩ => inferInstanceAs (Decidable (IsWord text))
  | ⟨.argument, text⟩ => inferInstanceAs (Decidable (IsBareArgument text))
  | ⟨.quotedString, text⟩ => inferInstanceAs (Decidable ('"' ∉ text.toList))
  | ⟨.whitespace, _⟩ | ⟨.newline, _⟩ => inferInstanceAs (Decidable False)

instance (previous : Option Token.Kind) (token : Token) : Decidable (Fits previous token) :=
  inferInstanceAs (Decidable (ite _ _ _))

instance regularDecidable : (previous : Option Token.Kind) → (tokens : List Token) →
    Decidable (Regular previous tokens)
  | previous, [] => inferInstanceAs (Decidable (previous = some .semicolon))
  | previous, token :: rest =>
      have := regularDecidable (some token.kind) rest
      inferInstanceAs (Decidable (Fits previous token ∧ Regular (some token.kind) rest))

theorem bare_argument_cons (first : Char) (rest : List Char) :
    IsBareArgument (String.ofList (first :: rest)) ↔
      beginsBareArgument first = true ∧ ∀ c ∈ rest, isArgumentChar c = true := by
  simp [IsBareArgument]

theorem command_char_bounds (c : Char) (inWord : isCommandChar c = true) : c.toNat = 42 ∨ 63 ≤ c.toNat := by
  simp only [isCommandChar, isLetter, Bool.or_eq_true, Bool.and_eq_true, decide_eq_true_eq,
    beq_iff_eq] at inWord
  rcases inWord with (((⟨capital, _⟩ | ⟨small, _⟩) | rfl) | rfl) | rfl
  · have bound : 65 ≤ c.toNat := capital
    omega
  · have bound : 97 ≤ c.toNat := small
    omega
  all_goals decide

theorem bare_argument_char (c : Char) (begins : beginsBareArgument c = true) :
    isArgumentChar c = true ∧ isCommandChar c = false := by
  simp only [beginsBareArgument, Bool.or_eq_true, Bool.and_eq_true, decide_eq_true_eq, beq_iff_eq] at begins
  rcases begins with digit | rfl
  · refine ⟨by simp [isArgumentChar, digit], ?_⟩
    have bounds : 48 ≤ c.toNat ∧ c.toNat ≤ 57 := digit
    apply Bool.eq_false_iff.mpr
    intro command
    have outside := command_char_bounds c command
    omega
  · decide

theorem bare_argument_begins (c : Char) (command : ¬ isCommandChar c = true)
    (argument : isArgumentChar c = true) : beginsBareArgument c = true := by
  simp only [isCommandChar, isArgumentChar, Bool.or_eq_true, not_or] at command argument
  rcases argument with (letter | digit) | point
  · exact absurd letter command.1.1.1
  · simp [beginsBareArgument, digit]
  · simp [beginsBareArgument, point]

theorem start_lexeme (c : Char) (run : Run) (started : Run.start? c = some run) : IsLexeme run.token := by
  unfold Run.start? at started
  by_cases command : isCommandChar c = true
  · rw [if_pos command] at started
    cases started
    simpa [IsLexeme, Run.token, IsWord] using command
  · by_cases argument : isArgumentChar c = true
    · rw [if_neg command, if_pos argument] at started
      cases started
      have begins := bare_argument_begins c command argument
      exact (bare_argument_cons c []).mpr ⟨begins, fun _ none => by cases none⟩
    · rw [if_neg command, if_neg argument] at started
      cases started

theorem extend_lexeme (c : Char) (run longer : Run) (extended : run.extend? c = some longer)
    (lexeme : IsLexeme run.token) : IsLexeme longer.token := by
  obtain ⟨word, rfl, rfl, inWord⟩ | ⟨word, rfl, rfl, inWord⟩ := Run.extend_cases c run longer extended
  · refine ⟨by simp [Run.token], ?_⟩
    intro d member
    simp only [Run.token, String.toList_ofList, List.mem_reverse, List.mem_cons] at member
    rcases member with rfl | earlier
    · exact inWord
    · exact lexeme.2 d (by simpa [Run.token] using earlier)
  · change IsBareArgument (String.ofList word.reverse) at lexeme
    change IsBareArgument (String.ofList (c :: word).reverse)
    rw [List.reverse_cons]
    cases characters : word.reverse with
    | nil =>
        rw [characters] at lexeme
        cases lexeme
    | cons first rest =>
        rw [characters, bare_argument_cons] at lexeme
        rw [List.cons_append, bare_argument_cons]
        refine ⟨lexeme.1, ?_⟩
        intro d member
        rcases List.mem_append.mp member with earlier | last
        · exact lexeme.2 d earlier
        · rw [List.mem_singleton.mp last]
          exact inWord

theorem punctuation_lexemes (c : Char) : ∀ token ∈ punctuation c, IsLexeme token := by
  intro token member
  unfold punctuation at member
  split at member
  · rw [List.mem_singleton.mp member]
    rfl
  · split at member
    · rw [List.mem_singleton.mp member]
      rfl
    · cases member

theorem plain_tokens_lexemes (run : Option Run) (body : List Char)
    (unfinished : ∀ current, run = some current → IsLexeme current.token) :
    ∀ token ∈ plainTokens run body, IsLexeme token := by
  induction body generalizing run with
  | nil =>
      intro token member
      obtain ⟨current, same, rfl⟩ := by simpa [plainTokens] using member
      exact unfinished current same
  | cons c rest ih =>
      intro token member
      rw [plainTokens] at member
      cases longer : run.bind (Run.extend? c) with
      | some extended =>
          simp only [longer] at member
          obtain ⟨current, same, extension⟩ := Option.bind_eq_some_iff.mp longer
          refine ih (some extended) ?_ token member
          intro other sameOther
          rw [← Option.some.inj sameOther]
          exact extend_lexeme c current extended extension (unfinished current same)
      | none =>
          simp only [longer, List.mem_append] at member
          rcases member with (ended | mark) | later
          · obtain ⟨current, same, rfl⟩ := by simpa using ended
            exact unfinished current same
          · exact punctuation_lexemes c token mark
          · exact ih (Run.start? c) (start_lexeme c) token later

theorem pieces_from_closed (inside : Bool) (body characters : List Char) (closed : '"' ∉ body) :
    ∀ text, .quoted text ∈ piecesFrom inside body characters → '"' ∉ text := by
  induction characters generalizing inside body with
  | nil =>
      intro text member
      simp [piecesFrom] at member
  | cons c rest ih =>
      intro text member
      by_cases quote : c = '"'
      · rw [piecesFrom, if_pos quote] at member
        rcases List.mem_cons.mp member with first | later
        · cases inside with
          | false => cases first
          | true =>
              rw [Piece.quoted.inj first]
              simpa using closed
        · exact ih (!inside) [] (by simp) text later
      · rw [piecesFrom, if_neg quote] at member
        exact ih inside (c :: body) (by simp [closed, Ne.symm quote]) text member

theorem raw_tokens_lexemes (characters : List Char) : ∀ token ∈ rawTokens characters, IsLexeme token := by
  intro token member
  obtain ⟨piece, inPieces, inPiece⟩ := List.mem_flatMap.mp member
  cases piece with
  | plain body => exact plain_tokens_lexemes none body (fun _ none => by cases none) token inPiece
  | quoted body =>
      rw [List.mem_singleton.mp inPiece]
      have closed := pieces_from_closed false [] characters (by simp) body inPieces
      simpa [IsLexeme] using closed

theorem bare_argument_split (text : String) (bare : IsBareArgument text) :
    ∃ first rest, text.toList = first :: rest ∧ beginsBareArgument first = true ∧
      ∀ c ∈ rest, isArgumentChar c = true := by
  rw [IsBareArgument] at bare
  split at bare
  · cases bare
  · rename_i first rest characters
    exact ⟨first, rest, characters, bare⟩

theorem bare_argument_not_command (text : String) (bare : IsBareArgument text) (c : Char)
    (first : text.toList.head? = some c) : isCommandChar c = false := by
  obtain ⟨initial, rest, characters, begins, _⟩ := bare_argument_split text bare
  rw [characters] at first
  cases first
  exact (bare_argument_char c begins).2

theorem bare_argument_characters (text : String) (bare : IsBareArgument text) :
    ∀ c ∈ text.toList, isArgumentChar c = true := by
  obtain ⟨first, rest, characters, begins, inWord⟩ := bare_argument_split text bare
  intro c member
  rw [characters] at member
  rcases List.mem_cons.mp member with rfl | later
  · exact (bare_argument_char c begins).1
  · exact inWord c later

theorem bare_argument_closed (text : String) (bare : IsBareArgument text) : '"' ∉ text.toList :=
  alphabet_absent isArgumentChar '"' rfl text.toList (bare_argument_characters text bare)

theorem lexeme_closed (token : Token) (lexeme : IsLexeme token) (word : token.kind.isWord = true) :
    '"' ∉ token.text.toList := by
  rcases token with ⟨kind, text⟩
  cases kind with
  | command => exact word_without_quote text lexeme
  | argument => exact bare_argument_closed text lexeme
  | quotedString => exact lexeme
  | colon | semicolon | whitespace | newline => cases word

theorem settle_word_after (previous : Option Token.Kind) (token : Token) (rest : List Token)
    (word : token.kind.isWord = true) (after : afterWord previous = true) :
    settle previous (token :: rest) = ⟨.argument, token.text⟩ :: settle (some .argument) rest := by
  change previous.any Token.Kind.isWord = true at after
  simp only [settle, word, after, if_true]

theorem settle_word_first (previous : Option Token.Kind) (token : Token) (rest : List Token)
    (word : token.kind.isWord = true) (first : ¬ afterWord previous = true) :
    settle previous (token :: rest) = token :: settle (some token.kind) rest := by
  change ¬ previous.any Token.Kind.isWord = true at first
  simp only [settle, word, if_true, if_neg first]

theorem settle_mark_again (previous : Option Token.Kind) (token : Token) (rest : List Token)
    (mark : ¬ token.kind.isWord = true) (repeated : previous = some token.kind) :
    settle previous (token :: rest) = settle previous rest := by
  rw [settle, if_neg mark, if_pos repeated]

theorem settle_mark_first (previous : Option Token.Kind) (token : Token) (rest : List Token)
    (mark : ¬ token.kind.isWord = true) (different : previous ≠ some token.kind) :
    settle previous (token :: rest) = token :: settle (some token.kind) rest := by
  rw [settle, if_neg mark, if_neg different]

theorem settle_step (previous : Option Token.Kind) (token : Token) :
    (∃ kind, ∀ rest, settle previous (token :: rest) = ⟨kind, token.text⟩ :: settle (some kind) rest) ∨
      ¬ token.kind.isWord = true ∧ ∀ rest, settle previous (token :: rest) = settle previous rest := by
  by_cases word : token.kind.isWord = true
  · by_cases after : afterWord previous = true
    · exact .inl ⟨.argument, fun rest => settle_word_after previous token rest word after⟩
    · exact .inl ⟨token.kind, fun rest => settle_word_first previous token rest word after⟩
  · by_cases repeated : previous = some token.kind
    · exact .inr ⟨word, fun rest => settle_mark_again previous token rest word repeated⟩
    · exact .inl ⟨token.kind, fun rest => settle_mark_first previous token rest word repeated⟩

theorem settle_regular (previous : Option Token.Kind) (raw : List Token)
    (lexemes : ∀ token ∈ raw, IsLexeme token) : Regular previous (settle previous raw) := by
  induction raw generalizing previous with
  | nil =>
      by_cases ended : previous = some .semicolon
      · rw [settle, if_pos ended]
        exact ended
      · rw [settle, if_neg ended]
        exact ⟨⟨ended, rfl⟩, rfl⟩
  | cons token rest ih =>
      have lexeme := lexemes token (by simp)
      have others (kind : Option Token.Kind) : Regular kind (settle kind rest) :=
        ih kind fun other member => lexemes other (by simp [member])
      by_cases word : token.kind.isWord = true
      · by_cases after : afterWord previous = true
        · rw [settle_word_after previous token rest word after]
          have closed := lexeme_closed token lexeme word
          exact ⟨by simp [Fits, after, Token.Kind.isWord, closed], others _⟩
        · rw [settle_word_first previous token rest word after]
          exact ⟨by simpa [Fits, word, after] using lexeme, others _⟩
      · by_cases repeated : previous = some token.kind
        · rw [settle_mark_again previous token rest word repeated]
          exact others previous
        · rw [settle_mark_first previous token rest word repeated]
          exact ⟨by simpa [Fits, word, repeated] using lexeme, others _⟩

theorem fits_cases (previous : Option Token.Kind) (token : Token) (fits : Fits previous token) :
    (afterWord previous = true ∧ ∃ text, token = ⟨.argument, text⟩ ∧ '"' ∉ text.toList) ∨
    (afterWord previous = false ∧ token.kind.isWord = true ∧ IsLexeme token) ∨
    (previous ≠ some token.kind ∧ (token = .colon ∨ token = .semicolon)) := by
  rcases token with ⟨kind, text⟩
  by_cases word : kind.isWord = true
  · rw [Fits, if_pos word] at fits
    by_cases after : afterWord previous = true
    · rw [if_pos after] at fits
      obtain ⟨rfl, closed⟩ := fits
      exact .inl ⟨after, text, rfl, closed⟩
    · rw [if_neg after] at fits
      exact .inr (.inl ⟨Bool.eq_false_iff.mpr after, word, fits⟩)
  · rw [Fits, if_neg word] at fits
    obtain ⟨different, lexeme⟩ := fits
    refine .inr (.inr ⟨different, ?_⟩)
    cases kind with
    | colon => exact .inl (congrArg (Token.mk .colon) lexeme)
    | semicolon => exact .inr (congrArg (Token.mk .semicolon) lexeme)
    | command | argument | quotedString => exact absurd rfl word
    | whitespace | newline => cases lexeme

theorem tokens_regular (query : String) : Regular none (tokens query) :=
  settle_regular none _ (raw_tokens_lexemes query.toList)

end Scpi.Query
