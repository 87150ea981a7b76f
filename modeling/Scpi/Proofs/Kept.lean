import Scpi.Proofs.Grammar

set_option autoImplicit false

namespace Scpi.Query

-- Inside a quotation everything is kept, and outside what words are made of.
def keeps (inside : Bool) (c : Char) : Bool := inside || isWordChar c

-- Quotation marks are paired from left to right. One without a partner opens nothing.
def keptFrom (inside : Bool) : List Char → List Char
  | [] => []
  | c :: rest =>
      if c = '"' then keptFrom (!inside && rest.contains '"') rest
      else if keeps inside c then c :: keptFrom inside rest
      else keptFrom inside rest

def kept (query : String) : String := String.ofList (keptFrom false query.toList)

def textOf (tokens : List Token) : List Char := tokens.flatMap fun token => token.text.toList

theorem text_of_append (first second : List Token) :
    textOf (first ++ second) = textOf first ++ textOf second :=
  List.flatMap_append

theorem lexeme_mark_text (token : Token) (lexeme : IsLexeme token) (mark : ¬ token.kind.isWord = true) :
    token.text = "" := by
  rcases token with ⟨kind, text⟩
  cases kind with
  | colon | semicolon => exact lexeme
  | command | argument | quotedString => exact absurd rfl mark
  | whitespace | newline => cases lexeme

theorem settle_text (previous : Option Token.Kind) (raw : List Token)
    (lexemes : ∀ token ∈ raw, IsLexeme token) : textOf (settle previous raw) = textOf raw := by
  induction raw generalizing previous with
  | nil =>
      by_cases ended : previous = some .semicolon
      · rw [settle, if_pos ended]
      · rw [settle, if_neg ended]
        rfl
  | cons token rest ih =>
      have others (kind : Option Token.Kind) : textOf (settle kind rest) = textOf rest :=
        ih kind fun other member => lexemes other (by simp [member])
      obtain ⟨kind, step⟩ | ⟨mark, step⟩ := settle_step previous token
      · rw [step]
        exact congrArg (token.text.toList ++ ·) (others _)
      · have empty := lexeme_mark_text token (lexemes token (by simp)) mark
        rw [step, others, textOf, textOf, List.flatMap_cons, empty, String.toList_empty, List.nil_append]

theorem punctuation_text (c : Char) : textOf (punctuation c) = [] := by
  rw [punctuation]
  split
  · rfl
  · split <;> rfl

theorem start_text (c : Char) : textOf ((Run.start? c).map Run.token).toList = [c].filter isWordChar := by
  rw [Run.start?]
  by_cases command : isCommandChar c = true
  · simp [command, word_char_iff, textOf, Run.token]
  · by_cases argument : isArgumentChar c = true
    · simp [command, argument, word_char_iff, textOf, Run.token]
    · simp [command, argument, word_char_iff, textOf]

theorem extend_text (c : Char) (run longer : Run) (extended : run.extend? c = some longer) :
    longer.token.text.toList = run.token.text.toList ++ [c] ∧ isWordChar c = true := by
  obtain ⟨word, rfl, rfl, inWord⟩ | ⟨word, rfl, rfl, inWord⟩ := Run.extend_cases c run longer extended
  · simp [Run.token, word_char_iff, inWord]
  · simp [Run.token, word_char_iff, inWord]

-- Whichever rule takes a character, none is lost between the end of one word and the beginning of the next.
theorem plain_tokens_text (run : Option Run) (body : List Char) :
    textOf (plainTokens run body) = textOf (run.map Run.token).toList ++ body.filter isWordChar := by
  induction body generalizing run with
  | nil => simp [plainTokens]
  | cons c rest ih =>
      rw [plainTokens]
      cases longer : run.bind (Run.extend? c) with
      | some extended =>
          obtain ⟨current, rfl, extension⟩ := Option.bind_eq_some_iff.mp longer
          obtain ⟨grown, inWord⟩ := extend_text c current extended extension
          have continued := ih (some extended)
          simp only [textOf, Option.map_some, Option.toList_some, List.flatMap_singleton] at continued ⊢
          rw [continued, grown, List.filter_cons_of_pos inWord, List.append_assoc, List.singleton_append]
      | none =>
          have begun := ih (Run.start? c)
          rw [start_text] at begun
          simp only [text_of_append, punctuation_text, begun, List.append_nil]
          rw [← List.filter_append, List.singleton_append]

theorem piece_text (inside : Bool) (body : List Char) :
    textOf (if inside then Piece.quoted body else Piece.plain body).tokens = body.filter (keeps inside) := by
  cases inside with
  | false => exact plain_tokens_text none body
  | true =>
      have whole : body.filter (keeps true) = body := List.filter_eq_self.mpr fun _ _ => rfl
      rw [whole]
      simp [Piece.tokens, textOf]

theorem pieces_text (inside : Bool) (body rest : List Char) :
    textOf ((piecesFrom inside body rest).flatMap Piece.tokens) =
      body.reverse.filter (keeps (inside && rest.contains '"')) ++
        keptFrom (inside && rest.contains '"') rest := by
  induction rest generalizing inside body with
  | nil =>
      have ended := piece_text false body.reverse
      simpa [piecesFrom, keptFrom, textOf] using ended
  | cons c rest ih =>
      by_cases quote : c = '"'
      · subst quote
        have closed := ih (!inside) []
        rw [List.reverse_nil, List.filter_nil, List.nil_append] at closed
        rw [piecesFrom, if_pos rfl, List.flatMap_cons, text_of_append, closed, piece_text]
        simp [keptFrom]
      · have longer := ih inside (c :: body)
        have same : (c :: rest).contains '"' = rest.contains '"' := by simp [Ne.symm quote]
        rw [piecesFrom, if_neg quote, longer, same, keptFrom, if_neg quote, List.reverse_cons,
          List.filter_append, List.append_assoc]
        by_cases keep : keeps (inside && rest.contains '"') c = true
        · rw [if_pos keep, List.filter_cons_of_pos keep, List.filter_nil, List.singleton_append]
        · rw [if_neg keep, List.filter_cons_of_neg keep, List.filter_nil, List.nil_append]

theorem tokens_keep_text (query : String) :
    String.join ((tokens query).map Token.text) = kept query := by
  have joined : (String.join ((tokens query).map Token.text)).toList = textOf (tokens query) := by
    rw [String.toList_join, List.flatMap_map, textOf]
  have read := pieces_text false [] query.toList
  rw [← String.toList_inj, joined, kept, String.toList_ofList, tokens,
    settle_text none _ (raw_tokens_lexemes query.toList), rawTokens, pieces, read]
  rfl

-- The last quotation mark opens nothing.
example : kept "CONC a\"b; c\" -1.2 \"x y" = "CONCab; c1.2xy" := rfl

end Scpi.Query
