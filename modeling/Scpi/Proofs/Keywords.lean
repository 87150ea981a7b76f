import Scpi.Proofs.Grammar
import Scpi.Proofs.Plan

set_option autoImplicit false

namespace Scpi

namespace Query

def keywordText (word : String) : List Char := ':' :: word.toList

def keywordTokens (word : String) : List Token := [.colon, ⟨.command, word⟩]

def argumentText (argument : String) : List Char := ' ' :: '"' :: (argument.toList ++ ['"'])

theorem short_is_command_char (c : Char) (short : Keyword.isShort c = true) : isCommandChar c = true := by
  simp only [Keyword.isShort, Bool.or_eq_true] at short
  simp only [isCommandChar, isLetter, Bool.or_eq_true]
  rcases short with ((capital | underscore) | star) | question
  · exact .inl (.inl (.inl (.inl capital)))
  · exact .inl (.inr underscore)
  · exact .inl (.inl (.inr star))
  · exact .inr question

theorem intercalate_cons (mark first : String) (rest : List String) :
    (mark.intercalate (first :: rest)).toList =
      first.toList ++ rest.flatMap fun word => mark.toList ++ word.toList := by
  induction rest generalizing first with
  | nil => simp [String.intercalate_singleton]
  | cons second rest ih =>
      rw [String.intercalate_cons_cons, String.toList_append, String.toList_append, ih]
      simp

theorem boundary_of_separator (c : Char) (rest : List Char) (separator : separates c = true) :
    Boundary (c :: rest) := by
  intro d same
  rw [← Option.some.inj same]
  exact separator

theorem keywords_boundary (words : List String) (rest : List Char) (boundary : Boundary rest) :
    Boundary (words.flatMap keywordText ++ rest) := by
  cases words with
  | nil => exact boundary
  | cons word others => exact boundary_of_separator ':' _ (by decide)

theorem arguments_boundary (arguments : List String) (rest : List Char) (boundary : Boundary rest) :
    Boundary (arguments.flatMap argumentText ++ rest) := by
  cases arguments with
  | nil => exact boundary
  | cons argument others => exact boundary_of_separator ' ' _ (by decide)

theorem raw_tokens_keywords (words : List String) (rest : List Char)
    (areWords : ∀ word ∈ words, IsWord word) (boundary : Boundary rest) :
    rawTokens (words.flatMap keywordText ++ rest) = words.flatMap keywordTokens ++ rawTokens rest := by
  induction words with
  | nil => rfl
  | cons word others ih =>
      rw [List.flatMap_cons, keywordText, List.append_assoc, List.cons_append,
        raw_tokens_begin ':' _ (by decide),
        raw_tokens_word_before word _ (areWords word (by simp)) (keywords_boundary others rest boundary),
        ih (fun other member => areWords other (by simp [member]))]
      rfl

theorem raw_tokens_arguments (arguments : List String) (rest : List Char)
    (closed : ∀ argument ∈ arguments, '"' ∉ argument.toList) :
    rawTokens (arguments.flatMap argumentText ++ rest) =
      arguments.map (Token.mk .quotedString) ++ rawTokens rest := by
  induction arguments with
  | nil => rfl
  | cons argument others ih =>
      have quoted := raw_tokens_quoted [] argument.toList (others.flatMap argumentText ++ rest) balanced_nil
        (closed argument (by simp))
      have shape : (argument :: others).flatMap argumentText ++ rest =
          ' ' :: '"' :: (argument.toList ++ '"' :: (others.flatMap argumentText ++ rest)) := by
        simp [argumentText]
      rw [List.nil_append] at quoted
      rw [shape, raw_tokens_begin ' ' _ (by decide), quoted,
        ih (fun other member => closed other (by simp [member])), String.ofList_toList]
      rfl

theorem settle_keywords (words : List String) (rest : List Token) :
    settle (some .command) (words.flatMap keywordTokens ++ rest) =
      words.flatMap keywordTokens ++ settle (some .command) rest := by
  induction words with
  | nil => rfl
  | cons word others ih =>
      rw [List.flatMap_cons, List.append_assoc, List.append_assoc, ← ih]
      simp [keywordTokens, settle, Token.colon, Token.Kind.isWord]

theorem settle_words (raw rest : List Token) (kind : Token.Kind) (word : kind.isWord = true)
    (words : ∀ token ∈ raw, token.kind.isWord = true) :
    ∃ last : Token.Kind, last.isWord = true ∧
      settle (some kind) (raw ++ rest) =
        raw.map (fun token => ⟨.argument, token.text⟩) ++ settle (some last) rest := by
  induction raw generalizing kind with
  | nil => exact ⟨kind, word, rfl⟩
  | cons token others ih =>
      have own := words token (by simp)
      obtain ⟨last, lastWord, settled⟩ := ih .argument rfl fun other member => words other (by simp [member])
      refine ⟨last, lastWord, ?_⟩
      rw [List.cons_append, settle_word_after (some kind) token _ own word, settled, List.map_cons,
        List.cons_append]

theorem settle_arguments (arguments : List String) (rest : List Token) (kind : Token.Kind)
    (word : kind.isWord = true) :
    ∃ last : Token.Kind, last.isWord = true ∧
      settle (some kind) (arguments.map (Token.mk .quotedString) ++ rest) =
        arguments.map (Token.mk .argument) ++ settle (some last) rest := by
  have words : ∀ token ∈ arguments.map (Token.mk .quotedString), token.kind.isWord = true := by
    simp [Token.Kind.isWord]
  have settled := settle_words (arguments.map (Token.mk .quotedString)) rest kind word words
  rwa [List.map_map] at settled

theorem settle_end (last : Token.Kind) (word : last.isWord = true) :
    settle (some last) [] = [.semicolon] := by
  cases last <;> first | rfl | cases word

theorem settle_semicolon (last : Token.Kind) (rest : List Token) (word : last.isWord = true) :
    settle (some last) (.semicolon :: rest) = .semicolon :: settle (some .semicolon) rest := by
  cases last <;> first | rfl | cases word

theorem words_keywords (words : List String) : Chain.words (words.flatMap keywordTokens) = words := by
  induction words with
  | nil => rfl
  | cons word others ih =>
      rw [List.flatMap_cons, Chain.words_append, ih]
      rfl

theorem arguments_keywords (words : List String) :
    Chain.arguments (words.flatMap keywordTokens) = [] := by
  induction words with
  | nil => rfl
  | cons word others ih =>
      rw [List.flatMap_cons, Chain.arguments_append, ih]
      rfl

theorem keywords_inside (words : List String) :
    ∀ token ∈ words.flatMap keywordTokens, Chain.endsCommand token = false := by
  intro token member
  obtain ⟨word, _, inWord⟩ := List.mem_flatMap.mp member
  simp only [keywordTokens, List.mem_cons, List.not_mem_nil, or_false] at inWord
  rcases inWord with rfl | rfl <;> rfl

end Query

end Scpi
