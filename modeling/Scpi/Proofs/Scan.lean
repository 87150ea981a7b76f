import Scpi.Query

set_option autoImplicit false

namespace Scpi.Query

def Balanced (characters : List Char) : Prop := characters.count '"' % 2 = 0

instance (characters : List Char) : Decidable (Balanced characters) :=
  inferInstanceAs (Decidable (characters.count '"' % 2 = 0))

def separates (c : Char) : Bool := !isCommandChar c && !isArgumentChar c && c ≠ '"'

def isWordChar (c : Char) : Bool :=
  isLetter c || ('0' ≤ c && c ≤ '9') || c == '.' || c == '*' || c == '_' || c == '?'

def IsWord (word : String) : Prop := word.toList ≠ [] ∧ ∀ c ∈ word.toList, isCommandChar c = true

instance (word : String) : Decidable (IsWord word) :=
  have := List.decidableBAll (fun c => isCommandChar c = true) word.toList
  instDecidableAnd

theorem word_char_iff (c : Char) : isWordChar c = (isCommandChar c || isArgumentChar c) := by
  rw [isWordChar, isCommandChar, isArgumentChar]
  cases isLetter c with
  | true => simp
  | false => grind

section

variable (alphabet : Char → Bool)

theorem alphabet_ne (c mark : Char) (inside : alphabet c = true) (outside : alphabet mark = false) :
    c ≠ mark := by
  intro same
  rw [same, outside] at inside
  cases inside

theorem alphabet_absent (mark : Char) (outside : alphabet mark = false) (characters : List Char)
    (inside : ∀ c ∈ characters, alphabet c = true) : mark ∉ characters :=
  fun member => alphabet_ne alphabet mark mark (inside mark member) outside rfl

theorem alphabet_no_punctuation (colon : alphabet ':' = false) (semicolon : alphabet ';' = false) (c : Char)
    (inside : alphabet c = true) : punctuation c = [] := by
  rw [punctuation, if_neg (alphabet_ne alphabet c ':' inside colon),
    if_neg (alphabet_ne alphabet c ';' inside semicolon)]

end

theorem separates_not_quote (c : Char) (separator : separates c = true) : c ≠ '"' :=
  alphabet_ne separates c '"' separator rfl

theorem word_without_quote (word : String) (isWord : IsWord word) : '"' ∉ word.toList :=
  alphabet_absent isCommandChar '"' rfl word.toList isWord.2

theorem balanced_of_no_quote (characters : List Char) (absent : '"' ∉ characters) :
    Balanced characters := by
  simp [Balanced, List.count_eq_zero.mpr absent]

theorem balanced_nil : Balanced [] := rfl

-- A prefix in which the quotation marks pair up leaves an unfinished plain piece behind.
theorem pieces_from_prefix (characters body : List Char) (inside : Bool)
    (parity : characters.count '"' % 2 = if inside then 1 else 0) :
    ∃ before last, ∀ rest,
      piecesFrom inside body (characters ++ rest) = before ++ piecesFrom false last rest := by
  induction characters generalizing inside body with
  | nil =>
      cases inside with
      | false => exact ⟨[], body, fun _ => rfl⟩
      | true => simp at parity
  | cons c tail ih =>
      by_cases quote : c = '"'
      · subst quote
        rw [List.count_cons_self] at parity
        obtain ⟨before, last, split⟩ := ih [] (!inside) (by cases inside <;> simp at parity ⊢ <;> omega)
        refine ⟨(if inside then .quoted body.reverse else .plain body.reverse) :: before, last, ?_⟩
        intro rest
        rw [List.cons_append, piecesFrom, if_pos rfl, split, List.cons_append]
      · rw [List.count_cons_of_ne (quote)] at parity
        obtain ⟨before, last, split⟩ := ih (c :: body) inside parity
        refine ⟨before, last, ?_⟩
        intro rest
        rw [List.cons_append, piecesFrom, if_neg quote, split]

theorem pieces_from_quoted (text body rest : List Char) (closed : '"' ∉ text) :
    piecesFrom true body (text ++ '"' :: rest) = .quoted (body.reverse ++ text) :: pieces rest := by
  induction text generalizing body with
  | nil => simp [piecesFrom, pieces]
  | cons c tail ih =>
      have other : c ≠ '"' := fun same => closed (by simp [same])
      rw [List.cons_append, piecesFrom, if_neg other, ih _ (fun member => closed (by simp [member]))]
      simp

theorem pieces_from_plain (body characters : List Char) (plain : '"' ∉ characters) :
    piecesFrom false body characters = [.plain (body.reverse ++ characters)] := by
  induction characters generalizing body with
  | nil => simp [piecesFrom]
  | cons c tail ih =>
      have other : c ≠ '"' := fun same => plain (by simp [same])
      rw [piecesFrom, if_neg other, ih _ (fun member => plain (by simp [member]))]
      simp

theorem plain_tokens_separator (run : Option Run) (before after : List Char) (c : Char)
    (separator : separates c = true) :
    plainTokens run (before ++ c :: after) =
      plainTokens run before ++ punctuation c ++ plainTokens none after := by
  simp only [separates, Bool.and_eq_true, Bool.not_eq_true'] at separator
  obtain ⟨⟨notCommand, notArgument⟩, _⟩ := separator
  induction before generalizing run with
  | nil =>
      have ended : run.bind (Run.extend? c) = none := by
        rcases run with _ | _ | _ <;> simp [Run.extend?, notCommand, notArgument]
      simp [plainTokens, ended, Run.start?, notCommand, notArgument]
  | cons d tail ih =>
      rw [List.cons_append, plainTokens, plainTokens]
      cases run.bind (Run.extend? d) with
      | none => simp [ih]
      | some longer => exact ih (some longer)

theorem plain_tokens_begin (c : Char) (rest : List Char) :
    plainTokens none (c :: rest) = punctuation c ++ plainTokens (Run.start? c) rest := rfl

theorem plain_tokens_command (word inner rest : List Char) (inWord : ∀ c ∈ inner, isCommandChar c = true)
    (ended : ∀ c, rest.head? = some c → isCommandChar c = false) :
    plainTokens (some (.command word)) (inner ++ rest) =
      ⟨.command, String.ofList (word.reverse ++ inner)⟩ :: plainTokens none rest := by
  induction inner generalizing word with
  | nil =>
      cases rest with
      | nil => simp [plainTokens, Run.token]
      | cons c tail => simp [plainTokens, Run.extend?, ended c rfl, Run.token]
  | cons c tail ih =>
      have here := inWord c (by simp)
      rw [List.cons_append, plainTokens, Option.bind_some, Run.extend?, if_pos here]
      simp only [ih (c :: word) (fun d member => inWord d (by simp [member]))]
      simp

theorem Run.extend_cases (c : Char) (run longer : Run) (extended : run.extend? c = some longer) :
    (∃ word, run = .command word ∧ longer = .command (c :: word) ∧ isCommandChar c = true) ∨
      ∃ word, run = .argument word ∧ longer = .argument (c :: word) ∧ isArgumentChar c = true := by
  cases run with
  | command word =>
      by_cases inWord : isCommandChar c = true
      · rw [Run.extend?, if_pos inWord] at extended
        exact .inl ⟨word, rfl, (Option.some.inj extended).symm, inWord⟩
      · rw [Run.extend?, if_neg inWord] at extended
        cases extended
  | argument word =>
      by_cases inWord : isArgumentChar c = true
      · rw [Run.extend?, if_pos inWord] at extended
        exact .inr ⟨word, rfl, (Option.some.inj extended).symm, inWord⟩
      · rw [Run.extend?, if_neg inWord] at extended
        cases extended

theorem raw_tokens_plain (characters : List Char) (plain : '"' ∉ characters) :
    rawTokens characters = plainTokens none characters := by
  rw [rawTokens, pieces, pieces_from_plain [] characters plain]
  simp [Piece.tokens]

theorem raw_tokens_command (word : String) (rest : List Char) (isWord : IsWord word) (plain : '"' ∉ rest)
    (ended : ∀ c, rest.head? = some c → isCommandChar c = false) :
    rawTokens (word.toList ++ rest) = ⟨.command, word⟩ :: rawTokens rest := by
  have closed : '"' ∉ word.toList ++ rest := by simp [word_without_quote word isWord, plain]
  rw [raw_tokens_plain _ closed, raw_tokens_plain rest plain]
  obtain ⟨present, inWord⟩ := isWord
  cases characters : word.toList with
  | nil => exact absurd characters present
  | cons first inner =>
      rw [characters] at inWord
      have begins := inWord first (by simp)
      have tokens := plain_tokens_command [first] inner rest (fun c member => inWord c (by simp [member])) ended
      rw [List.reverse_singleton, List.singleton_append, ← characters, String.ofList_toList] at tokens
      rw [List.cons_append, plain_tokens_begin, alphabet_no_punctuation isCommandChar rfl rfl first begins,
        Run.start?, if_pos begins, tokens, List.nil_append]

theorem raw_tokens_word (word : String) (isWord : IsWord word) :
    rawTokens word.toList = [⟨.command, word⟩] := by
  have tokens := raw_tokens_command word [] isWord (by simp) (by simp)
  rwa [List.append_nil] at tokens

-- The unfinished piece `body` ends at a separator, wherever the plain piece ends that it is part of.
theorem piece_tokens_separator (body after rest : List Char) (c : Char) (separator : separates c = true) :
    (piecesFrom false (after ++ c :: body) rest).flatMap Piece.tokens =
      plainTokens none body.reverse ++ punctuation c ++
        (piecesFrom false after rest).flatMap Piece.tokens := by
  have ended (tail : List Char) : plainTokens none (tail ++ c :: body).reverse =
      plainTokens none body.reverse ++ punctuation c ++ plainTokens none tail.reverse := by
    simpa using plain_tokens_separator none body.reverse tail.reverse c separator
  induction rest generalizing after with
  | nil => simp only [piecesFrom, List.flatMap_singleton, Piece.tokens, ended]
  | cons d tail ih =>
      by_cases quote : d = '"'
      · simp only [piecesFrom, if_pos quote, Bool.false_eq_true, if_false, List.flatMap_cons, Piece.tokens,
          ended, List.append_assoc]
      · simp only [piecesFrom, if_neg quote]
        exact ih (d :: after)

theorem raw_tokens_separator (before after : List Char) (c : Char) (balanced : Balanced before)
    (separator : separates c = true) :
    rawTokens (before ++ c :: after) = rawTokens before ++ punctuation c ++ rawTokens after := by
  obtain ⟨pieces, last, split⟩ := pieces_from_prefix before [] false balanced
  have ending := split []
  simp only [List.append_nil, piecesFrom] at ending
  have ended := piece_tokens_separator last [] after c separator
  simp only [rawTokens, Query.pieces, split, ending, List.flatMap_append, List.flatMap_singleton,
    piecesFrom, if_neg (separates_not_quote c separator), Piece.tokens, List.append_assoc]
  rw [← List.nil_append (c :: last), ended, List.append_assoc]

theorem raw_tokens_quoted (before text after : List Char) (balanced : Balanced before)
    (closed : '"' ∉ text) :
    rawTokens (before ++ '"' :: (text ++ '"' :: after)) =
      rawTokens before ++ ⟨.quotedString, String.ofList text⟩ :: rawTokens after := by
  obtain ⟨pieces, last, split⟩ := pieces_from_prefix before [] false balanced
  have ending := split []
  simp only [List.append_nil, piecesFrom] at ending
  simp only [rawTokens, Query.pieces, split, ending, List.flatMap_append,
    piecesFrom, if_true, Bool.false_eq_true, if_false, Bool.not_false,
    pieces_from_quoted text [] after closed, List.flatMap_cons, List.flatMap_nil, Piece.tokens,
    List.reverse_nil, List.nil_append, List.append_assoc, List.singleton_append]

def Boundary (rest : List Char) : Prop := ∀ c, rest.head? = some c → separates c = true

theorem raw_tokens_begin (c : Char) (rest : List Char) (separator : separates c = true) :
    rawTokens (c :: rest) = punctuation c ++ rawTokens rest := by
  have split := raw_tokens_separator [] rest c balanced_nil separator
  rwa [List.nil_append] at split

theorem raw_tokens_before (before rest : List Char) (balanced : Balanced before) (boundary : Boundary rest) :
    rawTokens (before ++ rest) = rawTokens before ++ rawTokens rest := by
  cases rest with
  | nil =>
      rw [List.append_nil]
      exact (List.append_nil _).symm
  | cons c tail =>
      have separator := boundary c rfl
      rw [raw_tokens_separator before tail c balanced separator, raw_tokens_begin c tail separator,
        List.append_assoc]

theorem raw_tokens_word_before (word : String) (rest : List Char) (isWord : IsWord word)
    (boundary : Boundary rest) :
    rawTokens (word.toList ++ rest) = ⟨.command, word⟩ :: rawTokens rest := by
  have balanced := balanced_of_no_quote _ (word_without_quote word isWord)
  rw [raw_tokens_before word.toList rest balanced boundary, raw_tokens_word word isWord, List.singleton_append]

end Scpi.Query
