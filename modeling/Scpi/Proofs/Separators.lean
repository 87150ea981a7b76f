import Scpi.Console
import Scpi.Proofs.Scan
import Scpi.Proofs.Transparency

set_option autoImplicit false

namespace Scpi

namespace Query

def isMark (c : Char) : Bool := c == ':' || c == ';'

def isGap (c : Char) : Bool := !isWordChar c && !isMark c && c != '"'

-- Whether the place between two texts is at an end of the query or next to punctuation.
def besideMark (before after : String) : Bool :=
  before.toList.getLast?.all isMark || after.toList.head?.all isMark

theorem mark_separates (c : Char) (mark : isMark c = true) : separates c = true := by
  simp only [isMark, Bool.or_eq_true, beq_iff_eq] at mark
  rcases mark with rfl | rfl <;> rfl

theorem gap_separates (c : Char) (gap : isGap c = true) : separates c = true := by
  simp only [isGap, word_char_iff, Bool.not_or, Bool.and_eq_true, bne_iff_ne] at gap
  simp [separates, gap]

theorem gap_no_punctuation (c : Char) (gap : isGap c = true) : punctuation c = [] :=
  alphabet_no_punctuation isGap rfl rfl c gap

theorem raw_tokens_gap (before after : List Char) (c : Char) (balanced : Balanced before)
    (gap : isGap c = true) : rawTokens (before ++ c :: after) = rawTokens before ++ rawTokens after := by
  rw [raw_tokens_separator before after c balanced (gap_separates c gap), gap_no_punctuation c gap,
    List.append_nil]

theorem balanced_of_concat (characters : List Char) (c : Char) (other : c ≠ '"')
    (balanced : Balanced (characters ++ [c])) : Balanced characters := by
  simpa [Balanced, List.count_append, other] using balanced

theorem raw_tokens_seam (before after : List Char) (balanced : Balanced before)
    (beside : (before.getLast?.all isMark || after.head?.all isMark) = true) :
    rawTokens (before ++ after) = rawTokens before ++ rawTokens after := by
  rcases Bool.or_eq_true_iff.mp beside with ending | beginning
  · rcases List.eq_nil_or_concat before with rfl | ⟨start, mark, rfl⟩
    · rfl
    · rw [List.concat_eq_append] at balanced ending ⊢
      have separator := mark_separates mark (by simpa using ending)
      have started := balanced_of_concat start mark (separates_not_quote mark separator) balanced
      have ended : rawTokens (start ++ [mark]) = rawTokens start ++ punctuation mark := by
        rw [raw_tokens_separator start [] mark started separator]
        exact List.append_nil _
      rw [List.append_assoc, List.singleton_append, raw_tokens_separator start after mark started separator, ended]
  · apply raw_tokens_before before after balanced
    intro c first
    rw [first] at beginning
    exact mark_separates c beginning

-- At the end of a query quotations need not be closed: the last piece is plain in any case.
theorem pieces_from_end (characters body : List Char) (inside : Bool) (c : Char) (other : c ≠ '"') :
    ∃ before last, piecesFrom inside body characters = before ++ [.plain last] ∧
      piecesFrom inside body (characters ++ [c]) = before ++ [.plain (last ++ [c])] := by
  induction characters generalizing inside body with
  | nil => exact ⟨[], body.reverse, rfl, by simp [piecesFrom, other]⟩
  | cons d rest ih =>
      by_cases quote : d = '"'
      · obtain ⟨before, last, ending, longer⟩ := ih [] (!inside)
        refine ⟨(if inside then .quoted body.reverse else .plain body.reverse) :: before, last, ?_, ?_⟩
        · rw [piecesFrom, if_pos quote, ending, List.cons_append]
        · rw [List.cons_append, piecesFrom, if_pos quote, longer, List.cons_append]
      · obtain ⟨before, last, ending, longer⟩ := ih (d :: body) inside
        refine ⟨before, last, ?_, ?_⟩
        · rw [piecesFrom, if_neg quote, ending]
        · rw [List.cons_append, piecesFrom, if_neg quote, longer]

theorem raw_tokens_gap_end (characters : List Char) (c : Char) (gap : isGap c = true) :
    rawTokens (characters ++ [c]) = rawTokens characters := by
  have separator := gap_separates c gap
  obtain ⟨before, last, ending, longer⟩ :=
    pieces_from_end characters [] false c (separates_not_quote c separator)
  have ended : plainTokens none (last ++ [c]) = plainTokens none last := by
    rw [plain_tokens_separator none last [] c separator, gap_no_punctuation c gap, List.append_nil]
    exact List.append_nil _
  simp only [rawTokens, pieces, ending, longer, List.flatMap_append, List.flatMap_singleton, Piece.tokens, ended]

section

variable (outer : Char → Bool) (gaps : ∀ c, outer c = true → isGap c = true)

include gaps

theorem raw_tokens_drop_gaps (characters : List Char) :
    rawTokens (characters.dropWhile outer) = rawTokens characters := by
  induction characters with
  | nil => rfl
  | cons c rest ih =>
      by_cases gap : outer c = true
      · rw [List.dropWhile_cons_of_pos gap, ih]
        exact (raw_tokens_gap [] rest c balanced_nil (gaps c gap)).symm
      · rw [List.dropWhile_cons_of_neg gap]

theorem raw_tokens_drop_end_gaps (reversed : List Char) :
    rawTokens (reversed.dropWhile outer).reverse = rawTokens reversed.reverse := by
  induction reversed with
  | nil => rfl
  | cons c rest ih =>
      by_cases gap : outer c = true
      · rw [List.dropWhile_cons_of_pos gap, ih, List.reverse_cons, raw_tokens_gap_end rest.reverse c (gaps c gap)]
      · rw [List.dropWhile_cons_of_neg gap]

theorem raw_tokens_stripped (characters : List Char) :
    rawTokens (Text.stripped outer characters) = rawTokens characters := by
  rw [Text.stripped, raw_tokens_drop_end_gaps outer gaps, List.reverse_reverse,
    raw_tokens_drop_gaps outer gaps]

end

theorem blank_bounds (c : Char) (blank : Text.isBlank c = true) : c.toNat ≤ 32 ∨ 133 ≤ c.toNat := by
  simp only [Text.isBlank, Bool.or_eq_true, Bool.and_eq_true, decide_eq_true_eq, beq_iff_eq] at blank
  omega

theorem word_char_bounds (c : Char) (inWord : isWordChar c = true) : 42 ≤ c.toNat ∧ c.toNat ≤ 122 := by
  simp only [isWordChar, isLetter, Bool.or_eq_true, Bool.and_eq_true, decide_eq_true_eq, beq_iff_eq] at inWord
  rcases inWord with ((((letter | digit) | rfl) | rfl) | rfl) | rfl
  · have bounds : (65 ≤ c.toNat ∧ c.toNat ≤ 90) ∨ (97 ≤ c.toNat ∧ c.toNat ≤ 122) := letter
    omega
  · have bounds : 48 ≤ c.toNat ∧ c.toNat ≤ 57 := digit
    omega
  all_goals decide

theorem blank_is_gap (c : Char) (blank : Text.isBlank c = true) : isGap c = true := by
  have outside := blank_bounds c blank
  have noWord : isWordChar c = false := by
    apply Bool.eq_false_iff.mpr
    intro inWord
    have inside := word_char_bounds c inWord
    omega
  have other (d : Char) (inside : 32 < d.toNat ∧ d.toNat < 133) : c ≠ d := by
    rintro rfl
    omega
  simp [isGap, isMark, noWord, other ':' (by decide), other ';' (by decide), other '"' (by decide)]

theorem tokens_trim (query : String) : tokens (Text.trim query) = tokens query := by
  rw [tokens, Text.trim, String.toList_ofList, raw_tokens_stripped Text.isBlank blank_is_gap, tokens]

theorem tokens_gap (before after : String) (c : Char) (balanced : Balanced before.toList)
    (gap : isGap c = true) :
    tokens (before ++ String.singleton c ++ after) =
      settle none (rawTokens before.toList ++ rawTokens after.toList) := by
  have characters : (before ++ String.singleton c ++ after).toList = before.toList ++ c :: after.toList := by
    simp
  rw [tokens, characters, raw_tokens_gap before.toList after.toList c balanced gap]

theorem tokens_seam (before after : String) (balanced : Balanced before.toList)
    (beside : besideMark before after = true) :
    tokens (before ++ after) = settle none (rawTokens before.toList ++ rawTokens after.toList) := by
  rw [tokens, String.toList_append, raw_tokens_seam before.toList after.toList balanced beside]

end Query

namespace Uncached

variable {η σ : Type} {n : Nat}

theorem accept_same_tokens (behaviour : Behaviour η n σ) (depth : Nat) (i : Fin n) (first second : String)
    (same : Query.tokens first = Query.tokens second) :
    accept behaviour depth i first = accept behaviour depth i second := by
  cases depth with
  | zero => rfl
  | succ depth => simp only [accept, same]

end Uncached

namespace Console

variable {η σ : Type} {n m : Nat}

def response : Except Failure Answer → Except Failure (Option String)
  | .error (.unknownHeader header) => .ok (some (errorLine header))
  | .error failure => .error failure
  | .ok answer => .ok (answerLine? answer)

def responded (result : Except Failure Answer × Uncached η n σ) :
    Except Failure (Option String) × Uncached η n σ :=
  (response result.1, result.2)

theorem respond_stripped (behaviour : Behaviour η n σ) (depth : Nat) (i : Fin n) (line : String)
    (bench : Bench η n m σ) (spoken : Text.trim line ≠ "") :
    (respond behaviour depth i line bench).map Bench.erased =
      ((Bench.acceptWithin behaviour depth i (Text.trim line) bench).map Bench.erased).map responded := by
  simp only [respond, if_neg spoken]
  rcases Bench.acceptWithin behaviour depth i (Text.trim line) bench with _ | ⟨failure | answer, later⟩
  · rfl
  · cases failure <;> rfl
  · rfl

theorem respond_unstripped (behaviour : Behaviour η n σ) (depth : Nat) (i : Fin n) (line : String)
    (bench : Bench η n m σ) (faithful : Bench.Faithful bench) (spoken : Text.trim line ≠ "") :
    (respond behaviour depth i line bench).map Bench.erased =
      ((Bench.acceptWithin behaviour depth i line bench).map Bench.erased).map responded := by
  have same := Uncached.accept_same_tokens behaviour depth i (Text.trim line) line (Query.tokens_trim line)
  rw [respond_stripped behaviour depth i line bench spoken,
    Bench.accept_uncached behaviour depth i (Text.trim line) bench faithful, same,
    Bench.accept_uncached behaviour depth i line bench faithful]

end Console

namespace Query

variable {η σ : Type} {n m : Nat}

-- The last part is about the console: it answers a line as if it had passed it on with its blanks, whether or
-- not either text of it is cached.
theorem separators_interchangeable :
    (∀ (before after : String) (c : Char), Balanced before.toList → isGap c = true →
      tokens (before ++ String.singleton c ++ after) = tokens (before ++ " " ++ after) ∧
      (besideMark before after = true →
        tokens (before ++ String.singleton c ++ after) = tokens (before ++ after))) ∧
    (∀ query, tokens (Text.trim query) = tokens query) ∧
    ∀ (behaviour : Behaviour η n σ) (policies : Vector Policy m) (policyOf : Vector (Fin m) n) (memory : σ)
      (bench : Bench η n m σ), Bench.Leads (Bench.fresh policies policyOf memory) bench →
      ∀ (depth : Nat) (i : Fin n) (line : String), Text.trim line ≠ "" →
        (Console.respond behaviour depth i line bench).map Bench.erased =
          ((Bench.acceptWithin behaviour depth i line bench).map Bench.erased).map Console.responded := by
  refine ⟨?_, tokens_trim, ?_⟩
  · intro before after c balanced gap
    have read := tokens_gap before after c balanced gap
    constructor
    · have space : isGap ' ' = true := rfl
      exact read.trans (tokens_gap before after ' ' balanced space).symm
    · intro beside
      exact read.trans (tokens_seam before after balanced beside).symm
  · intro behaviour policies policyOf memory bench reached depth i line spoken
    have faithful := Bench.leads_faithful _ bench reached (Bench.fresh_faithful policies policyOf memory)
    exact Console.respond_unstripped behaviour depth i line bench faithful spoken

-- The query without its blanks is cached, and the line with them is not.
def unpaddedUse (i : Fin 1) : List (Bench.Change Nat 1 Unit) :=
  [.act (.define i "VOLTage:DC?" 1), .resolve i "VOLT:DC?"]

theorem padded_line_answered :
    let before := "CONC \"a b\" ;"
    let after := "\"c"
    let start : Bench Nat 1 1 Unit := Bench.fresh #v[Policy.standard] #v[0] ()
    let bench := (unpaddedUse 0).foldl Bench.after start
    let line := "\x1f VOLT:DC?\u00a0\n"
    let behaviour : Behaviour Nat 1 Unit := fun _ _ => .reply (some "2.23")
    Balanced before.toList ∧ isGap '#' = true ∧ besideMark before after = true ∧
      tokens (before ++ String.singleton '#' ++ after) = tokens (before ++ " " ++ after) ∧
      tokens (before ++ String.singleton '#' ++ after) = tokens (before ++ after) ∧
      Bench.Leads start bench ∧ (bench.pool.cache 0).uses.rows = [("VOLT:DC?", 1)] ∧ Text.trim line ≠ "" ∧
      (Console.respond behaviour 1 0 line bench).map Bench.erased =
        ((Bench.acceptWithin behaviour 1 0 line bench).map Bench.erased).map Console.responded := by
  intro before after start bench line behaviour
  have balanced : Balanced before.toList := by decide
  have gap : isGap '#' = true := rfl
  have beside : besideMark before after = true := by decide
  have reached : Bench.Leads start bench := Bench.leads_all start (unpaddedUse 0)
  have present : Text.trim line ≠ "" := by decide +kernel
  obtain ⟨gaps, _, lines⟩ := separators_interchangeable (η := Nat) (σ := Unit) (n := 1) (m := 1)
  obtain ⟨spaced, joined⟩ := gaps before after '#' balanced gap
  exact ⟨balanced, gap, beside, spaced, joined beside, reached, by decide +kernel, present,
    lines behaviour _ _ () bench reached 1 0 line present⟩

end Query

end Scpi
