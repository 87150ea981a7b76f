import Scpi.Proofs.Definitions
import Scpi.Proofs.HeaderText
import Scpi.Proofs.Joined

set_option autoImplicit false

namespace Scpi

def Header.route (header : Header) : String := String.join (header.keywords.map (· ++ ":"))

namespace Query

theorem route_characters (header : Header) (rest : List Char) :
    ':' :: (header.route.toList ++ rest) = header.keywords.flatMap keywordText ++ ':' :: rest := by
  rcases header with ⟨keywords⟩
  induction keywords with
  | nil => rfl
  | cons keyword others ih =>
      simp only [Header.route, String.toList_join] at ih
      simp only [Header.route, String.toList_join, List.map_cons, List.flatMap_cons, String.toList_append,
        List.append_assoc, keywordText, List.cons_append, ← ih]
      rfl

theorem settle_route (previous : Option Token.Kind) (words : List String) (raw : List Token)
    (begins : previous ≠ some .colon) :
    settle previous (words.flatMap keywordTokens ++ .colon :: raw) =
      words.flatMap keywordTokens ++ .colon :: settle (some .colon) raw := by
  cases words with
  | nil => exact settle_mark_first previous .colon raw (by decide) begins
  | cons word others =>
      rw [List.flatMap_cons, keywordTokens, List.append_assoc, List.append_assoc, List.cons_append,
        settle_mark_first previous .colon _ (by decide) begins, List.singleton_append,
        settle_word_first (some Token.colon.kind) ⟨.command, word⟩ _ rfl (by decide), settle_keywords,
        settle_mark_first (some .command) .colon raw (by decide) (by decide)]
      rfl

theorem settle_before_word (mark : Token.Kind) (query : String) (token : Token) (rest : List Token)
    (noWord : mark.isWord = false) (different : token.kind ≠ mark) (begins : tokens query = token :: rest) :
    settle (some mark) (rawTokens query.toList) = tokens query := by
  obtain same | ⟨other, kind, same⟩ := settle_after_mark mark (rawTokens query.toList) noWord
  · exact same
  · have first : token = other := (List.cons.inj (begins.symm.trans same)).1
    exact absurd (first ▸ kind) different

theorem settle_routed (header : Header) (query : String) (token : Token) (rest : List Token)
    (areWords : ∀ keyword ∈ header.keywords, IsWord keyword) (begins : tokens query = token :: rest)
    (word : token.kind ≠ .colon) :
    settle (some .semicolon) (rawTokens (":" ++ header.route ++ query).toList) =
      header.keywords.flatMap keywordTokens ++ .colon :: tokens query := by
  have characters : (":" ++ header.route ++ query).toList =
      header.keywords.flatMap keywordText ++ ':' :: query.toList := by
    rw [← route_characters]
    simp
  have raw : rawTokens (':' :: query.toList) = .colon :: rawTokens query.toList :=
    raw_tokens_begin ':' query.toList (by decide)
  rw [characters, raw_tokens_keywords _ _ areWords (boundary_of_separator ':' _ (by decide)), raw,
    settle_route _ _ _ (by decide), settle_before_word .colon query token rest rfl word begins]

theorem regular_words (previous : Option Token.Kind) (sequence : List Token)
    (regular : Regular previous sequence) :
    ∀ token ∈ sequence, token.kind = .command → IsWord token.text := by
  induction sequence generalizing previous with
  | nil => simp
  | cons token rest ih =>
      intro other member kind
      rcases List.mem_cons.mp member with rfl | later
      · obtain ⟨_, _, rfl, _⟩ | ⟨_, _, lexeme⟩ | ⟨_, rfl | rfl⟩ := fits_cases previous other regular.1
        · cases kind
        · rw [IsLexeme, kind] at lexeme
          exact lexeme
        · cases kind
        · cases kind
      · exact ih (some token.kind) regular.2 other later kind

end Query

namespace CommandSet

variable {η : Type}

theorem long_form_from (definitions : List (String × η)) (good : String → Prop) (word : String)
    (keywords : ∀ keyword ∈ keywordsOf definitions, good keyword) (own : good word) :
    good ((ofDefinitions definitions).longForm word) := by
  rw [long_form_of_definitions]
  cases latest : latestKeyword (keywordsOf definitions) word with
  | none => exact own
  | some keyword => exact keywords keyword (latest_keyword_some _ _ _ latest).1

end CommandSet

namespace Chain

variable {η : Type}

theorem commands_of_member (tokens : List Token) :
    ∀ command ∈ commandsOf tokens, ∀ token ∈ command, token ∈ tokens :=
  fun command member token inside =>
    (split_inside endsCommand tokens command (List.dropLast_subset _ member) token inside).1

-- A planned header is made of the long forms of words and of what the header before it was made of.
theorem plan_from_keywords (commands : CommandSet η) (good : String → Prop) (chain : List (List Token))
    (previous : Header) (before : ∀ keyword ∈ previous.keywords, good keyword)
    (written : ∀ command ∈ chain, ∀ word ∈ words command, good (commands.longForm word)) :
    ∀ planned ∈ planFrom commands previous chain, ∀ keyword ∈ planned.header.keywords, good keyword := by
  induction chain generalizing previous with
  | nil => simp [planFrom]
  | cons command rest ih =>
      have header : ∀ keyword ∈ (headerAfter commands previous command).keywords, good keyword := by
        intro keyword member
        rcases List.mem_append.mp member with based | fresh
        · rw [base] at based
          split at based
          · cases based
          · exact before keyword (List.dropLast_subset _ based)
        · obtain ⟨word, inside, rfl⟩ := List.mem_map.mp fresh
          exact written command List.mem_cons_self word inside
      intro planned member
      rcases List.mem_cons.mp member with rfl | later
      · exact header
      · exact ih _ header (fun other member => written other (List.mem_cons_of_mem command member)) planned later

theorem plan_query_from_words (commands : CommandSet η) (good : String → Prop) (query : String)
    (written : ∀ word, Query.IsWord word → good (commands.longForm word)) :
    ∀ planned ∈ plan commands (Query.tokens query), ∀ keyword ∈ planned.header.keywords, good keyword := by
  apply plan_from_keywords commands good
  · simp [Header.root]
  · intro command member word inside
    obtain ⟨token, filtered, rfl⟩ := List.mem_map.mp inside
    obtain ⟨present, kind⟩ := List.mem_filter.mp filtered
    apply written
    exact Query.regular_words none _ (Query.tokens_regular query) token
      (commands_of_member _ command member token present) (by simpa [isWord] using kind)

theorem unknown_keywords (commands : CommandSet η) (good : String → Prop) (query : String) (header : Header)
    (written : ∀ word, Query.IsWord word → good (commands.longForm word))
    (unknown : resolve commands (Query.tokens query) = .error header) :
    ∀ keyword ∈ header.keywords, good keyword := by
  rw [resolve_plan, calls_error_iff] at unknown
  obtain ⟨planned, member, rfl⟩ := List.mem_map.mp (List.mem_of_find?_eq_some unknown)
  exact plan_query_from_words commands good query written planned member

theorem plan_query_keywords (definitions : List (String × η)) (query : String)
    (areWords : ∀ keyword ∈ CommandSet.keywordsOf definitions, Query.IsWord keyword) :
    let commands := CommandSet.ofDefinitions definitions
    ∀ planned ∈ plan commands (Query.tokens query), ∀ keyword ∈ planned.header.keywords,
      Query.IsWord keyword ∧ commands.longForm keyword = keyword := by
  intro commands
  apply plan_query_from_words commands (fun keyword => Query.IsWord keyword ∧ commands.longForm keyword = keyword)
  intro word isWord
  exact ⟨CommandSet.long_form_from definitions Query.IsWord word areWords isWord,
    CommandSet.long_form_long_form definitions word⟩

theorem plan_last (commands : CommandSet η) (query : String) :
    ∃ last, (plan commands (Query.tokens query)).getLast? = some last := by
  have present : plan commands (Query.tokens query) ≠ [] := by
    obtain ⟨before, same⟩ := Query.tokens_last query
    obtain ⟨first, others, pieces⟩ := List.exists_cons_of_ne_nil (List.splitOnP_ne_nil endsCommand before)
    rw [plan, same, commands_of_ended_append, pieces]
    exact List.cons_ne_nil _ _
  exact ⟨_, List.getLast?_eq_some_getLast present⟩

theorem plan_from_route (commands : CommandSet η) (previous : Header) (word : String) (rest : List Token)
    (standing : ∀ keyword ∈ previous.parent.keywords, commands.longForm keyword = keyword) :
    planFrom commands previous (commandsOf
        (previous.parent.keywords.flatMap Query.keywordTokens ++ .colon :: ⟨.command, word⟩ :: rest)) =
      planFrom commands previous (commandsOf (⟨.command, word⟩ :: rest)) := by
  let lead := previous.parent.keywords.flatMap Query.keywordTokens ++ [.colon]
  have inside : ∀ token ∈ lead, endsCommand token = false := by
    intro token member
    rcases List.mem_append.mp member with keyword | colon
    · exact Query.keywords_inside _ token keyword
    · rw [List.mem_singleton.mp colon]
      rfl
  have first := commands_of_lead [⟨.command, word⟩] rest (by simp [endsCommand])
  rw [List.append_cons, commands_of_lead lead _ inside]
  apply plan_from_lead
  · rw [arguments_append, Query.arguments_keywords]
    rfl
  · intro command head
    rw [← List.singleton_append, first, List.head?_modifyHead] at head
    obtain ⟨others, _, rfl⟩ := Option.map_eq_some_iff.mp head
    have absolute : isAbsolute (lead ++ ([⟨.command, word⟩] ++ others)) = true := by
      cases keywords : previous.parent.keywords <;>
        simp [lead, keywords, Query.keywordTokens, absolute_cons, isWord, Token.colon]
    have relative : isAbsolute ([⟨.command, word⟩] ++ others) = false := rfl
    have read : words lead = previous.parent.keywords := by
      rw [words_append, Query.words_keywords]
      exact List.append_nil _
    have stand : previous.parent.keywords.map commands.longForm = previous.parent.keywords :=
      (List.map_congr_left standing).trans (List.map_id _)
    rw [headerAfter, headerAfter, base, base, if_pos absolute, relative, words_append, read, List.map_append,
      stand]
    rfl

theorem resolve_shorthand (definitions : List (String × η)) (first second word : String) (rest : List Token)
    (areWords : ∀ keyword ∈ CommandSet.keywordsOf definitions, Query.IsWord keyword)
    (balanced : Query.Balanced first.toList) (begins : Query.tokens second = ⟨.command, word⟩ :: rest) :
    let commands := CommandSet.ofDefinitions definitions
    ∃ last, (plan commands (Query.tokens first)).getLast? = some last ∧
      resolve commands (Query.tokens (first ++ ";" ++ second)) =
        resolve commands (Query.tokens (first ++ ";:" ++ last.header.parent.route ++ second)) := by
  intro commands
  obtain ⟨last, ended⟩ := plan_last commands first
  refine ⟨last, ended, ?_⟩
  have keywords := plan_query_keywords definitions first areWords last (List.mem_of_getLast? ended)
  have parent : ∀ keyword ∈ last.header.parent.keywords,
      Query.IsWord keyword ∧ commands.longForm keyword = keyword :=
    fun keyword member => keywords keyword (List.dropLast_subset _ member)
  have follows : lastHeader .root (plan commands (Query.tokens first)) = last.header := by
    rw [lastHeader, ended]
    rfl
  have written : first ++ ";:" ++ last.header.parent.route ++ second =
      first ++ ";" ++ (":" ++ last.header.parent.route ++ second) := by
    simp [← String.toList_inj]
  have routed := Query.settle_routed last.header.parent second _ rest
    (fun keyword member => (parent keyword member).1) begins (by simp)
  have alone := Query.settle_before_word .semicolon second _ rest rfl (by simp) begins
  rw [written, resolve_joined commands first second balanced, resolve_joined commands first _ balanced, follows,
    alone, routed, begins,
    plan_from_route commands last.header word rest fun keyword member => (parent keyword member).2]

-- `MEAS` is short for the keyword that is defined last, so the route to the parent needs the full one.
def ratioDefinitions : List (String × Nat) :=
  [("MEASure:VOLTage:DC?", 0), ("MEASure:VOLTage:RATio", 1), ("MEASurement:VOLTage:RATio", 2)]

theorem ratio_follows_volt_query :
    let commands := CommandSet.ofDefinitions ratioDefinitions
    let first := "MEASure:VOLT:DC? \"a;:b\" ;"
    (∀ keyword ∈ CommandSet.keywordsOf ratioDefinitions, Query.IsWord keyword) ∧
      Query.Balanced first.toList ∧
      Query.tokens "RAT" = ⟨.command, "RAT"⟩ :: [.semicolon] ∧
      (resolve commands (Query.tokens (first ++ ";" ++ "RAT"))).toOption =
        some [⟨0, ["a;:b"]⟩, ⟨1, []⟩] ∧
      ∃ last, (plan commands (Query.tokens first)).getLast? = some last ∧
        resolve commands (Query.tokens (first ++ ";" ++ "RAT")) =
          resolve commands (Query.tokens (first ++ ";:" ++ last.header.parent.route ++ "RAT")) := by
  intro commands first
  have areWords : ∀ keyword ∈ CommandSet.keywordsOf ratioDefinitions, Query.IsWord keyword := by
    decide +kernel
  have balanced : Query.Balanced first.toList := by decide +kernel
  have begins : Query.tokens "RAT" = ⟨.command, "RAT"⟩ :: [.semicolon] := by decide +kernel
  have found : (resolve commands (Query.tokens (first ++ ";" ++ "RAT"))).toOption =
      some [⟨0, ["a;:b"]⟩, ⟨1, []⟩] := by decide +kernel
  exact ⟨areWords, balanced, begins, found,
    resolve_shorthand ratioDefinitions first "RAT" "RAT" [.semicolon] areWords balanced begins⟩

end Chain

end Scpi
