import Scpi.Proofs.Keywords

set_option autoImplicit false

namespace Scpi

namespace Query

theorem settle_joined (previous : Option Token.Kind) (first rest : List Token) :
    settle previous (first ++ .semicolon :: rest) =
      settle previous first ++ settle (some .semicolon) rest := by
  induction first generalizing previous with
  | nil =>
      by_cases ended : previous = some .semicolon
      · subst ended
        rfl
      · rw [List.nil_append, settle_mark_first previous .semicolon rest (by decide) ended, settle, if_neg ended]
        rfl
  | cons token others ih =>
      obtain ⟨kind, step⟩ | ⟨_, step⟩ := settle_step previous token
      · rw [List.cons_append, step, step, ih, List.cons_append]
      · rw [List.cons_append, step, step, ih]

-- All that punctuation in front of a query does is to take up punctuation of its own kind.
theorem settle_after_mark (mark : Token.Kind) (raw : List Token) (noWord : mark.isWord = false) :
    settle (some mark) raw = settle none raw ∨
      ∃ token, token.kind = mark ∧ settle none raw = token :: settle (some mark) raw := by
  cases raw with
  | nil =>
      by_cases ended : mark = .semicolon
      · subst ended
        exact .inr ⟨.semicolon, rfl, rfl⟩
      · left
        rw [settle, if_neg (by simpa using ended)]
        rfl
  | cons token rest =>
      by_cases word : token.kind.isWord = true
      · left
        rw [settle_word_first (some mark) token rest word (by simp [afterWord, noWord]),
          settle_word_first none token rest word (by simp [afterWord])]
      · by_cases same : mark = token.kind
        · subst same
          refine .inr ⟨token, rfl, ?_⟩
          rw [settle_mark_first none token rest word (by simp),
            settle_mark_again (some token.kind) token rest word rfl]
        · left
          rw [settle_mark_first (some mark) token rest word (by simpa using same),
            settle_mark_first none token rest word (by simp)]

theorem tokens_joined (first second : String) (balanced : Balanced first.toList) :
    tokens (first ++ ";" ++ second) =
      tokens first ++ settle (some .semicolon) (rawTokens second.toList) := by
  have split := raw_tokens_separator first.toList second.toList ';' balanced (by decide)
  have characters : (first ++ ";" ++ second).toList = first.toList ++ ';' :: second.toList := by simp
  have semicolon : punctuation ';' = [.semicolon] := rfl
  rw [tokens, characters, split, semicolon, List.append_assoc, List.singleton_append, settle_joined, tokens]

def afterSemicolon : List Token → List Token
  | [] => []
  | token :: rest => if token.kind = .semicolon then rest else token :: rest

theorem after_semicolon_regular (sequence : List Token) (regular : Regular (some .semicolon) sequence) :
    afterSemicolon sequence = sequence := by
  cases sequence with
  | nil => rfl
  | cons token rest =>
      have other : token.kind ≠ .semicolon := by
        intro semicolon
        obtain ⟨_, _, rfl, _⟩ | ⟨_, word, _⟩ | ⟨different, _⟩ := fits_cases _ token regular.1
        · cases semicolon
        · rw [semicolon] at word
          cases word
        · exact different (congrArg some semicolon.symm)
      rw [afterSemicolon, if_neg other]

-- Reading a query is splitting it at semicolons: the one between two queries ends the first, and takes up
-- those with which the second one begins.
theorem tokens_distribute (first second : String) (balanced : Balanced first.toList) :
    tokens (first ++ ";" ++ second) = tokens first ++ afterSemicolon (tokens second) := by
  let raw := rawTokens second.toList
  have continued : settle (some .semicolon) raw = afterSemicolon (settle none raw) := by
    obtain same | ⟨token, semicolon, same⟩ := settle_after_mark .semicolon raw rfl
    · have regular := settle_regular (some .semicolon) raw (raw_tokens_lexemes second.toList)
      rw [← same, after_semicolon_regular _ regular]
    · rw [same, afterSemicolon, if_pos semicolon]
  rw [tokens_joined first second balanced, tokens, tokens, continued]

theorem open_quotation_joined :
    let first := "CONC \"a;b\" ;:"
    let second := " ;; \"*RST;X"
    Balanced first.toList ∧
      tokens (first ++ ";" ++ second) = tokens first ++ afterSemicolon (tokens second) ∧
      afterSemicolon (tokens second) = [⟨.command, "*RST"⟩, .semicolon, ⟨.command, "X"⟩, .semicolon] := by
  intro first second
  have balanced : Balanced first.toList := by decide
  exact ⟨balanced, tokens_distribute first second balanced, by decide⟩

theorem regular_last (previous : Option Token.Kind) (sequence : List Token)
    (regular : Regular previous sequence) (present : sequence ≠ []) :
    ∃ before, sequence = before ++ [.semicolon] := by
  induction sequence generalizing previous with
  | nil => exact absurd rfl present
  | cons token rest ih =>
      cases rest with
      | nil =>
          obtain ⟨fits, ended⟩ := regular
          have semicolon : token.kind = .semicolon := Option.some.inj ended
          rcases token with ⟨kind, text⟩
          subst semicolon
          exact ⟨[], congrArg (fun text => [Token.mk .semicolon text]) fits.2⟩
      | cons next others =>
          obtain ⟨before, same⟩ := ih (some token.kind) regular.2 (List.cons_ne_nil next others)
          exact ⟨token :: before, by rw [same, List.cons_append]⟩

theorem tokens_last (query : String) : ∃ before, tokens query = before ++ [.semicolon] := by
  have regular := tokens_regular query
  apply regular_last none (tokens query) regular
  intro empty
  rw [empty] at regular
  cases regular

end Query

namespace Chain

variable {η : Type}

-- The outcome of two chains, one after the other. The first failure is the one that counts.
def followedBy : Except Header (List (Call η)) → Except Header (List (Call η)) →
    Except Header (List (Call η))
  | .error header, _ => .error header
  | .ok _, .error header => .error header
  | .ok calls, .ok others => .ok (calls ++ others)

def lastHeader (previous : Header) (planned : List Command) : Header :=
  (planned.getLast?.map Command.header).getD previous

theorem last_header_cons (previous : Header) (command : Command) (rest : List Command) :
    lastHeader previous (command :: rest) = lastHeader command.header rest := by
  rw [lastHeader, List.getLast?_cons, lastHeader]
  cases rest.getLast? <;> rfl

theorem plan_from_append (commands : CommandSet η) (previous : Header) (first second : List (List Token)) :
    planFrom commands previous (first ++ second) = planFrom commands previous first ++
      planFrom commands (lastHeader previous (planFrom commands previous first)) second := by
  induction first generalizing previous with
  | nil => rfl
  | cons command rest ih => rw [List.cons_append, planFrom, planFrom, ih, last_header_cons, List.cons_append]

theorem calls_append (commands : CommandSet η) (first second : List Command) :
    (first ++ second).mapM (Command.call commands) =
      followedBy (first.mapM (Command.call commands)) (second.mapM (Command.call commands)) := by
  rw [List.mapM_append]
  cases first.mapM (Command.call commands) with
  | error header => rfl
  | ok calls => cases second.mapM (Command.call commands) <;> rfl

theorem commands_of_ended_append (before rest : List Token) :
    commandsOf (before ++ .semicolon :: rest) = before.splitOnP endsCommand ++ commandsOf rest := by
  rw [commandsOf, List.splitOnP_append_cons before rest rfl,
    List.dropLast_append_of_ne_nil (List.splitOnP_ne_nil _ _), commandsOf]

theorem commands_of_tokens_append (query : String) (rest : List Token) :
    commandsOf (Query.tokens query ++ rest) = commandsOf (Query.tokens query) ++ commandsOf rest := by
  obtain ⟨before, same⟩ := Query.tokens_last query
  have alone := commands_of_ended_append before []
  rw [show commandsOf [] = [] from rfl, List.append_nil] at alone
  rw [same, alone, List.append_assoc, List.singleton_append, commands_of_ended_append]

-- Tokens of no command of their own belong to the first command after them.
theorem commands_of_lead (lead tokens : List Token) (inside : ∀ token ∈ lead, endsCommand token = false) :
    commandsOf (lead ++ tokens) = (commandsOf tokens).modifyHead (lead ++ ·) := by
  have split : (lead ++ tokens).splitOnP endsCommand =
      (tokens.splitOnP endsCommand).modifyHead (lead ++ ·) := by
    induction lead with
    | nil =>
        rw [List.nil_append]
        cases tokens.splitOnP endsCommand <;> rfl
    | cons token rest ih =>
        have here := inside token (by simp)
        rw [List.cons_append, List.splitOnP_cons_eq_if_modifyHead, here,
          ih fun other member => inside other (by simp [member])]
        cases tokens.splitOnP endsCommand <;> rfl
  rw [commandsOf, split, commandsOf]
  rcases tokens.splitOnP endsCommand with _ | ⟨first, _ | _⟩ <;> rfl

theorem plan_from_lead (commands : CommandSet η) (previous other : Header) (lead : List Token)
    (chain : List (List Token)) (noArguments : arguments lead = [])
    (header : ∀ command, chain.head? = some command →
      headerAfter commands previous (lead ++ command) = headerAfter commands other command) :
    planFrom commands previous (chain.modifyHead (lead ++ ·)) = planFrom commands other chain := by
  cases chain with
  | nil => rfl
  | cons command rest =>
      rw [List.modifyHead_cons, planFrom, planFrom, header command rfl, arguments_append, noArguments,
        List.nil_append]

theorem plan_from_colon (commands : CommandSet η) (previous : Header) (colon : Token) (tokens : List Token)
    (kind : colon.kind = .colon) :
    planFrom commands previous (commandsOf (colon :: tokens)) = plan commands tokens := by
  have inside : ∀ token ∈ [colon], endsCommand token = false := by simp [endsCommand, kind]
  rw [← List.singleton_append, commands_of_lead [colon] tokens inside]
  apply plan_from_lead
  · simp [arguments, isArgument, kind]
  · intro command _
    have absolute : isAbsolute (colon :: command) = true := by simp [absolute_cons, isWord, kind]
    have words : words (colon :: command) = Chain.words command := by simp [Chain.words, isWord, kind]
    have root : base .root command = .root := by
      rw [base]
      split <;> rfl
    rw [List.singleton_append, headerAfter, headerAfter, base, if_pos absolute, words, root]

theorem resolve_joined (commands : CommandSet η) (first second : String)
    (balanced : Query.Balanced first.toList) :
    resolve commands (Query.tokens (first ++ ";" ++ second)) =
      followedBy (resolve commands (Query.tokens first))
        ((planFrom commands (lastHeader .root (plan commands (Query.tokens first)))
          (commandsOf (Query.settle (some .semicolon) (Query.rawTokens second.toList)))).mapM
            (Command.call commands)) := by
  rw [resolve_plan, resolve_plan, plan, Query.tokens_joined first second balanced,
    commands_of_tokens_append, plan_from_append, calls_append]
  rfl

theorem resolve_rooted (commands : CommandSet η) (first second : String)
    (balanced : Query.Balanced first.toList) :
    resolve commands (Query.tokens (first ++ ";:" ++ second)) =
      followedBy (resolve commands (Query.tokens first)) (resolve commands (Query.tokens second)) := by
  have written : first ++ ";:" ++ second = first ++ ";" ++ (":" ++ second) := by
    simp [← String.toList_inj]
  have raw : Query.rawTokens (":" ++ second).toList = .colon :: Query.rawTokens second.toList := by
    rw [String.toList_append]
    exact Query.raw_tokens_begin ':' second.toList (by decide)
  have settled : Query.settle (some .semicolon) (.colon :: Query.rawTokens second.toList) =
      .colon :: Query.settle (some .colon) (Query.rawTokens second.toList) := rfl
  have meant : plan commands (Query.settle (some .colon) (Query.rawTokens second.toList)) =
      plan commands (Query.tokens second) := by
    obtain same | ⟨colon, kind, same⟩ := Query.settle_after_mark .colon (Query.rawTokens second.toList) rfl
    · rw [same, Query.tokens]
    · rw [Query.tokens, same]
      exact (plan_from_colon commands .root colon _ kind).symm
  rw [written, resolve_joined commands first _ balanced, raw, settled,
    plan_from_colon commands _ .colon _ rfl, meant, resolve_plan commands (Query.tokens second)]

def voltCommands : CommandSet Nat :=
  (CommandSet.empty.define ⟨["VOLT", "DC?"]⟩ 0).define ⟨["VOLT", "AC?"]⟩ 1

-- The first query ends with a semicolon of its own, the second begins with a colon and has an open quotation.
theorem volt_queries_rooted :
    Query.Balanced "VOLT:DC? \"a;:b\" ;".toList ∧
      resolve voltCommands (Query.tokens ("VOLT:DC? \"a;:b\" ;" ++ ";:" ++ " :VOLT:AC?\"")) =
        followedBy (resolve voltCommands (Query.tokens "VOLT:DC? \"a;:b\" ;"))
          (resolve voltCommands (Query.tokens " :VOLT:AC?\"")) :=
  ⟨by decide, resolve_rooted voltCommands "VOLT:DC? \"a;:b\" ;" " :VOLT:AC?\"" (by decide)⟩

end Chain

end Scpi
