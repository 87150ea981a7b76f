import Scpi.Proofs.Grammar
import Scpi.Proofs.Plan

set_option autoImplicit false

namespace Scpi

namespace Query

def quoting (before after text : String) : String := before ++ "\"" ++ text ++ "\"" ++ after

theorem raw_tokens_quoting (before after text : String) (balanced : Balanced before.toList)
    (closed : '"' ∉ text.toList) :
    rawTokens (quoting before after text).toList =
      rawTokens before.toList ++ ⟨.quotedString, text⟩ :: rawTokens after.toList := by
  have split := raw_tokens_quoted before.toList text.toList after.toList balanced closed
  rw [String.ofList_toList] at split
  simpa [quoting] using split

theorem settle_quoting (previous : Option Token.Kind) (before after : List Token) :
    ∃ settled kind, (kind = .argument ∨ kind = .quotedString) ∧
      ∀ text, settle previous (before ++ ⟨.quotedString, text⟩ :: after) =
        settled ++ ⟨kind, text⟩ :: settle (some kind) after := by
  induction before generalizing previous with
  | nil =>
      by_cases follows : afterWord previous = true
      · exact ⟨[], .argument, .inl rfl, fun _ => settle_word_after previous _ after rfl follows⟩
      · exact ⟨[], .quotedString, .inr rfl, fun _ => settle_word_first previous _ after rfl follows⟩
  | cons token rest ih =>
      obtain ⟨own, step⟩ | ⟨_, step⟩ := settle_step previous token
      · obtain ⟨settled, kind, isArgument, same⟩ := ih (some own)
        refine ⟨⟨own, token.text⟩ :: settled, kind, isArgument, ?_⟩
        intro text
        rw [List.cons_append, step, same, List.cons_append]
      · obtain ⟨settled, kind, isArgument, same⟩ := ih previous
        refine ⟨settled, kind, isArgument, ?_⟩
        intro text
        rw [List.cons_append, step, same]

theorem regular_ended (previous : Option Token.Kind) (tokens : List Token) (regular : Regular previous tokens)
    (unended : previous ≠ some .semicolon) : ∃ token ∈ tokens, Chain.endsCommand token = true := by
  induction tokens generalizing previous with
  | nil => exact absurd regular unended
  | cons token rest ih =>
      by_cases semicolon : token.kind = .semicolon
      · exact ⟨token, by simp, by simp [Chain.endsCommand, semicolon]⟩
      · obtain ⟨last, member, ends⟩ := ih (some token.kind) regular.2 (by simpa using semicolon)
        exact ⟨last, List.mem_cons_of_mem token member, ends⟩

theorem tokens_quoting (before after : String) (balanced : Balanced before.toList) :
    ∃ earlier kind later, (kind = .argument ∨ kind = .quotedString) ∧
      (∃ token ∈ later, Chain.endsCommand token = true) ∧
      ∀ text : String, '"' ∉ text.toList →
        tokens (quoting before after text) = earlier ++ ⟨kind, text⟩ :: later := by
  obtain ⟨earlier, kind, isArgument, settled⟩ := settle_quoting none (rawTokens before.toList)
    (rawTokens after.toList)
  have regular := settle_regular (some kind) _ (raw_tokens_lexemes after.toList)
  have unended : some kind ≠ some Token.Kind.semicolon := by rcases isArgument with rfl | rfl <;> simp
  refine ⟨earlier, kind, _, isArgument, regular_ended (some kind) _ regular unended, ?_⟩
  intro text closed
  rw [tokens, raw_tokens_quoting before after text balanced closed, settled]

end Query

namespace Chain

variable {η : Type}

-- The outcomes of two resolutions that differ in one argument at most, which is `first` in one of them and
-- `second` in the other.
def SameButOne (first second : String) (one other : Except Header (List (Call η))) : Prop :=
  (∃ header, one = .error header ∧ other = .error header) ∨
  ∃ before handler earlier later after,
    one = .ok (before ++ ⟨handler, earlier ++ first :: later⟩ :: after) ∧
    other = .ok (before ++ ⟨handler, earlier ++ second :: later⟩ :: after)

variable {first second : String}

theorem same_but_one_after (call : Call η) (one other : Except Header (List (Call η)))
    (same : SameButOne first second one other) :
    SameButOne first second (one.map (call :: ·)) (other.map (call :: ·)) := by
  rcases same with ⟨header, rfl, rfl⟩ | ⟨before, handler, earlier, later, after, rfl, rfl⟩
  · exact .inl ⟨header, rfl, rfl⟩
  · exact .inr ⟨call :: before, handler, earlier, later, after, rfl, rfl⟩

theorem same_but_one_here (handler : η) (earlier later : List String)
    (rest : Except Header (List (Call η))) :
    SameButOne first second (rest.map (⟨handler, earlier ++ first :: later⟩ :: ·))
      (rest.map (⟨handler, earlier ++ second :: later⟩ :: ·)) := by
  cases rest with
  | error header => exact .inl ⟨header, rfl, rfl⟩
  | ok calls => exact .inr ⟨[], handler, earlier, later, calls, rfl, rfl⟩

theorem ended_later (token : Token) (rest : List Token)
    (ended : ∃ last ∈ token :: rest, endsCommand last = true) (inside : token.kind ≠ .semicolon) :
    ∃ last ∈ rest, endsCommand last = true := by
  obtain ⟨last, member, ends⟩ := ended
  rcases List.mem_cons.mp member with rfl | later
  · exact absurd (by simpa [endsCommand] using ends) inside
  · exact ⟨last, later, ends⟩

-- The argument has been read, and its command is still to end.
theorem resolve_from_read (commands : CommandSet η) (header : Header) (earlier later : List String)
    (started : Bool) (tokens : List Token) (ended : ∃ last ∈ tokens, endsCommand last = true) :
    SameButOne first second (resolveFrom commands ⟨header, earlier ++ first :: later, started⟩ tokens)
      (resolveFrom commands ⟨header, earlier ++ second :: later, started⟩ tokens) := by
  induction tokens generalizing header later started with
  | nil =>
      obtain ⟨_, none, _⟩ := ended
      cases none
  | cons token rest ih =>
      have inside := ended_later token rest ended
      cases kind : token.kind with
      | command =>
          simp only [resolveFrom, kind]
          exact ih (header.extend (commands.longForm token.text)) later true (inside (by simp [kind]))
      | argument | quotedString =>
          have read := ih header (later ++ [token.text]) started (inside (by simp [kind]))
          simpa only [resolveFrom, kind, Cursor.argument, List.append_assoc, List.cons_append] using read
      | colon =>
          have read := ih (if started then header else .root) later started (inside (by simp [kind]))
          simp only [resolveFrom, kind]
          cases started <;> exact read
      | semicolon =>
          simp only [resolveFrom, kind]
          cases commands.handler? header with
          | none => exact .inl ⟨header, rfl, rfl⟩
          | some handler => exact same_but_one_here handler earlier later _
      | whitespace | newline =>
          simp only [resolveFrom, kind]
          exact ih header later started (inside (by simp [kind]))

theorem resolve_from_unread (commands : CommandSet η) (cursor : Cursor) (before after : List Token)
    (kind : Token.Kind) (isArgument : kind = .argument ∨ kind = .quotedString)
    (ended : ∃ last ∈ after, endsCommand last = true) :
    SameButOne first second (resolveFrom commands cursor (before ++ ⟨kind, first⟩ :: after))
      (resolveFrom commands cursor (before ++ ⟨kind, second⟩ :: after)) := by
  induction before generalizing cursor with
  | nil =>
      have read : SameButOne first second (resolveFrom commands (cursor.argument first) after)
          (resolveFrom commands (cursor.argument second) after) :=
        resolve_from_read commands cursor.header cursor.arguments [] cursor.started after ended
      rcases isArgument with rfl | rfl <;> exact read
  | cons token rest ih =>
      cases same : token.kind with
      | semicolon =>
          simp only [List.cons_append, resolveFrom, same]
          cases commands.handler? cursor.header with
          | none => exact .inl ⟨cursor.header, rfl, rfl⟩
          | some handler => exact same_but_one_after _ _ _ (ih cursor.next)
      | command | argument | quotedString | colon | whitespace | newline =>
          simp only [List.cons_append, resolveFrom, same]
          exact ih _

theorem quoted_text_confined (commands : CommandSet η) (before after first second : String)
    (balanced : Query.Balanced before.toList) (firstClosed : '"' ∉ first.toList)
    (secondClosed : '"' ∉ second.toList) :
    let one := Query.tokens (Query.quoting before after first)
    let other := Query.tokens (Query.quoting before after second)
    (∃ earlier kind later,
      one = earlier ++ ⟨kind, first⟩ :: later ∧ other = earlier ++ ⟨kind, second⟩ :: later) ∧
    SameButOne first second (resolve commands one) (resolve commands other) ∧
    Token.containsArgument one = Token.containsArgument other := by
  intro one other
  obtain ⟨earlier, kind, later, isArgument, ended, read⟩ := Query.tokens_quoting before after balanced
  have oneTokens : one = earlier ++ ⟨kind, first⟩ :: later := read first firstClosed
  have otherTokens : other = earlier ++ ⟨kind, second⟩ :: later := read second secondClosed
  refine ⟨⟨earlier, kind, later, oneTokens, otherTokens⟩, ?_, ?_⟩
  · rw [oneTokens, otherTokens]
    exact resolve_from_unread commands .initial earlier later kind isArgument ended
  · rw [oneTokens, otherTokens]
    simp [Token.containsArgument]

def echoCommands : CommandSet Nat := CommandSet.empty.define ⟨["ECHO"]⟩ 0

-- The first text looks like a command, and the marks before and after the texts are not all in pairs.
theorem echoed_text_confined :
    Query.Balanced "ECHO \"a\" b".toList ∧ '"' ∉ ";:*RST\n".toList ∧ '"' ∉ "".toList ∧
      let one := Query.tokens (Query.quoting "ECHO \"a\" b" " c\";" ";:*RST\n")
      let other := Query.tokens (Query.quoting "ECHO \"a\" b" " c\";" "")
      (∃ earlier kind later,
        one = earlier ++ ⟨kind, ";:*RST\n"⟩ :: later ∧ other = earlier ++ ⟨kind, ""⟩ :: later) ∧
      SameButOne ";:*RST\n" "" (resolve echoCommands one) (resolve echoCommands other) ∧
      Token.containsArgument one = Token.containsArgument other :=
  ⟨by decide, by decide, by decide, quoted_text_confined echoCommands "ECHO \"a\" b" " c\";" ";:*RST\n" ""
    (by decide) (by decide) (by decide)⟩

end Chain

end Scpi
