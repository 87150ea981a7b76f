import Mathlib.Data.List.Induction
import Mathlib.Data.List.Nodup
import Scpi.Proofs.Expansion

set_option autoImplicit false

namespace Scpi

namespace CommandSet

variable {η : Type}

def headersOf (definitions : List (String × η)) : List Header :=
  definitions.map fun definition => Header.ofText definition.1

theorem keywords_of_perm (first second : List (String × η)) (reordered : first.Perm second) :
    (keywordsOf first).Perm (keywordsOf second) :=
  reordered.flatMap_right _

theorem headers_of_perm (first second : List (String × η)) (reordered : first.Perm second) :
    (headersOf first).Perm (headersOf second) :=
  reordered.map _

theorem unambiguous_perm (first second : List String) (reordered : first.Perm second)
    (unambiguous : Unambiguous first) : Unambiguous second :=
  fun one oneMember other otherMember =>
    unambiguous one (reordered.mem_iff.mpr oneMember) other (reordered.mem_iff.mpr otherMember)

theorem latest_handler_iff (definitions : List (String × η)) (distinct : (headersOf definitions).Nodup)
    (header : Header) (handler : η) :
    latestHandler definitions header = some handler ↔
      ∃ text, (text, handler) ∈ definitions ∧ Header.ofText text = header := by
  constructor
  · exact latest_handler_some definitions header handler
  · rintro ⟨text, member, rfl⟩
    cases latest : latestHandler definitions (Header.ofText text) with
    | none => exact absurd latest (latest_handler_defined definitions (text, handler) member)
    | some other =>
        obtain ⟨otherText, otherMember, same⟩ := latest_handler_some definitions _ other latest
        have one := List.inj_on_of_nodup_map distinct otherMember member same
        rw [(Prod.mk.inj one).2]

theorem handler_perm (first second : List (String × η)) (reordered : first.Perm second)
    (distinct : (headersOf first).Nodup) (header : Header) :
    (ofDefinitions first).handler? header = (ofDefinitions second).handler? header := by
  have others := (headers_of_perm first second reordered).nodup_iff.mp distinct
  rw [handler_of_definitions, handler_of_definitions]
  apply Option.ext
  intro handler
  rw [latest_handler_iff first distinct, latest_handler_iff second others]
  simp only [reordered.mem_iff]

theorem long_form_perm (first second : List (String × η)) (reordered : first.Perm second)
    (unambiguous : Unambiguous (keywordsOf first)) (word : String) :
    (ofDefinitions first).longForm word = (ofDefinitions second).longForm word := by
  have keywords := keywords_of_perm first second reordered
  have others := unambiguous_perm _ _ keywords unambiguous
  have same : latestKeyword (keywordsOf first) word = latestKeyword (keywordsOf second) word := by
    apply Option.ext
    intro keyword
    rw [latest_keyword_iff _ unambiguous, latest_keyword_iff _ others, keywords.mem_iff]
  rw [long_form_of_definitions, long_form_of_definitions, same]

theorem keys_of_definitions (definitions : List (String × η)) (distinct : (headersOf definitions).Nodup) :
    (ofDefinitions definitions).handlers.keys = headersOf definitions := by
  induction definitions using List.reverseRecOn with
  | nil => rfl
  | append_singleton before definition ih =>
      rw [headersOf, List.map_append, List.map_singleton] at distinct ⊢
      obtain ⟨earlier, _, apart⟩ := List.nodup_append.mp distinct
      have keys := ih earlier
      have fresh : Header.ofText definition.1 ∉ (ofDefinitions before).handlers.keys := by
        rw [keys]
        exact fun member => apart _ member _ List.mem_cons_self rfl
      rw [of_definitions_snoc, define, Table.keys_insert, if_neg fresh, keys, headersOf]

theorem size_of_definitions (definitions : List (String × η)) (distinct : (headersOf definitions).Nodup) :
    (ofDefinitions definitions).size = definitions.length := by
  have count := congrArg List.length (keys_of_definitions definitions distinct)
  rwa [Table.keys, List.length_map, headersOf, List.length_map] at count

theorem long_form_define (header : Header) (handler : η) (commands : CommandSet η) (word : String) :
    (commands.define header handler).longForm word =
      ((latestKeyword header.keywords word).or (commands.longForms.find? word)).getD word := by
  rw [longForm, define, find_abbreviate_all]

theorem long_form_define_other (header : Header) (handler : η) (commands : CommandSet η) (word : String)
    (other : ∀ keyword ∈ header.keywords, Keyword.shortForm? keyword ≠ some word) :
    (commands.define header handler).longForm word = commands.longForm word := by
  have none : latestKeyword header.keywords word = none := by
    apply List.find?_eq_none.mpr
    intro keyword member
    simpa using other keyword (List.mem_reverse.mp member)
  rw [long_form_define, none, Option.none_or, longForm]

end CommandSet

namespace Chain

variable {η : Type}

-- The commands of a plan up to the first one without a handler, behind which no one looks.
def reached (commands : CommandSet η) : List Command → List Command
  | [] => []
  | command :: rest =>
      match commands.handler? command.header with
      | none => [command]
      | some _ => command :: reached commands rest

theorem calls_agreeing (first second : CommandSet η) (planned : List Command)
    (bound : ∀ command ∈ reached first planned,
      first.handler? command.header = second.handler? command.header) :
    planned.mapM (Command.call first) = planned.mapM (Command.call second) := by
  induction planned with
  | nil => rfl
  | cons command rest ih =>
      rw [List.mapM_cons, List.mapM_cons]
      cases found : first.handler? command.header with
      | none =>
          simp only [reached, found, List.mem_singleton, forall_eq] at bound
          simp only [Command.call, found, ← bound]
          rfl
      | some handler =>
          simp only [reached, found, List.mem_cons, forall_eq_or_imp] at bound
          simp only [Command.call, found, ← bound.1, ih bound.2]

-- The two readings stay together: they plan the same, and find the same handler as long as there is one.
theorem resolve_agreeing (first second : CommandSet η) (tokens : List Token)
    (spelled : ∀ token ∈ tokens, token.kind = .command →
      first.longForm token.text = second.longForm token.text)
    (bound : ∀ command ∈ reached first (plan first tokens),
      first.handler? command.header = second.handler? command.header) :
    resolve first tokens = resolve second tokens := by
  have full : tokens.map (inFull first) = tokens.map (inFull second) := by
    apply List.map_congr_left
    intro token member
    by_cases word : token.kind = .command
    · simp [inFull, isWord, word, spelled token member word]
    · simp [inFull, isWord, word]
  rw [resolve_plan, resolve_plan, ← plan_same first second tokens tokens full]
  exact calls_agreeing first second _ bound

theorem definitions_reordered (first second : List (String × η)) (reordered : first.Perm second)
    (distinct : (CommandSet.headersOf first).Nodup)
    (unambiguous : CommandSet.Unambiguous (CommandSet.keywordsOf first)) :
    let one := CommandSet.ofDefinitions first
    let other := CommandSet.ofDefinitions second
    (∀ header, one.handler? header = other.handler? header) ∧
      (∀ word, one.longForm word = other.longForm word) ∧ one.size = other.size ∧
      ∀ tokens, resolve one tokens = resolve other tokens := by
  intro one other
  have handlers := CommandSet.handler_perm first second reordered distinct
  have longForms := CommandSet.long_form_perm first second reordered unambiguous
  have others := (CommandSet.headers_of_perm first second reordered).nodup_iff.mp distinct
  refine ⟨handlers, longForms, ?_, ?_⟩
  · rw [CommandSet.size_of_definitions first distinct, CommandSet.size_of_definitions second others,
      reordered.length_eq]
  · intro tokens
    exact resolve_agreeing one other tokens (fun token _ _ => longForms token.text)
      fun command _ => handlers command.header

theorem meter_reordered :
    let first := [("MEASure:VOLTage:DC?", 0), (" *IDN? :", 1), ("MEASure:CURRent:DC?", 2)]
    let second := [("MEASure:CURRent:DC?", 2), ("MEASure:VOLTage:DC?", 0), (" *IDN? :", 1)]
    let one := CommandSet.ofDefinitions first
    let other := CommandSet.ofDefinitions second
    let tokens : List Token := [⟨.command, "MEAS"⟩, .colon, ⟨.command, "CURR"⟩, .colon, ⟨.command, "DC?"⟩,
      .semicolon, ⟨.command, "VOLT"⟩, .semicolon]
    first.Perm second ∧ (CommandSet.headersOf first).Nodup ∧
      CommandSet.Unambiguous (CommandSet.keywordsOf first) ∧
      one.handler? ⟨["*IDN?"]⟩ = other.handler? ⟨["*IDN?"]⟩ ∧ one.longForm "CURR" = other.longForm "CURR" ∧
      one.size = other.size ∧ resolve one tokens = resolve other tokens := by
  intro first second one other tokens
  have reordered : first.Perm second := by decide +kernel
  have distinct : (CommandSet.headersOf first).Nodup := by decide +kernel
  have unambiguous : CommandSet.Unambiguous (CommandSet.keywordsOf first) := by decide +kernel
  obtain ⟨handlers, longForms, sizes, chains⟩ := definitions_reordered first second reordered distinct unambiguous
  exact ⟨reordered, distinct, unambiguous, handlers ⟨["*IDN?"]⟩, longForms "CURR", sizes, chains tokens⟩

theorem resolve_unaffected (commands : CommandSet η) (text : String) (handler : η) (tokens : List Token)
    (unmentioned : ∀ token ∈ tokens, token.kind = .command → ¬ ∃ keyword ∈ (Header.ofText text).keywords,
      Keyword.shortForm? keyword = some token.text ∧
        (commands.define (Header.ofText text) handler).longForm token.text ≠ commands.longForm token.text)
    (elsewhere : ∀ command ∈ reached commands (plan commands tokens), command.header ≠ Header.ofText text) :
    resolve (commands.define (Header.ofText text) handler) tokens = resolve commands tokens := by
  symm
  apply resolve_agreeing
  · intro token member word
    by_cases mentioned : ∃ keyword ∈ (Header.ofText text).keywords, Keyword.shortForm? keyword = some token.text
    · obtain ⟨keyword, inside, short⟩ := mentioned
      by_contra changed
      exact unmentioned token member word ⟨keyword, inside, short, Ne.symm changed⟩
    · have other := CommandSet.long_form_define_other (Header.ofText text) handler commands token.text
        fun keyword inside short => mentioned ⟨keyword, inside, short⟩
      exact other.symm
  · intro command member
    rw [CommandSet.handler_define, if_neg (elsewhere command member).symm]

-- MEAS means another keyword from then on, and the last command would be known, but neither comes up.
theorem resistance_unaffected :
    let commands := CommandSet.ofDefinitions [("MEASure:VOLTage:DC?", 0), ("MEASure:VOLTage:AC?", 1)]
    let text := "MEASurement:VOLTage:RATio"
    let later := commands.define (Header.ofText text) 2
    let tokens : List Token := [⟨.command, "MEASure"⟩, .colon, ⟨.command, "VOLT"⟩, .colon, ⟨.command, "AC?"⟩,
      ⟨.argument, "MEAS"⟩, .semicolon, ⟨.command, "RES"⟩, .semicolon, .colon, ⟨.command, "MEASurement"⟩, .colon,
      ⟨.command, "VOLT"⟩, .colon, ⟨.command, "RATio"⟩, .semicolon]
    (∀ token ∈ tokens, token.kind = .command → ¬ ∃ keyword ∈ (Header.ofText text).keywords,
      Keyword.shortForm? keyword = some token.text ∧
        later.longForm token.text ≠ commands.longForm token.text) ∧
      (∀ command ∈ reached commands (plan commands tokens), command.header ≠ Header.ofText text) ∧
      later.longForm "MEAS" ≠ commands.longForm "MEAS" ∧
      resolve commands tokens = .error ⟨["MEASure", "VOLTage", "RES"]⟩ ∧
      resolve later tokens = resolve commands tokens := by
  intro commands text later tokens
  have unmentioned : ∀ token ∈ tokens, token.kind = .command → ¬ ∃ keyword ∈ (Header.ofText text).keywords,
      Keyword.shortForm? keyword = some token.text ∧
        later.longForm token.text ≠ commands.longForm token.text := by decide +kernel
  have elsewhere : ∀ command ∈ reached commands (plan commands tokens),
      command.header ≠ Header.ofText text := by decide +kernel
  have unknown : resolve commands tokens = .error ⟨["MEASure", "VOLTage", "RES"]⟩ := by
    rw [resolve_plan, calls_error_iff]
    decide +kernel
  exact ⟨unmentioned, elsewhere, by decide +kernel, unknown,
    resolve_unaffected commands text 2 tokens unmentioned elsewhere⟩

end Chain

end Scpi
