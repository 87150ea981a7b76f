import Scpi.Proofs.Definitions
import Scpi.Proofs.Keywords

set_option autoImplicit false

namespace Scpi

namespace CommandSet

variable {η : Type}

def Shadowed (keywords : List String) (keyword : String) : Prop :=
  latestKeyword keywords keyword ≠ none ∧ latestKeyword keywords keyword ≠ some keyword

instance (keywords : List String) (keyword : String) : Decidable (Shadowed keywords keyword) :=
  inferInstanceAs (Decidable
    (latestKeyword keywords keyword ≠ none ∧ latestKeyword keywords keyword ≠ some keyword))

def taken (keywords : List String) (header : Header) : Header :=
  ⟨header.keywords.map fun keyword => (latestKeyword keywords keyword).getD keyword⟩

theorem shadowed_iff (keywords : List String) (keyword : String) :
    Shadowed keywords keyword ↔ (latestKeyword keywords keyword).getD keyword ≠ keyword := by
  unfold Shadowed
  cases latestKeyword keywords keyword <;> simp

theorem taken_iff_unshadowed (keywords : List String) (header : Header) :
    taken keywords header = header ↔ ∀ keyword ∈ header.keywords, ¬ Shadowed keywords keyword := by
  rcases header with ⟨written⟩
  have pointwise := @List.map_inj_left _ _ written
    (fun keyword => (latestKeyword keywords keyword).getD keyword) id
  rw [List.map_id] at pointwise
  simpa only [taken, Header.mk.injEq, shadowed_iff, ne_eq, Classical.not_not, id_eq] using pointwise

theorem tokens_header (first : String) (rest : List String)
    (areWords : ∀ keyword ∈ first :: rest, Query.IsWord keyword) :
    Query.tokens (Header.text ⟨first :: rest⟩) =
      (⟨.command, first⟩ :: rest.flatMap Query.keywordTokens) ++ [.semicolon] := by
  have boundary : Query.Boundary [] := fun _ none => by cases none
  have beginning := Query.raw_tokens_word_before first (rest.flatMap Query.keywordText ++ [])
    (areWords first (by simp)) (Query.keywords_boundary rest [] boundary)
  rw [Query.raw_tokens_keywords rest [] (fun keyword member => areWords keyword (by simp [member])) boundary,
    List.append_nil] at beginning
  rw [Query.tokens, Header.text, Query.intercalate_cons]
  change Query.settle none (Query.rawTokens (first.toList ++ rest.flatMap Query.keywordText)) = _
  rw [beginning]
  change ⟨.command, first⟩ :: Query.settle (some .command) (rest.flatMap Query.keywordTokens ++ []) = _
  rw [Query.settle_keywords]
  rfl

theorem plan_header (commands : CommandSet η) (header : Header) (present : header.keywords ≠ [])
    (areWords : ∀ keyword ∈ header.keywords, Query.IsWord keyword) :
    Chain.plan commands (Query.tokens header.text) = [⟨⟨header.keywords.map commands.longForm⟩, []⟩] := by
  rcases header with ⟨keywords⟩
  obtain ⟨first, rest, rfl⟩ := List.exists_cons_of_ne_nil present
  have inside : ∀ command ∈ [⟨.command, first⟩ :: rest.flatMap Query.keywordTokens],
      ∀ token ∈ command, Chain.endsCommand token = false := by
    intro command member token inCommand
    rw [List.mem_singleton.mp member] at inCommand
    rcases List.mem_cons.mp inCommand with rfl | later
    · rfl
    · exact Query.keywords_inside rest token later
  have single := Chain.commands_of_ended [⟨.command, first⟩ :: rest.flatMap Query.keywordTokens] inside
  rw [List.flatMap_singleton] at single
  have words := Chain.words_append [⟨.command, first⟩] (rest.flatMap Query.keywordTokens)
  have arguments := Chain.arguments_append [⟨.command, first⟩] (rest.flatMap Query.keywordTokens)
  rw [Query.words_keywords, List.singleton_append] at words
  rw [Query.arguments_keywords, List.singleton_append] at arguments
  rw [Chain.plan, tokens_header first rest areWords, single, Chain.planFrom, Chain.planFrom, arguments,
    Chain.headerAfter, words]
  rfl

theorem resolve_header (commands : CommandSet η) (header : Header) (present : header.keywords ≠ [])
    (areWords : ∀ keyword ∈ header.keywords, Query.IsWord keyword) :
    Chain.resolve commands (Query.tokens header.text) =
      match commands.handler? ⟨header.keywords.map commands.longForm⟩ with
      | some handler => .ok [⟨handler, []⟩]
      | none => .error ⟨header.keywords.map commands.longForm⟩ := by
  rw [Chain.resolve_plan, plan_header commands header present areWords, List.mapM_cons, Chain.Command.call]
  cases commands.handler? ⟨header.keywords.map commands.longForm⟩ <;> rfl

theorem resolve_header_text (definitions : List (String × η)) (header : Header)
    (defined : ∃ definition ∈ definitions, Header.ofText definition.1 = header)
    (present : header.keywords ≠ []) (areWords : ∀ keyword ∈ header.keywords, Query.IsWord keyword) :
    ((∀ keyword ∈ header.keywords, ¬ Shadowed (keywordsOf definitions) keyword) →
      ∃ handler, latestHandler definitions header = some handler ∧
        Chain.resolve (ofDefinitions definitions) (Query.tokens header.text) = .ok [⟨handler, []⟩]) ∧
    ((∃ keyword ∈ header.keywords, Shadowed (keywordsOf definitions) keyword) →
      taken (keywordsOf definitions) header ≠ header ∧
        Chain.resolve (ofDefinitions definitions) (Query.tokens header.text) =
          match latestHandler definitions (taken (keywordsOf definitions) header) with
          | some handler => .ok [⟨handler, []⟩]
          | none => .error (taken (keywordsOf definitions) header)) := by
  have meant : (⟨header.keywords.map (ofDefinitions definitions).longForm⟩ : Header) =
      taken (keywordsOf definitions) header := by
    rw [taken, List.map_congr_left fun keyword _ => long_form_of_definitions definitions keyword]
  have resolved := resolve_header (ofDefinitions definitions) header present areWords
  rw [meant, handler_of_definitions] at resolved
  constructor
  · intro clear
    rw [(taken_iff_unshadowed _ header).mpr clear] at resolved
    obtain ⟨definition, member, same⟩ := defined
    have known := latest_handler_defined definitions definition member
    rw [same] at known
    cases latest : latestHandler definitions header with
    | none => exact absurd latest known
    | some handler =>
        rw [latest] at resolved
        exact ⟨handler, rfl, resolved⟩
  · rintro ⟨keyword, member, shadowed⟩
    exact ⟨fun same => (taken_iff_unshadowed _ header).mp same keyword member shadowed, resolved⟩

-- The later definition of MEASure:DC claims the whole keyword MEAS, but not MEASure.
theorem measure_keeps_its_handler :
    (∃ definition ∈ [("MEASure:DC", 0), ("MEAS:DC", 1), ("MEASure:DC", 2)],
      Header.ofText definition.1 = ⟨["MEASure", "DC"]⟩) ∧
    (∀ keyword ∈ ["MEASure", "DC"],
      ¬ Shadowed (keywordsOf [("MEASure:DC", 0), ("MEAS:DC", 1), ("MEASure:DC", 2)]) keyword) ∧
    ∃ handler, latestHandler [("MEASure:DC", 0), ("MEAS:DC", 1), ("MEASure:DC", 2)] ⟨["MEASure", "DC"]⟩ =
        some handler ∧
      Chain.resolve (ofDefinitions [("MEASure:DC", 0), ("MEAS:DC", 1), ("MEASure:DC", 2)])
        (Query.tokens (Header.text ⟨["MEASure", "DC"]⟩)) = .ok [⟨handler, []⟩] :=
  ⟨by decide, by decide,
    (resolve_header_text [("MEASure:DC", 0), ("MEAS:DC", 1), ("MEASure:DC", 2)] ⟨["MEASure", "DC"]⟩
      (by decide) (by decide) (by decide)).1 (by decide)⟩

-- A header can lose its own name: after MEASure has been defined, MEAS is only the short form of it.
theorem defined_header_shadowed :
    ¬ ∀ (definitions : List (String × Nat)) (header : Header),
      (∃ definition ∈ definitions, Header.ofText definition.1 = header) → header.keywords ≠ [] →
      (∀ keyword ∈ header.keywords, Query.IsWord keyword) →
      ∃ handler, latestHandler definitions header = some handler ∧
        Chain.resolve (ofDefinitions definitions) (Query.tokens header.text) = .ok [⟨handler, []⟩] := by
  intro reachable
  obtain ⟨handler, latest, resolved⟩ :=
    reachable [("MEAS", 0), ("MEASure", 1)] ⟨["MEAS"]⟩ (by decide) (by decide) (by decide)
  have own : handler = 0 := Option.some.inj (latest.symm.trans (by decide))
  have other : Chain.resolve (ofDefinitions [("MEAS", 0), ("MEASure", 1)])
      (Query.tokens (Header.text ⟨["MEAS"]⟩)) = .ok [⟨1, []⟩] := rfl
  rw [other, own] at resolved
  cases resolved

end CommandSet

end Scpi
