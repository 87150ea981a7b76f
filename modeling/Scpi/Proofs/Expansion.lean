import Mathlib.Data.List.Forall2
import Scpi.Proofs.Definitions
import Scpi.Proofs.Entries
import Scpi.Proofs.Plan

set_option autoImplicit false

namespace Scpi

namespace CommandSet

variable {η : Type}

theorem abbreviate_row (longForms : Table String String) (keyword : String) (row : String × String)
    (member : row ∈ (abbreviate longForms keyword).rows) :
    row ∈ longForms.rows ∨ (row.2 = keyword ∧ Keyword.shortForm? keyword = some row.1) := by
  unfold abbreviate at member
  cases found : Keyword.shortForm? keyword with
  | none =>
      rw [found] at member
      exact .inl member
  | some short =>
      rw [found] at member
      rcases Table.put_member short keyword longForms.rows row member with old | rfl
      · exact .inl old
      · exact .inr ⟨rfl, rfl⟩

theorem abbreviate_all_row (keywords : List String) (longForms : Table String String) (row : String × String)
    (member : row ∈ (keywords.foldl abbreviate longForms).rows) :
    row ∈ longForms.rows ∨ (row.2 ∈ keywords ∧ Keyword.shortForm? row.2 = some row.1) := by
  induction keywords generalizing longForms with
  | nil => exact .inl member
  | cons keyword rest ih =>
      rcases ih (abbreviate longForms keyword) member with earlier | ⟨later, short⟩
      · obtain old | ⟨own, short⟩ := abbreviate_row longForms keyword row earlier
        · exact .inl old
        · exact .inr ⟨own ▸ List.mem_cons_self, own ▸ short⟩
      · exact .inr ⟨List.mem_cons_of_mem keyword later, short⟩

theorem long_form_row (definitions : List (String × η)) (row : String × String)
    (member : row ∈ (ofDefinitions definitions).longForms.rows) :
    row.2 ∈ keywordsOf definitions ∧ Keyword.shortForm? row.2 = some row.1 := by
  rw [ofDefinitions, long_forms_define_all] at member
  obtain none | found := abbreviate_all_row _ _ row member
  · cases none
  · exact found

theorem keyword_defined (definitions : List (String × η)) (keyword : String)
    (member : keyword ∈ keywordsOf definitions) :
    ∃ header handler, (ofDefinitions definitions).handler? header = some handler ∧ keyword ∈ header.keywords := by
  obtain ⟨definition, defined, inside⟩ := List.mem_flatMap.mp member
  have known := latest_handler_defined definitions definition defined
  rw [← handler_of_definitions] at known
  obtain ⟨handler, found⟩ := Option.ne_none_iff_exists'.mp known
  exact ⟨Header.ofText definition.1, handler, found, inside⟩

end CommandSet

namespace Chain

variable {η : Type}

-- A token as it is meant: a keyword stands in its long form.
def inFull (commands : CommandSet η) (token : Token) : Token :=
  if isWord token then { token with text := commands.longForm token.text } else token

@[simp] theorem in_full_kind (commands : CommandSet η) (token : Token) :
    (inFull commands token).kind = token.kind := by
  unfold inFull
  split <;> rfl

theorem split_map {α β : Type} (cuts : β → Bool) (change : α → β) (whole : List α) :
    (whole.map change).splitOnP cuts = (whole.splitOnP (cuts ∘ change)).map (List.map change) := by
  induction whole with
  | nil => rfl
  | cons head rest ih =>
      rw [List.map_cons, List.splitOnP_cons_eq_if_modifyHead, List.splitOnP_cons_eq_if_modifyHead, ih,
        Function.comp_apply]
      cases cuts (change head) with
      | true => rfl
      | false => cases rest.splitOnP (cuts ∘ change) <;> rfl

theorem commands_of_in_full (commands : CommandSet η) (tokens : List Token) :
    commandsOf (tokens.map (inFull commands)) = (commandsOf tokens).map (List.map (inFull commands)) := by
  have kept : endsCommand ∘ inFull commands = endsCommand := by
    funext token
    simp [endsCommand]
  rw [commandsOf, commandsOf, split_map, kept, List.map_dropLast]

theorem words_in_full (commands : CommandSet η) (command : List Token) :
    words (command.map (inFull commands)) = (words command).map commands.longForm := by
  have kept : isWord ∘ inFull commands = isWord := by
    funext token
    simp [isWord]
  rw [words, words, List.filter_map, kept, List.map_map, List.map_map]
  apply List.map_congr_left
  intro token member
  simp [inFull, (List.mem_filter.mp member).2]

theorem arguments_in_full (commands : CommandSet η) (command : List Token) :
    arguments (command.map (inFull commands)) = arguments command := by
  have kept : isArgument ∘ inFull commands = isArgument := by
    funext token
    simp [isArgument]
  rw [arguments, arguments, List.filter_map, kept, List.map_map]
  apply List.map_congr_left
  intro token member
  have argument := (List.mem_filter.mp member).2
  have noWord : isWord token = false := by
    cases kind : token.kind <;> simp [isArgument, isWord, kind] at argument ⊢
  simp [inFull, noWord]

theorem absolute_in_full (commands : CommandSet η) (command : List Token) :
    isAbsolute (command.map (inFull commands)) = isAbsolute command := by
  simp [isAbsolute, List.takeWhile_map, List.any_map, Function.comp_def, isWord]

theorem header_after_in_full (commands : CommandSet η) (previous : Header) (command : List Token) :
    headerAfter (CommandSet.empty : CommandSet η) previous (command.map (inFull commands)) =
      headerAfter commands previous command := by
  have plain : (CommandSet.empty : CommandSet η).longForm = id := rfl
  rw [headerAfter, headerAfter, base, base, absolute_in_full, words_in_full, plain, List.map_id]

theorem plan_from_in_full (commands : CommandSet η) (chain : List (List Token)) (previous : Header) :
    planFrom (CommandSet.empty : CommandSet η) previous (chain.map (List.map (inFull commands))) =
      planFrom commands previous chain := by
  induction chain generalizing previous with
  | nil => rfl
  | cons command rest ih =>
      rw [List.map_cons, planFrom, planFrom, header_after_in_full, arguments_in_full, ih]

theorem plan_in_full (commands : CommandSet η) (tokens : List Token) :
    plan (CommandSet.empty : CommandSet η) (tokens.map (inFull commands)) = plan commands tokens := by
  rw [plan, commands_of_in_full, plan_from_in_full, plan]

theorem plan_same (first second : CommandSet η) (tokens others : List Token)
    (same : tokens.map (inFull first) = others.map (inFull second)) :
    plan first tokens = plan second others := by
  rw [← plan_in_full first tokens, same, plan_in_full]

-- Two tokens that are alike, or of which one has the short form of the keyword that the other has.
inductive Respelled (commands : CommandSet η) : Token → Token → Prop where
  | same (token : Token) : Respelled commands token token
  | longer (short keyword : String) : commands.longForms.find? short = some keyword →
      Respelled commands ⟨.command, short⟩ ⟨.command, keyword⟩
  | shorter (short keyword : String) : commands.longForms.find? short = some keyword →
      Respelled commands ⟨.command, keyword⟩ ⟨.command, short⟩

theorem in_full_short (definitions : List (String × η)) (short keyword : String)
    (found : (CommandSet.ofDefinitions definitions).longForms.find? short = some keyword) :
    inFull (CommandSet.ofDefinitions definitions) ⟨.command, short⟩ =
      inFull (CommandSet.ofDefinitions definitions) ⟨.command, keyword⟩ := by
  have long : (CommandSet.ofDefinitions definitions).longForm short = keyword := by
    rw [CommandSet.longForm, found, Option.getD_some]
  have again := CommandSet.long_form_long_form definitions short
  rw [long] at again
  simp [inFull, isWord, long, again]

theorem in_full_respelled (definitions : List (String × η)) (token other : Token)
    (respelled : Respelled (CommandSet.ofDefinitions definitions) token other) :
    inFull (CommandSet.ofDefinitions definitions) token =
      inFull (CommandSet.ofDefinitions definitions) other := by
  cases respelled with
  | same => rfl
  | longer short keyword found => exact in_full_short definitions short keyword found
  | shorter short keyword found => exact (in_full_short definitions short keyword found).symm

theorem resolve_respelled (definitions : List (String × η)) (tokens others : List Token)
    (respelled : List.Forall₂ (Respelled (CommandSet.ofDefinitions definitions)) tokens others) :
    resolve (CommandSet.ofDefinitions definitions) tokens =
      resolve (CommandSet.ofDefinitions definitions) others := by
  have same : tokens.map (inFull (CommandSet.ofDefinitions definitions)) =
      others.map (inFull (CommandSet.ofDefinitions definitions)) := by
    induction respelled with
    | nil => rfl
    | cons head _ ih => rw [List.map_cons, List.map_cons, in_full_respelled definitions _ _ head, ih]
  rw [resolve_plan, resolve_plan, plan_same _ _ tokens others same]

theorem long_forms_consistent (definitions : List (String × η)) :
    let commands := CommandSet.ofDefinitions definitions
    let keywords := CommandSet.keywordsOf definitions
    (∀ short keyword, (short, keyword) ∈ commands.longForms.rows → Keyword.shortForm? keyword = some short ∧
      ∃ header handler, commands.handler? header = some handler ∧ keyword ∈ header.keywords) ∧
    (∀ word, commands.longForm word = (CommandSet.latestKeyword keywords word).getD word) ∧
    (∀ word, commands.longForm (commands.longForm word) = commands.longForm word) ∧
    ∀ tokens others, List.Forall₂ (Respelled commands) tokens others →
      resolve commands tokens = resolve commands others := by
  refine ⟨?_, CommandSet.long_form_of_definitions definitions, CommandSet.long_form_long_form definitions,
    resolve_respelled definitions⟩
  intro short keyword member
  obtain ⟨defined, shortened⟩ := CommandSet.long_form_row definitions (short, keyword) member
  exact ⟨shortened, CommandSet.keyword_defined definitions keyword defined⟩

-- MEAS is a keyword of its own and the short form of two others, of which the one defined last has it.
def collidingDefinitions : List (String × Nat) := [("MEASure:MEAS", 0), ("MEASurement:X?", 1), ("*RST:MEASure", 2)]

theorem meter_respelled :
    let commands := CommandSet.ofDefinitions collidingDefinitions
    let tokens : List Token := [⟨.command, "*RST"⟩, .colon, ⟨.command, "MEAS"⟩, .semicolon,
      ⟨.command, "MEASure"⟩, .semicolon]
    let others : List Token := [⟨.command, "*RST"⟩, .colon, ⟨.command, "MEASure"⟩, .semicolon,
      ⟨.command, "MEAS"⟩, .semicolon]
    ("MEAS", "MEASure") ∈ commands.longForms.rows ∧ Keyword.shortForm? "MEASure" = some "MEAS" ∧
      (∃ header handler, commands.handler? header = some handler ∧ "MEASure" ∈ header.keywords) ∧
      commands.longForm "MEAS" =
        (CommandSet.latestKeyword (CommandSet.keywordsOf collidingDefinitions) "MEAS").getD "MEAS" ∧
      commands.longForm (commands.longForm "MEAS") = commands.longForm "MEAS" ∧
      List.Forall₂ (Respelled commands) tokens others ∧
      (resolve commands tokens).toOption = some [⟨2, []⟩, ⟨2, []⟩] ∧
      resolve commands tokens = resolve commands others := by
  intro commands tokens others
  obtain ⟨entries, latest, idempotent, spelling⟩ := long_forms_consistent collidingDefinitions
  have entry : ("MEAS", "MEASure") ∈ commands.longForms.rows := by decide +kernel
  have found : commands.longForms.find? "MEAS" = some "MEASure" := by decide +kernel
  have respelled : List.Forall₂ (Respelled commands) tokens others :=
    .cons (.same _) (.cons (.same _) (.cons (.longer "MEAS" "MEASure" found) (.cons (.same _)
      (.cons (.shorter "MEAS" "MEASure" found) (.cons (.same _) .nil)))))
  obtain ⟨shortened, defined⟩ := entries "MEAS" "MEASure" entry
  exact ⟨entry, shortened, defined, latest "MEAS", idempotent "MEAS", respelled, by decide +kernel,
    spelling tokens others respelled⟩

end Chain

end Scpi
