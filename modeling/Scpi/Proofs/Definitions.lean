import Scpi.CommandSet

set_option autoImplicit false

namespace Scpi

namespace Keyword

theorem short_form_parts (keyword short : String) (found : shortForm? keyword = some short) :
    short.toList ≠ [] ∧ ∀ c ∈ short.toList, isShort c = true := by
  unfold shortForm? at found
  split at found
  · cases found
  · rename_i first rest run
    have same := Option.some.inj found
    subst same
    rw [String.toList_ofList, ← run]
    exact ⟨by simp [run], List.all_eq_true.mp List.all_takeWhile⟩

theorem short_form_self (word : String) (present : word.toList ≠ [])
    (short : ∀ c ∈ word.toList, isShort c = true) : shortForm? word = some word := by
  obtain ⟨first, rest, characters⟩ := List.exists_cons_of_ne_nil present
  have begins : isShort first = true := short first (by simp [characters])
  have whole := @List.takeWhile_append_of_pos _ isShort word.toList [] short
  rw [List.append_nil, List.takeWhile_nil, List.append_nil, characters] at whole
  rw [shortForm?, characters, List.dropWhile_cons_of_neg (by simp [begins]), whole]
  simp only [← characters, String.ofList_toList]

theorem short_form_short_form (keyword short : String) (found : shortForm? keyword = some short) :
    shortForm? short = some short :=
  short_form_self short (short_form_parts keyword short found).1 (short_form_parts keyword short found).2

end Keyword

namespace CommandSet

variable {η : Type}

def ofDefinitions (definitions : List (String × η)) : CommandSet η :=
  definitions.foldl (fun commands definition =>
    commands.define (Header.ofText definition.1) definition.2) empty

theorem of_definitions_snoc (definitions : List (String × η)) (definition : String × η) :
    ofDefinitions (definitions ++ [definition]) =
      (ofDefinitions definitions).define (Header.ofText definition.1) definition.2 :=
  List.foldl_append

def keywordsOf (definitions : List (String × η)) : List String :=
  definitions.flatMap fun definition => (Header.ofText definition.1).keywords

def latestHandler (definitions : List (String × η)) (header : Header) : Option η :=
  (definitions.reverse.find? fun definition => Header.ofText definition.1 = header).map Prod.snd

def latestKeyword (keywords : List String) (short : String) : Option String :=
  keywords.reverse.find? fun keyword => Keyword.shortForm? keyword = some short

def Unambiguous (keywords : List String) : Prop :=
  ∀ first ∈ keywords, ∀ second ∈ keywords, Keyword.shortForm? first ≠ none →
    Keyword.shortForm? first = Keyword.shortForm? second → first = second

instance (keywords : List String) : Decidable (Unambiguous keywords) :=
  inferInstanceAs (Decidable (∀ first ∈ keywords, ∀ second ∈ keywords, Keyword.shortForm? first ≠ none →
    Keyword.shortForm? first = Keyword.shortForm? second → first = second))

theorem latest_handler_cons (definition : String × η) (rest : List (String × η)) (header : Header) :
    latestHandler (definition :: rest) header = (latestHandler rest header).or
      (if Header.ofText definition.1 = header then some definition.2 else none) := by
  rw [latestHandler, List.reverse_cons, List.find?_append, Option.map_or, latestHandler]
  by_cases same : Header.ofText definition.1 = header <;> simp [same]

theorem latest_keyword_cons (keyword : String) (rest : List String) (short : String) :
    latestKeyword (keyword :: rest) short = (latestKeyword rest short).or
      (if Keyword.shortForm? keyword = some short then some keyword else none) := by
  rw [latestKeyword, List.reverse_cons, List.find?_append, latestKeyword]
  by_cases same : Keyword.shortForm? keyword = some short <;> simp [same]

theorem handler_define_all (definitions : List (String × η)) (commands : CommandSet η) (header : Header) :
    (definitions.foldl (fun commands definition =>
      commands.define (Header.ofText definition.1) definition.2) commands).handler? header =
      (latestHandler definitions header).or (commands.handler? header) := by
  induction definitions generalizing commands with
  | nil => rfl
  | cons definition rest ih =>
      rw [List.foldl_cons, ih, handler_define, latest_handler_cons, Option.or_assoc]
      by_cases same : Header.ofText definition.1 = header <;> simp [same]

theorem handler_of_definitions (definitions : List (String × η)) (header : Header) :
    (ofDefinitions definitions).handler? header = latestHandler definitions header := by
  have all := handler_define_all definitions empty header
  simpa [ofDefinitions, handler?, empty, Table.empty, Table.find?, Table.lookup] using all

theorem find_abbreviate (longForms : Table String String) (keyword word : String) :
    (abbreviate longForms keyword).find? word =
      if Keyword.shortForm? keyword = some word then some keyword else longForms.find? word := by
  unfold abbreviate
  cases short : Keyword.shortForm? keyword with
  | none => simp
  | some found => simp [Table.find_insert]

theorem find_abbreviate_all (keywords : List String) (longForms : Table String String) (word : String) :
    (keywords.foldl abbreviate longForms).find? word =
      (latestKeyword keywords word).or (longForms.find? word) := by
  induction keywords generalizing longForms with
  | nil => rfl
  | cons keyword rest ih =>
      rw [List.foldl_cons, ih, find_abbreviate, latest_keyword_cons, Option.or_assoc]
      by_cases same : Keyword.shortForm? keyword = some word <;> simp [same]

theorem long_forms_define_all (definitions : List (String × η)) (commands : CommandSet η) :
    (definitions.foldl (fun commands definition =>
      commands.define (Header.ofText definition.1) definition.2) commands).longForms =
      (keywordsOf definitions).foldl abbreviate commands.longForms := by
  induction definitions generalizing commands with
  | nil => rfl
  | cons definition rest ih =>
      rw [List.foldl_cons, ih, keywordsOf, keywordsOf, List.flatMap_cons, List.foldl_append]
      rfl

theorem long_form_of_definitions (definitions : List (String × η)) (word : String) :
    (ofDefinitions definitions).longForm word =
      (latestKeyword (keywordsOf definitions) word).getD word := by
  have all := find_abbreviate_all (keywordsOf definitions) Table.empty word
  rw [longForm, ofDefinitions, long_forms_define_all]
  simp only [empty] at all ⊢
  rw [all]
  cases latestKeyword (keywordsOf definitions) word <;> rfl

theorem latest_keyword_some (keywords : List String) (short keyword : String)
    (latest : latestKeyword keywords short = some keyword) :
    keyword ∈ keywords ∧ Keyword.shortForm? keyword = some short :=
  ⟨List.mem_reverse.mp (List.mem_of_find?_eq_some latest), by simpa using List.find?_some latest⟩

theorem latest_keyword_none (keywords : List String) (short keyword : String)
    (latest : latestKeyword keywords short = none) (member : keyword ∈ keywords) :
    Keyword.shortForm? keyword ≠ some short := by
  simpa using List.find?_eq_none.mp latest keyword (List.mem_reverse.mpr member)

-- The long form of a word has itself as its long form, whatever collides: it could only be another one's
-- short form if it were its own.
theorem long_form_long_form (definitions : List (String × η)) (word : String) :
    (ofDefinitions definitions).longForm ((ofDefinitions definitions).longForm word) =
      (ofDefinitions definitions).longForm word := by
  rw [long_form_of_definitions, long_form_of_definitions]
  cases latest : latestKeyword (keywordsOf definitions) word with
  | none => rw [Option.getD_none, latest, Option.getD_none]
  | some keyword =>
      rw [Option.getD_some]
      cases again : latestKeyword (keywordsOf definitions) keyword with
      | none => rfl
      | some other =>
          have short := (latest_keyword_some _ _ _ latest).2
          have own := Keyword.short_form_short_form other keyword (latest_keyword_some _ _ _ again).2
          have same : keyword = word := Option.some.inj (own.symm.trans short)
          rw [same, latest, Option.some.injEq] at again
          rw [Option.getD_some, again]

theorem latest_handler_some (definitions : List (String × η)) (header : Header) (handler : η)
    (latest : latestHandler definitions header = some handler) :
    ∃ text, (text, handler) ∈ definitions ∧ Header.ofText text = header := by
  obtain ⟨⟨text, _⟩, found, rfl⟩ := Option.map_eq_some_iff.mp latest
  exact ⟨text, List.mem_reverse.mp (List.mem_of_find?_eq_some found), by simpa using List.find?_some found⟩

theorem latest_handler_defined (definitions : List (String × η)) (definition : String × η)
    (member : definition ∈ definitions) :
    latestHandler definitions (Header.ofText definition.1) ≠ none := by
  intro none
  have absent := List.find?_eq_none.mp (Option.map_eq_none_iff.mp none) definition
    (List.mem_reverse.mpr member)
  simp at absent

theorem latest_keyword_iff (keywords : List String) (unambiguous : Unambiguous keywords) (short keyword : String) :
    latestKeyword keywords short = some keyword ↔ keyword ∈ keywords ∧ Keyword.shortForm? keyword = some short := by
  constructor
  · exact latest_keyword_some keywords short keyword
  · rintro ⟨member, shortened⟩
    cases latest : latestKeyword keywords short with
    | none => exact absurd shortened (latest_keyword_none keywords short keyword latest member)
    | some other =>
        obtain ⟨otherMember, otherShort⟩ := latest_keyword_some keywords short other latest
        rw [unambiguous other otherMember keyword member (by simp [otherShort])
          (otherShort.trans shortened.symm)]

theorem long_form_full (definitions : List (String × η)) (keyword : String)
    (unambiguous : Unambiguous (keywordsOf definitions)) (defined : keyword ∈ keywordsOf definitions) :
    (ofDefinitions definitions).longForm keyword = keyword := by
  rw [long_form_of_definitions]
  cases latest : latestKeyword (keywordsOf definitions) keyword with
  | none => rfl
  | some other =>
      -- The keyword is somebody's short form, so it is its own.
      have short := (latest_keyword_some _ _ _ latest).2
      have own := Keyword.short_form_short_form other keyword short
      rw [(latest_keyword_iff _ unambiguous keyword keyword).mpr ⟨defined, own⟩] at latest
      exact (Option.some.inj latest).symm

theorem long_form_short (definitions : List (String × η)) (keyword short : String)
    (unambiguous : Unambiguous (keywordsOf definitions)) (defined : keyword ∈ keywordsOf definitions)
    (abbreviated : Keyword.shortForm? keyword = some short) :
    (ofDefinitions definitions).longForm short = keyword := by
  rw [long_form_of_definitions, (latest_keyword_iff _ unambiguous short keyword).mpr ⟨defined, abbreviated⟩]
  rfl

end CommandSet

end Scpi
